import CodeNav.Proofs.Evaluation
import CodeNav.Proofs.Grammar.ImportTarget
import CodeNav.Proofs.Index.HistoryIndependence
import CodeNav.Proofs.Index.Policy
import Mathlib.Data.List.TakeWhile
import Mathlib.Tactic.TFAE

/-! Imports of whole modules. The name that they bind stands for no symbol, so it is to lead where
it leads without them. A module with a mark in it is yet read like a name in another module: that
is harmless just where nothing, or the bound name itself, stands behind its last mark. -/
namespace CodeNav.Grammar

open Syntax
open Index (Change live)

/-- The match is of a whole module, and binds a name; in Python, no name of the import's own. -/
structure BindsModule (grammar : Grammar) (mark : Char) (captures : Captures)
    (imported : Binding) : Prop where
  marked : TargetMark grammar mark
  bound : grammar.binding captures = .ok (some imported)
  whole : captures.get? "import.name" = none
  unaliased : grammar.name = "python" → captures.get? "import.alias" = none

variable {grammar : Grammar} {mark : Char} {captures : Captures} {imported : Binding}
  {meant : String}

theorem Python.localName_of_module (bound : Python.binding captures = some imported)
    (whole : captures.get? "import.name" = none)
    (unaliased : captures.get? "import.alias" = none) :
    imported.localName = String.ofList (imported.target.toList.takeWhile (· ≠ '.')) := by
  rw [Python.binding, Option.bind_eq_bind, Option.bind_eq_some_iff] at bound
  obtain ⟨source, _, bound⟩ := bound
  rw [whole, unaliased] at bound
  dsimp only at bound
  rw [← Option.some.inj bound]

namespace BindsModule

/-- What is read from the target: behind a mark whatever stands there, and without one in Python
the bound name, which then is all of the module. -/
theorem importedName_eq_some (binds : BindsModule grammar mark captures imported) :
    grammar.importedName imported.target = some meant ↔
      EndsIn mark imported.target meant ∧ (meant = "" → mark = '#') ∨
        mark = '.' ∧ mark ∉ imported.target.toList ∧ meant = imported.localName ∧ meant ≠ "" := by
  obtain ⟨marked, bound, whole, unaliased⟩ := binds
  cases marked with
  | typescript =>
    have read : typescript.importedName imported.target = some meant ↔
        EndsIn '#' imported.target meant := TypeScript.importedName_eq_some
    rw [read]
    simp
  | python =>
    have read : python.importedName imported.target = some meant ↔ meant ≠ "" ∧
        (EndsIn '.' imported.target meant ∨ '.' ∉ imported.target.toList ∧
          meant = imported.target) := Python.importedName_eq_some
    have first := Python.localName_of_module (Except.ok.inj bound) whole (unaliased rfl)
    have whole_name (unmarked : '.' ∉ imported.target.toList) :
        imported.localName = imported.target := by
      rw [first, List.takeWhile_eq_self_iff.2, String.ofList_toList]
      intro c member
      exact decide_eq_true fun same => unmarked (same ▸ member)
    rw [read]
    constructor
    · rintro ⟨written, ends | ⟨unmarked, same⟩⟩
      · exact .inl ⟨ends, fun empty => absurd empty written⟩
      · exact .inr ⟨rfl, unmarked, same.trans (whole_name unmarked).symm, written⟩
    · rintro (⟨ends, other⟩ | ⟨_, unmarked, same, written⟩)
      · exact ⟨fun empty => absurd (other empty) (by decide), .inl ends⟩
      · exact ⟨written, .inr ⟨unmarked, same.trans (whole_name unmarked)⟩⟩

theorem importedName_iff (binds : BindsModule grammar mark captures imported) :
    (grammar.importedName imported.target = none ∨
      grammar.importedName imported.target = some imported.localName) ↔
    ∀ meant, EndsIn mark imported.target meant →
      meant = imported.localName ∨ meant = "" ∧ mark = '.' := by
  have marks := binds.marked.mark_eq
  constructor
  · intro harmless meant ends
    by_cases empty : meant = "" ∧ mark = '.'
    · exact .inr empty
    · have read : grammar.importedName imported.target = some meant := by
        refine binds.importedName_eq_some.2 (.inl ⟨ends, fun nothing => ?_⟩)
        exact marks.resolve_left fun dot => empty ⟨nothing, dot⟩
      rcases harmless with nothing | own
      · cases nothing.symm.trans read
      · exact .inl (Option.some.inj (read.symm.trans own))
  · intro behind
    cases read : grammar.importedName imported.target with
    | none => exact .inl rfl
    | some meant =>
      right
      rcases binds.importedName_eq_some.1 read with ⟨ends, empty⟩ | ⟨_, _, own, _⟩
      · rcases behind meant ends with own | ⟨nothing, dot⟩
        · rw [own]
        · cases dot.symm.trans (empty nothing)
      · rw [own]

end BindsModule

def importer (grammar : Grammar) (imported : Binding) : Findings :=
  .ofList grammar.tag "importer"
    [.binding imported.localName imported.target (.single ⟨1, 1⟩)]

def definer (grammar : Grammar) (meant : String) : Findings :=
  .ofList grammar.tag "definer" [.definition meant "func" (.single ⟨1, 1⟩) none]

theorem file_importer (grammar : Grammar) (imported : Binding) :
    Path.normalize (importer grammar imported).file = Path.normalize "importer" := by
  simp [importer]

theorem file_definer (grammar : Grammar) (meant : String) :
    Path.normalize (definer grammar meant).file = Path.normalize "definer" := by
  simp [definer]

theorem nodup_importer_definer (grammar : Grammar) (imported : Binding) (meant : String) :
    ([importer grammar imported, definer grammar meant].map
      fun found => Path.normalize found.file).Nodup := by
  rw [List.map_cons, List.map_cons, file_importer, file_definer]
  decide

def importing (grammar : Grammar) (imported : Binding) (meant : String) : List Change :=
  [importer grammar imported, definer grammar meant].map .merge

theorem live_importing (grammar : Grammar) (imported : Binding) (meant : String) :
    live (importing grammar imported meant) = [importer grammar imported, definer grammar meant] :=
  Index.live_map_merge (nodup_importer_definer grammar imported meant)

theorem reached_importing (plain : ':' ∉ grammar.tag.toList) (imported : Binding)
    (meant : String) : (Index.run (importing grammar imported meant)).Reached
      (importing grammar imported meant) where
  run := rfl
  recorded := by simp [importing, importer, definer]
  clean := by
    apply Index.clean_map_merge (nodup_importer_definer grammar imported meant)
    refine List.pairwise_pair.2 ?_
    intro identity defined
    cases defined
  plain := by
    intro found member
    obtain ⟨_, inside, same⟩ := List.mem_map.1 member
    cases same
    rcases List.mem_pair.1 inside with rfl | rfl
    · exact plain
    · exact plain

/-- Where something else is read from the target, the bound name leads astray. -/
theorem resolve_importing (plain : ':' ∉ grammar.tag.toList)
    (read : grammar.importedName imported.target = some meant) (written : meant ≠ "")
    (other : meant ≠ imported.localName) {index : Index}
    (reached : index.Reached (importing grammar imported meant)) (role : Role) (range : Range) :
    (index.imports "importer").get? imported.localName = some imported.target ∧
      index.resolve grammar.tag "importer" ⟨imported.localName, role, range, none⟩
          (some grammar.importedName) ≠
        index.resolve grammar.tag "importer" ⟨imported.localName, role, range, none⟩ none := by
  have file := file_importer grammar imported
  have importer_in : importer grammar imported ∈ live (importing grammar imported meant) := by
    rw [live_importing]
    exact List.mem_cons_self
  have definer_in : definer grammar meant ∈ live (importing grammar imported meant) := by
    rw [live_importing]
    exact List.mem_cons_of_mem _ List.mem_cons_self
  have shown : (index.imports "importer").get? imported.localName = some imported.target := by
    have bound : (importer grammar imported).imports =
        Table.empty.insert imported.localName imported.target := rfl
    simp [reached.imports_eq importer_in file.symm, bound]
  have bare (known : Identity) :
      ¬ index.Bears ⟨imported.localName, role, range, none⟩ known := by
    rintro ⟨bears, _⟩
    cases bears
  have absent (identity : Identity) (definition : Definition) : ¬ index.DefinesIn grammar.tag
      (Path.normalize "importer") imported.localName identity definition := by
    rintro ⟨stored, _, _, inside⟩
    obtain ⟨found, member, here, defines⟩ :=
      (reached.stores.definition_in_file reached.shows).1 ⟨stored, inside⟩
    rw [reached.shows.eq_of_file member importer_in (here.trans file.symm)] at defines
    cases defines
  have stands : Index.StandsFor (importing grammar imported meant) "importer"
      (some grammar.importedName) imported.localName meant := by
    rw [reached.standsFor_iff, Option.bind_some, shown, Option.bind_some]
    exact ⟨written, other, read⟩
  have stored : index.definition
      (Identity.of grammar.tag (Path.normalize "definer") meant none) =
        some ⟨grammar.tag, Path.normalize "definer", .single ⟨1, 1⟩, meant, "func"⟩ := by
    have defined : (definer grammar meant).definitions = Table.empty.insert
        (Identity.of grammar.tag (Path.normalize "definer") meant none)
        ⟨grammar.tag, Path.normalize "definer", .single ⟨1, 1⟩, meant, "func"⟩ := rfl
    refine reached.stores.definition_eq_some.2 ⟨_, definer_in, ?_⟩
    simp [defined]
  exact ⟨shown, reached.resolve_ne_of_standsFor plain bare absent stands stored rfl rfl⟩

def Unaffected (grammar : Grammar) (imported : Binding) (index : Index) : Prop :=
  ∀ path occurrence, occurrence.name = imported.localName →
    (index.imports path).get? imported.localName = some imported.target →
    index.resolve grammar.tag path occurrence (some grammar.importedName) =
      index.resolve grammar.tag path occurrence none

theorem BindsModule.unaffected (binds : BindsModule grammar mark captures imported)
    (behind : ∀ meant, EndsIn mark imported.target meant →
      meant = imported.localName ∨ meant = "") (index : Index) :
    Unaffected grammar imported index := by
  intro path occurrence same bound
  have read (meant : String) (read : grammar.importedName imported.target = some meant) :
      meant = imported.localName ∨ meant = "" := by
    rcases binds.importedName_eq_some.1 read with ⟨ends, _⟩ | ⟨_, _, own, _⟩
    · exact behind meant ends
    · exact .inl own
  have nothing : index.importedCandidates grammar.tag path occurrence.name
      grammar.importedName = [] := by
    rw [Index.importedCandidates, same, bound, Option.bind_some]
    split
    · next meant told =>
      refine if_neg fun other => ?_
      rcases read meant told with own | empty
      · exact other.2 own
      · exact other.1 empty
    · rfl
  apply Index.resolve_eq_of_shared
  rw [Index.shared, Index.shared, nothing, List.filter_nil, List.append_nil]

/-- The import of a module names a symbol just where its target is read as another name; and then
there are indexes, reached in the ordinary way, in which its name leads astray. -/
theorem resolve_module_import (binds : BindsModule grammar mark captures imported) :
    ((grammar.importedName imported.target = none ∨
        grammar.importedName imported.target = some imported.localName) ↔
      ∀ meant, EndsIn mark imported.target meant →
        meant = imported.localName ∨ meant = "" ∧ mark = '.') ∧
    [∀ index, Unaffected grammar imported index,
      ∀ index history, index.Reached history → Unaffected grammar imported index,
      ∀ meant, EndsIn mark imported.target meant →
        meant = imported.localName ∨ meant = ""].TFAE := by
  refine ⟨binds.importedName_iff, ?_⟩
  tfae_have 1 → 2 := fun unaffected index _ _ => unaffected index
  tfae_have 2 → 3 := by
    intro unaffected meant ends
    by_contra astray
    rw [not_or] at astray
    obtain ⟨other, written⟩ := astray
    have plain := binds.marked.plain
    -- A file with just this import, and one that defines what is read, are enough.
    have reached := reached_importing plain imported meant
    obtain ⟨shown, differs⟩ := resolve_importing plain (binds.marked.importedName ends written)
      written other reached .binding (.single ⟨1, 1⟩)
    exact differs (unaffected _ _ reached _ _ rfl shown)
  tfae_have 3 → 1 := binds.unaffected
  tfae_finish

def subpathCaptures : Captures :=
  (Table.empty.insert "import.module"
    ⟨"import.module", "\"lib#dep\"", 21, 30, ⟨0, 21⟩, ⟨0, 30⟩⟩).insert "import.alias"
    ⟨"import.alias", "dep", 12, 15, ⟨0, 12⟩, ⟨0, 15⟩⟩

theorem resolve_module_import_subpath :
    ∃ imported, BindsModule typescript '#' subpathCaptures imported ∧
      imported.localName = "dep" ∧ imported.target = "lib#dep" ∧
      (typescript.importedName imported.target = none ∨
        typescript.importedName imported.target = some imported.localName) ∧
      ∀ index, Unaffected typescript imported index := by
  have binds : BindsModule typescript '#' subpathCaptures
      ⟨"dep", "lib#dep", ⟨"import.alias", "dep", 12, 15, ⟨0, 12⟩, ⟨0, 15⟩⟩⟩ :=
    ⟨.typescript, rfl, rfl, by decide⟩
  have ends : EndsIn '#' "lib#dep" "dep" := ⟨by decide, "lib".toList, by decide⟩
  have behind (meant : String) (also_ends : EndsIn '#' "lib#dep" meant) : meant = "dep" :=
    also_ends.unique ends
  obtain ⟨read, affected⟩ := resolve_module_import binds
  exact ⟨_, binds, rfl, rfl, read.2 fun meant also_ends => .inl (behind meant also_ends),
    (affected.out 0 2).2 fun meant also_ends => Or.inl (behind meant also_ends)⟩

def dottedSource : Text.Utf8.Bytes :=
  "import os.path\nos\n".toList.map fun c => c.toNat.toUInt8

def dottedTree : Tree := ⟨[
  ⟨0, "module", none, 0, 18⟩,
  ⟨1, "import_statement", none, 0, 14⟩,
  ⟨2, "dotted_name", some "name", 7, 14⟩,
  ⟨3, "identifier", none, 7, 9⟩,
  ⟨3, "identifier", none, 10, 14⟩,
  ⟨1, "expression_statement", none, 15, 17⟩,
  ⟨2, "identifier", none, 15, 17⟩]⟩

def dotted : Findings := Findings.ofList "py" "m.py"
  [.binding "os" "os.path" ⟨⟨1, 8⟩, ⟨1, 15⟩, by decide⟩,
    .reference "os" ⟨⟨2, 1⟩, ⟨2, 3⟩, by decide⟩ none]

theorem findings_dotted :
    python.findings "m.py" dottedSource (some dottedTree) = .ok dotted :=
  findings_of_evaluated rfl

def dottedIndex : Index :=
  Index.run [.merge dotted,
    .merge (.ofList "py" "p.py" [.definition "path" "func" (.single ⟨1, 5⟩) none])]

theorem resolve_dotted :
    python.findings "m.py" dottedSource (some dottedTree) = .ok dotted ∧
      (∃ captures ∈ (Survey.ofTree python dottedSource dottedTree).imports, ∃ imported,
        BindsModule python '.' captures imported ∧ imported.localName = "os" ∧
        python.importedName imported.target = some "path") ∧
      ⟨"os", .reference, ⟨⟨2, 1⟩, ⟨2, 3⟩, by decide⟩, none⟩ ∈ dotted.occurrences ∧
      dottedIndex.resolve "py" "m.py" ⟨"os", .reference, ⟨⟨2, 1⟩, ⟨2, 3⟩, by decide⟩, none⟩
        (some python.importedName) = .ok ["py::p.py::path"] ∧
      dottedIndex.resolve "py" "m.py" ⟨"os", .reference, ⟨⟨2, 1⟩, ⟨2, 3⟩, by decide⟩, none⟩
        none = .ok [] := by
  have matched : ∃ captures ∈ (Survey.ofTree python dottedSource dottedTree).imports,
      (Python.binding captures).map (fun imported => (imported.localName, imported.target)) =
        some ("os", "os.path") ∧
      captures.get? "import.name" = none ∧ captures.get? "import.alias" = none := by
    simp only [Survey.ofTree, Query.captures_eq_evaluated]
    decide
  obtain ⟨captures, member, binds, whole, unaliased⟩ := matched
  obtain ⟨imported, bound, told⟩ := Option.map_eq_some_iff.1 binds
  obtain ⟨name, target⟩ := Prod.mk.inj told
  have read : python.importedName imported.target = some "path" := by
    rw [target]
    rfl
  refine ⟨findings_dotted, ⟨captures, member, imported,
    ⟨.python, congrArg Except.ok bound, whole, fun _ => unaliased⟩, name, read⟩,
    by decide, ?_, ?_⟩
  · simp only [Index.resolve, Index.importedCandidates, Index.localDefinitions_eq,
      Index.fileDefinitions_eq, Index.lookup, sortTexts_eq_insertionSort,
      mergeSort_eq_insertionSort Index.placedBefore_trans Index.placedBefore_total]
    rfl
  · simp only [Index.resolve, Index.localDefinitions_eq, Index.fileDefinitions_eq, Index.lookup,
      sortTexts_eq_insertionSort,
      mergeSort_eq_insertionSort Index.placedBefore_trans Index.placedBefore_total]
    rfl

end CodeNav.Grammar
