import CodeNav.Proofs.Bindings
import CodeNav.Proofs.Evaluation
import CodeNav.Proofs.Grammar.ImportTarget
import CodeNav.Proofs.Index.Policy
import CodeNav.Proofs.Transcript

/-! Imports of a symbol under another name. Where the file has no symbol of that name, the import
and the uses of it lead to all symbols of the name, and then to those of the symbol's own name. -/
namespace CodeNav.Grammar

open Syntax
open Index (Change live)

variable {grammar : Grammar} {mark : Char} {path spelling name : String}
  {source : Text.Utf8.Bytes} {tree : Tree} {found : Findings} {index : Index}
  {history : List Change} {captures : Captures} {imported : Binding} {symbol : Capture}
  {occurrence : Occurrence}

theorem TargetMark.meaning (marked : TargetMark grammar mark)
    (surveyed : grammar.findings path source (some tree) = .ok found)
    (last : Survey.lastBinding grammar (Survey.ofTree grammar source tree).imports name =
      some (captures, imported))
    (named : captures.get? "import.name" = some symbol) (written : symbol.text ≠ "")
    (unmarked : mark ∉ symbol.text.toList) :
    found.meaning (some grammar.importedName) name = some symbol.text := by
  obtain ⟨_, bound, _⟩ := Survey.lastBinding_eq_some last
  have target : found.imports.get? name = some imported.target := by
    rw [Survey.imports_findings surveyed, last]
    rfl
  rw [Findings.meaning, Option.bind_some, target, Option.bind_some]
  exact marked.importedName_of_named bound named written unmarked

/-- A name that is imported under another one leads to the symbols of both, its own first. -/
theorem resolve_named_import (marked : TargetMark grammar mark)
    (surveyed : grammar.findings path source (some tree) = .ok found)
    (reached : index.Reached history) (latest : found ∈ live history)
    (here : Path.normalize spelling = Path.normalize path)
    (last : Survey.lastBinding grammar (Survey.ofTree grammar source tree).imports name =
      some (captures, imported))
    (named : captures.get? "import.name" = some symbol) (renamed : symbol.text ≠ name)
    (written : symbol.text ≠ "") (unmarked : mark ∉ symbol.text.toList)
    (absent : ∀ identity definition,
      ¬ index.DefinesIn grammar.tag (Path.normalize path) name identity definition)
    (occurs : occurrence ∈ found.occurrences)
    (role : occurrence.role = .reference ∨ occurrence.role = .binding)
    (same : occurrence.name = name) :
    ∃ own meant,
      index.resolve grammar.tag spelling occurrence (some grammar.importedName) =
        .ok (own ++ meant) ∧
      index.Roster grammar.tag name own ∧ index.Roster grammar.tag symbol.text meant := by
  have plain := marked.plain
  -- Only the third way to resolve is open: the occurrence defines nothing, nor does the file.
  have unidentified : occurrence.identity = none := by
    apply (Survey.recorded surveyed).unidentified occurs
    rintro defining
    rcases role with use | binding
    · cases defining.symm.trans use
    · cases defining.symm.trans binding
  have bare (other : Identity) : ¬ index.Bears occurrence other := by
    rintro ⟨known, _⟩
    cases unidentified.symm.trans known
  have file : Path.normalize found.file = Path.normalize spelling := by
    obtain ⟨transcript, _, rfl⟩ := Survey.exists_transcript surveyed
    rw [transcript.file_findings, Path.normalize_normalize, here]
  have stands : Index.StandsFor history spelling (some grammar.importedName) name symbol.text :=
    ⟨written, renamed, found, latest, file, marked.meaning surveyed last named written unmarked⟩
  refine ⟨index.lookup grammar.tag name, index.lookup grammar.tag symbol.text, ?_,
    reached.roster plain name, reached.roster plain symbol.text⟩
  rw [← same, ← here] at absent
  rw [reached.resolve_of_absent bare absent, same, reached.shared_of_standsFor plain stands]

def reimportedSource : Text.Utf8.Bytes :=
  "from a import k as g\nfrom .h import f as g\ng\n".toList.map fun c => c.toNat.toUInt8

def reimportedTree : Tree := ⟨[
  ⟨0, "module", none, 0, 45⟩,
  ⟨1, "import_from_statement", none, 0, 20⟩,
  ⟨2, "dotted_name", some "module_name", 5, 6⟩,
  ⟨3, "identifier", none, 5, 6⟩,
  ⟨2, "aliased_import", some "name", 14, 20⟩,
  ⟨3, "dotted_name", some "name", 14, 15⟩,
  ⟨4, "identifier", none, 14, 15⟩,
  ⟨3, "identifier", some "alias", 19, 20⟩,
  ⟨1, "import_from_statement", none, 21, 42⟩,
  ⟨2, "relative_import", some "module_name", 26, 28⟩,
  ⟨3, "import_prefix", none, 26, 27⟩,
  ⟨3, "dotted_name", none, 27, 28⟩,
  ⟨4, "identifier", none, 27, 28⟩,
  ⟨2, "aliased_import", some "name", 36, 42⟩,
  ⟨3, "dotted_name", some "name", 36, 37⟩,
  ⟨4, "identifier", none, 36, 37⟩,
  ⟨3, "identifier", some "alias", 41, 42⟩,
  ⟨1, "expression_statement", none, 43, 44⟩,
  ⟨2, "identifier", none, 43, 44⟩]⟩

def reimported : Findings := Findings.ofList "py" "lib/use.py"
  [.binding "g" "a.k" ⟨⟨1, 20⟩, ⟨1, 21⟩, by decide⟩,
    .binding "g" ".h.f" ⟨⟨2, 21⟩, ⟨2, 22⟩, by decide⟩,
    .reference "g" ⟨⟨3, 1⟩, ⟨3, 2⟩, by decide⟩ none]

theorem findings_reimported :
    python.findings "lib/use.py" reimportedSource (some reimportedTree) = .ok reimported :=
  findings_of_evaluated rfl

def reimporting : List Change :=
  [.merge (.ofList "py" "g.py" [.definition "g" "func" (.single ⟨1, 5⟩) none]),
    .merge (.ofList "py" "lib/use.py" [.definition "g" "var" (.single ⟨1, 1⟩) none]),
    .merge reimported,
    .merge (.ofList "py" "lib/h.py" [.definition "f" "func" (.single ⟨1, 5⟩) none,
      .definition "f" "func" (.single ⟨3, 9⟩) (some "C")])]

theorem reached_reimporting : (Index.run reimporting).Reached reimporting :=
  Index.reached_run (by simp [reimporting, reimported]) (by decide) (by decide +kernel)

theorem last_reimported : ∃ captures imported symbol,
    Survey.lastBinding python (Survey.ofTree python reimportedSource reimportedTree).imports "g" =
      some (captures, imported) ∧
    captures.get? "import.name" = some symbol ∧ symbol.text = "f" := by
  have computed : (Survey.lastBinding python
      (Survey.ofTree python reimportedSource reimportedTree).imports "g").bind
        (fun bound => (bound.1.get? "import.name").map Capture.text) = some "f" := by
    simp only [Survey.ofTree, Query.captures_eq_evaluated]
    with_unfolding_all rfl
  obtain ⟨⟨captures, imported⟩, last, text⟩ := Option.bind_eq_some_iff.1 computed
  obtain ⟨symbol, named, same⟩ := Option.map_eq_some_iff.1 text
  exact ⟨captures, imported, symbol, last, named, same⟩

theorem resolve_named_import_reimported :
    python.findings "lib/use.py" reimportedSource (some reimportedTree) = .ok reimported ∧
      (Index.run reimporting).Reached reimporting ∧ reimported ∈ live reimporting ∧
      (∃ captures imported symbol,
        Survey.lastBinding python (Survey.ofTree python reimportedSource reimportedTree).imports
          "g" = some (captures, imported) ∧
        captures.get? "import.name" = some symbol ∧ symbol.text = "f") ∧
      (∀ identity definition, ¬ (Index.run reimporting).DefinesIn "py"
        (Path.normalize "lib/use.py") "g" identity definition) ∧
      ⟨"g", .reference, ⟨⟨3, 1⟩, ⟨3, 2⟩, by decide⟩, none⟩ ∈ reimported.occurrences ∧
      (Index.run reimporting).resolve "py" "./lib/use.py"
        ⟨"g", .reference, ⟨⟨3, 1⟩, ⟨3, 2⟩, by decide⟩, none⟩ (some python.importedName) =
          .ok ["py::g.py::g", "py::lib/h.py::C.f", "py::lib/h.py::f"] := by
  have latest : reimported ∈ live reimporting := by decide +kernel
  have occurs : (⟨"g", .reference, ⟨⟨3, 1⟩, ⟨3, 2⟩, by decide⟩, none⟩ : Occurrence) ∈
      reimported.occurrences := by decide +kernel
  obtain ⟨captures, imported, symbol, last, named, text⟩ := last_reimported
  have absent : ∀ identity definition, ¬ (Index.run reimporting).DefinesIn "py"
      (Path.normalize "lib/use.py") "g" identity definition := by
    have elsewhere : ∀ entry ∈ (Index.run reimporting).definitions.entries,
        entry.2.name = "g" → entry.2.file ≠ Path.normalize "lib/use.py" := by decide +kernel
    rintro identity definition ⟨stored, _, name, file⟩
    exact elsewhere (identity, definition) (Table.get?_eq_some.1 stored) name file
  obtain ⟨own, meant, resolved, roster, also_roster⟩ := resolve_named_import .python
    findings_reimported reached_reimporting latest
    (show Path.normalize "./lib/use.py" = Path.normalize "lib/use.py" by decide +kernel)
    last named (by rw [text]; decide) (by rw [text]; decide) (by rw [text]; decide) absent occurs
    (.inl rfl) rfl
  have plain : ':' ∉ "py".toList := by decide
  rw [text] at also_roster
  have own_known : own = ["py::g.py::g"] := by
    rw [roster.unique (reached_reimporting.roster plain "g"), Index.lookup,
      sortTexts_eq_insertionSort]
    decide +kernel
  have meant_known : meant = ["py::lib/h.py::C.f", "py::lib/h.py::f"] := by
    rw [also_roster.unique (reached_reimporting.roster plain "f"), Index.lookup,
      sortTexts_eq_insertionSort]
    decide +kernel
  rw [own_known, meant_known] at resolved
  exact ⟨findings_reimported, reached_reimporting, latest, last_reimported, absent, occurs,
    resolved⟩

end CodeNav.Grammar
