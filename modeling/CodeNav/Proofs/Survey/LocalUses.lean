import CodeNav.Grammar.Python
import CodeNav.Proofs.Evaluation
import CodeNav.Proofs.Index.Totals
import CodeNav.Proofs.Transcript

/-! References within a file. Of the names in use those are recorded that the file defines, each
once and under the first definition of its name. What is recorded under an identity is the list of
these uses, in the order in which they occur. -/
namespace CodeNav

namespace Findings

def uses (found : Findings) : List Occurrence :=
  found.occurrences.filter fun occurrence => occurrence.role = .reference

def usesUnder (found : Findings) (identity : Identity) : List Occurrence :=
  found.uses.filter fun use => found.introduced use.name = some identity

def localUses (found : Findings) : List Occurrence :=
  found.uses.filter fun use => (found.introduced use.name).isSome

def referenceAt (found : Findings) (use : Occurrence) : Reference :=
  ⟨found.lang, found.file, use.range⟩

theorem mem_keys_refer {found : Findings} {name : String} {range : Range}
    {target : Option Identity} {identity : Identity} :
    identity ∈ (found.refer name range target).references.keys ↔
      target = some identity ∨ identity ∈ found.references.keys := by
  cases target with
  | none => simp [refer]
  | some known => rw [refer, Table.alter, Table.mem_keys_insert, Option.some.injEq]

theorem referenceCount_refer (found : Findings) (name : String) (range : Range)
    (target : Option Identity) : (found.refer name range target).referenceCount =
      found.referenceCount + if target.isSome then 1 else 0 := by
  cases target with
  | none => rfl
  | some known =>
    apply Table.total_alter
    intro listed
    cases listed <;> simp

end Findings

namespace Survey

open Transcript

variable {grammar : Grammar} {path : String} {survey : Survey} {found : Findings}
  {transcript : Transcript}

structure Refers (own : String → Option Identity) (uses : List (Syntax.Capture × Range))
    (before after : Findings) : Prop where
  referencesTo : ∀ identity, after.referencesTo identity = before.referencesTo identity ++
    (uses.filter fun noted => own noted.1.text = some identity).map fun noted =>
      ⟨before.lang, before.file, noted.2⟩
  keys : ∀ identity, identity ∈ after.references.keys ↔
    identity ∈ before.references.keys ∨ ∃ noted ∈ uses, own noted.1.text = some identity
  count : after.referenceCount =
    before.referenceCount + (uses.filter fun noted => (own noted.1.text).isSome).length

theorem refers_foldl (own : String → Option Identity) (uses : List (Syntax.Capture × Range))
    (before : Findings) :
    Refers own uses before ((uses.map (use own)).foldl Findings.add before) := by
  induction uses generalizing before with
  | nil => exact ⟨fun _ => (List.append_nil _).symm, fun _ => by simp, rfl⟩
  | cons noted rest ih =>
    obtain ⟨listed, keys, count⟩ := ih (before.add (use own noted))
    have refers : before.add (use own noted) =
        before.refer noted.1.text noted.2 (own noted.1.text) := rfl
    have lang : (before.refer noted.1.text noted.2 (own noted.1.text)).lang = before.lang :=
      Findings.lang_add before (use own noted)
    have file : (before.refer noted.1.text noted.2 (own noted.1.text)).file = before.file :=
      Findings.file_add before (use own noted)
    rw [refers] at listed keys count
    rw [lang, file] at listed
    rw [List.map_cons, List.foldl_cons, refers]
    refine ⟨?_, ?_, ?_⟩
    · intro identity
      rw [listed, Findings.referencesTo_refer, List.append_assoc, List.filter_cons]
      by_cases here : own noted.1.text = some identity
      · simp [here]
      · simp [here]
    · intro identity
      rw [keys, Findings.mem_keys_refer, List.exists_mem_cons_iff, or_assoc, or_left_comm]
    · rw [count, Findings.referenceCount_refer, List.filter_cons]
      split
      · rw [List.length_cons]
        omega
      · rfl

theorem references_foldl_named (transcript : Transcript) (found : Findings) :
    ((transcript.bindings.map binding ++ transcript.definitions.map definition).foldl Findings.add
      found).references = found.references := by
  have bind_keeps (state : Findings) (noted : Binding × Range) :
      (state.add (binding noted)).references = state.references := rfl
  have define_keeps (state : Findings) (noted : Named × Range) :
      (state.add (definition noted)).references = state.references := rfl
  rw [List.foldl_append, List.foldl_map, List.foldl_map, foldl_keeps define_keeps,
    foldl_keeps bind_keeps]

theorem refers_findings (transcript : Transcript) (grammar : Grammar) (path : String) :
    Refers (transcript.findings grammar path).introduced transcript.uses
      (Findings.start grammar.tag path) (transcript.findings grammar path) := by
  let start := Findings.start grammar.tag path
  let named := (transcript.bindings.map binding ++ transcript.definitions.map definition).foldl
    Findings.add start
  have lang : named.lang = start.lang := Findings.lang_foldl _ _
  have file : named.file = start.file := Findings.file_foldl _ _
  have references : named.references = start.references := references_foldl_named _ _
  have refers := refers_foldl (own transcript.definitions start) transcript.uses named
  have noted : (transcript.uses.map (use (own transcript.definitions start))).foldl Findings.add
      named = transcript.findings grammar path := (List.foldl_append ..).symm
  rw [noted, ← funext (introduced_findings transcript grammar path)] at refers
  obtain ⟨listed, keys, count⟩ := refers
  rw [lang, file] at listed
  simp only [Findings.referencesTo, Findings.referenceCount, references] at listed keys count
  exact ⟨listed, keys, count⟩

namespace Transcript

theorem uses_findings (transcript : Transcript) (grammar : Grammar) (path : String) :
    (transcript.findings grammar path).uses = transcript.uses.map shown := by
  rw [Findings.uses, transcript.filter_role_findings grammar path (· = .reference)]
  simp

theorem map_referenceAt_usesUnder (transcript : Transcript) (grammar : Grammar) (path : String)
    (identity : Identity) :
    ((transcript.findings grammar path).usesUnder identity).map
        (transcript.findings grammar path).referenceAt =
      (transcript.uses.filter fun noted =>
        (transcript.findings grammar path).introduced noted.1.text = some identity).map
          fun noted => ⟨grammar.tag, Path.normalize path, noted.2⟩ := by
  rw [Findings.usesUnder, uses_findings, List.filter_map, List.map_map]
  simp only [Function.comp_def, Findings.referenceAt, lang_findings, file_findings]
  rfl

theorem length_localUses (transcript : Transcript) (grammar : Grammar) (path : String) :
    (transcript.findings grammar path).localUses.length =
      (transcript.uses.filter fun noted =>
        ((transcript.findings grammar path).introduced noted.1.text).isSome).length := by
  rw [Findings.localUses, uses_findings, List.filter_map, List.length_map]
  rfl

theorem exists_introduced_iff (transcript : Transcript) (grammar : Grammar) (path name : String) :
    (∃ identity, (transcript.findings grammar path).introduced name = some identity) ↔
      ∃ mark ∈ (transcript.findings grammar path).marks, mark.name = name := by
  rw [introduced_findings, ← Option.isSome_iff_exists, own, Option.isSome_map, List.find?_isSome,
    marks_findings]
  simp only [List.mem_map, exists_exists_and_eq_and, decide_eq_true_eq]
  rfl

/-- What is recorded under an identity are the uses of the names that it introduces, one reference
for each, if there are any. -/
theorem get?_references_findings {identity : Identity} {references : List Reference} :
    (transcript.findings grammar path).references.get? identity = some references ↔
      references ≠ [] ∧ references = ((transcript.findings grammar path).usesUnder identity).map
        (transcript.findings grammar path).referenceAt := by
  obtain ⟨listed, keys, -⟩ := refers_findings transcript grammar path
  have none_before : (Findings.start grammar.tag path).references = .empty := rfl
  have same : (transcript.findings grammar path).referencesTo identity =
      ((transcript.findings grammar path).usesUnder identity).map
        (transcript.findings grammar path).referenceAt := by
    rw [listed, map_referenceAt_usesUnder, Findings.referencesTo, none_before]
    rfl
  have some_use : identity ∈ (transcript.findings grammar path).references.keys ↔
      ((transcript.findings grammar path).usesUnder identity).map
        (transcript.findings grammar path).referenceAt ≠ [] := by
    rw [keys, none_before, map_referenceAt_usesUnder, ne_eq, List.map_eq_nil_iff,
      List.filter_eq_nil_iff]
    simp [Table.keys, Table.empty]
  rw [← same] at some_use ⊢
  rw [Findings.referencesTo, Table.mem_keys] at some_use
  rw [Findings.referencesTo]
  constructor
  · intro stored
    rw [stored] at some_use ⊢
    exact ⟨some_use.1 ⟨references, rfl⟩, rfl⟩
  · rintro ⟨present, rfl⟩
    obtain ⟨known, stored⟩ := some_use.2 present
    rw [stored]
    rfl

end Transcript

/-- The references that are recorded are the uses of names that the file defines. Under each
identity stand those of the names that it has the first definition of, one reference for each use
and in the order of the uses; an identity without any has no list. So there are as many references
in all as there are uses of such names, and each is under an identity that the file defines. -/
theorem references_record_uses (done : survey.findings grammar path = .ok found) :
    (∀ name, (∃ identity, found.introduced name = some identity) ↔
      ∃ mark ∈ found.marks, mark.name = name) ∧
    (∀ identity references, found.references.get? identity = some references ↔
      references ≠ [] ∧ references = (found.usesUnder identity).map found.referenceAt) ∧
    found.referenceCount = found.localUses.length ∧
    ∀ identity ∈ found.references.keys, identity ∈ found.definitions.keys := by
  have noted := recorded done
  obtain ⟨transcript, -, rfl⟩ := exists_transcript done
  refine ⟨transcript.exists_introduced_iff grammar path, ?_, ?_, ?_⟩
  · intro identity references
    exact get?_references_findings
  · rw [(refers_findings transcript grammar path).count, transcript.length_localUses]
    exact Nat.zero_add _
  · intro identity listed
    obtain ⟨references, stored⟩ := Table.mem_keys.1 listed
    obtain ⟨present, rfl⟩ := get?_references_findings.1 stored
    obtain ⟨use, inside⟩ := List.exists_mem_of_ne_nil _ (List.map_eq_nil_iff.not.1 present)
    have introduced := of_decide_eq_true (List.mem_filter.1 inside).2
    obtain ⟨mark, first, own⟩ := Option.bind_eq_some_iff.1 introduced
    exact noted.marked mark (List.mem_filter.1 (List.mem_of_find?_eq_some first)).1 identity own

def shortCapture (label text : String) (start : Nat) : Syntax.Capture :=
  ⟨label, text, start, start + 1, ⟨0, start⟩, ⟨0, start + 1⟩⟩

def shortRange (start : Nat) : Range :=
  ⟨⟨1, start + 1⟩, ⟨1, start + 2⟩, Position.le_def.2 (.inr ⟨rfl, by dsimp only; omega⟩)⟩

def functionAt (start : Nat) : Syntax.Captures :=
  .ofList [("fn.name", shortCapture "fn.name" "f" start)]

def referenceFrom (text : String) (start : Nat) : Syntax.Captures :=
  .ofList [("ref", shortCapture "ref" text start)]

/-- Matches in no order of places: a function is matched at two places, a method of its name stands
between them, one use is matched twice and one is of a name without a definition. -/
def repeatedSurvey : Survey where
  imports := []
  definitions := [functionAt 40,
    .ofList [("method.container", shortCapture "method.container" "C" 20),
      ("method.name", shortCapture "method.name" "f" 30)],
    functionAt 4]
  references := [referenceFrom "f" 50, referenceFrom "g" 60, referenceFrom "f" 40,
    referenceFrom "f" 50]

def repeated : Findings := Findings.ofList "py" "m.py"
  [.definition "f" "func" (shortRange 4) none,
    .definition "f" "func" (shortRange 30) (some "C"),
    .definition "f" "func" (shortRange 40) none,
    .reference "f" (shortRange 50) (some "py::m.py::f"),
    .reference "g" (shortRange 60) none,
    .reference "f" (shortRange 50) (some "py::m.py::f")]

theorem findings_repeated : repeatedSurvey.findings Grammar.python "m.py" = .ok repeated := by
  rw [findings_eq_evaluated, ← toOption_eq_some]
  rfl

/-- Both matches of the use are recorded, and the one of an unknown name is not. -/
theorem references_record_uses_repeated :
    repeatedSurvey.findings Grammar.python "m.py" = .ok repeated ∧
      repeated.references.get? "py::m.py::f" =
        some [⟨"py", "m.py", shortRange 50⟩, ⟨"py", "m.py", shortRange 50⟩] ∧
      repeated.references.get? "py::m.py::C.f" = none ∧ repeated.referenceCount = 2 := by
  obtain ⟨-, recorded, count, -⟩ := references_record_uses findings_repeated
  refine ⟨findings_repeated, (recorded _ _).2 ⟨nofun, rfl⟩, ?_, ?_⟩
  · have unused : repeated.usesUnder "py::m.py::C.f" = [] := rfl
    rw [Option.eq_none_iff_forall_not_mem]
    intro references stored
    obtain ⟨present, rfl⟩ := (recorded _ _).1 stored
    rw [unused] at present
    exact present rfl
  · rw [count]
    rfl

end Survey
end CodeNav
