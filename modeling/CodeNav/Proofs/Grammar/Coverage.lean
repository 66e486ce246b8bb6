import CodeNav.Proofs.Grammar.Uses
import CodeNav.Proofs.Survey.Ranged

/-! Every name of a file is accounted for. The findings of a tree define a name once for each span
at which a match names a definition, refer once from each other name outside of imports, and note
nothing else but what the imports bind. -/
namespace CodeNav

open Syntax
open CodeNav.Text.Utf8 (Bytes)

namespace Findings

structure DefinesAt (found : Findings) (source : Bytes) (span : Nat × Nat)
    (occurrence : Occurrence) : Prop where
  role : occurrence.role = .definition
  name : occurrence.name = Source.text source span
  range : Source.range source span = .ok occurrence.range
  identity : ∃ container, occurrence.identity = some (found.identify occurrence.name container)

structure RefersAt (source : Bytes) (span : Nat × Nat) (occurrence : Occurrence) : Prop where
  role : occurrence.role = .reference
  name : occurrence.name = Source.text source span
  range : Source.range source span = .ok occurrence.range
  identity : occurrence.identity = none

/-- Besides the names that imports bind, the findings have one definition for each of the spans,
in their order, and then one reference for each of the places. -/
def Account (found : Findings) (source : Bytes) (spans : List (Nat × Nat))
    (uses : List Place) : Prop :=
  ∃ definitions references,
    found.occurrences.filter (fun occurrence => occurrence.role ≠ .binding) =
      definitions ++ references ∧
    List.Forall₂ (found.DefinesAt source) spans definitions ∧
    List.Forall₂ (fun place => RefersAt source place.node.span) uses references

end Findings

namespace Survey.Transcript

variable {survey : Survey} {transcript : Transcript}

theorem occurrences_except_bindings (transcript : Transcript) (grammar : Grammar) (path : String) :
    (transcript.findings grammar path).occurrences.filter
        (fun occurrence => occurrence.role ≠ .binding) =
      transcript.definitions.map (mark grammar path) ++ transcript.uses.map shown := by
  rw [transcript.filter_role_findings grammar path (· ≠ .binding)]
  simp

theorem definesAt {source : Bytes} (of : survey.Of source) (transcript_of : transcript.Of survey)
    (grammar : Grammar) (path : String) :
    List.Forall₂ ((transcript.findings grammar path).DefinesAt source)
      (spansOf survey.definitions) (transcript.definitions.map (mark grammar path)) := by
  rw [spansOf, ← transcript_of.definitions, List.map_map, List.forall₂_map_left_iff,
    List.forall₂_map_right_iff, List.forall₂_same]
  intro noted member
  obtain ⟨captures, matched, known⟩ := exists_named transcript_of member
  have capture_of := named?_of (of.definitions captures matched) known
  have name : noted.1.name = noted.1.capture.text := (named?_eq_some.1 known).2.2.1
  have identify : (transcript.findings grammar path).identify =
      (Findings.start grammar.tag path).identify := Findings.identify_foldl _ _
  refine ⟨rfl, name.trans capture_of.text_eq, ?_, noted.1.container, ?_⟩
  · exact capture_of.range_eq.symm.trans (transcript_of.definition_range noted member)
  · rw [identify]
    rfl

theorem refersAt {source : Bytes} (of : survey.Of source) (transcript_of : transcript.Of survey) :
    List.Forall₂ (fun capture => Findings.RefersAt source capture.span)
      (usesOf (namesOf survey.definitions) (statementSpans survey.imports) survey.references)
      (transcript.uses.map shown) := by
  rw [← transcript_of.uses, List.forall₂_map_left_iff, List.forall₂_map_right_iff,
    List.forall₂_same]
  intro noted member
  have capture_of := use_of of transcript_of member
  exact ⟨rfl, capture_of.text_eq,
    capture_of.range_eq.symm.trans (transcript_of.use_range noted member), rfl⟩

end Survey.Transcript

namespace Grammar

variable {grammar : Grammar} {kinds : List String}

theorem Go.located_mem {captures : Captures} {imported : Binding}
    (binds : Go.binding captures = some imported) : imported.located ∈ captures.values := by
  rw [Go.binding, Option.bind_eq_bind, Option.bind_eq_some_iff] at binds
  obtain ⟨path, stored, binds⟩ := binds
  dsimp only at binds
  split at binds
  · cases binds
  · split at binds
    · next own renamed =>
      split at binds
      · cases binds
      · cases binds
        exact Table.mem_values.2 ⟨_, renamed⟩
    · cases binds
      exact Table.mem_values.2 ⟨_, stored⟩

theorem Python.located_mem {captures : Captures} {imported : Binding}
    (binds : Python.binding captures = some imported) : imported.located ∈ captures.values := by
  rw [Python.binding, Option.bind_eq_bind, Option.bind_eq_some_iff] at binds
  obtain ⟨source, stored, binds⟩ := binds
  dsimp only at binds
  split at binds
  · next name own symbol =>
    cases binds
    cases renamed : captures.get? "import.alias" with
    | none => exact Table.mem_values.2 ⟨_, symbol⟩
    | some own => exact Table.mem_values.2 ⟨_, renamed⟩
  · next own nameless renamed =>
    cases binds
    exact Table.mem_values.2 ⟨_, renamed⟩
  · cases binds
    exact Table.mem_values.2 ⟨_, stored⟩

theorem TypeScript.located_mem {captures : Captures} {imported : Binding}
    (binds : TypeScript.binding captures = some imported) : imported.located ∈ captures.values := by
  rw [TypeScript.binding, Option.bind_eq_bind, Option.bind_eq_some_iff] at binds
  obtain ⟨source, stored, binds⟩ := binds
  dsimp only at binds
  split at binds
  · next name symbol =>
    cases binds
    cases renamed : captures.get? "import.alias" with
    | none => exact Table.mem_values.2 ⟨_, symbol⟩
    | some own => exact Table.mem_values.2 ⟨_, renamed⟩
  · obtain ⟨own, renamed, rfl⟩ := Option.map_eq_some_iff.1 binds
    exact Table.mem_values.2 ⟨_, renamed⟩

theorem NameKinds.locates (names : NameKinds grammar kinds) : grammar.Locates := by
  intro captures
  cases names with
  | go => exact ⟨_, rfl, fun _ => Go.located_mem⟩
  | typescript => exact ⟨_, rfl, fun _ => TypeScript.located_mem⟩
  | python => exact ⟨_, rfl, fun _ => Python.located_mem⟩

theorem NameKinds.references_distinct (names : NameKinds grammar kinds) :
    grammar.references.Distinct := by
  cases names <;> decide

theorem NameKinds.ranged (names : NameKinds grammar kinds) (source : Bytes) {tree : Tree}
    (forward : ∀ node ∈ tree.nodes, node.start ≤ node.stop) :
    (Survey.ofTree grammar source tree).Ranged := by
  have shown (query : Query) (distinct : query.Distinct) (captures : Captures)
      (member : captures ∈ query.captures source tree) (capture : Capture)
      (inside : capture ∈ captures.values) : Survey.HasRange capture := by
    obtain ⟨name, node, known, rfl⟩ := Query.exists_node_of_mem_values distinct member inside
    have ordered : (Source.pointAt source node.start).position ≤
        (Source.pointAt source node.stop).position := Source.pointAt_le (forward node known)
    exact ⟨⟨_, _, ordered⟩, Capture.range_eq_ok.2 ⟨rfl, rfl⟩⟩
  exact ⟨shown _ names.imports_distinct, shown _ names.definitions_distinct,
    shown _ names.references_distinct⟩

theorem account_of_findings (names : NameKinds grammar kinds) {path : String} {source : Bytes}
    {tree : Tree} {found : Findings}
    (done : grammar.findings path source (some tree) = .ok found) :
    found.Account source (Survey.spansOf (grammar.definitions.captures source tree))
      (grammar.uses kinds source tree) := by
  obtain ⟨transcript, transcript_of, rfl⟩ := Survey.exists_transcript done
  have of := Survey.ofTree_of grammar source tree
  have refers := Survey.Transcript.refersAt of transcript_of
  dsimp only [Survey.ofTree] at refers
  rw [usesOf_eq names, List.forall₂_map_left_iff] at refers
  exact ⟨_, _, transcript.occurrences_except_bindings grammar path,
    Survey.Transcript.definesAt of transcript_of grammar path, refers⟩

/-- A name outside of imports counts once: at the span of a definition or as a use. -/
theorem count_name (names : NameKinds grammar kinds) (source : Bytes) {tree : Tree} {place : Place}
    (inside : place ∈ tree.places) (name : place.node.kind ∈ kinds)
    (outside : ¬ grammar.InImport tree place.node) :
    (Survey.spansOf (grammar.definitions.captures source tree)).count place.node.span +
      (grammar.uses kinds source tree).count place = 1 := by
  have distinct := (Survey.pairwise_spansOf (grammar.definitions.captures source tree)).imp
    Survey.Before.ne
  by_cases defines : grammar.Defines source tree place.node.span
  · have unused : place ∉ grammar.uses kinds source tree :=
      fun used => (mem_uses.1 used).2.2.1 defines
    rw [List.count_eq_one_of_mem distinct ((mem_spansOf_iff names).2 defines),
      List.count_eq_zero.2 unused]
  · have used := mem_uses.2 ⟨inside, name, defines, outside⟩
    rw [List.count_eq_zero.2 (mt (mem_spansOf_iff names).1 defines),
      List.count_eq_one_of_mem nodup_uses used]

/-- Every name of a file is accounted for, once. A tree in which no node ends before it starts has
findings. Whatever names a definition is a name of the tree. The findings have one definition for
each span at which a match names one, by place, and then one reference for each other name outside
of imports, in document order; so a name outside of imports is either at just one of these spans,
or refers just once. -/
theorem findings_account (names : NameKinds grammar kinds) (path : String) (source : Bytes)
    (tree : Tree) :
    ((∀ node ∈ tree.nodes, node.start ≤ node.stop) →
      ∃ found, grammar.findings path source (some tree) = .ok found) ∧
    (∀ label node, grammar.definitions.CapturesAs tree label node →
      Survey.NamesDefinition label → node ∈ tree.nodes ∧ node.kind ∈ kinds) ∧
    ∃ spans : List (Nat × Nat), spans.Pairwise Survey.Before ∧
      (∀ span, span ∈ spans ↔ grammar.Defines source tree span) ∧
      (∀ found, grammar.findings path source (some tree) = .ok found →
        found.Account source spans (grammar.uses kinds source tree)) ∧
      ∀ place ∈ tree.places, place.node.kind ∈ kinds → ¬ grammar.InImport tree place.node →
        spans.count place.node.span + (grammar.uses kinds source tree).count place = 1 := by
  refine ⟨?_, ?_, Survey.spansOf (grammar.definitions.captures source tree), ?_, ?_, ?_, ?_⟩
  · intro forward
    exact Survey.exists_findings names.locates (names.ranged source forward) path
  · intro label node captured defines
    exact kind_of_defines names captured defines
  · exact Survey.pairwise_spansOf _
  · intro span
    exact mem_spansOf_iff names
  · intro found done
    exact account_of_findings names done
  · intro place inside name outside
    exact count_name names source inside name outside

/-- A file in which the name of a function is missing. A function of a class is named by two
matches, and a module that is imported is used. -/
def damagedSource : Bytes :=
  "import a\nclass C:\n def f(b): f(a)\ndef (): C\n".toList.map fun c => c.toNat.toUInt8

def damagedTree : Tree := ⟨[
  ⟨0, "module", none, 0, 44⟩,
  ⟨1, "import_statement", none, 0, 8⟩,
  ⟨2, "dotted_name", some "name", 7, 8⟩,
  ⟨3, "identifier", none, 7, 8⟩,
  ⟨1, "class_definition", none, 9, 33⟩,
  ⟨2, "identifier", some "name", 15, 16⟩,
  ⟨2, "block", some "body", 19, 33⟩,
  ⟨3, "function_definition", none, 19, 33⟩,
  ⟨4, "identifier", some "name", 23, 24⟩,
  ⟨4, "parameters", some "parameters", 24, 27⟩,
  ⟨5, "identifier", none, 25, 26⟩,
  ⟨4, "block", some "body", 29, 33⟩,
  ⟨5, "expression_statement", none, 29, 33⟩,
  ⟨6, "call", none, 29, 33⟩,
  ⟨7, "identifier", some "function", 29, 30⟩,
  ⟨7, "argument_list", some "arguments", 30, 33⟩,
  ⟨8, "identifier", none, 31, 32⟩,
  ⟨1, "function_definition", none, 34, 43⟩,
  ⟨2, "identifier", some "name", 38, 38⟩,
  ⟨2, "parameters", some "parameters", 38, 40⟩,
  ⟨2, "block", some "body", 42, 43⟩,
  ⟨3, "expression_statement", none, 42, 43⟩,
  ⟨4, "identifier", none, 42, 43⟩]⟩

/-- Of the names of the file two define, at one of them two matches do, and the others are used:
the missing one is too. -/
theorem findings_account_damaged :
    ∃ found spans, python.findings "m.py" damagedSource (some damagedTree) = .ok found ∧
      (15, 16) ∈ spans ∧ (23, 24) ∈ spans ∧ (38, 38) ∉ spans ∧
      found.Account damagedSource spans (python.uses ["identifier"] damagedSource damagedTree) ∧
      (python.uses ["identifier"] damagedSource damagedTree).map Place.index =
        [10, 14, 16, 18, 22] := by
  obtain ⟨succeeds, -, spans, -, defined, account, -⟩ :=
    findings_account .python "m.py" damagedSource damagedTree
  obtain ⟨found, done⟩ := succeeds (by decide)
  refine ⟨found, spans, done, ?_, ?_, ?_, account found done, ?_⟩
  · rw [defined]
    decide
  · rw [defined]
    decide
  · rw [defined]
    decide
  · rfl

end Grammar
end CodeNav
