import CodeNav.Proofs.Transcript

/-! Definitions by the bytes of their names. Each span that a match names is noted once, whichever
match it is noted for, and the spans stand in strict order. -/
namespace CodeNav.Survey

def Before (a b : Nat × Nat) : Prop := a.1 < b.1 ∨ a.1 = b.1 ∧ a.2 < b.2

theorem Before.ne {a b : Nat × Nat} (before : Before a b) : a ≠ b := by
  rintro rfl
  unfold Before at before
  omega

theorem before_of_spanBefore {a b : Nat × Nat} (before : spanBefore a b = true) (other : a ≠ b) :
    Before a b := by
  rw [spanBefore_iff] at before
  rw [ne_eq, Prod.ext_iff] at other
  unfold Before
  omega

theorem named?_eq_some {captures : Syntax.Captures} {named : Named} :
    named? captures = some named ↔ nameOf captures.values = some named.capture ∧
      named.capture.text ≠ "" ∧ named.name = named.capture.text ∧
        named.kind = kindOf (labelParts named.capture.name).1 ∧
          named.container = containerOf captures.values := by
  obtain ⟨name, kind, container, capture⟩ := named
  rw [named?]
  cases nameOf captures.values with
  | none => simp
  | some chosen =>
    dsimp only
    by_cases empty : chosen.text = ""
    · rw [if_pos empty]
      constructor
      · intro none_named
        cases none_named
      · rintro ⟨same, written, -⟩
        rw [Option.some.inj same] at empty
        exact absurd empty written
    · rw [if_neg empty, Option.some.injEq, Named.mk.injEq, Option.some.injEq]
      constructor
      · rintro ⟨rfl, rfl, rfl, rfl⟩
        exact ⟨rfl, empty, rfl, rfl, rfl⟩
      · rintro ⟨rfl, -, rfl, rfl, rfl⟩
        exact ⟨rfl, rfl, rfl, rfl⟩

theorem exists_named_iff {captures : Syntax.Captures} {span : Nat × Nat} :
    (∃ named, named? captures = some named ∧ named.capture.span = span) ↔
      ∃ capture, nameOf captures.values = some capture ∧ capture.text ≠ "" ∧
        capture.span = span := by
  constructor
  · rintro ⟨named, known, same⟩
    obtain ⟨chosen, written, -⟩ := named?_eq_some.1 known
    exact ⟨named.capture, chosen, written, same⟩
  · rintro ⟨capture, chosen, written, same⟩
    exact ⟨⟨capture.text, kindOf (labelParts capture.name).1, containerOf captures.values, capture⟩,
      named?_eq_some.2 ⟨chosen, written, rfl, rfl, rfl⟩, same⟩

theorem mem_keys_namesOf {definitions : List Syntax.Captures} {span : Nat × Nat} :
    span ∈ (namesOf definitions).keys ↔
      ∃ captures ∈ definitions, ∃ named, named? captures = some named ∧
        named.capture.span = span := by
  simp only [Table.mem_keys, get?_namesOf_eq, exists_latestAt_iff, List.mem_filterMap]
  constructor
  · rintro ⟨named, ⟨captures, member, known⟩, here⟩
    exact ⟨captures, member, named, known, here⟩
  · rintro ⟨captures, member, named, known, here⟩
    exact ⟨named, ⟨captures, member, known⟩, here⟩

def spansOf (definitions : List Syntax.Captures) : List (Nat × Nat) :=
  (placed (namesOf definitions)).map fun named => named.capture.span

theorem spansOf_eq (definitions : List Syntax.Captures) : spansOf definitions =
    ((namesOf definitions).entries.mergeSort fun a b => spanBefore a.1 b.1).map Prod.fst := by
  rw [spansOf, placed, List.map_map]
  apply List.map_congr_left
  intro entry member
  rw [List.mem_mergeSort] at member
  exact (get?_namesOf (Table.get?_eq_some.2 member)).1

theorem mem_spansOf {definitions : List Syntax.Captures} {span : Nat × Nat} :
    span ∈ spansOf definitions ↔ span ∈ (namesOf definitions).keys := by
  rw [spansOf_eq, List.mem_map, Table.keys, List.mem_map]
  simp only [List.mem_mergeSort]

theorem pairwise_spansOf (definitions : List Syntax.Captures) :
    (spansOf definitions).Pairwise Before := by
  have distinct : (spansOf definitions).Nodup := by
    rw [spansOf_eq, ((List.mergeSort_perm _ _).map Prod.fst).nodup_iff]
    exact (namesOf definitions).nodup
  have ordered : (spansOf definitions).Pairwise fun a b => spanBefore a b = true := by
    rw [spansOf_eq, List.pairwise_map]
    exact pairwise_entries _
  exact ordered.imp₂ (fun _ _ before other => before_of_spanBefore before other) distinct

end CodeNav.Survey
