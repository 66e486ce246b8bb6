import CodeNav.Proofs.Survey.Spans

/-! What the order of the matches means for the definitions that are recorded. It decides between
two definitions of a span only if both have a container or neither has one. -/
namespace CodeNav.Survey

variable {span : Nat × Nat} {all others : List Named} {qualified : Bool}

def namedAt (span : Nat × Nat) (qualified : Bool) (all : List Named) : List Named :=
  all.filter fun named => named.capture.span = span ∧ named.qualified = qualified

def Unrivalled (span : Nat × Nat) (all : List Named) : Prop :=
  ∀ qualified, (namedAt span qualified all).length ≤ 1

theorem qualified_of_mem_namedAt {named : Named} (member : named ∈ namedAt span qualified all) :
    named.qualified = qualified :=
  (of_decide_eq_true (List.mem_filter.1 member).2).2

theorem lastAt_filter_qualified (span : Nat × Nat) (all : List Named) :
    lastAt span (all.filter Named.qualified) = (namedAt span true all).getLast? := by
  rw [lastAt, List.filter_filter, namedAt]
  congr 2
  funext named
  rw [Bool.decide_and, Bool.decide_eq_true]

theorem lastAt_of_namedAt_eq_nil (none_qualified : namedAt span true all = []) :
    lastAt span all = (namedAt span false all).getLast? := by
  rw [lastAt, namedAt]
  congr 1
  apply List.filter_congr
  intro named member
  have plain := List.filter_eq_nil_iff.1 none_qualified named member
  rw [decide_eq_true_eq, not_and, Bool.not_eq_true] at plain
  exact decide_eq_decide.2 ⟨fun here => ⟨here, plain here⟩, And.left⟩

/-- Those without a container count only where none has one. -/
theorem latestAt_eq (span : Nat × Nat) (all : List Named) : latestAt span all =
    (namedAt span true all).getLast?.or (namedAt span false all).getLast? := by
  rw [latestAt, lastAt_filter_qualified]
  by_cases none_qualified : namedAt span true all = []
  · rw [lastAt_of_namedAt_eq_nil none_qualified]
  · rw [List.getLast?_eq_some_getLast none_qualified]
    rfl

theorem map_qualified_getLast? (span : Nat × Nat) (qualified : Bool) (all : List Named) :
    (namedAt span qualified all).getLast?.map Named.qualified =
      if namedAt span qualified all = [] then none else some qualified := by
  by_cases absent : namedAt span qualified all = []
  · rw [if_pos absent, absent]
    rfl
  · rw [if_neg absent, List.getLast?_eq_some_getLast absent, Option.map_some,
      qualified_of_mem_namedAt (List.getLast_mem absent)]

theorem map_qualified_latestAt (span : Nat × Nat) (all : List Named) :
    (latestAt span all).map Named.qualified =
      (if namedAt span true all = [] then none else some true).or
        (if namedAt span false all = [] then none else some false) := by
  rw [latestAt_eq, Option.map_or, map_qualified_getLast?, map_qualified_getLast?]

theorem namedAt_perm (perm : all.Perm others) (span : Nat × Nat) (qualified : Bool) :
    (namedAt span qualified all).Perm (namedAt span qualified others) :=
  perm.filter _

theorem map_qualified_latestAt_of_perm (perm : all.Perm others) (span : Nat × Nat) :
    (latestAt span all).map Named.qualified = (latestAt span others).map Named.qualified := by
  have absent (qualified : Bool) :
      namedAt span qualified all = [] ↔ namedAt span qualified others = [] := by
    rw [← List.length_eq_zero_iff, ← List.length_eq_zero_iff, (namedAt_perm perm span _).length_eq]
  simp only [map_qualified_latestAt, absent]

theorem latestAt_of_perm (perm : all.Perm others) (unrivalled : Unrivalled span all) :
    latestAt span all = latestAt span others := by
  have same (qualified : Bool) : namedAt span qualified all = namedAt span qualified others := by
    have moved := namedAt_perm perm span qualified
    rcases Nat.le_one_iff_eq_zero_or_eq_one.1 (unrivalled qualified) with none_there | one
    · rw [List.length_eq_zero_iff] at none_there
      rw [none_there] at moved ⊢
      exact moved.nil_eq
    · obtain ⟨named, alone⟩ := List.length_eq_one_iff.1 one
      rw [alone] at moved ⊢
      exact (List.singleton_perm.1 moved)
  rw [latestAt_eq, latestAt_eq, same, same]

/-- Definitions are recorded at the spans that matches name. Of those at a span the last one that
has a container is recorded, or else the last one. So whether it has a container does not depend on
the order of the matches, nor does the definition itself where it has no rival of its sort. -/
theorem recorded_in_any_order (definitions : List Syntax.Captures) (span : Nat × Nat) :
    (span ∈ (namesOf definitions).keys ↔ ∃ captures ∈ definitions, ∃ capture,
      nameOf captures.values = some capture ∧ capture.text ≠ "" ∧ capture.span = span) ∧
    (namesOf definitions).get? span = latestAt span (definitions.filterMap named?) ∧
    ∀ reordered : List Syntax.Captures, definitions.Perm reordered →
      ((namesOf definitions).get? span).map Named.qualified =
          ((namesOf reordered).get? span).map Named.qualified ∧
        (Unrivalled span (definitions.filterMap named?) →
          (namesOf definitions).get? span = (namesOf reordered).get? span) := by
  refine ⟨?_, get?_namesOf_eq definitions span, ?_⟩
  · rw [mem_keys_namesOf]
    simp only [exists_named_iff]
  · intro reordered perm
    have moved := perm.filterMap named?
    rw [get?_namesOf_eq, get?_namesOf_eq]
    exact ⟨map_qualified_latestAt_of_perm moved span, latestAt_of_perm moved⟩

def runCapture (name : String) : Syntax.Capture := ⟨name, "run", 6, 9, ⟨1, 4⟩, ⟨1, 7⟩⟩

def runMatches : List Syntax.Captures :=
  [.ofList [("fn.name", runCapture "fn.name")],
    .ofList [("method.name", runCapture "method.name"),
      ("method.container", ⟨"method.container", "Job", 0, 3, ⟨0, 0⟩, ⟨0, 3⟩⟩)]]

/-- The method is recorded with its class, though the function is matched last. -/
theorem recorded_in_any_order_method :
    runMatches.Perm runMatches.reverse ∧ Unrivalled (6, 9) (runMatches.filterMap named?) ∧
      ((namesOf runMatches.reverse).get? (6, 9)).map Named.qualified = some true ∧
      (namesOf runMatches).get? (6, 9) = (namesOf runMatches.reverse).get? (6, 9) := by
  have perm : runMatches.Perm runMatches.reverse := (List.reverse_perm _).symm
  have unrivalled : Unrivalled (6, 9) (runMatches.filterMap named?) := by
    intro qualified
    cases qualified <;> rfl
  obtain ⟨-, -, same⟩ := recorded_in_any_order runMatches (6, 9)
  refine ⟨perm, unrivalled, ?_, (same _ perm).2 unrivalled⟩
  rw [← (same _ perm).1]
  rfl

end CodeNav.Survey
