import CodeNav.Proofs.Syntax.Matching

/-! Where patterns fit. Whether some match satisfies a pattern at a place is asked of the node
there and of a subsequence of its children, and each part of the pattern is asked on its own. -/
namespace CodeNav.Syntax

def Pattern.Fits (pattern : Pattern) (place : Place) : Prop :=
  ∃ found, pattern.Satisfied place found

def Pattern.FitsAmong (siblings : List Place) (pattern : Pattern) (place : Place) : Prop :=
  pattern.test.sits siblings place = true ∧ pattern.Fits place

def Pattern.label : Pattern → Option String
  | .node _ capture _ => capture

theorem exists_satisfiedBelow {patterns : List Pattern} {siblings left : List Place} :
    (∃ found, SatisfiedBelow patterns siblings left found) ↔
      List.SublistForall₂ (Pattern.FitsAmong siblings) patterns left := by
  constructor
  · rintro ⟨found, satisfied⟩
    induction left generalizing patterns found with
    | nil =>
      cases satisfied
      exact .nil
    | cons place rest ih =>
      cases satisfied with
      | nil => exact .nil
      | skip later => exact .cons_right (ih _ later)
      | take sits here later => exact .cons ⟨sits, _, here⟩ (ih _ later)
  · intro fits
    induction fits with
    | nil => exact ⟨_, .nil⟩
    | cons here _ ih =>
      obtain ⟨sits, first, satisfied⟩ := here
      obtain ⟨more, later⟩ := ih
      exact ⟨_, .take sits satisfied later⟩
    | @cons_right _ patterns _ _ ih =>
      obtain ⟨found, later⟩ := ih
      -- With no pattern left nothing is passed over; the match is complete.
      cases patterns with
      | nil => exact ⟨_, .nil⟩
      | cons pattern others => exact ⟨found, .skip later⟩

variable {pattern first second : Pattern} {place : Place} {siblings : List Place}
  {kind name : String}

theorem NodeTest.holds_without (test : NodeTest) :
    NodeTest.holds { test with without := name :: test.without } place = true ↔
      test.holds place = true ∧ ∀ child ∈ place.children, child.node.field ≠ some name := by
  simp only [NodeTest.holds, Bool.and_eq_true, and_assoc, List.all_eq_true,
    Option.all_eq_true, decide_eq_true_eq, List.mem_cons, not_or, ← forall_and]
  refine and_congr_right fun _ => forall₂_congr fun child _ => ?_
  constructor
  · intro free
    exact ⟨fun field held => (free field held).2, fun held => (free name held).1 rfl⟩
  · rintro ⟨free, other⟩ field held
    exact ⟨fun same => other (same ▸ held), free field held⟩

namespace Pattern

theorem test_captured : (pattern.captured name).test = pattern.test := by
  cases pattern
  rfl

theorem sits_inField (any : pattern.test.firstOfField = false) :
    (pattern.inField name).test.sits siblings place = true ↔ place.node.field = some name := by
  obtain ⟨test, capture, children⟩ := pattern
  have any : test.firstOfField = false := any
  simp [inField, Pattern.test, NodeTest.sits, any]

theorem fits_node {test : NodeTest} {capture : Option String} {children : List Pattern} :
    (node test capture children).Fits place ↔ test.holds place = true ∧
      List.SublistForall₂ (FitsAmong place.children) children place.children := by
  rw [← exists_satisfiedBelow]
  constructor
  · rintro ⟨_, ⟨holds, below⟩⟩
    exact ⟨holds, _, below⟩
  · rintro ⟨holds, _, below⟩
    exact ⟨_, .node holds below⟩

theorem holds_kind : NodeTest.holds { kind := some kind } place = true ↔
    place.node.kind = kind := by
  have holds : NodeTest.holds { kind := some kind } place = decide (kind = place.node.kind) := by
    simp [NodeTest.holds]
  rw [holds, decide_eq_true_eq, eq_comm]

theorem fits_ofKind {children : List Pattern} : (ofKind kind children).Fits place ↔
    place.node.kind = kind ∧
      List.SublistForall₂ (FitsAmong place.children) children place.children := by
  rw [ofKind, fits_node, holds_kind]

theorem fits_leaf : (ofKind kind []).Fits place ↔ place.node.kind = kind := by
  rw [fits_ofKind]
  exact and_iff_left .nil

theorem fits_one : (ofKind kind [pattern]).Fits place ↔ place.node.kind = kind ∧
    ∃ child ∈ place.children, pattern.FitsAmong place.children child := by
  rw [fits_ofKind, List.sublistForall₂_iff]
  refine and_congr_right fun _ => ?_
  constructor
  · rintro ⟨_, _ | ⟨here, ⟨⟩⟩, below⟩
    exact ⟨_, List.singleton_sublist.1 below, here⟩
  · rintro ⟨child, member, here⟩
    exact ⟨[child], .cons here .nil, List.singleton_sublist.2 member⟩

theorem fits_two : (ofKind kind [first, second]).Fits place ↔ place.node.kind = kind ∧
    ∃ earlier later, [earlier, later].Sublist place.children ∧
      first.FitsAmong place.children earlier ∧ second.FitsAmong place.children later := by
  rw [fits_ofKind, List.sublistForall₂_iff]
  refine and_congr_right fun _ => ?_
  constructor
  · rintro ⟨_, _ | ⟨here, _ | ⟨there, ⟨⟩⟩⟩, below⟩
    exact ⟨_, _, below, here, there⟩
  · rintro ⟨earlier, later, below, here, there⟩
    exact ⟨[earlier, later], .cons here (.cons there .nil), below⟩

theorem fits_anyNode : anyNode.Fits place := by
  have holds : NodeTest.holds { kind := none } place = true := by simp [NodeTest.holds]
  exact fits_node.2 ⟨holds, .nil⟩

theorem fits_captured : (pattern.captured name).Fits place ↔ pattern.Fits place := by
  cases pattern
  rw [captured, fits_node, fits_node]

theorem fits_inField : (pattern.inField name).Fits place ↔ pattern.Fits place := by
  cases pattern
  rw [inField, fits_node, fits_node]
  rfl

theorem fits_lacking : (pattern.lacking name).Fits place ↔
    pattern.Fits place ∧ ∀ child ∈ place.children, child.node.field ≠ some name := by
  obtain ⟨test, capture, children⟩ := pattern
  rw [lacking, fits_node, fits_node, test.holds_without, and_right_comm]

theorem fitsAmong_ofKind {children : List Pattern} :
    FitsAmong siblings (ofKind kind children) place ↔ (ofKind kind children).Fits place :=
  and_iff_right rfl

theorem fitsAmong_captured : FitsAmong siblings (pattern.captured name) place ↔
    FitsAmong siblings pattern place := by
  rw [FitsAmong, FitsAmong, test_captured, fits_captured]

theorem fitsAmong_lacking : FitsAmong siblings (pattern.lacking name) place ↔
    FitsAmong siblings pattern place ∧
      ∀ child ∈ place.children, child.node.field ≠ some name := by
  have same :
      (pattern.lacking name).test.sits siblings place = pattern.test.sits siblings place := by
    cases pattern
    rfl
  rw [FitsAmong, FitsAmong, same, fits_lacking, and_assoc]

theorem fitsAmong_inField (any : pattern.test.firstOfField = false) :
    FitsAmong siblings (pattern.inField name) place ↔
      place.node.field = some name ∧ pattern.Fits place := by
  rw [FitsAmong, fits_inField, sits_inField any]

theorem not_exists_fits_nil :
    ¬ ∃ chosen ∈ ([] : List (List Pattern)).flatten, chosen.Fits place := by
  rintro ⟨_, none_there, _⟩
  cases none_there

theorem exists_fits_cons {rules : List (List Pattern)} :
    (∃ chosen ∈ ([pattern] :: rules).flatten, chosen.Fits place) ↔
      pattern.Fits place ∨ ∃ chosen ∈ rules.flatten, chosen.Fits place := by
  rw [List.flatten_cons, List.singleton_append, List.exists_mem_cons_iff]

theorem captures_of_label (labelled : pattern.label = some name) {found : Match}
    (satisfied : pattern.Satisfied place found) :
    ∃ others, found.captures = (name, place.node) :: others := by
  cases satisfied with
  | @node test capture children _ below holds _ =>
    have same : capture = some name := labelled
    subst same
    exact ⟨below.captures, rfl⟩

end Pattern

/-- Where every pattern captures its topmost node under one name, the nodes captured under it are
those at which a pattern fits. -/
theorem Query.capturesAs_top {query : Query} {name : String} (distinct : query.Distinct)
    (labelled : ∀ pattern ∈ query.rules.flatten, pattern.label = some name) {tree : Tree}
    {node : Node} : query.CapturesAs tree name node ↔
      ∃ place ∈ tree.places, place.node = node ∧
        ∃ pattern ∈ query.rules.flatten, pattern.Fits place := by
  constructor
  · rintro ⟨found, finds, member⟩
    have once := finds.nodup distinct
    obtain ⟨pattern, known, place, inside, satisfied⟩ := finds
    obtain ⟨others, captures⟩ := Pattern.captures_of_label (labelled pattern known) satisfied
    rw [captures, List.map_cons, List.nodup_cons] at once
    rw [captures, List.mem_cons, Prod.mk.injEq] at member
    obtain ⟨-, rfl⟩ | again := member
    · exact ⟨place, inside, rfl, pattern, known, found, satisfied⟩
    · exact absurd (List.mem_map_of_mem again) once.1
  · rintro ⟨place, inside, rfl, pattern, known, found, satisfied⟩
    obtain ⟨others, captures⟩ := Pattern.captures_of_label (labelled pattern known) satisfied
    refine ⟨found, ⟨pattern, known, place, inside, satisfied⟩, ?_⟩
    rw [captures]
    exact List.mem_cons_self

end CodeNav.Syntax
