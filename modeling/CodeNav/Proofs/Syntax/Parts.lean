import CodeNav.Proofs.Syntax.Children
import CodeNav.Proofs.Syntax.Fits

/-! Matches part by part. A match of a pattern is put together of its topmost node and of matches of
its parts at children in order, so it is known with all its nodes and captures. -/
namespace CodeNav.Syntax

theorem Match.append_empty (found : Match) : found.append empty = found := by
  obtain ⟨nodes, captures⟩ := found
  simp [append, empty]

theorem Match.last_append (first second : Match) :
    (first.append second).last = max first.last second.last := by
  rw [last, append, List.foldl_append, ← Nat.max_zero (first.nodes.foldl max 0), List.foldl_assoc]
  rfl

theorem Match.last_under (place : Place) (capture : Option String) (below : Match) :
    (below.under place capture).last = max place.index below.last := by
  rw [last, under, List.foldl_cons, Nat.max_comm 0, List.foldl_assoc]
  rfl

def Pattern.SatisfiedAmong (siblings : List Place) (pattern : Pattern) (place : Place)
    (found : Match) : Prop :=
  pattern.test.sits siblings place = true ∧ pattern.Satisfied place found

variable {pattern first second : Pattern} {place : Place} {siblings left : List Place}
  {found : Match} {kind field name : String}

theorem satisfiedBelow_nil : SatisfiedBelow [] siblings left found ↔ found = Match.empty := by
  constructor
  · rintro ⟨⟩
    rfl
  · rintro rfl
    exact .nil

theorem not_satisfiedBelow_nil {others : List Pattern} :
    ¬ SatisfiedBelow (pattern :: others) siblings [] found := by
  rintro ⟨⟩

theorem satisfiedBelow_one : SatisfiedBelow [pattern] siblings left found ↔
    ∃ child ∈ left, pattern.SatisfiedAmong siblings child found := by
  induction left with
  | nil => simp [not_satisfiedBelow_nil]
  | cons place rest ih =>
    simp only [satisfiedBelow_cons, ih, satisfiedBelow_nil, List.exists_mem_cons_iff]
    refine or_congr_left ?_
    constructor
    · rintro ⟨here, _, sits, satisfied, rfl, rfl⟩
      exact ⟨sits, here.append_empty.symm ▸ satisfied⟩
    · rintro ⟨sits, satisfied⟩
      exact ⟨found, _, sits, satisfied, rfl, found.append_empty.symm⟩

theorem satisfiedBelow_two : SatisfiedBelow [first, second] siblings left found ↔
    ∃ earlier later, [earlier, later].Sublist left ∧ ∃ here there,
      first.SatisfiedAmong siblings earlier here ∧ second.SatisfiedAmong siblings later there ∧
        found = here.append there := by
  induction left with
  | nil => simp [not_satisfiedBelow_nil]
  | cons place rest ih =>
    rw [satisfiedBelow_cons, ih]
    simp only [satisfiedBelow_one]
    constructor
    · rintro (⟨here, there, sits, satisfied, ⟨later, member, also⟩, rfl⟩ |
        ⟨earlier, later, below, here, there, satisfied, also, rfl⟩)
      · exact ⟨place, later, (List.singleton_sublist.2 member).cons_cons _, here, there,
          ⟨sits, satisfied⟩, also, rfl⟩
      · exact ⟨earlier, later, below.cons _, here, there, satisfied, also, rfl⟩
    · rintro ⟨earlier, later, below, here, there, satisfied, also, rfl⟩
      rcases List.cons_sublist_cons'.1 below with skipped | ⟨rfl, behind⟩
      · exact .inr ⟨earlier, later, skipped, here, there, satisfied, also, rfl⟩
      · exact .inl ⟨here, there, satisfied.1, satisfied.2,
          ⟨later, List.singleton_sublist.1 behind, also⟩, rfl⟩

namespace Pattern

theorem satisfied_node {test : NodeTest} {capture : Option String} {children : List Pattern} :
    (node test capture children).Satisfied place found ↔ test.holds place = true ∧
      ∃ below, SatisfiedBelow children place.children place.children below ∧
        found = below.under place capture := by
  constructor
  · rintro ⟨holds, below⟩
    exact ⟨holds, _, below, rfl⟩
  · rintro ⟨holds, _, below, rfl⟩
    exact .node holds below

theorem satisfied_ofKind {children : List Pattern} :
    (ofKind kind children).Satisfied place found ↔ place.node.kind = kind ∧
      ∃ below, SatisfiedBelow children place.children place.children below ∧
        found = below.under place none := by
  rw [ofKind, satisfied_node, holds_kind]

theorem satisfied_childless {test : NodeTest} : (node test none []).Satisfied place found ↔
    test.holds place = true ∧ found = ⟨[place.index], []⟩ := by
  simp only [satisfied_node, satisfiedBelow_nil, exists_eq_left]
  rfl

theorem satisfied_leaf : (ofKind kind []).Satisfied place found ↔
    place.node.kind = kind ∧ found = ⟨[place.index], []⟩ := by
  rw [ofKind, satisfied_childless, holds_kind]

theorem satisfied_captured (unlabelled : pattern.label = none) :
    (pattern.captured name).Satisfied place found ↔ ∃ below, pattern.Satisfied place below ∧
      found = ⟨below.nodes, (name, place.node) :: below.captures⟩ := by
  obtain ⟨test, capture, children⟩ := pattern
  have unlabelled : capture = none := unlabelled
  subst unlabelled
  rw [captured, satisfied_node]
  simp only [satisfied_node]
  constructor
  · rintro ⟨holds, below, satisfied, rfl⟩
    exact ⟨_, ⟨holds, below, satisfied, rfl⟩, rfl⟩
  · rintro ⟨_, ⟨holds, below, satisfied, rfl⟩, rfl⟩
    exact ⟨holds, below, satisfied, rfl⟩

theorem satisfied_lacking : (pattern.lacking name).Satisfied place found ↔
    pattern.Satisfied place found ∧ ∀ child ∈ place.children, child.node.field ≠ some name := by
  obtain ⟨test, capture, children⟩ := pattern
  rw [lacking, satisfied_node, satisfied_node, test.holds_without, and_right_comm]

theorem satisfiedAmong_captured (unlabelled : pattern.label = none) :
    SatisfiedAmong siblings (pattern.captured name) place found ↔
      ∃ below, SatisfiedAmong siblings pattern place below ∧
        found = ⟨below.nodes, (name, place.node) :: below.captures⟩ := by
  simp only [SatisfiedAmong, test_captured, satisfied_captured unlabelled, and_assoc,
    exists_and_left]

theorem satisfied_inField :
    (pattern.inField field).Satisfied place found ↔ pattern.Satisfied place found := by
  cases pattern
  rw [inField, satisfied_node, satisfied_node]
  rfl

theorem satisfiedAmong_inField (any : pattern.test.firstOfField = false) :
    SatisfiedAmong siblings (pattern.inField field) place found ↔
      place.node.field = some field ∧ pattern.Satisfied place found := by
  rw [SatisfiedAmong, sits_inField any, satisfied_inField]

theorem satisfiedAmong_childless {test : NodeTest} (any : test.firstOfField = false) :
    SatisfiedAmong siblings ((node test none []).inField field |>.captured name) place found ↔
      place.node.field = some field ∧ test.holds place = true ∧
        found = ⟨[place.index], [(name, place.node)]⟩ := by
  have unheld : (node test none []).test.firstOfField = false := any
  rw [satisfiedAmong_captured rfl]
  simp only [satisfiedAmong_inField unheld, satisfied_childless]
  constructor
  · rintro ⟨_, ⟨held, holds, rfl⟩, rfl⟩
    exact ⟨held, holds, rfl⟩
  · rintro ⟨held, holds, rfl⟩
    exact ⟨_, ⟨held, holds, rfl⟩, rfl⟩

theorem satisfiedAmong_leaf : SatisfiedAmong siblings
    ((ofKind kind []).inField field |>.captured name) place found ↔
      place.node.field = some field ∧ place.node.kind = kind ∧
        found = ⟨[place.index], [(name, place.node)]⟩ := by
  rw [ofKind, satisfiedAmong_childless rfl, holds_kind]

theorem satisfiedAmong_any : SatisfiedAmong siblings
    (anyNode.inField field |>.captured name) place found ↔
      place.node.field = some field ∧ found = ⟨[place.index], [(name, place.node)]⟩ := by
  have holds : NodeTest.holds { kind := none } place = true := by simp [NodeTest.holds]
  rw [anyNode, satisfiedAmong_childless rfl, and_iff_right holds]

end Pattern

namespace Tree

variable {tree : Tree} {parent : Place}

theorem satisfied_one (inside : parent ∈ tree.places) :
    (Pattern.ofKind kind [pattern]).Satisfied parent found ↔ parent.node.kind = kind ∧
      ∃ child below, tree.Child parent child ∧
        pattern.SatisfiedAmong parent.children child below ∧ found = below.under parent none := by
  simp only [Pattern.satisfied_ofKind, satisfiedBelow_one, child_iff, and_iff_right inside]
  refine and_congr_right fun _ => ?_
  constructor
  · rintro ⟨below, ⟨child, member, here⟩, rfl⟩
    exact ⟨child, below, member, here, rfl⟩
  · rintro ⟨child, below, member, here, rfl⟩
    exact ⟨below, ⟨child, member, here⟩, rfl⟩

theorem satisfied_two (inside : parent ∈ tree.places) :
    (Pattern.ofKind kind [first, second]).Satisfied parent found ↔ parent.node.kind = kind ∧
      ∃ earlier later, tree.Child parent earlier ∧ tree.Child parent later ∧
        earlier.index < later.index ∧ ∃ here there,
          first.SatisfiedAmong parent.children earlier here ∧
            second.SatisfiedAmong parent.children later there ∧
              found = (here.append there).under parent none := by
  simp only [Pattern.satisfied_ofKind, satisfiedBelow_two, sublist_children_iff inside]
  refine and_congr_right fun _ => ?_
  constructor
  · rintro ⟨_, ⟨earlier, later, ⟨above, also_above, before⟩, here, there, first, second, rfl⟩, rfl⟩
    exact ⟨earlier, later, above, also_above, before, here, there, first, second, rfl⟩
  · rintro ⟨earlier, later, above, also_above, before, here, there, first, second, rfl⟩
    exact ⟨_, ⟨earlier, later, ⟨above, also_above, before⟩, here, there, first, second, rfl⟩, rfl⟩

theorem satisfied_whole_one (inside : parent ∈ tree.places) :
    ((Pattern.ofKind kind [pattern]).captured name).Satisfied parent found ↔
      parent.node.kind = kind ∧ ∃ child below, tree.Child parent child ∧
        pattern.SatisfiedAmong parent.children child below ∧
          found = below.under parent (some name) := by
  rw [Pattern.satisfied_captured rfl]
  simp only [satisfied_one inside]
  constructor
  · rintro ⟨_, ⟨known, child, below, inner, here, rfl⟩, rfl⟩
    exact ⟨known, child, below, inner, here, rfl⟩
  · rintro ⟨known, child, below, inner, here, rfl⟩
    exact ⟨_, ⟨known, child, below, inner, here, rfl⟩, rfl⟩

theorem satisfied_whole_two (inside : parent ∈ tree.places) :
    ((Pattern.ofKind kind [first, second]).captured name).Satisfied parent found ↔
      parent.node.kind = kind ∧ ∃ earlier later, tree.Child parent earlier ∧
        tree.Child parent later ∧ earlier.index < later.index ∧ ∃ here there,
          first.SatisfiedAmong parent.children earlier here ∧
            second.SatisfiedAmong parent.children later there ∧
              found = (here.append there).under parent (some name) := by
  rw [Pattern.satisfied_captured rfl]
  simp only [satisfied_two inside]
  constructor
  · rintro
      ⟨_, ⟨known, earlier, later, inner, also_inner, before, here, there, one, other, rfl⟩, rfl⟩
    exact ⟨known, earlier, later, inner, also_inner, before, here, there, one, other, rfl⟩
  · rintro ⟨known, earlier, later, inner, also_inner, before, here, there, one, other, rfl⟩
    exact ⟨_, ⟨known, earlier, later, inner, also_inner, before, here, there, one, other, rfl⟩, rfl⟩

end Tree
end CodeNav.Syntax
