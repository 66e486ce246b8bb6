import CodeNav.Proofs.Syntax.Parts

/-! What patterns capture where they fit. The nodes that a match captures are told part by part of
the pattern: those of its topmost node, and then those of the children that are taken for its
parts. -/
namespace CodeNav.Syntax

def Pattern.Yields (pattern : Pattern) (place : Place) (entries : List (String × Node)) : Prop :=
  ∃ found, pattern.Satisfied place found ∧ found.captures = entries

def Pattern.YieldsAmong (siblings : List Place) (pattern : Pattern) (place : Place)
    (entries : List (String × Node)) : Prop :=
  pattern.test.sits siblings place = true ∧ pattern.Yields place entries

variable {pattern first second : Pattern} {place : Place} {siblings : List Place}
  {entries : List (String × Node)} {kind field name : String}

namespace Pattern

theorem yieldsAmong_iff : YieldsAmong siblings pattern place entries ↔
    ∃ found, SatisfiedAmong siblings pattern place found ∧ found.captures = entries := by
  simp only [YieldsAmong, Yields, SatisfiedAmong, and_assoc, exists_and_left]

theorem yields_leaf :
    (ofKind kind []).Yields place entries ↔ place.node.kind = kind ∧ entries = [] := by
  simp only [Yields, satisfied_leaf]
  constructor
  · rintro ⟨_, ⟨known, rfl⟩, rfl⟩
    exact ⟨known, rfl⟩
  · rintro ⟨known, rfl⟩
    exact ⟨_, ⟨known, rfl⟩, rfl⟩

theorem yields_one : (ofKind kind [pattern]).Yields place entries ↔ place.node.kind = kind ∧
    ∃ child ∈ place.children, pattern.YieldsAmong place.children child entries := by
  simp only [Yields, satisfied_ofKind, satisfiedBelow_one, yieldsAmong_iff]
  constructor
  · rintro ⟨_, ⟨known, below, ⟨child, member, here⟩, rfl⟩, rfl⟩
    exact ⟨known, child, member, below, here, rfl⟩
  · rintro ⟨known, child, member, below, here, rfl⟩
    exact ⟨_, ⟨known, below, ⟨child, member, here⟩, rfl⟩, rfl⟩

theorem yields_two : (ofKind kind [first, second]).Yields place entries ↔
    place.node.kind = kind ∧ ∃ earlier later, [earlier, later].Sublist place.children ∧
      ∃ here there, first.YieldsAmong place.children earlier here ∧
        second.YieldsAmong place.children later there ∧ entries = here ++ there := by
  simp only [Yields, satisfied_ofKind, satisfiedBelow_two, yieldsAmong_iff]
  constructor
  · rintro ⟨_, ⟨known, _, ⟨earlier, later, below, here, there, taken, also, rfl⟩, rfl⟩, rfl⟩
    exact ⟨known, earlier, later, below, _, _, ⟨here, taken, rfl⟩, ⟨there, also, rfl⟩, rfl⟩
  · rintro ⟨known, earlier, later, below, _, _, ⟨here, taken, rfl⟩, ⟨there, also, rfl⟩, rfl⟩
    exact ⟨_, ⟨known, _, ⟨earlier, later, below, here, there, taken, also, rfl⟩, rfl⟩, rfl⟩

theorem yields_captured (unlabelled : pattern.label = none) :
    (pattern.captured name).Yields place entries ↔
      ∃ below, pattern.Yields place below ∧ entries = (name, place.node) :: below := by
  simp only [Yields, satisfied_captured unlabelled]
  constructor
  · rintro ⟨_, ⟨found, satisfied, rfl⟩, rfl⟩
    exact ⟨_, ⟨found, satisfied, rfl⟩, rfl⟩
  · rintro ⟨_, ⟨found, satisfied, rfl⟩, rfl⟩
    exact ⟨_, ⟨found, satisfied, rfl⟩, rfl⟩

theorem yieldsAmong_captured (unlabelled : pattern.label = none) :
    YieldsAmong siblings (pattern.captured name) place entries ↔
      ∃ below, YieldsAmong siblings pattern place below ∧
        entries = (name, place.node) :: below := by
  simp only [YieldsAmong, test_captured, yields_captured unlabelled, and_assoc, exists_and_left]

theorem yieldsAmong_inField (any : pattern.test.firstOfField = false) :
    YieldsAmong siblings (pattern.inField field) place entries ↔
      place.node.field = some field ∧ pattern.Yields place entries := by
  rw [YieldsAmong, sits_inField any]
  simp only [Yields, satisfied_inField]

theorem yieldsAmong_firstInField : YieldsAmong siblings (pattern.firstInField field) place entries ↔
    place.node.field = some field ∧ (siblings.find? fun sibling =>
      sibling.node.field = some field).all (·.index = place.index) = true ∧
        pattern.Yields place entries := by
  obtain ⟨test, capture, children⟩ := pattern
  have sits : ((node test capture children).firstInField field).test.sits siblings place = true ↔
      place.node.field = some field ∧ (siblings.find? fun sibling =>
        sibling.node.field = some field).all (·.index = place.index) = true := by
    simp [firstInField, Pattern.test, NodeTest.sits]
  have yields : ((node test capture children).firstInField field).Yields place entries ↔
      (node test capture children).Yields place entries := by
    simp only [Yields, firstInField, satisfied_node]
    rfl
  rw [YieldsAmong, sits, yields, and_assoc]

end Pattern

def Query.Yields (query : Query) (tree : Tree) (entries : List (String × Node)) : Prop :=
  ∃ found, query.Finds tree found ∧ found.captures = entries

theorem Query.yields_iff {query : Query} {tree : Tree} : query.Yields tree entries ↔
    ∃ pattern ∈ query.rules.flatten, ∃ place ∈ tree.places, pattern.Yields place entries := by
  constructor
  · rintro ⟨found, ⟨pattern, known, place, inside, satisfied⟩, rfl⟩
    exact ⟨pattern, known, place, inside, found, satisfied, rfl⟩
  · rintro ⟨pattern, known, place, inside, found, satisfied, rfl⟩
    exact ⟨found, ⟨pattern, known, place, inside, satisfied⟩, rfl⟩

end CodeNav.Syntax
