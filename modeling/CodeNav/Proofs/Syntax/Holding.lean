import CodeNav.Proofs.Syntax.Children
import CodeNav.Proofs.Syntax.Yields

/-! What the common patterns yield in a tree: a node with a child in a field, and a type whose body
stands behind its name. -/
namespace CodeNav.Syntax

theorem Pattern.yieldsAmong_leaf {siblings : List Place} {place : Place}
    {entries : List (String × Node)} {kind field label : String} :
    YieldsAmong siblings ((ofKind kind []).inField field |>.captured label) place entries ↔
      place.node.field = some field ∧ place.node.kind = kind ∧ entries = [(label, place.node)] := by
  simp only [yieldsAmong_iff, satisfiedAmong_leaf]
  constructor
  · rintro ⟨_, ⟨held, known, rfl⟩, rfl⟩
    exact ⟨held, known, rfl⟩
  · rintro ⟨held, known, rfl⟩
    exact ⟨_, ⟨held, known, rfl⟩, rfl⟩

theorem Pattern.yieldsAmong_of_anywhere {pattern : Pattern} {siblings : List Place} {place : Place}
    {entries : List (String × Node)} (anywhere : pattern.test.field = none) :
    pattern.YieldsAmong siblings place entries ↔ pattern.Yields place entries := by
  rw [YieldsAmong, NodeTest.sits, anywhere]
  exact and_iff_right rfl

namespace Tree

open Pattern

variable {tree : Tree} {parent : Place} {kind field nameKind bodyKind label whole : String}
  {pattern first second : Pattern} {entries : List (String × Node)}

theorem yields_one (inside : parent ∈ tree.places) : (ofKind kind [pattern]).Yields parent entries ↔
    parent.node.kind = kind ∧ ∃ child, tree.Child parent child ∧
      pattern.YieldsAmong parent.children child entries := by
  simp only [Pattern.yields_one, child_iff, and_iff_right inside]

theorem yields_two (inside : parent ∈ tree.places) :
    (ofKind kind [first, second]).Yields parent entries ↔ parent.node.kind = kind ∧
      ∃ earlier later, tree.Child parent earlier ∧ tree.Child parent later ∧
        earlier.index < later.index ∧ ∃ here there,
          first.YieldsAmong parent.children earlier here ∧
            second.YieldsAmong parent.children later there ∧ entries = here ++ there := by
  simp only [Pattern.yields_two, sublist_children_iff inside, and_assoc]

theorem yields_naming (inside : parent ∈ tree.places) :
    (ofKind kind [(ofKind nameKind []).inField field |>.captured label]).Yields parent entries ↔
      ∃ child, tree.Holds kind field nameKind parent child ∧ entries = [(label, child.node)] := by
  simp only [yields_one inside, yieldsAmong_leaf]
  constructor
  · rintro ⟨known, child, below, held, named, rfl⟩
    exact ⟨child, ⟨below, known, held, named⟩, rfl⟩
  · rintro ⟨child, ⟨below, known, held, named⟩, rfl⟩
    exact ⟨known, child, below, held, named, rfl⟩

theorem yields_holding (inside : parent ∈ tree.places) :
    ((ofKind kind [(ofKind nameKind []).inField field |>.captured label]).captured whole).Yields
        parent entries ↔
      ∃ child, tree.Holds kind field nameKind parent child ∧
        entries = [(whole, parent.node), (label, child.node)] := by
  rw [yields_captured rfl]
  constructor
  · rintro ⟨_, below, rfl⟩
    obtain ⟨child, holds, rfl⟩ := (yields_naming inside).1 below
    exact ⟨child, holds, rfl⟩
  · rintro ⟨child, holds, rfl⟩
    exact ⟨_, (yields_naming inside).2 ⟨child, holds, rfl⟩, rfl⟩

/-- What stands directly in the body of a type. The name of the type stands before its body, as it
does wherever a grammar made the tree. -/
def Encloses (tree : Tree) (kind nameKind bodyKind : String) (owner inner : Place) : Prop :=
  ∃ outer body, tree.Holds kind "name" nameKind outer owner ∧
    tree.Holds kind "body" bodyKind outer body ∧ owner.index < body.index ∧ tree.Child body inner

theorem Encloses.inside {owner inner : Place}
    (encloses : tree.Encloses kind nameKind bodyKind owner inner) : inner ∈ tree.places := by
  obtain ⟨_, _, _, _, _, child⟩ := encloses
  exact child.below

theorem exists_yields_around (anywhere : pattern.test.field = none) :
    (∃ outer ∈ tree.places, (ofKind kind [(ofKind nameKind []).inField "name" |>.captured label,
        (ofKind bodyKind [pattern]).inField "body"]).Yields outer entries) ↔
      ∃ owner inner below, tree.Encloses kind nameKind bodyKind owner inner ∧
        pattern.Yields inner below ∧ entries = (label, owner.node) :: below := by
  have asked {outer : Place} (inside : outer ∈ tree.places) :
      (ofKind kind [(ofKind nameKind []).inField "name" |>.captured label,
        (ofKind bodyKind [pattern]).inField "body"]).Yields outer entries ↔ _ := yields_two inside
  constructor
  · rintro ⟨outer, inside, yields⟩
    obtain ⟨known, owner, body, named, below, behind, _, there, here, held, rfl⟩ :=
      (asked inside).1 yields
    obtain ⟨owner_held, owner_kind, rfl⟩ := yieldsAmong_leaf.1 here
    obtain ⟨body_held, inner_yields⟩ := (yieldsAmong_inField rfl).1 held
    obtain ⟨body_kind, inner, child, yields⟩ := (yields_one below.below).1 inner_yields
    exact ⟨owner, inner, there, ⟨outer, body, ⟨named, known, owner_held, owner_kind⟩,
      ⟨below, known, body_held, body_kind⟩, behind, child⟩,
      (yieldsAmong_of_anywhere anywhere).1 yields, rfl⟩
  · rintro ⟨owner, inner, there, ⟨outer, body, named, holds, behind, child⟩, yields, rfl⟩
    have inside := named.isChild.above
    have inner_yields := (yields_one holds.isChild.below).2
      ⟨holds.childKind, inner, child, (yieldsAmong_of_anywhere anywhere).2 yields⟩
    exact ⟨outer, inside, (asked inside).2 ⟨named.kind, owner, body, named.isChild, holds.isChild,
      behind, _, there, yieldsAmong_leaf.2 ⟨named.field, named.childKind, rfl⟩,
      (yieldsAmong_inField rfl).2 ⟨holds.field, inner_yields⟩, rfl⟩⟩

def Single (asked : Node → Bool) (places : List Place) : Prop :=
  ∀ first ∈ places, ∀ second ∈ places,
    asked first.node = true → asked second.node = true → first = second

instance (asked : Node → Bool) (places : List Place) : Decidable (Single asked places) :=
  inferInstanceAs (Decidable (∀ first ∈ places, _))

theorem Single.unique {asked : Node → Bool} (single : Single asked parent.children)
    {first second : Place} (here : tree.Child parent first) (there : tree.Child parent second)
    (has : asked first.node = true) (also_has : asked second.node = true) : first = second :=
  single first (child_iff.1 here).2 second (child_iff.1 there).2 has also_has

def OneName (tree : Tree) (kind : String) : Prop :=
  ∀ place ∈ tree.places, place.node.kind = kind →
    Single (fun node => node.field = some "name") place.children

instance (tree : Tree) (kind : String) : Decidable (tree.OneName kind) :=
  inferInstanceAs (Decidable (∀ place ∈ tree.places, _))

theorem Holds.unique_parent {otherKind otherField otherChildKind childKind : String}
    {upper above child : Place} (first : tree.Holds kind field childKind upper child)
    (second : tree.Holds otherKind otherField otherChildKind above child) : upper = above :=
  first.isChild.unique second.isChild

theorem OneName.unique (one : tree.OneName kind) {first second : Place}
    (here : tree.Holds kind "name" nameKind parent first)
    (there : tree.Holds kind "name" bodyKind parent second) : first = second := by
  have single := one parent here.isChild.above here.kind
  exact single.unique here.isChild there.isChild (decide_eq_true here.field)
    (decide_eq_true there.field)

variable {otherKind otherNameKind otherBodyKind : String} {owner other inner : Place}

theorem Encloses.unique_outer (first : tree.Encloses kind nameKind bodyKind owner inner)
    (second : tree.Encloses otherKind otherNameKind otherBodyKind other inner) :
    kind = otherKind ∧ ∃ outer, tree.Holds kind "name" nameKind outer owner ∧
      tree.Holds kind "name" otherNameKind outer other := by
  obtain ⟨outer, body, named, holds, -, below⟩ := first
  obtain ⟨upper, block, also_named, also_holds, -, also_below⟩ := second
  obtain rfl := below.unique also_below
  obtain rfl := holds.unique_parent also_holds
  obtain rfl := holds.kind.symm.trans also_holds.kind
  exact ⟨rfl, outer, named, also_named⟩

theorem Encloses.unique (one : tree.OneName kind)
    (first : tree.Encloses kind nameKind bodyKind owner inner)
    (second : tree.Encloses otherKind otherNameKind otherBodyKind other inner) : owner = other := by
  obtain ⟨-, outer, named, also_named⟩ := first.unique_outer second
  exact one.unique named also_named

end Tree
end CodeNav.Syntax
