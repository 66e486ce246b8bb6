import CodeNav.Syntax.Tree
import Mathlib.Data.List.Basic

/-! Places in a tree. A node's children are just the nodes of which it is the parent, whichever way
they are found, and in a nested tree all that stands below a node lies within its bytes. -/
namespace CodeNav.Syntax

theorem mem_placesFrom {index : Nat} {nodes : List Node} {place : Place} :
    place ∈ placesFrom index nodes ↔ index ≤ place.index ∧
      nodes[place.index - index]? = some place.node ∧
        place.after = nodes.drop (place.index - index + 1) := by
  induction nodes generalizing index with
  | nil => simp [placesFrom]
  | cons node rest ih =>
    rw [placesFrom, List.mem_cons, ih]
    constructor
    · rintro (rfl | ⟨behind, here, after⟩)
      · simp
      · have shift : place.index - index = place.index - (index + 1) + 1 := by omega
        rw [shift, List.getElem?_cons_succ, List.drop_succ_cons]
        exact ⟨by omega, here, after⟩
    · rintro ⟨upTo, here, after⟩
      obtain same | behind := Nat.eq_or_lt_of_le upTo
      · left
        obtain ⟨number, own, later⟩ := place
        dsimp only at same here after
        subst same
        simp only [Nat.sub_self, List.getElem?_cons_zero, Option.some.injEq] at here
        simp [here, after]
      · right
        have shift : place.index - index = place.index - (index + 1) + 1 := by omega
        rw [shift, List.getElem?_cons_succ] at here
        rw [shift, List.drop_succ_cons] at after
        exact ⟨behind, here, after⟩

theorem pairwise_placesFrom (index : Nat) (nodes : List Node) :
    (placesFrom index nodes).Pairwise fun a b => a.index < b.index := by
  induction nodes generalizing index with
  | nil => exact .nil
  | cons node rest ih =>
    rw [placesFrom, List.pairwise_cons]
    exact ⟨fun place member => (mem_placesFrom.1 member).1, ih _⟩

def Unshadowed (index : Nat) (nodes : List Node) (child : Place) : Prop :=
  ∀ earlier ∈ placesFrom index nodes, earlier.index < child.index →
    child.node.depth ≤ earlier.node.depth

theorem unshadowed_first (index : Nat) (node : Node) (rest : List Node) :
    Unshadowed index (node :: rest) ⟨index, node, rest⟩ := by
  intro earlier member before
  have upTo := (mem_placesFrom.1 member).1
  dsimp only at before
  omega

theorem unshadowed_cons {index : Nat} {node : Node} {rest : List Node} {child : Place}
    (behind : child ∈ placesFrom (index + 1) rest) :
    Unshadowed index (node :: rest) child ↔
      child.node.depth ≤ node.depth ∧ Unshadowed (index + 1) rest child := by
  have after : index < child.index := (mem_placesFrom.1 behind).1
  rw [Unshadowed, placesFrom, List.forall_mem_cons]
  exact and_congr_left fun _ => ⟨fun upper => upper after, fun upper _ => upper⟩

/-- The children are the nodes that are deeper than the parent and that nothing in between is
shallower than; the least depth so far bounds them. -/
theorem mem_childrenFrom {depth index : Nat} {bound : Option Nat} {nodes : List Node}
    {child : Place} :
    child ∈ childrenFrom depth bound index nodes ↔
      child ∈ placesFrom index nodes ∧ depth < child.node.depth ∧
        (bound.all (child.node.depth ≤ ·) = true) ∧ Unshadowed index nodes child := by
  induction nodes generalizing bound index with
  | nil => simp [childrenFrom, placesFrom]
  | cons node rest ih =>
    rw [childrenFrom, placesFrom, List.mem_cons]
    split
    · next closed =>
      -- A child behind this node would be no deeper than it, and so no deeper than the parent.
      constructor
      · intro none_left
        cases none_left
      · rintro ⟨rfl | behind, deeper, -, least⟩
        · exact absurd closed (Nat.not_le_of_lt deeper)
        · have upper := ((unshadowed_cons behind).1 least).1
          omega
    · next inner =>
      split
      · next bounded =>
        rw [List.mem_cons, ih]
        constructor
        · rintro (rfl | ⟨behind, deeper, upper, least⟩)
          · exact ⟨.inl rfl, Nat.lt_of_not_le inner, bounded, unshadowed_first index node rest⟩
          · have under : child.node.depth ≤ node.depth := by simpa using upper
            refine ⟨.inr behind, deeper, ?_, (unshadowed_cons behind).2 ⟨under, least⟩⟩
            rw [Option.all_eq_true] at bounded ⊢
            intro upTo known
            exact decide_eq_true (Nat.le_trans under (of_decide_eq_true (bounded upTo known)))
        · rintro ⟨here | behind, deeper, -, least⟩
          · exact .inl here
          · obtain ⟨under, later⟩ := (unshadowed_cons behind).1 least
            exact .inr ⟨behind, deeper, decide_eq_true under, later⟩
      · next unbounded =>
        rw [ih]
        constructor
        · rintro ⟨behind, deeper, upper, least⟩
          refine ⟨.inr behind, deeper, upper, (unshadowed_cons behind).2 ⟨?_, least⟩⟩
          cases bound with
          | none => exact absurd rfl unbounded
          | some upTo =>
            have under : child.node.depth ≤ upTo := by simpa using upper
            have above : upTo < node.depth := by simpa using unbounded
            omega
        · rintro ⟨rfl | behind, deeper, upper, least⟩
          · exact absurd upper unbounded
          · exact ⟨behind, deeper, upper, ((unshadowed_cons behind).1 least).2⟩

namespace Tree

variable {tree : Tree} {place child : Place}

theorem mem_places : place ∈ tree.places ↔
    tree.nodes[place.index]? = some place.node ∧
      place.after = tree.nodes.drop (place.index + 1) := by
  rw [places, mem_placesFrom]
  simp

theorem pairwise_places (tree : Tree) : tree.places.Pairwise fun a b => a.index < b.index :=
  pairwise_placesFrom 0 tree.nodes

theorem nodup_places (tree : Tree) : tree.places.Nodup := by
  apply (pairwise_places tree).imp
  rintro place _ before rfl
  exact Nat.lt_irrefl _ before

theorem exists_place {index : Nat} {node : Node} (here : tree.nodes[index]? = some node) :
    ∃ place ∈ tree.places, place.index = index ∧ place.node = node :=
  ⟨⟨index, node, tree.nodes.drop (index + 1)⟩, mem_places.2 ⟨here, rfl⟩, rfl, rfl⟩

theorem mem_nodes (inside : place ∈ tree.places) : place.node ∈ tree.nodes :=
  List.mem_of_getElem? (mem_places.1 inside).1

theorem mem_placesFrom_after (inside : place ∈ tree.places) :
    child ∈ placesFrom (place.index + 1) place.after ↔
      child ∈ tree.places ∧ place.index < child.index := by
  rw [mem_placesFrom, (mem_places.1 inside).2, mem_places, List.getElem?_drop, List.drop_drop]
  constructor
  · rintro ⟨behind, here, after⟩
    have number : place.index + 1 + (child.index - (place.index + 1)) = child.index := by omega
    rw [number] at here
    rw [← Nat.add_assoc, number] at after
    exact ⟨⟨here, after⟩, behind⟩
  · rintro ⟨⟨here, after⟩, behind⟩
    have number : place.index + 1 + (child.index - (place.index + 1)) = child.index := by omega
    rw [number, ← Nat.add_assoc, number]
    exact ⟨behind, here, after⟩

theorem mem_children (inside : place ∈ tree.places) :
    child ∈ place.children ↔ child ∈ tree.places ∧ tree.IsParent place.index child.index := by
  rw [Place.children, mem_childrenFrom, mem_placesFrom_after inside]
  have above := (mem_places.1 inside).1
  constructor
  · rintro ⟨⟨member, behind⟩, deeper, -, least⟩
    refine ⟨member, behind, place.node, child.node, above, (mem_places.1 member).1, deeper, ?_⟩
    intro between node after before here
    obtain ⟨earlier, known, rfl, rfl⟩ := exists_place here
    exact least earlier ((mem_placesFrom_after inside).2 ⟨known, after⟩) before
  · rintro ⟨member, behind, parent, below, parent_at, below_at, deeper, between⟩
    rw [above, Option.some.injEq] at parent_at
    rw [(mem_places.1 member).1, Option.some.injEq] at below_at
    subst parent_at below_at
    refine ⟨⟨member, behind⟩, deeper, rfl, ?_⟩
    intro earlier inner before
    obtain ⟨known, after⟩ := (mem_placesFrom_after inside).1 inner
    exact between earlier.index earlier.node after before (mem_places.1 known).1

theorem children_subset (inside : place ∈ tree.places) (member : child ∈ place.children) :
    child ∈ tree.places :=
  ((mem_children inside).1 member).1

theorem nested_iff : tree.Nested ↔ (∀ node ∈ tree.nodes, node.start ≤ node.stop) ∧
    ∀ place ∈ tree.places, ∀ child ∈ place.children,
      place.node.start ≤ child.node.start ∧ child.node.stop ≤ place.node.stop := by
  refine and_congr_right fun _ => ?_
  constructor
  · intro nested place inside child member
    obtain ⟨known, parent⟩ := (mem_children inside).1 member
    exact nested _ _ _ _ parent (mem_places.1 inside).1 (mem_places.1 known).1
  · intro nested parent child above below is_parent above_at below_at
    obtain ⟨place, inside, rfl, rfl⟩ := exists_place above_at
    obtain ⟨under, known, rfl, rfl⟩ := exists_place below_at
    exact nested place inside under ((mem_children inside).2 ⟨known, is_parent⟩)

instance (tree : Tree) : Decidable tree.Nested := decidable_of_iff' _ nested_iff

/-- In a nested tree whatever is below a node, over any number of levels, lies within it. -/
theorem Above.within (nested : tree.Nested) {top bottom : Nat} (above : tree.Above top bottom)
    {outer inner : Node} (outer_at : tree.nodes[top]? = some outer)
    (inner_at : tree.nodes[bottom]? = some inner) :
    outer.start ≤ inner.start ∧ inner.stop ≤ outer.stop := by
  induction above generalizing inner with
  | parent is_parent => exact nested.2 _ _ _ _ is_parent outer_at inner_at
  | step upper is_parent ih =>
    obtain ⟨-, middle, -, middle_at, -⟩ := id is_parent
    obtain ⟨starts, stops⟩ := ih middle_at
    obtain ⟨later, earlier⟩ := nested.2 _ _ _ _ is_parent middle_at inner_at
    exact ⟨Nat.le_trans starts later, Nat.le_trans earlier stops⟩

end Tree
end CodeNav.Syntax
