import CodeNav.Proofs.Syntax.Places
import Mathlib.Data.List.Pairwise

/-! Children as a relation between places. A place has one parent, and the children of a place stand
in document order, so one of them is taken after another just if it stands behind it. -/
namespace CodeNav.Syntax

theorem sublist_pair_iff {α : Type} {number : α → Nat} {items : List α}
    (ordered : items.Pairwise fun a b => number a < number b) {first second : α} :
    [first, second].Sublist items ↔
      first ∈ items ∧ second ∈ items ∧ number first < number second := by
  constructor
  · intro below
    have pair := ordered.sublist below
    rw [List.pairwise_pair] at pair
    exact ⟨below.subset List.mem_cons_self,
      below.subset (List.mem_cons_of_mem _ List.mem_cons_self), pair⟩
  · rintro ⟨inside, also_inside, before⟩
    induction ordered with
    | nil => cases inside
    | @cons item rest behind _ ih =>
      rcases List.mem_cons.1 inside with rfl | later
      · rcases List.mem_cons.1 also_inside with rfl | after
        · exact absurd before (Nat.lt_irrefl _)
        · exact (List.singleton_sublist.2 after).cons_cons _
      · rcases List.mem_cons.1 also_inside with rfl | after
        · exact absurd before (Nat.lt_asymm (behind first later))
        · exact (ih later after).cons _

theorem childrenFrom_sublist (depth : Nat) (bound : Option Nat) (index : Nat)
    (nodes : List Node) :
    (childrenFrom depth bound index nodes).Sublist (placesFrom index nodes) := by
  induction nodes generalizing bound index with
  | nil => exact .slnil
  | cons node rest ih =>
    rw [childrenFrom, placesFrom]
    split
    · exact List.nil_sublist _
    · split
      · exact (ih _ _).cons_cons _
      · exact (ih _ _).cons _

theorem Place.pairwise_children (place : Place) :
    place.children.Pairwise fun a b => a.index < b.index :=
  (pairwise_placesFrom _ _).sublist (childrenFrom_sublist _ _ _ _)

namespace Tree

variable {tree : Tree} {parent other child : Place}

theorem IsParent.unique {upper above below : Nat} (first : tree.IsParent upper below)
    (second : tree.IsParent above below) : upper = above := by
  obtain ⟨before, node, inner, node_at, inner_at, deeper, between⟩ := first
  obtain ⟨also_before, another, same, another_at, same_at, also_deeper, also_between⟩ := second
  rw [inner_at, Option.some.injEq] at same_at
  subst same_at
  -- Of two nodes that are shallower the later one hides the earlier.
  obtain less | rfl | more := Nat.lt_trichotomy upper above
  · have hidden := between above another less also_before another_at
    omega
  · rfl
  · have hidden := also_between upper node more before node_at
    omega

theorem eq_of_index (inside : parent ∈ tree.places) (also_inside : other ∈ tree.places)
    (same : parent.index = other.index) : parent = other := by
  obtain ⟨here, after⟩ := mem_places.1 inside
  obtain ⟨there, behind⟩ := mem_places.1 also_inside
  rw [← same] at there behind
  cases parent
  cases other
  simp_all

structure Child (tree : Tree) (parent child : Place) : Prop where
  above : parent ∈ tree.places
  below : child ∈ tree.places
  isParent : tree.IsParent parent.index child.index

theorem child_iff : tree.Child parent child ↔ parent ∈ tree.places ∧ child ∈ parent.children := by
  constructor
  · rintro ⟨above, below, is_parent⟩
    exact ⟨above, (mem_children above).2 ⟨below, is_parent⟩⟩
  · rintro ⟨above, member⟩
    obtain ⟨below, is_parent⟩ := (mem_children above).1 member
    exact ⟨above, below, is_parent⟩

instance (tree : Tree) (parent child : Place) : Decidable (tree.Child parent child) :=
  decidable_of_iff' _ child_iff

theorem Child.unique (first : tree.Child parent child) (second : tree.Child other child) :
    parent = other :=
  eq_of_index first.above second.above (first.isParent.unique second.isParent)

/-- A node that is shallower than a later one is the parent of it, or stands before the parent. -/
theorem exists_isParent {earlier later : Nat} {above below : Node} (before : earlier < later)
    (above_at : tree.nodes[earlier]? = some above) (below_at : tree.nodes[later]? = some below)
    (deeper : above.depth < below.depth) :
    ∃ upper, earlier ≤ upper ∧ tree.IsParent upper later := by
  by_cases nearest : ∀ between node, earlier < between → between < later →
      tree.nodes[between]? = some node → below.depth ≤ node.depth
  · exact ⟨earlier, Nat.le_refl _, before, above, below, above_at, below_at, deeper, nearest⟩
  · simp only [not_forall, Nat.not_le] at nearest
    obtain ⟨between, node, behind, inside, node_at, shallower⟩ := nearest
    obtain ⟨upper, upTo, is_parent⟩ := exists_isParent inside node_at below_at shallower
    exact ⟨upper, by omega, is_parent⟩
termination_by later - earlier

/-- What comes behind a node and is deeper, as is everything in between, stands below it. -/
theorem above_of_deeper {top bottom : Nat} {outer inner : Node} (before : top < bottom)
    (outer_at : tree.nodes[top]? = some outer) (inner_at : tree.nodes[bottom]? = some inner)
    (deeper : ∀ between node, top < between → between ≤ bottom →
      tree.nodes[between]? = some node → outer.depth < node.depth) : tree.Above top bottom := by
  obtain ⟨upper, upTo, is_parent⟩ := exists_isParent before outer_at inner_at
    (deeper bottom inner before (Nat.le_refl _) inner_at)
  obtain rfl | behind := Nat.eq_or_lt_of_le upTo
  · exact .parent is_parent
  · have inside := is_parent.1
    obtain ⟨-, middle, -, middle_at, -⟩ := id is_parent
    refine .step (above_of_deeper behind outer_at middle_at ?_) is_parent
    intro between node after reached
    exact deeper between node after (by omega)
termination_by bottom

/-- What stands between a place and one of its children, or is the child, stands below the place. -/
theorem Child.above_of_le (known : tree.Child parent child) (inside : other ∈ tree.places)
    (behind : parent.index < other.index) (upTo : other.index ≤ child.index) :
    tree.Above parent.index other.index := by
  obtain ⟨-, above, below, above_at, below_at, deeper, between⟩ := known.isParent
  refine above_of_deeper behind above_at (mem_places.1 inside).1 ?_
  intro number node after reached node_at
  obtain same | earlier := Nat.eq_or_lt_of_le (Nat.le_trans reached upTo)
  · rw [same, below_at, Option.some.injEq] at node_at
    exact node_at ▸ deeper
  · exact Nat.lt_of_lt_of_le deeper (between number node after earlier node_at)

def Flat (tree : Tree) (kind : String) : Prop :=
  ∀ outer ∈ tree.places, ∀ inner ∈ tree.places, outer.node.kind = kind → inner.node.kind = kind →
    ¬ tree.Above outer.index inner.index

theorem Above.depth_lt {top bottom : Nat} {outer inner : Node} (above : tree.Above top bottom)
    (outer_at : tree.nodes[top]? = some outer) (inner_at : tree.nodes[bottom]? = some inner) :
    outer.depth < inner.depth := by
  have deeper {upper lower : Nat} {parent child : Node} (is_parent : tree.IsParent upper lower)
      (parent_at : tree.nodes[upper]? = some parent) (child_at : tree.nodes[lower]? = some child) :
      parent.depth < child.depth := by
    obtain ⟨-, _, _, also_parent_at, also_child_at, less, -⟩ := is_parent
    rw [parent_at, Option.some.injEq] at also_parent_at
    rw [child_at, Option.some.injEq] at also_child_at
    rwa [also_parent_at, also_child_at]
  induction above generalizing inner with
  | parent is_parent => exact deeper is_parent outer_at inner_at
  | step _ is_parent ih =>
    obtain ⟨-, middle, -, middle_at, -⟩ := id is_parent
    exact Nat.lt_trans (ih middle_at) (deeper is_parent middle_at inner_at)

theorem flat_of_depth {kind : String} (depth : Nat)
    (level : ∀ place ∈ tree.places, place.node.kind = kind → place.node.depth = depth) :
    tree.Flat kind := by
  intro outer inside inner also_inside here there above
  have less := above.depth_lt (mem_places.1 inside).1 (mem_places.1 also_inside).1
  rw [level outer inside here, level inner also_inside there] at less
  exact Nat.lt_irrefl _ less

theorem sublist_children_iff (inside : parent ∈ tree.places) {first second : Place} :
    [first, second].Sublist parent.children ↔
      tree.Child parent first ∧ tree.Child parent second ∧ first.index < second.index := by
  rw [sublist_pair_iff parent.pairwise_children, child_iff, child_iff, and_iff_right inside,
    and_iff_right inside]

structure Holds (tree : Tree) (kind field childKind : String) (parent child : Place) : Prop where
  isChild : tree.Child parent child
  kind : parent.node.kind = kind
  field : child.node.field = some field
  childKind : child.node.kind = childKind

def FirstIn (tree : Tree) (field : String) (parent child : Place) : Prop :=
  ∀ sibling, tree.Child parent sibling → sibling.node.field = some field →
    child.index ≤ sibling.index

theorem firstIn_iff {field : String} (known : tree.Child parent child)
    (held : child.node.field = some field) :
    ((parent.children.find? fun sibling => sibling.node.field = some field).all
      (·.index = child.index) = true) ↔ tree.FirstIn field parent child := by
  obtain ⟨inside, member⟩ := child_iff.1 known
  cases found : parent.children.find? fun sibling => sibling.node.field = some field with
  | none =>
    have absent := List.find?_eq_none.1 found child member
    simp [held] at absent
  | some first =>
    obtain ⟨first_held, before, after, split_at, none_before⟩ :=
      List.find?_eq_some_iff_append.1 found
    have ordered := parent.pairwise_children
    rw [split_at, List.pairwise_append, List.pairwise_cons] at ordered
    have least (sibling : Place) (listed : sibling ∈ parent.children)
        (also_held : sibling.node.field = some field) : first.index ≤ sibling.index := by
      rw [split_at, List.mem_append, List.mem_cons] at listed
      obtain early | rfl | late := listed
      · have unheld := none_before sibling early
        simp [also_held] at unheld
      · exact Nat.le_refl _
      · exact Nat.le_of_lt (ordered.2.1.1 sibling late)
    have first_member := List.mem_of_find?_eq_some found
    rw [Option.all_some, decide_eq_true_eq]
    constructor
    · intro same sibling listed also_held
      rw [← same]
      exact least sibling (child_iff.1 listed).2 also_held
    · intro upTo
      exact Nat.le_antisymm (least child member held)
        (upTo first (child_iff.2 ⟨inside, first_member⟩) (of_decide_eq_true first_held))

end Tree
end CodeNav.Syntax
