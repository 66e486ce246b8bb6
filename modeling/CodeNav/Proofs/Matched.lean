import Mathlib.Data.List.Forall2

/-! Lists that are matched item by item: each item has its partner, and the partners stand in an
order that follows from that of the items. -/
namespace CodeNav

variable {α β : Type} {related : α → β → Prop} {left : List α} {right : List β}

theorem exists_forall₂ (known : ∀ a ∈ left, ∃ b, related a b) :
    ∃ right, List.Forall₂ related left right := by
  induction left with
  | nil => exact ⟨[], .nil⟩
  | cons a rest ih =>
    obtain ⟨b, here⟩ := known a List.mem_cons_self
    obtain ⟨others, later⟩ := ih fun other member => known other (List.mem_cons_of_mem _ member)
    exact ⟨b :: others, .cons here later⟩

theorem exists_of_forall₂_right (matched : List.Forall₂ related left right) {b : β}
    (member : b ∈ right) : ∃ a ∈ left, related a b := by
  induction matched with
  | nil => cases member
  | cons here _ ih =>
    rcases List.mem_cons.1 member with rfl | later
    · exact ⟨_, List.mem_cons_self, here⟩
    · obtain ⟨a, inside, known⟩ := ih later
      exact ⟨a, List.mem_cons_of_mem _ inside, known⟩

theorem exists_of_forall₂_left (matched : List.Forall₂ related left right) {a : α}
    (member : a ∈ left) : ∃ b ∈ right, related a b :=
  exists_of_forall₂_right matched.flip member

theorem pairwise_of_forall₂ {before : α → α → Prop} {after : β → β → Prop}
    (matched : List.Forall₂ related left right) (ordered : left.Pairwise before)
    (carry : ∀ a b x y, related a x → related b y → before a b → after x y) :
    right.Pairwise after := by
  induction matched with
  | nil => exact .nil
  | cons here later ih =>
    rw [List.pairwise_cons] at ordered ⊢
    refine ⟨?_, ih ordered.2⟩
    intro y member
    obtain ⟨b, inside, there⟩ := exists_of_forall₂_right later member
    exact carry _ b _ y here there (ordered.1 b inside)

end CodeNav
