import CodeNav.Proofs.Source.Position
import CodeNav.Workspace
import Mathlib.Data.List.Sort
import Mathlib.Data.String.Basic

/-! The listing order of definitions. Sorting keeps those that are listed alike as they stood, so a
listing is known from the order within each group of them. Such a group lies in one file. -/
namespace CodeNav

section Ties

variable {α : Type} {le : α → α → Bool}

def tied (le : α → α → Bool) (a b : α) : Bool := le a b && le b a

theorem mem_of_ties {left right : List α} {a : α} (own : tied le a a = true)
    (same : left.filter (tied le a) = right.filter (tied le a)) (member : a ∈ left) :
    a ∈ right := by
  have kept : a ∈ right.filter (tied le a) := same ▸ List.mem_filter.2 ⟨member, own⟩
  exact (List.mem_filter.1 kept).1

theorem head_le {a b : α} {rest : List α} (self : le a a = true)
    (sorted : (a :: rest).Pairwise fun a b => le a b = true) (member : b ∈ a :: rest) :
    le a b = true := by
  rcases List.mem_cons.1 member with rfl | later
  · exact self
  · exact (List.pairwise_cons.1 sorted).1 b later

theorem eq_of_ties {left right : List α} (total : ∀ a b, (le a b || le b a) = true)
    (sorted : left.Pairwise fun a b => le a b = true)
    (sorted_right : right.Pairwise fun a b => le a b = true)
    (same : ∀ a, left.filter (tied le a) = right.filter (tied le a)) : left = right := by
  have self (a : α) : le a a = true := by simpa using total a a
  have own (a : α) : tied le a a = true := by simp [tied, self]
  induction left generalizing right with
  | nil =>
    cases right with
    | nil => rfl
    | cons b rest => cases mem_of_ties (own b) (same b).symm List.mem_cons_self
  | cons a rest ih =>
    have mem_right : a ∈ right := mem_of_ties (own a) (same a) List.mem_cons_self
    cases right with
    | nil => cases mem_right
    | cons b others =>
      have mem_left : b ∈ a :: rest := mem_of_ties (own b) (same b).symm List.mem_cons_self
      have before : le a b = true := head_le (self a) sorted mem_left
      have behind : le b a = true := head_le (self b) sorted_right mem_right
      -- The first ones are tied, so they are the first of one group.
      have first := same a
      rw [List.filter_cons_of_pos (own a), List.filter_cons_of_pos (by simp [tied, before, behind])]
        at first
      obtain ⟨rfl, _⟩ := List.cons.inj first
      refine congrArg (a :: ·) (ih sorted.of_cons sorted_right.of_cons ?_)
      intro c
      have all := same c
      rw [List.filter_cons, List.filter_cons] at all
      split at all
      · exact (List.cons.inj all).2
      · exact all

theorem filter_tied_mergeSort (trans : ∀ a b c, le a b = true → le b c = true → le a c = true)
    (total : ∀ a b, (le a b || le b a) = true) (items : List α) (a : α) :
    (items.mergeSort le).filter (tied le a) = items.filter (tied le a) := by
  have alike : (items.filter (tied le a)).Pairwise fun b c => le b c = true := by
    apply List.pairwise_of_forall_mem_list
    intro b first c second
    have tied_b := (List.mem_filter.1 first).2
    have tied_c := (List.mem_filter.1 second).2
    simp only [tied, Bool.and_eq_true] at tied_b tied_c
    exact trans b a c tied_b.2 tied_c.1
  have inside := (List.sublist_mergeSort trans total alike List.filter_sublist).filter (tied le a)
  simp only [List.filter_filter, Bool.and_self] at inside
  have size := ((List.mergeSort_perm items le).filter (tied le a)).length_eq
  exact (inside.eq_of_length size.symm).symm

/-- A stable sort depends on the order within each group of tied items only. -/
theorem mergeSort_eq_of_ties (trans : ∀ a b c, le a b = true → le b c = true → le a c = true)
    (total : ∀ a b, (le a b || le b a) = true) {left right : List α}
    (same : ∀ a, left.filter (tied le a) = right.filter (tied le a)) :
    left.mergeSort le = right.mergeSort le := by
  apply eq_of_ties total (List.pairwise_mergeSort trans total left)
    (List.pairwise_mergeSort trans total right)
  intro a
  rw [filter_tied_mergeSort trans total, filter_tied_mergeSort trans total, same]

end Ties

section Keys

variable {α κ : Type} [LinearOrder κ] (key : α → κ) {before : α → α → Bool}

theorem trans_byKey (trans : ∀ a b c, before b a = false → before c b = false → before c a = false)
    (a b c : α) (first : (if key b ≠ key a then decide (key b < key a) else before b a) = false)
    (second : (if key c ≠ key b then decide (key c < key b) else before c b) = false) :
    (if key c ≠ key a then decide (key c < key a) else before c a) = false := by
  by_cases ab : key b = key a
  · by_cases bc : key c = key b
    · simp only [ab, bc, ne_eq, not_true, if_false] at first second ⊢
      exact trans a b c first second
    · have apart : key c ≠ key a := fun same => bc (same.trans ab.symm)
      simpa [ab, apart] using second
  · simp only [ne_eq, ab, not_false_eq_true, if_true, decide_eq_false_iff_not, not_lt] at first
    have less := lt_of_le_of_ne first (Ne.symm ab)
    by_cases bc : key c = key b
    · simp [bc, ab, first]
    · simp only [ne_eq, bc, not_false_eq_true, if_true, decide_eq_false_iff_not, not_lt] at second
      have later := lt_of_lt_of_le less second
      simp [later.ne', later.le]

theorem total_byKey (total : ∀ a b, before b a = false ∨ before a b = false) (a b : α) :
    (if key b ≠ key a then decide (key b < key a) else before b a) = false ∨
      (if key a ≠ key b then decide (key a < key b) else before a b) = false := by
  by_cases same : key b = key a
  · simpa [same] using total a b
  · rcases le_total (key a) (key b) with less | more
    · simp [same, less]
    · simp [Ne.symm same, more]

end Keys

namespace Definition

theorem listedBefore_trans (a b c : Definition) (first : b.listedBefore a = false)
    (second : c.listedBefore b = false) : c.listedBefore a = false := by
  have places (a b c : Definition) (first : decide (b.range.start < a.range.start) = false)
      (second : decide (c.range.start < b.range.start) = false) :
      decide (c.range.start < a.range.start) = false := by
    rw [decide_eq_false_iff_not, Position.not_lt] at first second ⊢
    exact Position.le_trans first second
  exact trans_byKey file (trans_byKey kind (trans_byKey name places)) a b c first second

theorem listedBefore_total (a b : Definition) :
    b.listedBefore a = false ∨ a.listedBefore b = false := by
  have places (a b : Definition) : decide (b.range.start < a.range.start) = false ∨
      decide (a.range.start < b.range.start) = false := by
    simp only [decide_eq_false_iff_not, Position.not_lt]
    exact Position.le_total _ _
  exact total_byKey file (total_byKey kind (total_byKey name places)) a b

theorem file_eq_of_listedBefore {a b : Definition} (first : a.listedBefore b = false)
    (second : b.listedBefore a = false) : a.file = b.file := by
  unfold listedBefore at first second
  by_contra apart
  simp only [ne_eq, apart, Ne.symm apart, not_false_eq_true, if_true, decide_eq_false_iff_not,
    not_lt] at first second
  exact apart (le_antisymm second first)

end Definition

/-- A listing depends on the order within each file only. -/
theorem Workspace.sortDefinitions_eq {left right : List Definition}
    (same : ∀ file, (left.filter fun definition => definition.file = file) =
      right.filter fun definition => definition.file = file) :
    sortDefinitions id left = sortDefinitions id right := by
  have trans (a b c : Definition) (first : (!b.listedBefore a) = true)
      (second : (!c.listedBefore b) = true) : (!c.listedBefore a) = true := by
    rw [Bool.not_eq_true'] at first second ⊢
    exact Definition.listedBefore_trans a b c first second
  have total (a b : Definition) : (!b.listedBefore a || !a.listedBefore b) = true := by
    rw [Bool.or_eq_true, Bool.not_eq_true', Bool.not_eq_true']
    exact Definition.listedBefore_total a b
  apply mergeSort_eq_of_ties trans total
  intro a
  have within (definition : Definition)
      (alike : tied (fun a b => !b.listedBefore a) a definition = true) :
      definition.file = a.file := by
    simp only [tied, Bool.and_eq_true, Bool.not_eq_true'] at alike
    exact Definition.file_eq_of_listedBefore alike.1 alike.2
  have narrowed (items : List Definition) :
      items.filter (tied (fun a b => !b.listedBefore a) a) =
        (items.filter fun definition => definition.file = a.file).filter
          (tied (fun a b => !b.listedBefore a) a) := by
    rw [List.filter_filter]
    apply List.filter_congr
    intro definition _
    by_cases alike : tied (fun a b => !b.listedBefore a) a definition = true
    · simp [alike, within definition alike]
    · simp [alike]
  rw [narrowed left, narrowed right, same]

end CodeNav
