import CodeNav.Index.Read
import CodeNav.Proofs.Source.Position
import Mathlib.Data.List.Sort
import Mathlib.Data.String.Basic

/-! Sorting texts by code points, and a file's definitions by place. Both orders are total, so the
sorted list depends on what is in a list only, not on the order in which it came. -/
namespace CodeNav

theorem mergeSort_eq_insertionSort {α : Type} {le : α → α → Bool}
    (trans : ∀ a b c, le a b = true → le b c = true → le a c = true)
    (total : ∀ a b, (le a b || le b a) = true) (items : List α) :
    items.mergeSort le = items.insertionSort fun a b => le a b = true := by
  induction items with
  | nil => rw [List.mergeSort_nil, List.insertionSort_nil]
  | cons item rest ih =>
    obtain ⟨before, after, all, others, smaller⟩ := List.mergeSort_cons trans total item rest
    have sorted := List.pairwise_mergeSort trans total (item :: rest)
    rw [all, List.pairwise_append, List.pairwise_cons] at sorted
    -- Both put the item behind those of the rest that stand strictly before it.
    have kept : ∀ other ∈ before, decide (¬ le item other = true) = true := by
      intro other member
      simpa using smaller other member
    rw [List.insertionSort_cons, ← ih, others, all, List.orderedInsert_eq_take_drop,
      List.takeWhile_append_of_pos kept, List.dropWhile_append_of_pos kept]
    cases after with
    | nil => simp
    | cons next more =>
      have behind := sorted.2.1.1 next List.mem_cons_self
      rw [List.takeWhile_cons_of_neg (by simp [behind]),
        List.dropWhile_cons_of_neg (by simp [behind]), List.append_nil]

theorem textUpTo_trans (a b c : String) (first : decide (a ≤ b) = true)
    (second : decide (b ≤ c) = true) : decide (a ≤ c) = true := by
  rw [decide_eq_true_eq] at first second ⊢
  exact le_trans first second

theorem textUpTo_total (a b : String) : (decide (a ≤ b) || decide (b ≤ a)) = true := by
  rw [Bool.or_eq_true, decide_eq_true_eq, decide_eq_true_eq]
  exact le_total a b

theorem sortTexts_eq_insertionSort (texts : List String) :
    sortTexts texts = texts.insertionSort fun a b => decide (a ≤ b) = true :=
  mergeSort_eq_insertionSort textUpTo_trans textUpTo_total texts

theorem pairwise_sortTexts (texts : List String) : (sortTexts texts).Pairwise (· ≤ ·) :=
  (List.pairwise_mergeSort textUpTo_trans textUpTo_total texts).imp of_decide_eq_true

theorem mem_sortTexts {text : String} {texts : List String} :
    text ∈ sortTexts texts ↔ text ∈ texts := List.mem_mergeSort

theorem sortTexts_eq_of_perm {left right : List String} (perm : left.Perm right) :
    sortTexts left = sortTexts right := by
  have perm_sorted : (sortTexts left).Perm (sortTexts right) :=
    (List.mergeSort_perm left _).trans (perm.trans (List.mergeSort_perm right _).symm)
  refine List.Perm.eq_of_pairwise ?_ (pairwise_sortTexts left) (pairwise_sortTexts right)
    perm_sorted
  intro a b _ _ first second
  exact le_antisymm first second

theorem pairwise_lt_sortTexts {texts : List String} (distinct : texts.Nodup) :
    (sortTexts texts).Pairwise (· < ·) := by
  have apart : (sortTexts texts).Nodup := (List.mergeSort_perm texts _).nodup_iff.2 distinct
  exact (pairwise_sortTexts texts).imp₂ (fun _ _ before other => lt_of_le_of_ne before other) apart

namespace Index

theorem placedBefore_iff {a b : Identity × Definition} : placedBefore a b = true ↔
    a.2.range.start < b.2.range.start ∨ a.2.range.start = b.2.range.start ∧ a.1 ≤ b.1 := by
  rw [placedBefore]
  by_cases same : a.2.range.start = b.2.range.start
  · simp [same, Position.lt_irrefl]
  · simp [same]

theorem placedBefore_refl (a : Identity × Definition) : placedBefore a a = true :=
  placedBefore_iff.2 (.inr ⟨rfl, le_refl _⟩)

theorem placedBefore_antisymm {a b : Identity × Definition} (first : placedBefore a b = true)
    (second : placedBefore b a = true) : a.1 = b.1 := by
  rw [placedBefore_iff] at first second
  obtain before | ⟨same, least⟩ := first
  · obtain after | ⟨same, _⟩ := second
    · exact absurd (Position.lt_trans before after) (Position.lt_irrefl _)
    · rw [same] at before
      exact absurd before (Position.lt_irrefl _)
  · obtain after | ⟨_, most⟩ := second
    · rw [same] at after
      exact absurd after (Position.lt_irrefl _)
    · exact le_antisymm least most

theorem placedBefore_trans (a b c : Identity × Definition) (first : placedBefore a b = true)
    (second : placedBefore b c = true) : placedBefore a c = true := by
  rw [placedBefore_iff] at first second ⊢
  obtain before | ⟨same, least⟩ := first
  · obtain later | ⟨same, _⟩ := second
    · exact .inl (Position.lt_trans before later)
    · exact .inl (same ▸ before)
  · obtain later | ⟨again, next⟩ := second
    · exact .inl (same ▸ later)
    · exact .inr ⟨same.trans again, le_trans least next⟩

theorem placedBefore_total (a b : Identity × Definition) :
    (placedBefore a b || placedBefore b a) = true := by
  rw [Bool.or_eq_true, placedBefore_iff, placedBefore_iff]
  by_cases same : a.2.range.start = b.2.range.start
  · obtain least | least := le_total a.1 b.1
    · exact .inl (.inr ⟨same, least⟩)
    · exact .inr (.inr ⟨same.symm, least⟩)
  · obtain before | before := Position.lt_or_lt_of_ne same
    · exact .inl (.inl before)
    · exact .inr (.inl before)

theorem pairwise_placedBefore (pairs : List (Identity × Definition)) :
    (pairs.mergeSort placedBefore).Pairwise fun a b => placedBefore a b = true :=
  List.pairwise_mergeSort placedBefore_trans placedBefore_total pairs

end Index
end CodeNav
