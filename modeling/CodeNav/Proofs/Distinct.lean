/-! Lists of which only the first of each kind is kept. What is kept stands in its old order, no two
of one kind, and for each item there is one of its kind. -/
namespace CodeNav

variable {α : Type}

theorem eraseDupsBy_sublist (same : α → α → Bool) (items : List α) :
    (items.eraseDupsBy same).Sublist items := by
  match items with
  | [] => exact .slnil
  | item :: rest =>
    rw [List.eraseDupsBy_cons]
    exact ((eraseDupsBy_sublist same _).trans List.filter_sublist).cons_cons _
termination_by items.length
decreasing_by exact Nat.lt_succ_of_le (List.length_filter_le _ _)

theorem pairwise_eraseDupsBy (same : α → α → Bool) (items : List α) :
    (items.eraseDupsBy same).Pairwise fun earlier later => same later earlier = false := by
  match items with
  | [] => exact .nil
  | item :: rest =>
    rw [List.eraseDupsBy_cons, List.pairwise_cons]
    refine ⟨?_, pairwise_eraseDupsBy same _⟩
    intro other member
    have kept := (eraseDupsBy_sublist same _).subset member
    exact of_decide_eq_true (List.mem_filter.1 kept).2
termination_by items.length
decreasing_by exact Nat.lt_succ_of_le (List.length_filter_le _ _)

theorem exists_mem_eraseDupsBy (same : α → α → Bool) (refl : ∀ item, same item item = true)
    {items : List α} {item : α} (member : item ∈ items) :
    ∃ kept ∈ items.eraseDupsBy same, same item kept = true := by
  match items with
  | [] => cases member
  | first :: rest =>
    rw [List.eraseDupsBy_cons]
    by_cases alike : same item first = true
    · exact ⟨first, List.mem_cons_self, alike⟩
    · rcases List.mem_cons.1 member with here | later
      · exact absurd (here ▸ refl item) alike
      · have inside : item ∈ rest.filter fun other => same other first = false :=
          List.mem_filter.2 ⟨later, by simpa using alike⟩
        obtain ⟨kept, known, also⟩ := exists_mem_eraseDupsBy same refl inside
        exact ⟨kept, List.mem_cons_of_mem _ known, also⟩
termination_by items.length
decreasing_by exact Nat.lt_succ_of_le (List.length_filter_le _ _)

end CodeNav
