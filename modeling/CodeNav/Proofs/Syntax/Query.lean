import CodeNav.Syntax.Query

/-! The matches of a query come in the order of their keys, which is total. -/
namespace CodeNav.Syntax.Query

theorem keyUpTo_trans {a b c : List Nat} (first : keyUpTo a b = true)
    (second : keyUpTo b c = true) : keyUpTo a c = true := by
  induction a generalizing b c with
  | nil => rfl
  | cons n rest ih =>
    cases b with
    | nil => cases first
    | cons m others =>
      cases c with
      | nil => cases second
      | cons k more =>
        simp only [keyUpTo, Bool.or_eq_true, decide_eq_true_eq, Bool.and_eq_true, beq_iff_eq]
          at first second ⊢
        obtain less | ⟨rfl, upTo⟩ := first
        · obtain more_less | ⟨rfl, _⟩ := second
          · exact .inl (Nat.lt_trans less more_less)
          · exact .inl less
        · obtain more_less | ⟨rfl, next⟩ := second
          · exact .inl more_less
          · exact .inr ⟨rfl, ih upTo next⟩

theorem keyUpTo_total (a b : List Nat) : (keyUpTo a b || keyUpTo b a) = true := by
  induction a generalizing b with
  | nil => rfl
  | cons n rest ih =>
    cases b with
    | nil => rfl
    | cons m others =>
      have next := ih others
      simp only [keyUpTo, Bool.or_eq_true, decide_eq_true_eq, Bool.and_eq_true, beq_iff_eq]
        at next ⊢
      obtain less | rfl | more := Nat.lt_trichotomy n m
      · exact .inl (.inl less)
      · obtain here | there := next
        · exact .inl (.inr ⟨rfl, here⟩)
        · exact .inr (.inr ⟨rfl, there⟩)
      · exact .inr (.inl more)

theorem last_le_of_keyUpTo {first second : Ranked}
    (upTo : keyUpTo first.key second.key = true) : first.found.last ≤ second.found.last := by
  -- The last node comes first in a key, whatever else the match needs.
  have head (ranked : Ranked) : ∃ others, ranked.key = ranked.found.last :: others := by
    obtain ⟨rule, nodes, captures⟩ := ranked
    cases nodes with
    | nil => exact ⟨_, rfl⟩
    | cons top others => exact ⟨_, rfl⟩
  obtain ⟨others, here⟩ := head first
  obtain ⟨more, there⟩ := head second
  rw [here, there] at upTo
  simp only [keyUpTo, Bool.or_eq_true, decide_eq_true_eq, Bool.and_eq_true, beq_iff_eq] at upTo
  omega

/-- A match does not come before those that are completed earlier in the document. -/
theorem pairwise_run (query : Query) (tree : Tree) :
    (query.run tree).Pairwise fun first second => first.last ≤ second.last := by
  rw [run, List.pairwise_map]
  refine (List.pairwise_mergeSort ?_ ?_ _).imp last_le_of_keyUpTo
  · intro a b c
    exact keyUpTo_trans
  · intro a b
    exact keyUpTo_total a.key b.key

end CodeNav.Syntax.Query
