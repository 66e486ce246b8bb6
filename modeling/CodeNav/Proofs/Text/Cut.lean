import CodeNav.Text.Cut
import Mathlib.Data.List.Basic
import Mathlib.Data.List.Infix

/-! Cutting a text where it was put together. A mark is found again where it was put in just if it
occurs nowhere before, or for the last mark nowhere behind, also where it would share characters
with the one that was put in. -/
namespace CodeNav.Text

theorem cut?_append {first : Char} {others before : List Char} (absent : first ∉ before)
    (after : List Char) :
    cut? (first :: others) (before ++ ((first :: others) ++ after)) = some (before, after) := by
  induction before with
  | nil => simp [cut?]
  | cons c rest ih =>
    simp only [List.mem_cons, not_or] at absent
    have later := ih absent.2
    rw [List.cons_append, cut?, if_neg (by simp [absent.1]), later]
    rfl

theorem exists_cutLast?_append {first : Char} {others : List Char} (before after : List Char) :
    ∃ parts, cutLast? (first :: others) (before ++ ((first :: others) ++ after)) = some parts := by
  induction before with
  | nil =>
    rw [List.nil_append, List.cons_append, cutLast?]
    cases cutLast? (first :: others) (others ++ after) with
    | some parts => exact ⟨_, rfl⟩
    | none => simp
  | cons c rest ih =>
    obtain ⟨parts, found⟩ := ih
    exact ⟨(c :: parts.1, parts.2), by rw [List.cons_append, cutLast?, found]⟩

theorem append_cons_inj {mark : Char} {first second rest others : List Char}
    (absent : mark ∉ first) (missing : mark ∉ second)
    (same : first ++ mark :: rest = second ++ mark :: others) : first = second ∧ rest = others := by
  induction first generalizing second with
  | nil =>
    cases second with
    | nil => exact ⟨rfl, (List.cons.inj same).2⟩
    | cons c tail => exact absurd ((List.cons.inj same).1 ▸ List.mem_cons_self) missing
  | cons c tail ih =>
    cases second with
    | nil => exact absurd ((List.cons.inj same).1 ▸ List.mem_cons_self) absent
    | cons d more =>
      obtain ⟨rfl, tails⟩ := List.cons.inj same
      rw [List.mem_cons, not_or] at absent missing
      obtain ⟨rfl, rfl⟩ := ih absent.2 missing.2 tails
      exact ⟨rfl, rfl⟩

/-- Here the last marks stand in the same place, and nothing is asked of what stands before. -/
theorem append_cons_inj_last {mark : Char} {first second rest others : List Char}
    (absent : mark ∉ rest) (missing : mark ∉ others)
    (same : first ++ mark :: rest = second ++ mark :: others) : first = second ∧ rest = others := by
  have turned : rest.reverse ++ mark :: first.reverse =
      others.reverse ++ mark :: second.reverse := by
    simpa using congrArg List.reverse same
  obtain ⟨after, before⟩ := append_cons_inj (by simpa using absent) (by simpa using missing) turned
  exact ⟨List.reverse_inj.1 before, List.reverse_inj.1 after⟩

variable {mark : List Char}

theorem cut?_append_iff (marked : mark ≠ []) (before after : List Char) :
    cut? mark (before ++ (mark ++ after)) = some (before, after) ↔
      ¬ mark <:+: before ++ mark.dropLast := by
  induction before with
  | nil =>
    obtain ⟨first, others, rfl⟩ := List.exists_cons_of_ne_nil marked
    have shorter : ¬ first :: others <:+: (first :: others).dropLast := by
      intro inside
      have length := inside.length_le
      rw [List.length_dropLast, List.length_cons] at length
      omega
    exact iff_of_true (cut?_append List.not_mem_nil after) shorter
  | cons c rest ih =>
    have clipped : c :: (rest ++ mark.dropLast) <+: c :: (rest ++ (mark ++ after)) := by
      rw [List.cons_prefix_cons, List.prefix_append_right_inj]
      exact ⟨rfl, (List.dropLast_prefix mark).trans (List.prefix_append mark after)⟩
    -- A mark that starts here ends before the last character of the one that was put in.
    have starts : mark.isPrefixOf (c :: (rest ++ (mark ++ after))) = true ↔
        mark <+: c :: (rest ++ mark.dropLast) := by
      rw [List.isPrefixOf_iff_prefix]
      constructor
      · intro here
        apply List.prefix_of_prefix_length_le here clipped
        rw [List.length_cons, List.length_append, List.length_dropLast]
        omega
      · intro here
        exact here.trans clipped
    rw [List.cons_append, List.cons_append, List.infix_cons_iff, not_or, ← ih, cut?]
    by_cases here : mark <+: c :: (rest ++ mark.dropLast)
    · rw [if_pos (starts.2 here)]
      simp [here]
    · rw [if_neg fun also => here (starts.1 also)]
      simp [here, Prod.ext_iff]

theorem cutLast?_eq_none (marked : mark ≠ []) {text : List Char} :
    cutLast? mark text = none ↔ ¬ mark <:+: text := by
  induction text with
  | nil => simp [cutLast?, marked]
  | cons c rest ih =>
    rw [List.infix_cons_iff, not_or, ← ih, ← List.isPrefixOf_iff_prefix, cutLast?]
    cases cutLast? mark rest with
    | some parts => simp
    | none => simp

theorem cutLast?_append_iff (marked : mark ≠ []) (before after : List Char) :
    cutLast? mark (before ++ (mark ++ after)) = some (before, after) ↔
      ¬ mark <:+: mark.tail ++ after := by
  obtain ⟨first, others, rfl⟩ := List.exists_cons_of_ne_nil marked
  rw [List.tail_cons, ← cutLast?_eq_none marked]
  induction before with
  | nil =>
    rw [List.nil_append, List.cons_append, cutLast?]
    cases cutLast? (first :: others) (others ++ after) with
    | some parts => simp
    | none => simp
  | cons c rest ih =>
    obtain ⟨parts, found⟩ : ∃ parts, cutLast? (first :: others)
        (rest ++ ((first :: others) ++ after)) = some parts := exists_cutLast?_append rest after
    rw [List.cons_append, cutLast?, ← ih, found]
    simp [Prod.ext_iff]

theorem cut?_eq_some_iff (marked : mark ≠ []) {text before after : List Char} :
    cut? mark text = some (before, after) ↔
      text = before ++ (mark ++ after) ∧ ¬ mark <:+: before ++ mark.dropLast := by
  constructor
  · intro found
    have whole := cut?_eq_some found
    rw [List.append_assoc] at whole
    rw [whole, cut?_append_iff marked] at found
    exact ⟨whole, found⟩
  · rintro ⟨rfl, absent⟩
    exact (cut?_append_iff marked before after).2 absent

theorem cutLast?_eq_some_iff (marked : mark ≠ []) {text before after : List Char} :
    cutLast? mark text = some (before, after) ↔
      text = before ++ (mark ++ after) ∧ ¬ mark <:+: mark.tail ++ after := by
  constructor
  · intro found
    have whole := cutLast?_eq_some found
    rw [List.append_assoc] at whole
    rw [whole, cutLast?_append_iff marked] at found
    exact ⟨whole, found⟩
  · rintro ⟨rfl, absent⟩
    exact (cutLast?_append_iff marked before after).2 absent

/-- The first mark stands no later than any other, so what is behind any mark is behind it too. -/
theorem exists_cut?_append (marked : mark ≠ []) (before after : List Char) :
    ∃ first rest, cut? mark (before ++ (mark ++ after)) = some (first, rest) ∧ after <:+ rest := by
  induction before with
  | nil =>
    obtain ⟨c, others, rfl⟩ := List.exists_cons_of_ne_nil marked
    exact ⟨[], after, cut?_append List.not_mem_nil after, List.suffix_rfl⟩
  | cons c tail ih =>
    obtain ⟨first, rest, found, behind⟩ := ih
    rw [List.cons_append, cut?, found]
    split
    · -- A mark at the front takes no more than there is before `after`.
      refine ⟨[], _, rfl, ?_⟩
      rw [← List.cons_append, ← List.append_assoc, List.drop_append_of_le_length (by simp; omega)]
      exact List.suffix_append _ after
    · exact ⟨c :: first, rest, rfl, behind⟩

theorem cutLast?_singleton {c : Char} {text before after : List Char} :
    cutLast? [c] text = some (before, after) ↔ text = before ++ c :: after ∧ c ∉ after := by
  have behind : cutLast? [c] (before ++ ([c] ++ after)) = some (before, after) ↔ c ∉ after := by
    rw [cutLast?_append_iff (List.cons_ne_nil c []), List.tail_cons, List.nil_append,
      List.singleton_infix_iff]
  constructor
  · intro found
    have whole := cutLast?_eq_some found
    rw [List.append_assoc] at whole
    rw [whole, behind] at found
    exact ⟨whole, found⟩
  · rintro ⟨rfl, absent⟩
    exact behind.2 absent

end CodeNav.Text
