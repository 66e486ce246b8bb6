/-! Cutting a text at a separator: at its first or last place, or at every place of a single
character. The parts and the separator always make up the text again. -/
namespace CodeNav.Text

def cut? (mark : List Char) : List Char → Option (List Char × List Char)
  | [] => if mark.isEmpty then some ([], []) else none
  | c :: rest =>
    if mark.isPrefixOf (c :: rest) then some ([], (c :: rest).drop mark.length)
    else (cut? mark rest).map fun parts => (c :: parts.1, parts.2)

def cutLast? (mark : List Char) : List Char → Option (List Char × List Char)
  | [] => if mark.isEmpty then some ([], []) else none
  | c :: rest =>
    match cutLast? mark rest with
    | some (before, after) => some (c :: before, after)
    | none =>
      if mark.isPrefixOf (c :: rest) then some ([], (c :: rest).drop mark.length) else none

def fields (mark : Char) : List Char → List (List Char)
  | [] => [[]]
  | c :: rest =>
    if c = mark then [] :: fields mark rest
    else match fields mark rest with
      | [] => [[c]]
      | first :: others => (c :: first) :: others

def trimBoth (drop : Char → Bool) (text : List Char) : List Char :=
  ((text.dropWhile drop).reverse.dropWhile drop).reverse

def placeOf? {α : Type} [BEq α] (part : List α) : List α → Option Nat
  | [] => if part.isEmpty then some 0 else none
  | a :: rest =>
    if part.isPrefixOf (a :: rest) then some 0 else (placeOf? part rest).map (· + 1)

theorem cut?_eq_some {mark text before after : List Char}
    (h : cut? mark text = some (before, after)) : text = before ++ mark ++ after := by
  induction text generalizing before with
  | nil =>
    simp only [cut?, List.isEmpty_iff, Option.ite_none_right_eq_some, Option.some.injEq,
      Prod.mk.injEq] at h
    simp [h.1, ← h.2.1, ← h.2.2]
  | cons c rest ih =>
    simp only [cut?] at h
    split at h
    · next starts =>
      obtain ⟨tail, shape⟩ := List.isPrefixOf_iff_prefix.1 starts
      simp only [Option.some.injEq, Prod.mk.injEq] at h
      simp [← h.1, ← h.2, ← shape]
    · simp only [Option.map_eq_some_iff, Prod.exists, Prod.mk.injEq] at h
      obtain ⟨left, right, found, hleft, hright⟩ := h
      subst hleft hright
      simp [ih found]

theorem cutLast?_eq_some {mark text before after : List Char}
    (h : cutLast? mark text = some (before, after)) : text = before ++ mark ++ after := by
  induction text generalizing before after with
  | nil =>
    simp only [cutLast?, List.isEmpty_iff, Option.ite_none_right_eq_some, Option.some.injEq,
      Prod.mk.injEq] at h
    simp [h.1, ← h.2.1, ← h.2.2]
  | cons c rest ih =>
    simp only [cutLast?] at h
    split at h
    · next left right found =>
      simp only [Option.some.injEq, Prod.mk.injEq] at h
      simp [← h.1, ← h.2, ih found]
    · split at h
      · next starts =>
        obtain ⟨tail, shape⟩ := List.isPrefixOf_iff_prefix.1 starts
        simp only [Option.some.injEq, Prod.mk.injEq] at h
        simp [← h.1, ← h.2, ← shape]
      · simp at h

end CodeNav.Text
