import CodeNav.Proofs.Symbol.Identity

/-! Identities are read back. The language ends at the first separator of an identity and the name
starts behind the last one, so only these two can move the cuts, and a colon where they join the
separator is enough. The path between them may look as it likes. -/
namespace CodeNav

namespace Identity

theorem parse_eq_ok {text : String} {parts : Parts} :
    parse text = .ok parts ↔ parts? text = some parts := by
  rw [parse]
  cases parts? text with
  | none => simp
  | some known => simp

theorem parts?_eq_some {text : String} {parts : Parts} :
    parts? text = some parts ↔ parts.lang ≠ "" ∧
      ∃ rest, Text.cut? separator.toList text.toList = some (parts.lang.toList, rest) ∧
        Text.cutLast? separator.toList rest =
          some (parts.file.toList, parts.qualified.toList) := by
  obtain ⟨lang, file, qualified⟩ := parts
  constructor
  · intro read
    rw [parts?, Option.bind_eq_bind, Option.bind_eq_some_iff] at read
    obtain ⟨⟨first, rest⟩, first_cut, read⟩ := read
    dsimp only at read
    rw [Option.bind_eq_some_iff] at read
    obtain ⟨⟨middle, last⟩, last_cut, read⟩ := read
    dsimp only at read
    split at read
    · cases read
    · next written =>
      obtain ⟨rfl, rfl, rfl⟩ := Parts.mk.inj (Option.some.inj read)
      exact ⟨by simpa using written, rest, by simpa using first_cut, by simpa using last_cut⟩
  · rintro ⟨written, rest, first_cut, last_cut⟩
    have some_lang : lang.toList ≠ [] := by simpa using written
    rw [parts?, first_cut, Option.bind_eq_bind, Option.bind_some]
    dsimp only
    rw [last_cut]
    simp [some_lang]

/-- An identity is read back as the parts that it was made of just if the language is written, and
no separator stands in the language with the colon behind it, or in the name with the colon before
it. -/
theorem parse_of_iff (lang file name : String) (container : Option String) :
    parse (of lang file name container) =
        .ok ⟨lang, Path.normalize file, qualify name container⟩ ↔
      lang ≠ "" ∧ ¬ separator.toList <:+: (lang ++ ":").toList ∧
        ¬ separator.toList <:+: (":" ++ qualify name container).toList := by
  have marked : separator.toList ≠ [] := by decide
  have first : Text.cut? separator.toList (lang.toList ++ (separator.toList ++
        ((Path.normalize file).toList ++ (separator.toList ++ (qualify name container).toList)))) =
        some (lang.toList, (Path.normalize file).toList ++
          (separator.toList ++ (qualify name container).toList)) ↔
      ¬ separator.toList <:+: (lang ++ ":").toList := by
    rw [Text.cut?_append_iff marked, String.toList_append]
    rfl
  have last : Text.cutLast? separator.toList ((Path.normalize file).toList ++
        (separator.toList ++ (qualify name container).toList)) =
        some ((Path.normalize file).toList, (qualify name container).toList) ↔
      ¬ separator.toList <:+: (":" ++ qualify name container).toList := by
    rw [Text.cutLast?_append_iff marked, String.toList_append]
    rfl
  rw [parse_eq_ok, parts?_eq_some, ← last, ← first, toList_of]
  dsimp only
  apply and_congr_right
  intro _
  constructor
  · rintro ⟨rest, first_cut, last_cut⟩
    -- Whatever the first cut leaves is what stands behind the first separator.
    have whole := Text.cut?_eq_some first_cut
    rw [List.append_assoc] at whole
    obtain rfl := List.append_cancel_left (List.append_cancel_left whole)
    exact ⟨first_cut, last_cut⟩
  · rintro ⟨first_cut, last_cut⟩
    exact ⟨_, first_cut, last_cut⟩

/-- Both conditions are about the joints too: a colon at the end of the language, or at the start
of the name, moves a cut. -/
example : parse (of "py:" "a.py" "f" none) = .ok ⟨"py", ":a.py", "f"⟩ := rfl

end Identity
end CodeNav
