import CodeNav.Proofs.Symbol.RoundTrip

/-! Texts that are read as identities. A text is read just if two separators stand in it apart from
each other and none at its start, and what is read makes up the text again. -/
namespace CodeNav

namespace Identity

/-- Two separators stand in the text, one behind the other, and it starts with none. -/
def Divisible (text : String) : Prop :=
  ¬ separator.toList <+: text.toList ∧
    ∃ first middle last, text = first ++ separator ++ middle ++ separator ++ last

/-- What is read makes up the text again, and neither cut could be made nearer to an end of it. -/
theorem parse_eq_ok_iff {text : String} {parts : Parts} :
    parse text = .ok parts ↔
      text = parts.lang ++ separator ++ parts.file ++ separator ++ parts.qualified ∧
        parts.lang ≠ "" ∧ ¬ separator.toList <:+: (parts.lang ++ ":").toList ∧
          ¬ separator.toList <:+: (":" ++ parts.qualified).toList := by
  have marked : separator.toList ≠ [] := by decide
  have front : (parts.lang ++ ":").toList = parts.lang.toList ++ separator.toList.dropLast :=
    String.toList_append
  have back : (":" ++ parts.qualified).toList = separator.toList.tail ++ parts.qualified.toList :=
    String.toList_append
  rw [parse_eq_ok, parts?_eq_some, front, back, ← String.toList_inj]
  simp only [Text.cut?_eq_some_iff marked, Text.cutLast?_eq_some_iff marked, String.toList_append,
    List.append_assoc]
  constructor
  · rintro ⟨written, rest, ⟨whole, first⟩, rfl, last⟩
    exact ⟨whole, written, first, last⟩
  · rintro ⟨whole, written, first, last⟩
    exact ⟨written, _, ⟨whole, first⟩, rfl, last⟩

theorem divisible_of_parse {text : String} {parts : Parts} (read : parse text = .ok parts) :
    Divisible text := by
  obtain ⟨whole, written, first, -⟩ := parse_eq_ok_iff.1 read
  refine ⟨?_, parts.lang, parts.file, parts.qualified, whole⟩
  intro starts
  apply first
  apply List.IsPrefix.isInfix
  -- The language is not empty, so it and the colon behind it are at least as long as a separator.
  have some_lang : parts.lang.toList ≠ [] := by simpa using written
  have long : separator.toList.length ≤ (parts.lang ++ ":").toList.length := by
    have one_at_least := List.length_pos_of_ne_nil some_lang
    have two : separator.toList.length = 2 := rfl
    have colon : ":".toList.length = 1 := rfl
    rw [two, String.toList_append, List.length_append, colon]
    omega
  refine List.prefix_of_prefix_length_le starts ?_ long
  have split : separator.toList = ":".toList ++ ":".toList := rfl
  rw [whole]
  simp only [String.toList_append, List.append_assoc, split]
  rw [List.prefix_append_right_inj]
  exact List.prefix_append _ _

theorem exists_parse_of_divisible {text : String} (divisible : Divisible text) :
    ∃ parts, parse text = .ok parts := by
  obtain ⟨open_start, before, middle, after, rfl⟩ := divisible
  have marked : separator.toList ≠ [] := by decide
  obtain ⟨lang, rest, first_cut, behind⟩ := Text.exists_cut?_append marked before.toList
    (middle.toList ++ (separator.toList ++ after.toList))
  -- The second separator is still there behind the first cut.
  have marked_rest : separator.toList <:+: rest :=
    (List.infix_append' _ _ _).trans behind.isInfix
  obtain ⟨parts, last_cut⟩ : ∃ parts, Text.cutLast? separator.toList rest = some parts := by
    rw [← Option.isSome_iff_exists, ← Option.ne_none_iff_isSome, ne_eq,
      Text.cutLast?_eq_none marked, not_not]
    exact marked_rest
  have written : lang ≠ [] := by
    rintro rfl
    have whole := Text.cut?_eq_some first_cut
    apply open_start
    simp only [String.toList_append, List.append_assoc, whole, List.nil_append]
    exact List.prefix_append _ _
  refine ⟨⟨String.ofList lang, String.ofList parts.1, String.ofList parts.2⟩, ?_⟩
  rw [parse_eq_ok, parts?_eq_some]
  refine ⟨by simpa using written, rest, ?_, ?_⟩
  · simpa only [String.toList_append, List.append_assoc, String.toList_ofList] using first_cut
  · simpa only [String.toList_ofList] using last_cut

/-- The parts make up the text as an identity just if the path between them is spelled
canonically. -/
theorem of_eq_iff {text : String} {parts : Parts} (read : parse text = .ok parts) :
    of parts.lang parts.file parts.qualified none = text ↔
      Path.normalize parts.file = parts.file := by
  obtain ⟨whole, -⟩ := parse_eq_ok_iff.1 read
  have made : of parts.lang parts.file parts.qualified none = parts.lang ++ separator ++
      Path.normalize parts.file ++ separator ++ parts.qualified := rfl
  rw [made, whole, ← String.toList_inj, ← String.toList_inj]
  simp only [String.toList_append, List.append_assoc, List.append_cancel_left_eq,
    List.append_cancel_right_eq]

/-- Just the divisible texts are read, all others being malformed; and what is read makes up the
text again, as an identity too if its path is spelled canonically. -/
theorem parse_accepts (text : String) :
    ((∃ parts, parse text = .ok parts) ↔ Divisible text) ∧
      (∀ error, parse text = .error error ↔ ¬ Divisible text ∧ error = ⟨text⟩) ∧
      ∀ parts, parse text = .ok parts →
        text = parts.lang ++ separator ++ parts.file ++ separator ++ parts.qualified ∧
          parts.lang ≠ "" ∧ ¬ separator.toList <:+: (parts.lang ++ ":").toList ∧
          ¬ separator.toList <:+: (":" ++ parts.qualified).toList ∧
          (of parts.lang parts.file parts.qualified none = text ↔
            Path.normalize parts.file = parts.file) := by
  have accepted : (∃ parts, parse text = .ok parts) ↔ Divisible text :=
    ⟨fun ⟨_, read⟩ => divisible_of_parse read, exists_parse_of_divisible⟩
  refine ⟨accepted, ?_, ?_⟩
  · intro error
    rw [← accepted, parse]
    cases parts? text with
    | none => simp [eq_comm]
    | some parts => simp
  · intro parts read
    obtain ⟨whole, written, first, last⟩ := parse_eq_ok_iff.1 read
    exact ⟨whole, written, first, last, of_eq_iff read⟩

/-- Of three colons in a row the last two separate. The path before them is not spelled
canonically, so the text is read but is not the identity of what was read. -/
theorem parse_accepts_unnormalized :
    parse "py::./a.py:::f" = .ok ⟨"py", "./a.py:", "f"⟩ ∧ Divisible "py::./a.py:::f" ∧
      of "py" "./a.py:" "f" none ≠ "py::./a.py:::f" := by
  have read : parse "py::./a.py:::f" = .ok ⟨"py", "./a.py:", "f"⟩ := rfl
  obtain ⟨accepted, _, parts_of⟩ := parse_accepts "py::./a.py:::f"
  obtain ⟨_, _, _, _, spelled⟩ := parts_of _ read
  refine ⟨read, accepted.1 ⟨_, read⟩, fun same => ?_⟩
  exact absurd (spelled.1 same) (by decide)

end Identity
end CodeNav
