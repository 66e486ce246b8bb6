import CodeNav.Path
import Mathlib.Data.List.Basic
import Mathlib.Data.String.Basic

/-! Spelling a path canonically once is enough: the components of a canonical spelling are read
back as they were, so spelling it again changes nothing. -/
namespace CodeNav

namespace Text

variable {mark c : Char} {text part : List Char} {parts : List (List Char)}

theorem fields_eq_splitOn (mark : Char) (text : List Char) :
    fields mark text = text.splitOn mark := by
  induction text with
  | nil => rfl
  | cons c rest ih =>
    obtain ⟨first, others, cut⟩ := List.exists_cons_of_ne_nil (List.splitOn_ne_nil mark rest)
    rw [fields, List.splitOn_cons_eq_if_modifyHead, ih, cut]
    by_cases same : c = mark
    · simp [same]
    · simp [same]

theorem intercalate_fields (mark : Char) (text : List Char) :
    [mark].intercalate (fields mark text) = text := by
  rw [fields_eq_splitOn, List.intercalate_splitOn]

theorem fields_intercalate (some_part : parts ≠ []) (absent : ∀ part ∈ parts, mark ∉ part) :
    fields mark ([mark].intercalate parts) = parts := by
  rw [fields_eq_splitOn, List.splitOn_intercalate mark absent some_part]

theorem fields_of_not_mem (absent : mark ∉ part) : fields mark part = [part] := by
  rw [fields_eq_splitOn, List.splitOn_eq_singleton absent]

theorem fields_append_cons (mark : Char) (text rest : List Char) :
    fields mark (text ++ mark :: rest) = fields mark text ++ fields mark rest := by
  simp only [fields_eq_splitOn, List.splitOn_append_cons_self]

theorem not_mem_of_mem_fields (member : part ∈ fields mark text) : mark ∉ part := by
  induction text generalizing part with
  | nil =>
    rw [fields, List.mem_singleton] at member
    rw [member]
    exact List.not_mem_nil
  | cons c rest ih =>
    rw [fields] at member
    split at member
    · cases member with
      | head => exact List.not_mem_nil
      | tail _ later => exact ih later
    · next other =>
      split at member
      · rw [List.mem_singleton] at member
        rw [member, List.mem_singleton]
        exact Ne.symm other
      · next first others cut =>
        rw [cut] at ih
        cases member with
        | head =>
          rw [List.mem_cons, not_or]
          exact ⟨Ne.symm other, ih List.mem_cons_self⟩
        | tail _ later => exact ih (List.mem_cons_of_mem _ later)

theorem mem_intercalate : c ∈ [mark].intercalate parts ↔
    (∃ part ∈ parts, c ∈ part) ∨ c = mark ∧ 2 ≤ parts.length := by
  induction parts with
  | nil => simp
  | cons first others ih =>
    cases others with
    | nil => simp
    | cons second more =>
      have several : 2 ≤ (first :: second :: more).length := by simp
      have apart : (∃ part ∈ first :: second :: more, c ∈ part) ↔
          c ∈ first ∨ ∃ part ∈ second :: more, c ∈ part := List.exists_mem_cons_iff _ _ _
      rw [List.intercalate_cons_cons, List.mem_append, List.mem_append, ih, List.mem_singleton,
        apart]
      constructor
      · rintro ((here | same) | later | ⟨same, -⟩)
        · exact .inl (.inl here)
        · exact .inr ⟨same, several⟩
        · exact .inl (.inr later)
        · exact .inr ⟨same, several⟩
      · rintro ((here | later) | ⟨same, -⟩)
        · exact .inl (.inl here)
        · exact .inr (.inl later)
        · exact .inl (.inr same)

theorem mem_of_mem_fields (member : part ∈ fields mark text) (inside : c ∈ part) : c ∈ text := by
  rw [← intercalate_fields mark text, mem_intercalate]
  exact .inl ⟨part, member, inside⟩

theorem exists_field (member : c ∈ text) (other : c ≠ mark) :
    ∃ part ∈ fields mark text, c ∈ part := by
  rw [← intercalate_fields mark text, mem_intercalate] at member
  exact member.resolve_right fun same => other same.1

theorem intercalate_concat (some_part : parts ≠ []) (last : List Char) :
    [mark].intercalate (parts ++ [last]) = [mark].intercalate parts ++ mark :: last := by
  induction parts with
  | nil => exact absurd rfl some_part
  | cons first others ih =>
    cases others with
    | nil => simp
    | cons second more =>
      rw [List.cons_append, List.cons_append, List.intercalate_cons_cons,
        List.intercalate_cons_cons, ← List.cons_append, ih (List.cons_ne_nil _ _),
        List.append_assoc, List.append_assoc, List.append_assoc]

theorem toList_intercalate_singleton (mark : Char) (parts : List String) :
    ((String.singleton mark).intercalate parts).toList =
      [mark].intercalate (parts.map String.toList) := by
  rw [String.toList_intercalate, String.toList_singleton]

end Text

namespace Path

structure Proper (path : Path) : Prop where
  meaningful : ∀ part ∈ path.parts, part ≠ "" ∧ part ≠ "."
  whole : ∀ part ∈ path.parts, '/' ∉ part.toList

structure Canonical (path : Path) : Prop extends Proper path where
  forward : ∀ part ∈ path.parts, '\\' ∉ part.toList

theorem canonical_ofString {text : String} (forward : '\\' ∉ text.toList) :
    (ofString text).Canonical := by
  have member : ∀ part ∈ (ofString text).parts,
      (part ≠ "" ∧ part ≠ ".") ∧ part.toList ∈ Text.fields '/' text.toList := by
    intro part inside
    rw [ofString, partsOf, List.mem_filter, List.mem_map] at inside
    obtain ⟨⟨chars, field, rfl⟩, keep⟩ := inside
    rw [String.toList_ofList]
    exact ⟨by simpa using keep, field⟩
  refine ⟨⟨?_, ?_⟩, ?_⟩
  · intro part inside
    exact (member part inside).1
  · intro part inside
    exact Text.not_mem_of_mem_fields (member part inside).2
  · intro part inside backslash
    exact forward (Text.mem_of_mem_fields (member part inside).2 backslash)

theorem partsOf_slash (text : List Char) : partsOf ('/' :: text) = partsOf text := by
  rw [partsOf, Text.fields, if_pos rfl, List.map_cons, List.filter_cons_of_neg (by simp)]
  rfl

theorem partsOf_intercalate {path : Path} (proper : path.Proper) :
    partsOf (['/'].intercalate (path.parts.map String.toList)) = path.parts := by
  by_cases bare : path.parts = []
  · rw [bare]
    rfl
  · have fields : Text.fields '/' (['/'].intercalate (path.parts.map String.toList)) =
        path.parts.map String.toList := by
      apply Text.fields_intercalate
      · rwa [ne_eq, List.map_eq_nil_iff]
      · intro chars member
        obtain ⟨part, inside, rfl⟩ := List.mem_map.1 member
        exact proper.whole part inside
    rw [partsOf, fields, List.map_map]
    have same : String.ofList ∘ String.toList = id := funext fun part => String.ofList_toList
    rw [same, List.map_id, List.filter_eq_self]
    intro part inside
    simpa using proper.meaningful part inside

theorem head?_intercalate {path : Path} (proper : path.Proper) :
    (['/'].intercalate (path.parts.map String.toList)).head? ≠ some '/' := by
  cases shape : path.parts with
  | nil => exact nofun
  | cons part others =>
    have inside : part ∈ path.parts := shape ▸ List.mem_cons_self
    have whole := proper.whole part inside
    have written : part.toList ≠ [] := by simpa using (proper.meaningful part inside).1
    obtain ⟨c, rest, chars⟩ := List.exists_cons_of_ne_nil written
    rw [chars, List.mem_cons, not_or] at whole
    rw [List.map_cons, chars, List.intercalate_cons_cons_left]
    intro slash
    exact whole.1 (Option.some.inj slash).symm

theorem rootOf_current {text : List Char} (plain : text.head? ≠ some '/') :
    rootOf text = .current := by
  cases text with
  | nil => rfl
  | cons c rest =>
    have other : c ≠ '/' := by simpa using plain
    simp [rootOf, other]

theorem rootOf_single {text : List Char} (plain : text.head? ≠ some '/') :
    rootOf ('/' :: text) = .single := by
  cases text with
  | nil => rfl
  | cons c rest =>
    have other : c ≠ '/' := by simpa using plain
    simp [rootOf, other]

theorem rootOf_double {text : List Char} (plain : text.head? ≠ some '/') :
    rootOf ('/' :: '/' :: text) = .double := by
  cases text with
  | nil => rfl
  | cons c rest =>
    have other : c ≠ '/' := by simpa using plain
    simp [rootOf, other]

theorem toList_toString {path : Path} (some_path : ¬(path.root = .current ∧ path.parts = [])) :
    path.toString.toList =
      (rootText path.root).toList ++ ['/'].intercalate (path.parts.map String.toList) := by
  rw [Path.toString, if_neg some_path, String.toList_append,
    ← Text.toList_intercalate_singleton]
  rfl

theorem ofString_toString {path : Path} (proper : path.Proper) :
    ofString path.toString = path := by
  have parts := partsOf_intercalate proper
  have plain := head?_intercalate proper
  by_cases bare : path.root = .current ∧ path.parts = []
  · obtain ⟨root, components⟩ := path
    obtain ⟨rfl, rfl⟩ := bare
    rfl
  · rw [ofString, toList_toString bare]
    obtain ⟨root, components⟩ := path
    dsimp only at parts plain ⊢
    cases root with
    | current =>
      have none_written : (rootText .current).toList = [] := by decide
      rw [none_written, List.nil_append, rootOf_current plain, parts]
    | single =>
      have one : (rootText .single).toList = ['/'] := by decide
      rw [one, List.singleton_append, rootOf_single plain, partsOf_slash, parts]
    | double =>
      have two : (rootText .double).toList = ['/', '/'] := by decide
      rw [two, List.cons_append, List.singleton_append, rootOf_double plain, partsOf_slash,
        partsOf_slash, parts]

theorem not_mem_forwardSlashes (text : String) : '\\' ∉ (forwardSlashes text).toList := by
  rw [forwardSlashes, String.toList_ofList, List.mem_map]
  rintro ⟨c, _, same⟩
  split at same
  · exact absurd same (by decide)
  · next other => exact other same

theorem forwardSlashes_of_not_mem {text : String} (forward : '\\' ∉ text.toList) :
    forwardSlashes text = text := by
  have same : (text.toList.map fun c => if c = '\\' then '/' else c) = text.toList.map id := by
    apply List.map_congr_left
    intro c member
    have other : c ≠ '\\' := fun backslash => forward (backslash ▸ member)
    rw [if_neg other, id]
  rw [forwardSlashes, same, List.map_id, String.ofList_toList]

theorem not_mem_toString {path : Path} (canonical : path.Canonical) :
    '\\' ∉ path.toString.toList := by
  by_cases bare : path.root = .current ∧ path.parts = []
  · rw [Path.toString, if_pos bare]
    decide
  · rw [toList_toString bare, List.mem_append, not_or]
    constructor
    · cases path.root <;> decide
    · intro member
      obtain ⟨chars, inside, found⟩ | ⟨slash, -⟩ := Text.mem_intercalate.1 member
      · obtain ⟨part, component, rfl⟩ := List.mem_map.1 inside
        exact canonical.forward part component found
      · exact absurd slash (by decide)

@[simp] theorem normalize_normalize (text : String) :
    normalize (normalize text) = normalize text := by
  have canonical := canonical_ofString (not_mem_forwardSlashes text)
  rw [normalize, normalize, forwardSlashes_of_not_mem (not_mem_toString canonical),
    ofString_toString canonical.toProper]

theorem mem_forwardSlashes {c : Char} {text : String} (slash : c ≠ '/') (backslash : c ≠ '\\') :
    c ∈ (forwardSlashes text).toList ↔ c ∈ text.toList := by
  rw [forwardSlashes, String.toList_ofList, List.mem_map]
  constructor
  · rintro ⟨d, member, same⟩
    split at same
    · exact absurd same.symm slash
    · exact same ▸ member
  · intro member
    exact ⟨c, member, if_neg backslash⟩

theorem not_mem_rootText {c : Char} (slash : c ≠ '/') (root : Root) :
    c ∉ (rootText root).toList := by
  intro member
  cases root with
  | current => cases member
  | single => exact slash (List.mem_singleton.1 member)
  | double =>
    have slashes : (rootText .double).toList = ['/', '/'] := rfl
    rw [slashes] at member
    exact slash (by simpa using member)

theorem mem_parts_ofString {c : Char} {spelled : String} (dot : c ≠ '.') {chars : List Char}
    (field : chars ∈ Text.fields '/' spelled.toList) (inside : c ∈ chars) :
    String.ofList chars ∈ (ofString spelled).parts := by
  rw [ofString, partsOf, List.mem_filter]
  refine ⟨List.mem_map_of_mem field, ?_⟩
  have written : String.ofList chars ≠ "" := by
    intro same
    rw [String.ofList_eq] at same
    rw [same] at inside
    cases inside
  have other : String.ofList chars ≠ "." := by
    intro same
    rw [String.ofList_eq] at same
    rw [same] at inside
    exact dot (List.mem_singleton.1 inside)
  simp [written, other]

theorem mem_of_mem_toString {c : Char} {spelled : String} (slash : c ≠ '/') (dot : c ≠ '.')
    (member : c ∈ (ofString spelled).toString.toList) : c ∈ spelled.toList := by
  by_cases bare : (ofString spelled).root = .current ∧ (ofString spelled).parts = []
  · rw [Path.toString, if_pos bare] at member
    exact absurd (List.mem_singleton.1 member) dot
  · rw [toList_toString bare, List.mem_append] at member
    obtain root | joined := member
    · exact absurd root (not_mem_rootText slash _)
    · obtain ⟨chars, inside, found⟩ | ⟨same, -⟩ := Text.mem_intercalate.1 joined
      · obtain ⟨part, component, rfl⟩ := List.mem_map.1 inside
        rw [ofString, partsOf, List.mem_filter, List.mem_map] at component
        obtain ⟨⟨chars, field, rfl⟩, _⟩ := component
        rw [String.toList_ofList] at found
        exact Text.mem_of_mem_fields field found
      · exact absurd same slash

theorem mem_toString_of_mem {c : Char} {spelled : String} (slash : c ≠ '/') (dot : c ≠ '.')
    (member : c ∈ spelled.toList) : c ∈ (ofString spelled).toString.toList := by
  obtain ⟨chars, field, inside⟩ := Text.exists_field member slash
  have component := mem_parts_ofString dot field inside
  have some_path : ¬((ofString spelled).root = .current ∧ (ofString spelled).parts = []) := by
    rintro ⟨_, none_there⟩
    rw [none_there] at component
    cases component
  rw [toList_toString some_path, List.mem_append]
  refine .inr (Text.mem_intercalate.2 (.inl ⟨_, List.mem_map_of_mem component, ?_⟩))
  rwa [String.toList_ofList]

theorem mem_normalize {c : Char} {text : String} (slash : c ≠ '/') (backslash : c ≠ '\\')
    (dot : c ≠ '.') : c ∈ (normalize text).toList ↔ c ∈ text.toList := by
  have same : c ∈ (forwardSlashes text).toList ↔ c ∈ text.toList :=
    mem_forwardSlashes slash backslash
  rw [← same, normalize]
  constructor
  · intro member
    exact mem_of_mem_toString slash dot member
  · intro member
    exact mem_toString_of_mem slash dot member

end Path
end CodeNav
