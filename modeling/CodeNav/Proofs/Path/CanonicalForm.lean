import CodeNav.Proofs.Path

/-! What a canonical spelling keeps of a path: its root and its components, both read off the text
itself, and nothing else. Two paths are spelled alike just if they have both in common. -/
namespace CodeNav

namespace Path

def leadingSlashes (text : String) : Nat :=
  ((forwardSlashes text).toList.takeWhile (· = '/')).length

def spelledRoot (text : String) : String :=
  match leadingSlashes text with
  | 0 => ""
  | 2 => "//"
  | _ => "/"

def spelledParts (text : String) : List String :=
  (((forwardSlashes text).toList.splitOn '/').map String.ofList).filter fun part =>
    part ≠ "" ∧ part ≠ "."

/-- A root and components as a text: behind the root stand the components, a slash between two of
them, and nothing else. The current directory is `.`. -/
inductive Spells (root : String) (parts : List String) : String → Prop where
  | current : root = "" → parts = [] → Spells root parts "."
  | root : root ≠ "" → parts = [] → Spells root parts root
  | below {rest : List Char} : parts ≠ [] → (rest.splitOn '/').map String.ofList = parts →
      Spells root parts (root ++ String.ofList rest)

theorem exists_slashes (text : List Char) :
    ∃ count rest, text = List.replicate count '/' ++ rest ∧ rest.head? ≠ some '/' := by
  induction text with
  | nil => exact ⟨0, [], rfl, nofun⟩
  | cons c tail ih =>
    by_cases slash : c = '/'
    · obtain ⟨count, rest, rfl, plain⟩ := ih
      exact ⟨count + 1, rest, by rw [slash, List.replicate_succ, List.cons_append], plain⟩
    · exact ⟨0, c :: tail, rfl, by simpa using slash⟩

theorem length_takeWhile_slashes (count : Nat) {rest : List Char}
    (plain : rest.head? ≠ some '/') :
    ((List.replicate count '/' ++ rest).takeWhile (· = '/')).length = count := by
  have none_behind : rest.takeWhile (· = '/') = [] := by
    cases rest with
    | nil => rfl
    | cons c tail =>
      have other : c ≠ '/' := by simpa using plain
      rw [List.takeWhile_cons_of_neg (by simpa using other)]
  rw [List.takeWhile_append_of_pos (by simp), none_behind, List.append_nil,
    List.length_replicate]

theorem spelledRoot_eq (text : String) :
    spelledRoot text = rootText (ofString (forwardSlashes text)).root := by
  obtain ⟨count, rest, shape, plain⟩ := exists_slashes (forwardSlashes text).toList
  rw [spelledRoot, leadingSlashes, ofString, shape, length_takeWhile_slashes count plain]
  dsimp only
  rcases count with _ | _ | _ | more
  · rw [List.replicate_zero, List.nil_append, rootOf_current plain]
    rfl
  · rw [List.replicate_one, List.singleton_append, rootOf_single plain]
    rfl
  · have two : List.replicate (0 + 1 + 1) '/' ++ rest = '/' :: '/' :: rest := rfl
    rw [two, rootOf_double plain]
    rfl
  · rfl

theorem spelledParts_eq (text : String) :
    spelledParts text = (ofString (forwardSlashes text)).parts := by
  rw [spelledParts, ← Text.fields_eq_splitOn]
  rfl

theorem rootText_inj {root other : Root} : rootText root = rootText other ↔ root = other := by
  cases root <;> cases other <;> decide

theorem eq_iff {path other : Path} :
    path = other ↔ path.root = other.root ∧ path.parts = other.parts := by
  cases path
  cases other
  rw [mk.injEq]

theorem ofString_eq_iff {text other : String} :
    ofString (forwardSlashes text) = ofString (forwardSlashes other) ↔
      spelledRoot text = spelledRoot other ∧ spelledParts text = spelledParts other := by
  rw [eq_iff, spelledRoot_eq, spelledRoot_eq, rootText_inj, spelledParts_eq, spelledParts_eq]

theorem ofString_normalize (text : String) :
    ofString (forwardSlashes (normalize text)) = ofString (forwardSlashes text) := by
  have canonical := canonical_ofString (not_mem_forwardSlashes text)
  rw [normalize, forwardSlashes_of_not_mem (not_mem_toString canonical),
    ofString_toString canonical.toProper]

theorem spells_toString {path : Path} (canonical : path.Canonical) :
    Spells (rootText path.root) path.parts path.toString := by
  have unrooted : rootText path.root = "" ↔ path.root = .current := @rootText_inj _ .current
  by_cases bare : path.parts = []
  · by_cases current : path.root = .current
    · rw [Path.toString, if_pos ⟨current, bare⟩]
      exact .current (unrooted.2 current) bare
    · have rooted : path.toString = rootText path.root := by
        rw [Path.toString, if_neg fun both => current both.1, bare]
        exact String.append_empty
      rw [rooted]
      exact .root (fun none => current (unrooted.1 none)) bare
  · have spelled : path.toString = rootText path.root ++
        String.ofList (['/'].intercalate (path.parts.map String.toList)) := by
      rw [← String.toList_inj, toList_toString fun both => bare both.2, String.toList_append,
        String.toList_ofList]
    rw [spelled]
    refine .below bare ?_
    rw [← Text.fields_eq_splitOn, Text.fields_intercalate]
    · simp
    · simpa using bare
    · intro chars member
      obtain ⟨part, inside, rfl⟩ := List.mem_map.1 member
      exact canonical.whole part inside

/-- Two paths have one canonical spelling just if they spell one root and the same components; these
are what a canonical spelling keeps and all that is in it. -/
theorem normalize_canonical (text other : String) :
    (normalize text = normalize other ↔
        spelledRoot text = spelledRoot other ∧ spelledParts text = spelledParts other) ∧
      spelledRoot (normalize text) = spelledRoot text ∧
      spelledParts (normalize text) = spelledParts text ∧
      normalize (normalize text) = normalize text ∧
      '\\' ∉ (normalize text).toList ∧
      Spells (spelledRoot text) (spelledParts text) (normalize text) ∧
      ∀ part ∈ spelledParts text, part ≠ "" ∧ part ≠ "." := by
  have canonical := canonical_ofString (not_mem_forwardSlashes text)
  obtain ⟨root, parts⟩ := ofString_eq_iff.1 (ofString_normalize text)
  refine ⟨?_, root, parts, normalize_normalize text, not_mem_toString canonical, ?_, ?_⟩
  · rw [← ofString_eq_iff]
    constructor
    · intro same
      rw [← ofString_normalize, same, ofString_normalize]
    · intro same
      rw [normalize, normalize, same]
  · rw [spelledRoot_eq, spelledParts_eq]
    exact spells_toString canonical
  · rw [spelledParts_eq]
    exact canonical.meaningful

/-- A dot before slashes hides them: the path has no root, though a slash stands in it early. -/
example : normalize ".\\//a/./b/" = "a/b" ∧ normalize "//./a" = "//a" ∧
    normalize "///./a" = "/a" := by decide

end Path
end CodeNav
