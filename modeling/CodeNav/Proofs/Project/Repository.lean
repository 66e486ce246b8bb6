import CodeNav.Project.Repository
import Mathlib.Data.List.Infix

/-! The repository around a place is the deepest place on the way there from the top that holds
version control data, or the place itself where none does. The search does not look at the top. -/
namespace CodeNav.Repository

def Marked (files : FileSystem) (names : List String) : Prop :=
  files.pathExists (FileSystem.nameText (names ++ [marker])) = true

instance (files : FileSystem) (names : List String) : Decidable (Marked files names) :=
  inferInstanceAs (Decidable (_ = true))

def Unclear (files : FileSystem) (names : List String) : Prop :=
  ∃ error, files.locate (FileSystem.nameText (names ++ [marker])) = .error error ∧
    error.meansAbsent = false

/-- Of the places on the way to one, itself among them, the deepest that is marked, or that one
itself if none is. -/
inductive Nearest (marked : List String → Prop) (names : List String) : List String → Prop where
  | found {root : List String} : root <+: names → marked root →
      (∀ other, other <+: names → marked other → other <+: root) → Nearest marked names root
  | itself : (∀ other, other <+: names → ¬ marked other) → Nearest marked names names

def MarkedBelow (files : FileSystem) (names : List String) : Prop :=
  names ≠ [] ∧ Marked files names

/-- Below the top there is a place of which it cannot be told whether it is marked, and none that
lies deeper is marked. -/
def Obstructed (files : FileSystem) (names : List String) : Prop :=
  ∃ place, place ≠ [] ∧ place <+: names ∧ Unclear files place ∧
    ∀ other, other <+: names → MarkedBelow files other → other <+: place

variable {files : FileSystem} {names : List String} {marked : List String → Prop}

theorem Nearest.unique {root other : List String} (first : Nearest marked names root)
    (second : Nearest marked names other) : root = other := by
  cases first with
  | found above here deepest =>
    cases second with
    | found also_above also_here also_deepest =>
      have into := also_deepest root above here
      exact into.eq_of_length_le (deepest other also_above also_here).length_le
    | itself none_marked => exact absurd here (none_marked root above)
  | itself none_marked =>
    cases second with
    | found above here => exact absurd here (none_marked other above)
    | itself => rfl

theorem Marked.not_unclear (here : Marked files names) : ¬ Unclear files names := by
  rintro ⟨error, fails, -⟩
  rw [Marked, FileSystem.pathExists, fails] at here
  cases here

/-- One step upward: the search ends at a place that is marked, fails where it cannot be told, and
else goes on. -/
theorem search_cons (files : FileSystem) (name : String) (above : List String) :
    (Marked files (name :: above).reverse ∧
      search files (name :: above) = .ok (some (name :: above).reverse)) ∨
    (Unclear files (name :: above).reverse ∧
      ∃ error, search files (name :: above) = .error error) ∨
    (¬ Marked files (name :: above).reverse ∧ ¬ Unclear files (name :: above).reverse ∧
      search files (name :: above) = search files above) := by
  rw [search, isMarked, Marked, Unclear, FileSystem.pathExists]
  cases files.locate (FileSystem.nameText ((name :: above).reverse ++ [marker])) with
  | ok found => exact .inl ⟨rfl, rfl⟩
  | error error =>
    cases absent : error.meansAbsent with
    | true =>
      refine .inr (.inr ⟨nofun, ?_, ?_⟩)
      · rintro ⟨_, ⟨⟩, unclear⟩
        rw [absent] at unclear
        cases unclear
      · dsimp only
        rw [absent, if_pos rfl]
        rfl
    | false =>
      refine .inr (.inl ⟨⟨error, rfl, absent⟩, error, ?_⟩)
      dsimp only
      rw [absent, if_neg Bool.false_ne_true]
      rfl

section Deeper

variable {name : String}

theorem not_obstructed_of_marked (here : Marked files names) : ¬ Obstructed files names := by
  rintro ⟨place, some_name, above, unclear, deepest⟩
  have some_names : names ≠ [] := by
    rintro rfl
    exact some_name (List.prefix_nil.1 above)
  have into := deepest names (List.prefix_refl _) ⟨some_names, here⟩
  rw [above.eq_of_length_le into.length_le] at unclear
  exact here.not_unclear unclear

theorem obstructed_of_unclear (some_names : names ≠ []) (unclear : Unclear files names) :
    Obstructed files names :=
  ⟨names, some_names, List.prefix_refl _, unclear, fun _ above _ => above⟩

theorem markedBelow_concat (unmarked : ¬ Marked files (names ++ [name])) {other : List String} :
    other <+: names ++ [name] ∧ MarkedBelow files other ↔
      other <+: names ∧ MarkedBelow files other := by
  rw [List.prefix_concat_iff]
  constructor
  · rintro ⟨rfl | above, marked⟩
    · exact absurd marked.2 unmarked
    · exact ⟨above, marked⟩
  · rintro ⟨above, marked⟩
    exact ⟨.inr above, marked⟩

theorem obstructed_concat (unmarked : ¬ Marked files (names ++ [name]))
    (clear : ¬ Unclear files (names ++ [name])) :
    Obstructed files (names ++ [name]) ↔ Obstructed files names := by
  have same := @markedBelow_concat files names name unmarked
  constructor
  · rintro ⟨place, some_name, above, unclear, deepest⟩
    rcases List.prefix_concat_iff.1 above with rfl | further
    · exact absurd unclear clear
    · refine ⟨place, some_name, further, unclear, fun other inside marked => ?_⟩
      obtain ⟨inside, marked⟩ := same.2 ⟨inside, marked⟩
      exact deepest other inside marked
  · rintro ⟨place, some_name, above, unclear, deepest⟩
    refine ⟨place, some_name, above.trans (List.prefix_append _ _), unclear, ?_⟩
    intro other inside marked
    obtain ⟨inside, marked⟩ := same.1 ⟨inside, marked⟩
    exact deepest other inside marked

end Deeper

/-- A search upward from a place fails just if the place is obstructed. Else it finds the deepest
marked place below the top, or nothing if there is none. -/
theorem search_cases (files : FileSystem) (names : List String) :
    (∃ root, search files names.reverse = .ok (some root) ∧ ¬ Obstructed files names ∧
      root <+: names ∧ MarkedBelow files root ∧
        ∀ other, other <+: names → MarkedBelow files other → other <+: root) ∨
    (search files names.reverse = .ok none ∧ ¬ Obstructed files names ∧
      ∀ other, other <+: names → ¬ MarkedBelow files other) ∨
    ((∃ error, search files names.reverse = .error error) ∧ Obstructed files names) := by
  induction names using List.reverseRecOn with
  | nil =>
    refine .inr (.inl ⟨rfl, ?_, ?_⟩)
    · rintro ⟨place, some_name, above, -⟩
      exact some_name (List.prefix_nil.1 above)
    · intro other above marked
      exact marked.1 (List.prefix_nil.1 above)
  | append_singleton above name ih =>
    have some_names : above ++ [name] ≠ [] := List.append_ne_nil_of_right_ne_nil _ nofun
    have step := search_cons files name above.reverse
    rw [← List.reverse_concat, List.reverse_reverse] at step
    obtain ⟨marked, found⟩ | ⟨unclear, fails⟩ | ⟨unmarked, clear, onward⟩ := step
    · exact .inl ⟨_, found, not_obstructed_of_marked marked, List.prefix_refl _,
        ⟨some_names, marked⟩, fun _ inside _ => inside⟩
    · exact .inr (.inr ⟨fails, obstructed_of_unclear some_names unclear⟩)
    · rw [onward, obstructed_concat unmarked clear]
      have same := @markedBelow_concat files above name unmarked
      obtain ⟨root, found, free, inside, marked, deepest⟩ | ⟨nothing, free, none_marked⟩ |
        failed := ih
      · refine .inl ⟨root, found, free, inside.trans (List.prefix_append _ _), marked, ?_⟩
        intro other within also_marked
        obtain ⟨within, also_marked⟩ := same.1 ⟨within, also_marked⟩
        exact deepest other within also_marked
      · refine .inr (.inl ⟨nothing, free, ?_⟩)
        intro other within also_marked
        obtain ⟨within, also_marked⟩ := same.1 ⟨within, also_marked⟩
        exact none_marked other within also_marked
      · exact .inr (.inr failed)

theorem around_cases (files : FileSystem) (names : List String) :
    (∃ root, around files names = .ok root ∧ ¬ Obstructed files names ∧
      Nearest (MarkedBelow files) names root) ∨
    ((∃ error, around files names = .error error) ∧ Obstructed files names) := by
  rw [around]
  obtain ⟨root, found, free, above, marked, deepest⟩ | ⟨nothing, free, none_marked⟩ |
    ⟨⟨error, fails⟩, obstructed⟩ := search_cases files names
  · rw [found]
    exact .inl ⟨root, rfl, free, .found above marked deepest⟩
  · rw [nothing]
    exact .inl ⟨names, rfl, free, .itself none_marked⟩
  · rw [fails]
    exact .inr ⟨⟨error, rfl⟩, obstructed⟩

/-- The top is passed over wrongly just if it is marked and no other place on the way is. -/
theorem nearest_iff {root : List String} (below : Nearest (MarkedBelow files) names root) :
    Nearest (Marked files) names root ↔ ¬ (names ≠ [] ∧ Marked files [] ∧
      ∀ other, other <+: names → other ≠ [] → ¬ Marked files other) := by
  cases below with
  | found above marked deepest =>
    refine iff_of_true (.found above marked.2 ?_) ?_
    · intro other inside also_marked
      by_cases top : other = []
      · exact top ▸ List.nil_prefix
      · exact deepest other inside ⟨top, also_marked⟩
    · rintro ⟨-, -, none_marked⟩
      exact none_marked root above marked.1 marked.2
  | itself none_marked =>
    have unmarked (other : List String) (inside : other <+: names) (some_name : other ≠ []) :
        ¬ Marked files other := fun marked => none_marked other inside ⟨some_name, marked⟩
    by_cases top : Marked files []
    · by_cases at_top : names = []
      · subst at_top
        refine iff_of_true (.found (List.prefix_refl _) top fun _ inside _ => inside) ?_
        rintro ⟨other, -⟩
        exact other rfl
      · refine iff_of_false ?_ (not_not.2 ⟨at_top, top, unmarked⟩)
        rintro (⟨inside, marked, -⟩ | none_there)
        · exact unmarked names inside at_top marked
        · exact none_there [] List.nil_prefix top
    · refine iff_of_true (.itself ?_) fun ⟨_, marked, _⟩ => top marked
      intro other inside marked
      by_cases some_name : other = []
      · exact top (some_name ▸ marked)
      · exact unmarked other inside some_name marked

theorem enclosing_eq {directory : String} {there : Located}
    (located : files.locate directory = .ok there) :
    enclosing files directory =
      (around files there.names >>= fun root => .ok (FileSystem.nameText root)) := by
  rw [enclosing, located]
  rfl

/-- From whatever a path leads to, the search upward gives a repository unless it is obstructed.
That is the nearest place below the top that is marked, or else where the search started. It is the
nearest marked place of all, unless only the top is marked. -/
theorem enclosing_nearest {directory : String} {there : Located}
    (located : files.locate directory = .ok there) :
    ((∃ path, enclosing files directory = .ok path) ↔ ¬ Obstructed files there.names) ∧
    ∀ path, enclosing files directory = .ok path → ∃ root,
      path = FileSystem.nameText root ∧ Nearest (MarkedBelow files) there.names root ∧
        (Nearest (Marked files) there.names root ↔
          ¬ (there.names ≠ [] ∧ Marked files [] ∧
            ∀ other, other <+: there.names → other ≠ [] → ¬ Marked files other)) := by
  rw [enclosing_eq located]
  obtain ⟨root, found, free, nearest⟩ | ⟨⟨error, fails⟩, obstructed⟩ :=
    around_cases files there.names
  · rw [found]
    refine ⟨iff_of_true ⟨_, rfl⟩ free, ?_⟩
    rintro path ⟨⟩
    exact ⟨root, rfl, nearest, nearest_iff nearest⟩
  · rw [fails]
    refine ⟨iff_of_false ?_ (not_not.2 obstructed), ?_⟩
    · rintro ⟨path, ⟨⟩⟩
    · rintro path ⟨⟩

def innerEntries : List Entry := [.link ".git" "gone"]

/-- A link leads into the inner one of two repositories, to a directory whose own mark is a link
that leads nowhere. -/
def nestedFiles : FileSystem where
  top := [.directory "p" [.directory ".git" [], .link "into" "lib/src",
    .directory "lib" [.file ".git" ⟨[], none⟩, .directory "src" innerEntries]]]
  current := ["p"]

theorem locate_into :
    nestedFiles.locate "into" = .ok (.directory ["p", "lib", "src"] innerEntries) := by
  with_unfolding_all rfl

theorem enclosing_into : enclosing nestedFiles "into" = .ok "/p/lib" := by
  have found : search nestedFiles ["p", "lib", "src"].reverse = .ok (some ["p", "lib"]) := by
    change search nestedFiles ["src", "lib", "p"] = _
    with_unfolding_all rfl
  rw [enclosing_eq locate_into, Located.names, around, found]
  with_unfolding_all rfl

theorem enclosing_nearest_nested :
    nestedFiles.locate "into" = .ok (.directory ["p", "lib", "src"] innerEntries) ∧
      enclosing nestedFiles "into" = .ok "/p/lib" ∧
      ¬ Obstructed nestedFiles ["p", "lib", "src"] ∧
      ∃ root, "/p/lib" = FileSystem.nameText root ∧
        Nearest (Marked nestedFiles) ["p", "lib", "src"] root := by
  obtain ⟨succeeds, found⟩ := enclosing_nearest locate_into
  obtain ⟨root, path, -, nearest⟩ := found _ enclosing_into
  refine ⟨locate_into, enclosing_into, succeeds.1 ⟨_, enclosing_into⟩, root, path, nearest.2 ?_⟩
  rintro ⟨-, top, -⟩
  revert top
  decide +kernel

def markedTop : FileSystem where
  top := [.directory ".git" [], .directory "p" [.directory "a" []]]
  current := ["p"]

theorem marked_markedTop {names : List String} (above : names <+: ["p", "a"]) :
    Marked markedTop names ↔ names = [] := by
  have inits : names ∈ [[], ["p"], ["p", "a"]] := (List.mem_inits _ _).2 above
  have each : ∀ names ∈ [[], ["p"], ["p", "a"]], Marked markedTop names ↔ names = [] := by
    decide +kernel
  exact each names inits

/-- The search ends where it started, though the top is the nearest marked place. -/
theorem enclosing_markedTop :
    markedTop.locate "a" = .ok (.directory ["p", "a"] []) ∧
      enclosing markedTop "a" = .ok "/p/a" ∧
      ¬ ∃ root, Nearest (Marked markedTop) ["p", "a"] root ∧
        enclosing markedTop "a" = .ok (FileSystem.nameText root) := by
  have located : markedTop.locate "a" = .ok (.directory ["p", "a"] []) := by
    with_unfolding_all rfl
  have ended : enclosing markedTop "a" = .ok "/p/a" := by
    have nothing : search markedTop ["p", "a"].reverse = .ok none := by
      change search markedTop ["a", "p"] = _
      with_unfolding_all rfl
    rw [enclosing_eq located, Located.names, around, nothing]
    with_unfolding_all rfl
  have top : Nearest (Marked markedTop) ["p", "a"] [] :=
    .found List.nil_prefix ((marked_markedTop List.nil_prefix).2 rfl)
      fun other inside marked => (marked_markedTop inside).1 marked ▸ List.prefix_refl _
  refine ⟨located, ended, ?_⟩
  rintro ⟨root, nearest, same⟩
  rw [← top.unique nearest, ended] at same
  revert same
  decide

end CodeNav.Repository
