import CodeNav.Proofs.FileSystem.Following
import CodeNav.Proofs.Project.Walk
import CodeNav.Proofs.Path

/-! The real path of what a walk reaches. Only real directories are entered, so the names that lead
there from the root of the walk lead on from where the root really is, and only the last of them can
be a link. -/
namespace CodeNav.FileSystem

open Discovery (textAt Reaches)

variable {files : FileSystem} {here names trail : List String} {entries : List Entry}
  {root name : String}

/-- One more name is one more component, unless the directory is written with a slash at its end:
then it takes the place of an empty one. -/
theorem components_append (whole : '/' ∉ name.toList) (root : String) :
    components (Path.append root name) = components root ++ [name] ∨
    ∃ before, components root = before ++ [""] ∧
      components (Path.append root name) = before ++ [name] := by
  have one : Text.fields '/' name.toList = [name.toList] := Text.fields_of_not_mem whole
  rw [Path.append]
  split
  · next slash =>
    obtain ⟨before, ended⟩ := List.getLast?_eq_some_iff.1 slash
    refine .inr ⟨(Text.fields '/' before).map String.ofList, ?_, ?_⟩
    · rw [components, ended, Text.fields_append_cons, List.map_append]
      rfl
    · rw [components, String.toList_append, ended, List.append_assoc, List.singleton_append,
        Text.fields_append_cons, one, List.map_append, List.map_singleton, String.ofList_toList]
  · have text : (root ++ "/" ++ name).toList = root.toList ++ '/' :: name.toList := by
      rw [String.toList_append, String.toList_append, List.append_assoc]
      rfl
    refine .inl ?_
    rw [components, text, Text.fields_append_cons, one, List.map_append, List.map_singleton,
      String.ofList_toList, components]

theorem followWithin_append_name (whole : '/' ∉ name.toList) (links : Nat) (here : List String)
    (root : String) (rest : List String) :
    files.followWithin links here (components (Path.append root name) ++ rest) =
      files.followWithin links here (components root ++ name :: rest) := by
  obtain joined | ⟨before, ended, joined⟩ := components_append whole root
  · rw [joined, List.append_assoc, List.singleton_append]
  · rw [joined, ended, List.append_assoc, List.append_assoc, List.singleton_append,
      List.singleton_append, followWithin_insert_empty (List.cons_ne_nil _ _)]

theorem followWithin_textAt (whole : ∀ name ∈ trail, '/' ∉ name.toList) (links : Nat)
    (here : List String) (root : String) :
    files.followWithin links here (components (textAt root trail)) =
      files.followWithin links here (components root ++ trail) := by
  induction trail generalizing root with
  | nil => rw [textAt, List.foldl_nil, List.append_nil]
  | cons name rest ih =>
    obtain ⟨first, later⟩ := List.forall_mem_cons.1 whole
    rw [textAt, List.foldl_cons, ← textAt, ih later, followWithin_append_name first]

theorem exists_append_eq (root name : String) : ∃ more, Path.append root name = root ++ more := by
  rw [Path.append]
  split
  · exact ⟨name, rfl⟩
  · exact ⟨"/" ++ name, String.append_assoc⟩

theorem startOf_append (written : root ≠ "") (name : String) (here : List String) :
    startOf here (Path.append root name) = startOf here root := by
  have some_char : ['/'].length ≤ root.toList.length :=
    List.length_pos_iff.2 (String.toList_eq_nil_iff.not.2 written)
  obtain ⟨more, longer⟩ := exists_append_eq root name
  have same : (root ++ more).startsWith "/" = root.startsWith "/" := by
    rw [Bool.eq_iff_iff, String.startsWith_string_iff, String.startsWith_string_iff,
      String.toList_append]
    constructor
    · intro slash
      exact List.prefix_of_prefix_length_le slash (List.prefix_append _ _) some_char
    · intro slash
      exact slash.trans (List.prefix_append _ _)
  rw [longer, startOf, startOf, same]

theorem startOf_textAt (written : root ≠ "") (trail here : List String) :
    startOf here (textAt root trail) = startOf here root := by
  induction trail generalizing root with
  | nil => rfl
  | cons name rest ih =>
    have longer : Path.append root name ≠ "" := by
      obtain ⟨more, longer⟩ := exists_append_eq root name
      rw [longer]
      intro empty
      exact written (String.append_eq_empty_iff.1 empty).1
    rw [textAt, List.foldl_cons, ← textAt, ih longer, startOf_append written]

theorem slash_mem_textAt (some_name : trail ≠ []) :
    '/' ∈ (textAt root trail).toList := by
  obtain ⟨before, last, shape⟩ := (List.eq_nil_or_concat trail).resolve_left some_name
  rw [List.concat_eq_append] at shape
  rw [shape, textAt, List.foldl_append, List.foldl_cons, List.foldl_nil, Path.append]
  split
  · next slash =>
    rw [String.toList_append]
    exact List.mem_append_left _ (List.mem_of_getLast? slash)
  · rw [String.toList_append, String.toList_append]
    exact List.mem_append_left _ (List.mem_append_right _ List.mem_cons_self)

/-- What is found below a directory is found from where the directory really is. -/
theorem exists_followWithin {there : Located} (whole : ∀ name ∈ trail, '/' ∉ name.toList)
    (located : files.locate root = .ok (.directory names entries))
    (found : files.locate (textAt root trail) = .ok there) :
    ∃ links, files.followWithin links names trail = .ok there := by
  obtain ⟨written, to_root⟩ := followWithin_of_locate located
  obtain ⟨-, to_place⟩ := followWithin_of_locate found
  obtain ⟨links, onward⟩ := followWithin_append to_root
  refine ⟨links, ?_⟩
  rw [← onward, ← followWithin_textAt whole, ← startOf_textAt written trail, to_place]

theorem toList_nameText (names : List String) :
    (nameText names).toList = '/' :: ['/'].intercalate (names.map String.toList) := by
  rw [nameText, String.toList_append, ← Text.toList_intercalate_singleton]
  rfl

theorem components_nameText (some_name : names ≠ [])
    (proper : ∀ name ∈ names, Entry.IsName name) : components (nameText names) = "" :: names := by
  have parts : Text.fields '/' (['/'].intercalate (names.map String.toList)) =
      names.map String.toList := by
    refine Text.fields_intercalate (by simpa using some_name) (List.forall_mem_map.2 ?_)
    exact fun name member => (proper name member).whole
  rw [components, toList_nameText, Text.fields, if_pos rfl, parts, List.map_cons, List.map_map]
  exact congrArg _ (List.map_id'' (fun _ => String.ofList_toList) _)

theorem nameText_inj {others : List String} (proper : ∀ name ∈ names, Entry.IsName name)
    (also_proper : ∀ name ∈ others, Entry.IsName name) :
    nameText names = nameText others ↔ names = others := by
  have top {names : List String} (proper : ∀ name ∈ names, Entry.IsName name)
      (same : nameText [] = nameText names) : names = [] := by
    by_contra some_name
    have parts := components_nameText some_name proper
    rw [← same] at parts
    cases parts
    exact (proper "" List.mem_cons_self).written rfl
  refine ⟨fun same => ?_, fun same => same ▸ rfl⟩
  by_cases first : names = []
  · subst first
    exact (top also_proper same).symm
  · by_cases second : others = []
    · subst second
      exact top proper same.symm
    · have parts := components_nameText first proper
      rw [same, components_nameText second also_proper] at parts
      exact (List.cons.inj parts).2.symm

theorem getLast?_nameText (some_name : names ≠ [])
    (proper : ∀ name ∈ names, Entry.IsName name) :
    (nameText names).toList.getLast? ≠ some '/' := by
  obtain ⟨before, last, shape⟩ := (List.eq_nil_or_concat names).resolve_left some_name
  rw [List.concat_eq_append] at shape
  subst shape
  have named := proper last (List.mem_append_right _ (List.mem_singleton_self _))
  have ends : ∃ front, (nameText (before ++ [last])).toList = front ++ last.toList := by
    rw [toList_nameText, List.map_append, List.map_singleton]
    by_cases first : before = []
    · subst first
      exact ⟨['/'], by simp⟩
    · rw [Text.intercalate_concat (by simpa using first)]
      exact ⟨'/' :: ['/'].intercalate (before.map String.toList) ++ ['/'], by simp⟩
  obtain ⟨front, text⟩ := ends
  rw [text, List.getLast?_append_of_ne_nil _ (String.toList_eq_nil_iff.not.2 named.written)]
  exact fun slash => named.whole (List.mem_of_getLast? slash)

theorem nameText_concat (proper : ∀ name ∈ names, Entry.IsName name) (name : String) :
    nameText (names ++ [name]) = Path.append (nameText names) name := by
  rw [Path.append, ← String.toList_inj, toList_nameText, List.map_append, List.map_singleton]
  by_cases top : names = []
  · subst top
    have slash : (nameText []).toList.getLast? = some '/' := by decide
    rw [if_pos slash, String.toList_append, toList_nameText]
    simp
  · rw [if_neg (getLast?_nameText top proper), Text.intercalate_concat (by simpa using top),
      String.toList_append, String.toList_append, toList_nameText, List.append_assoc]
    rfl

theorem textAt_nameText (proper : ∀ name ∈ names ++ trail, Entry.IsName name) :
    textAt (nameText names) trail = nameText (names ++ trail) := by
  induction trail generalizing names with
  | nil => rw [List.append_nil, textAt, List.foldl_nil]
  | cons name rest ih =>
    have above : ∀ name ∈ names, Entry.IsName name :=
      fun other member => proper other (List.mem_append_left _ member)
    rw [← List.singleton_append, ← List.append_assoc] at proper
    rw [textAt, List.foldl_cons, ← nameText_concat above, ← textAt, ih proper, List.append_assoc,
      List.singleton_append]

theorem startOf_nameText (here names : List String) : startOf here (nameText names) = [] := by
  have slash : (nameText names).startsWith "/" = true := by
    rw [String.startsWith_string_iff, toList_nameText]
    exact ⟨_, rfl⟩
  rw [startOf, slash]
  rfl

theorem ofString_nameText (proper : ∀ name ∈ names, Entry.IsName name) :
    (Path.ofString (nameText names)).toString = nameText names := by
  have spelled : nameText names = (Path.mk .single names).toString := by
    have rooted : Root.single ≠ .current := by decide
    rw [Path.toString, if_neg (not_and_of_not_left _ rooted)]
    rfl
  have components : (Path.mk .single names).Proper :=
    ⟨fun name member => ⟨(proper name member).written, (proper name member).not_here⟩,
      fun name member => (proper name member).whole⟩
  rw [spelled, Path.ofString_toString components]

theorem locate_nameText {there other : Located} (held : files.Holds there)
    (named : files.WellNamed) (found : files.locate (nameText there.names) = .ok other) :
    other = there := by
  obtain ⟨-, followed⟩ := followWithin_of_locate found
  rw [startOf_nameText, linkLimit, followWithin] at followed
  apply follow_names held named
  by_cases top : there.names = []
  · have bare : components (nameText []) = ["", ""] := rfl
    rw [top] at followed ⊢
    rwa [bare, follow_cons_empty, follow_cons_empty] at followed
  · rwa [components_nameText top (held.isName named), follow_cons_empty] at followed

theorem realPath_of_locate {path : String} {there : Located}
    (found : files.locate path = .ok there) : files.realPath path = .ok (nameText there.names) := by
  rw [FileSystem.realPath, found]
  rfl

section Walked

variable {enters : String → String → Prop} {directory : String}

theorem isName_of_reaches (named : Entry.WellNamed entries)
    (walked : Reaches files enters directory entries trail) :
    ∀ name ∈ trail, Entry.IsName name := by
  induction walked with
  | own member => exact List.forall_mem_singleton.2 (named.names _ member)
  | through member _ _ ih =>
    exact List.forall_mem_cons.2 ⟨named.names _ member, ih (named.deeper member)⟩

theorem child?_of_mem {entry : Entry} (distinct : Entry.Distinct entries)
    (reached : Entry.descend files.top here = some entries) (member : entry ∈ entries) :
    files.child? here entry.name = some entry := by
  rw [child?_eq reached, Entry.named?_of_mem distinct member]

/-- Names that lead from a directory to a leaf are not changed by following them, unless the leaf is
a link. -/
theorem place_of_follow {onLink : List String → List String → Except FileError Located}
    {place : List String} {document : Document} (distinct : Entry.Distinct entries)
    (named : Entry.WellNamed entries) (walked : Reaches files enters directory entries trail)
    (reached : Entry.descend files.top here = some entries)
    (found : files.follow onLink here trail = .ok (.file place document)) :
    files.IsLink (here ++ trail) ∨ place = here ++ trail := by
  induction walked generalizing here with
  | @own directory entries entry member leaf =>
    have child := child?_of_mem distinct reached member
    obtain ⟨_, _, held, -⟩ | ⟨other, target, held, -⟩ | ⟨_, _, -, same⟩ :=
      follow_name_cases (named.names _ member) found
    · cases child.symm.trans held
      cases leaf
    · exact .inl ⟨here, entry.name, other, target, rfl, held⟩
    · cases same
      exact .inr rfl
  | @through directory name entries inner rest member entered walked ih =>
    have held : Entry.named? name entries = some (.directory name inner) :=
      Entry.named?_of_mem distinct member
    have child := (child?_eq reached).trans held
    have below : Entry.descend files.top (here ++ [name]) = some inner := by
      rw [Entry.descend_append, reached, Option.bind_some, Entry.descend, held]
      rfl
    obtain ⟨_, _, -, onward⟩ | ⟨_, _, link, -⟩ | ⟨_, _, file, -⟩ :=
      follow_name_cases (named.names _ member) found
    · have later := ih (distinct.inside member name inner rfl) (named.deeper member) below onward
      rwa [List.append_assoc, List.singleton_append] at later
    · cases child.symm.trans link
    · cases child.symm.trans file

theorem place_of_followWithin {links : Nat} {place : List String} {document : Document}
    (distinct : Entry.Distinct entries) (named : Entry.WellNamed entries)
    (walked : Reaches files enters directory entries trail)
    (reached : Entry.descend files.top here = some entries)
    (found : files.followWithin links here trail = .ok (.file place document)) :
    place = here ++ trail ↔ ¬ files.IsLink (here ++ trail) := by
  constructor
  · rintro rfl
    exact (HoldsFile.of_holds (holds_of_followWithin found)).not_isLink
  · intro no_link
    cases links with
    | zero => exact (place_of_follow distinct named walked reached found).resolve_left no_link
    | succ links => exact (place_of_follow distinct named walked reached found).resolve_left no_link

/-- The real path of a file that a walk reaches is the one that the walk spells from the real path
of its root, just if the file is not reached through a link of its own. -/
theorem realPath_textAt {place : List String} {document : Document} (distinct : files.Distinct)
    (named : files.WellNamed) (located : files.locate root = .ok (.directory names entries))
    (walked : Reaches files enters directory entries trail)
    (found : files.locate (textAt root trail) = .ok (.file place document)) :
    files.realPath (textAt root trail) = .ok (textAt (nameText names) trail) ↔
      ¬ files.IsLink (names ++ trail) := by
  have reached := descend_of_locate located
  obtain ⟨inside, above⟩ := Entry.WellNamed.descend named reached
  have proper : ∀ name ∈ names ++ trail, Entry.IsName name :=
    List.forall_mem_append.2 ⟨above, isName_of_reaches inside walked⟩
  have whole : ∀ name ∈ trail, '/' ∉ name.toList := fun name member =>
    (proper name (List.mem_append_right _ member)).whole
  obtain ⟨links, followed⟩ := exists_followWithin whole located found
  have place_proper := (HoldsFile.of_holds (holds_of_followWithin followed)).isName named
  rw [← place_of_followWithin (distinct.located located) inside walked reached followed,
    realPath_of_locate found, Located.names, textAt_nameText proper, Except.ok.injEq,
    nameText_inj place_proper proper]

end Walked

end CodeNav.FileSystem
