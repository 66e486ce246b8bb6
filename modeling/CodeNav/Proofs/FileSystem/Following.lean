import CodeNav.Proofs.FileSystem.Distinct

/-! Following a path piece by piece. What a path leads to is followed on from where its first
components have led, and no link is left in the names that have been reached. -/
namespace CodeNav

namespace Entry

/-- An entry can have the name: no path means another place by it, and it stays one component. -/
structure IsName (name : String) : Prop where
  written : name ≠ ""
  not_here : name ≠ "."
  not_above : name ≠ ".."
  whole : '/' ∉ name.toList

instance (name : String) : Decidable (IsName name) :=
  decidable_of_iff (name ≠ "" ∧ name ≠ "." ∧ name ≠ ".." ∧ '/' ∉ name.toList)
    ⟨fun ⟨written, not_here, not_above, whole⟩ => ⟨written, not_here, not_above, whole⟩,
      fun ⟨written, not_here, not_above, whole⟩ => ⟨written, not_here, not_above, whole⟩⟩

inductive WellNamed : List Entry → Prop where
  | mk {entries : List Entry} (names : ∀ entry ∈ entries, IsName entry.name)
      (deeper : ∀ name inner, .directory name inner ∈ entries → WellNamed inner) :
      WellNamed entries

namespace WellNamed

variable {entries : List Entry}

theorem names (named : WellNamed entries) : ∀ entry ∈ entries, IsName entry.name := by
  cases named with
  | mk names _ => exact names

theorem deeper (named : WellNamed entries) {name : String} {inner : List Entry}
    (member : .directory name inner ∈ entries) : WellNamed inner := by
  cases named with
  | mk _ deeper => exact deeper name inner member

end WellNamed

theorem name_of_named? {name : String} {entries : List Entry} {entry : Entry}
    (found : named? name entries = some entry) : entry ∈ entries ∧ entry.name = name := by
  have same := List.find?_some found
  exact ⟨List.mem_of_find?_eq_some found, of_decide_eq_true same⟩

theorem named?_of_mem {entries : List Entry} {entry : Entry} (distinct : Distinct entries)
    (member : entry ∈ entries) : named? entry.name entries = some entry := by
  cases found : named? entry.name entries with
  | none =>
    have other := List.find?_eq_none.1 found entry member
    exact absurd (decide_eq_true rfl) other
  | some first =>
    obtain ⟨also_member, same⟩ := name_of_named? found
    rw [List.inj_on_of_nodup_map distinct.names also_member member same]

theorem descend_append (entries : List Entry) (names rest : List String) :
    descend entries (names ++ rest) =
      (descend entries names).bind fun inner => descend inner rest := by
  induction names generalizing entries with
  | nil => rfl
  | cons name others ih =>
    rw [List.cons_append, descend, descend]
    split
    · exact ih _
    · rfl

theorem WellNamed.descend {entries inner : List Entry} {names : List String}
    (named : WellNamed entries) (reached : descend entries names = some inner) :
    WellNamed inner ∧ ∀ name ∈ names, IsName name := by
  induction names generalizing entries with
  | nil =>
    cases reached
    exact ⟨named, nofun⟩
  | cons name others ih =>
    rw [Entry.descend] at reached
    split at reached
    · next other within found =>
      obtain ⟨member, rfl⟩ := name_of_named? found
      obtain ⟨below, proper⟩ := ih (named.deeper member) reached
      exact ⟨below, List.forall_mem_cons.2 ⟨named.names _ member, proper⟩⟩
    · cases reached

end Entry

namespace FileSystem

def WellNamed (files : FileSystem) : Prop := Entry.WellNamed files.top

def IsLink (files : FileSystem) (names : List String) : Prop :=
  ∃ above name other target, names = above ++ [name] ∧
    files.child? above name = some (.link other target)

variable {files : FileSystem} {here names parts : List String} {entries : List Entry}
  {onLink : List String → List String → Except FileError Located}

theorem child?_eq {name : String} (reached : Entry.descend files.top here = some entries) :
    files.child? here name = Entry.named? name entries := by
  rw [child?, reached]
  rfl

def HoldsFile (files : FileSystem) (names : List String) : Prop :=
  ∃ above name other document, names = above ++ [name] ∧
    files.child? above name = some (.file other document)

theorem HoldsFile.not_isLink (file : files.HoldsFile names) : ¬ files.IsLink names := by
  obtain ⟨above, name, other, document, rfl, held⟩ := file
  rintro ⟨also_above, also_name, _, target, same, linked⟩
  obtain ⟨rfl, rfl⟩ := List.concat_inj.1 (by simpa using same)
  cases held.symm.trans linked

theorem HoldsFile.isName (file : files.HoldsFile names) (named : files.WellNamed) :
    ∀ name ∈ names, Entry.IsName name := by
  obtain ⟨above, name, other, document, rfl, held⟩ := file
  obtain ⟨entries, reached, found⟩ := Option.bind_eq_some_iff.1 held
  obtain ⟨inside, proper⟩ := Entry.WellNamed.descend named reached
  obtain ⟨member, rfl⟩ := Entry.name_of_named? found
  exact List.forall_mem_append.2 ⟨proper, List.forall_mem_singleton.2 (inside.names _ member)⟩

theorem HoldsFile.of_holds {place : List String} {document : Document}
    (held : files.Holds (.file place document)) : files.HoldsFile place := by
  cases held with
  | @file above name other _ child => exact ⟨above, name, other, document, rfl, child⟩

theorem Holds.isName {there : Located} (held : files.Holds there) (named : files.WellNamed) :
    ∀ name ∈ there.names, Entry.IsName name := by
  cases held with
  | directory reached => exact (Entry.WellNamed.descend named reached).2
  | file child => exact HoldsFile.isName ⟨_, _, _, _, rfl, child⟩ named

theorem follow_cons_empty (rest : List String) :
    files.follow onLink here ("" :: rest) = files.follow onLink here rest := by
  rw [follow, if_pos rfl]

theorem follow_name_cases {name : String} {rest : List String} {there : Located}
    (proper : Entry.IsName name) (found : files.follow onLink here (name :: rest) = .ok there) :
    (∃ other inner, files.child? here name = some (.directory other inner) ∧
      files.follow onLink (here ++ [name]) rest = .ok there) ∨
    (∃ other target, files.child? here name = some (.link other target) ∧
      onLink (startOf here target) (components target ++ rest) = .ok there) ∨
    ∃ other document, files.child? here name = some (.file other document) ∧
      there = .file (here ++ [name]) document := by
  rw [follow, if_neg proper.written] at found
  split at found
  · cases found
  · rw [if_neg proper.not_here, if_neg proper.not_above] at found
    split at found
    · cases found
    · split at found
      · cases found
      · next other inner child => exact .inl ⟨other, inner, child, found⟩
      · next other target child => exact .inr (.inl ⟨other, target, child, found⟩)
      · next other document child =>
        split at found
        · cases found
          exact .inr (.inr ⟨other, document, child, rfl⟩)
        · cases found

theorem follow_of_descend {rest : List String} {there : Located}
    (proper : ∀ name ∈ names, Entry.IsName name)
    (reached : Entry.descend files.top (here ++ names) = some entries)
    (found : files.follow onLink here (names ++ rest) = .ok there) :
    files.follow onLink (here ++ names) rest = .ok there := by
  induction names generalizing here with
  | nil => rwa [List.append_nil]
  | cons name others ih =>
    obtain ⟨first, later⟩ := List.forall_mem_cons.1 proper
    have within : ∃ other inner, files.child? here name = some (.directory other inner) := by
      rw [Entry.descend_append, Option.bind_eq_some_iff] at reached
      obtain ⟨held, above, below⟩ := reached
      rw [Entry.descend] at below
      split at below
      · next other inner child => exact ⟨other, inner, (child?_eq above).trans child⟩
      · cases below
    rw [List.append_cons] at reached ⊢
    obtain ⟨other, inner, child⟩ := within
    obtain ⟨_, _, _, onward⟩ | ⟨_, _, link, -⟩ | ⟨_, _, file, -⟩ := follow_name_cases first found
    · exact ih later reached onward
    · cases child.symm.trans link
    · cases child.symm.trans file

/-- The names of a place lead there from the top. -/
theorem follow_names {there other : Located} (held : files.Holds there) (named : files.WellNamed)
    (found : files.follow onLink [] there.names = .ok other) : other = there := by
  have proper := held.isName named
  cases held with
  | @directory names entries reached =>
    rw [Located.names, ← List.append_nil names] at found
    have ended : files.follow onLink names [] = .ok other :=
      follow_of_descend proper reached found
    rw [follow, reached] at ended
    cases ended
    rfl
  | @file above name _ document child =>
    obtain ⟨entries, reached, -⟩ := Option.bind_eq_some_iff.1 child
    obtain ⟨proper_above, last⟩ := List.forall_mem_append.1 proper
    have ended : files.follow onLink above [name] = .ok other :=
      follow_of_descend proper_above reached found
    obtain ⟨_, _, directory, -⟩ | ⟨_, _, link, -⟩ | ⟨_, _, file, rfl⟩ :=
      follow_name_cases (last name (List.mem_singleton_self name)) ended
    · cases child.symm.trans directory
    · cases child.symm.trans link
    · cases child.symm.trans file
      rfl

theorem follow_insert_empty {after : List String} (some_after : after ≠ [])
    (onward : ∀ here parts, onLink here (parts ++ "" :: after) = onLink here (parts ++ after))
    (here before : List String) :
    files.follow onLink here (before ++ "" :: after) =
      files.follow onLink here (before ++ after) := by
  induction before generalizing here with
  | nil => exact follow_cons_empty after
  | cons part rest ih =>
    have not_last : rest ++ "" :: after ≠ [] := List.append_ne_nil_of_right_ne_nil _ nofun
    have also_not_last : rest ++ after ≠ [] := List.append_ne_nil_of_right_ne_nil _ some_after
    simp only [List.cons_append, follow, ih, ← List.append_assoc, onward, if_neg not_last,
      if_neg also_not_last]

theorem followWithin_insert_empty {after : List String} (some_after : after ≠ []) (links : Nat)
    (here before : List String) :
    files.followWithin links here (before ++ "" :: after) =
      files.followWithin links here (before ++ after) := by
  induction links generalizing here before with
  | zero =>
    rw [followWithin, followWithin]
    exact follow_insert_empty some_after (fun _ _ => rfl) here before
  | succ links ih =>
    rw [followWithin, followWithin]
    exact follow_insert_empty some_after ih here before

/-- Components that lead to a directory are followed on from there, through as many links as are
left. -/
theorem follow_append (onward : ∀ here parts, onLink here parts = .ok (.directory names entries) →
      ∃ links, ∀ rest, onLink here (parts ++ rest) = files.followWithin links names rest)
    (also : ∃ links, ∀ rest, files.follow onLink names rest = files.followWithin links names rest)
    (found : files.follow onLink here parts = .ok (.directory names entries)) :
    ∃ links, ∀ rest,
      files.follow onLink here (parts ++ rest) = files.followWithin links names rest := by
  fun_induction follow files onLink here parts with
  | case1 here entries reached =>
    cases found
    exact also
  | case2 => cases found
  | case3 here others ih =>
    obtain ⟨links, later⟩ := ih found
    exact ⟨links, fun rest => by rw [List.cons_append, follow_cons_empty, later]⟩
  | case4 => cases found
  | case5 here others written open_here ih =>
    obtain ⟨links, later⟩ := ih found
    refine ⟨links, fun rest => ?_⟩
    rw [List.cons_append, follow, if_neg written, if_neg open_here, if_pos rfl, later]
  | case6 here others written open_here named ih =>
    obtain ⟨links, later⟩ := ih found
    refine ⟨links, fun rest => ?_⟩
    rw [List.cons_append, follow, if_neg written, if_neg open_here, if_neg named, if_pos rfl,
      later]
  | case7 => cases found
  | case8 => cases found
  | case9 here part others written open_here named below short other inner held ih =>
    obtain ⟨links, later⟩ := ih found
    refine ⟨links, fun rest => ?_⟩
    rw [List.cons_append, follow, if_neg written, if_neg open_here, if_neg named, if_neg below,
      if_neg short, held]
    exact later rest
  | case10 here part others written open_here named below short other target held =>
    obtain ⟨links, later⟩ := onward _ _ found
    refine ⟨links, fun rest => ?_⟩
    rw [List.cons_append, follow, if_neg written, if_neg open_here, if_neg named, if_neg below,
      if_neg short, held, ← later rest, List.append_assoc]
  | case11 => cases found
  | case12 => cases found

theorem followWithin_append {links : Nat}
    (found : files.followWithin links here parts = .ok (.directory names entries)) :
    ∃ left, ∀ rest,
      files.followWithin links here (parts ++ rest) = files.followWithin left names rest := by
  induction links generalizing here parts with
  | zero =>
    rw [followWithin] at found
    refine follow_append ?_ ⟨0, fun rest => rfl⟩ found
    intro _ _ too_many
    cases too_many
  | succ links ih =>
    rw [followWithin] at found
    exact follow_append (fun _ _ => ih) ⟨links + 1, fun rest => rfl⟩ found

end FileSystem
end CodeNav
