import CodeNav.FileSystem.Change
import Mathlib.Data.List.Nodup

/-! Names within directories. No directory holds two entries of one name, whatever is put into the
file system, written or taken out, and so it is in each directory to which a path leads. -/
namespace CodeNav

namespace Entry

inductive Distinct : List Entry → Prop where
  | mk {entries : List Entry} (names : (entries.map name).Nodup)
      (deeper : ∀ name inner, .directory name inner ∈ entries → Distinct inner) : Distinct entries

def DistinctInside (entry : Entry) : Prop := ∀ name inner, entry = .directory name inner →
  Distinct inner

namespace Distinct

variable {entries : List Entry}

theorem names (distinct : Distinct entries) : (entries.map name).Nodup := by
  cases distinct with
  | mk names _ => exact names

theorem inside (distinct : Distinct entries) {entry : Entry} (member : entry ∈ entries) :
    entry.DistinctInside := by
  cases distinct with
  | mk _ deeper =>
    rintro name inner rfl
    exact deeper name inner member

theorem of_inside (names : (entries.map name).Nodup)
    (inside : ∀ entry ∈ entries, entry.DistinctInside) : Distinct entries :=
  ⟨names, fun name inner member => inside _ member name inner rfl⟩

theorem nil : Distinct [] := ⟨List.nodup_nil, nofun⟩

theorem descend {names : List String} {inner : List Entry} (distinct : Distinct entries)
    (reached : descend entries names = some inner) : Distinct inner := by
  induction names generalizing entries with
  | nil =>
    cases reached
    exact distinct
  | cons name rest ih =>
    rw [Entry.descend] at reached
    split at reached
    · next other within found =>
      exact ih (distinct.inside (List.mem_of_find?_eq_some found) other within rfl) reached
    · cases reached

theorem put (distinct : Distinct entries) {new : Entry} (inside : new.DistinctInside) :
    Distinct (put new entries) := by
  rw [Entry.put]
  split
  · have same : (entries.map fun entry => if entry.name = new.name then new else entry).map name =
        entries.map name := by
      rw [List.map_map]
      refine List.map_congr_left fun entry _ => ?_
      dsimp only [Function.comp_apply]
      split
      · next replaced => exact replaced.symm
      · rfl
    refine of_inside (same ▸ distinct.names) (List.forall_mem_map.2 fun entry member => ?_)
    split
    · exact inside
    · exact distinct.inside member
  · next absent =>
    refine of_inside ?_ ?_
    · rw [List.map_append, List.nodup_append]
      refine ⟨distinct.names, List.nodup_singleton _, ?_⟩
      rintro other member _ here rfl
      rw [List.map_singleton, List.mem_singleton] at here
      obtain ⟨entry, inside, named⟩ := List.mem_map.1 member
      exact absent (List.any_eq_true.2 ⟨entry, inside, decide_eq_true (named.trans here)⟩)
    · intro entry member
      rcases List.mem_append.1 member with before | last
      · exact distinct.inside before
      · exact List.mem_singleton.1 last ▸ inside

theorem filter (distinct : Distinct entries) (kept : Entry → Bool) :
    Distinct (entries.filter kept) :=
  of_inside (distinct.names.sublist (List.filter_sublist.map _))
    fun _ member => distinct.inside (List.mem_filter.1 member).1

theorem changeAt {change : List Entry → List Entry}
    (keeps : ∀ entries, Distinct entries → Distinct (change entries)) (names : List String)
    (distinct : Distinct entries) : Distinct (changeAt change names entries) := by
  induction names generalizing entries with
  | nil => exact keeps entries distinct
  | cons step rest ih =>
    rw [Entry.changeAt]
    refine of_inside ?_ (List.forall_mem_map.2 ?_)
    · rw [List.map_map]
      convert distinct.names using 1
      refine List.map_congr_left fun entry _ => ?_
      dsimp only [Function.comp_apply]
      split
      · split
        · rfl
        · rfl
      · rfl
    · intro entry member
      split
      · next name inner =>
        have within := distinct.inside member name inner rfl
        split
        · rintro _ _ ⟨⟩
          exact ih within
        · rintro _ _ ⟨⟩
          exact within
      · exact distinct.inside member

end Distinct
end Entry

namespace FileSystem

def Distinct (files : FileSystem) : Prop := Entry.Distinct files.top

section Reached

variable {files : FileSystem} {here names parts : List String} {entries : List Entry}

/-- A directory or a file is where the names lead, without links. -/
inductive Holds (files : FileSystem) : Located → Prop where
  | directory {names : List String} {entries : List Entry} :
      Entry.descend files.top names = some entries → Holds files (.directory names entries)
  | file {above : List String} {name other : String} {document : Document} :
      files.child? above name = some (.file other document) →
      Holds files (.file (above ++ [name]) document)

theorem holds_of_follow {onLink : List String → List String → Except FileError Located}
    {there : Located}
    (onward : ∀ here parts, onLink here parts = .ok there → files.Holds there)
    (found : files.follow onLink here parts = .ok there) : files.Holds there := by
  fun_induction follow files onLink here parts with
  | case1 here entries reached =>
    cases found
    exact .directory reached
  | case2 => cases found
  | case3 here rest ih => exact ih found
  | case4 => cases found
  | case5 here rest _ _ ih => exact ih found
  | case6 here rest _ _ _ ih => exact ih found
  | case7 => cases found
  | case8 => cases found
  | case9 here part rest _ _ _ _ _ _ _ _ ih => exact ih found
  | case10 here part rest => exact onward _ _ found
  | case11 here part _ _ _ _ _ _ _ held =>
    cases found
    exact .file held
  | case12 => cases found

theorem holds_of_followWithin {links : Nat} {there : Located}
    (found : files.followWithin links here parts = .ok there) : files.Holds there := by
  induction links generalizing here parts with
  | zero =>
    rw [followWithin] at found
    refine holds_of_follow ?_ found
    intro _ _ too_many
    cases too_many
  | succ links ih =>
    rw [followWithin] at found
    exact holds_of_follow (fun _ _ => ih) found

theorem followWithin_of_locate {text : String} {there : Located}
    (found : files.locate text = .ok there) : text ≠ "" ∧
      files.followWithin linkLimit (startOf files.current text) (components text) = .ok there := by
  rw [locate] at found
  split at found
  · cases found
  · next written =>
    split at found
    · cases found
    · split at found
      · cases found
      · exact ⟨written, found⟩

theorem holds_of_locate {path : String} {there : Located}
    (found : files.locate path = .ok there) : files.Holds there :=
  holds_of_followWithin (followWithin_of_locate found).2

theorem descend_of_locate {path : String}
    (found : files.locate path = .ok (.directory names entries)) :
    Entry.descend files.top names = some entries := by
  cases holds_of_locate found with
  | directory reached => exact reached

theorem Distinct.located (distinct : files.Distinct) {path : String}
    (found : files.locate path = .ok (.directory names entries)) : Entry.Distinct entries :=
  Entry.Distinct.descend distinct (descend_of_locate found)

end Reached

namespace Distinct

variable {files made : FileSystem} {here names parts : List String}

theorem emptyProject (name : String) : (emptyProject name).Distinct := by
  refine .mk (List.nodup_singleton _) ?_
  intro other inner member
  cases List.mem_singleton.1 member
  exact .nil

theorem changeAt (distinct : files.Distinct) (here : List String)
    {change : List Entry → List Entry}
    (keeps : ∀ entries, Entry.Distinct entries → Entry.Distinct (change entries)) :
    (files.changeAt here change).Distinct :=
  Entry.Distinct.changeAt keeps here distinct

theorem put (distinct : files.Distinct) (here : List String) {new : Entry}
    (inside : new.DistinctInside) : (files.changeAt here (Entry.put new)).Distinct :=
  distinct.changeAt here fun _ entries => entries.put inside

theorem makeWay (distinct : files.Distinct)
    (way : files.makeWay here parts = some (made, names)) : made.Distinct := by
  fun_induction FileSystem.makeWay files here parts with
  | case1 files here =>
    cases way
    exact distinct
  | case2 files here part rest _ ih => exact ih distinct way
  | case3 files here rest _ ih => exact ih distinct way
  | case4 files here part rest _ _ _ ih =>
    refine ih (distinct.put here ?_) way
    rintro _ _ ⟨⟩
    exact .nil
  | case5 files here part rest _ _ _ _ _ ih => exact ih distinct way
  | case6 files here part rest _ _ _ _ _ names _ _ ih => exact ih distinct way
  | case7 => cases way
  | case8 => cases way

theorem addDirectory (distinct : files.Distinct) (text : String) :
    (files.addDirectory text).Distinct := by
  rw [FileSystem.addDirectory]
  split
  · next way => exact distinct.makeWay way
  · exact distinct

theorem makeParent (distinct : files.Distinct) {name : String}
    (way : files.makeParent here parts = some (made, names, name)) : made.Distinct := by
  rw [FileSystem.makeParent, Option.bind_eq_bind, Option.bind_eq_some_iff] at way
  obtain ⟨⟨between, reached⟩, led, rest⟩ := way
  simp only [Option.bind_eq_bind, Option.bind_eq_some_iff] at rest
  obtain ⟨last, -, same⟩ := rest
  cases same
  exact distinct.makeWay led

theorem addLink (distinct : files.Distinct) (text target : String) :
    (files.addLink text target).Distinct := by
  rw [FileSystem.addLink]
  split
  · next way => exact (distinct.makeParent way).put _ nofun
  · exact distinct

theorem write (distinct : files.Distinct) (text : String) (document : Document) :
    (files.write text document).Distinct := by
  rw [FileSystem.write]
  generalize startOf files.current text = here, components text = parts, linkLimit = links
  fun_induction writeWithin document links files here parts with
  | case1 => exact distinct
  | case2 _ _ _ _ _ _ _ way => exact distinct.makeParent way
  | case3 _ _ _ _ _ _ way => exact distinct.makeParent way
  | case4 _ _ _ _ _ _ way _ _ _ _ ih => exact ih (distinct.makeParent way)
  | case5 _ _ _ _ _ _ _ way => exact (distinct.makeParent way).put _ nofun

theorem remove (distinct : files.Distinct) (text : String) : (files.remove text).Distinct := by
  rw [FileSystem.remove]
  split
  · exact distinct.changeAt _ fun _ entries => entries.filter _
  · exact distinct

end Distinct

inductive Built : FileSystem → Prop where
  | empty (name : String) : Built (emptyProject name)
  | addDirectory {files : FileSystem} (text : String) : Built files →
      Built (files.addDirectory text)
  | addLink {files : FileSystem} (text target : String) : Built files →
      Built (files.addLink text target)
  | write {files : FileSystem} (text : String) (document : Document) : Built files →
      Built (files.write text document)
  | remove {files : FileSystem} (text : String) : Built files → Built (files.remove text)

theorem Built.distinct {files : FileSystem} (built : files.Built) : files.Distinct := by
  induction built with
  | empty name => exact .emptyProject name
  | addDirectory text _ ih => exact ih.addDirectory text
  | addLink text target _ ih => exact ih.addLink text target
  | write text document _ ih => exact ih.write text document
  | remove text _ ih => exact ih.remove text

end FileSystem
end CodeNav
