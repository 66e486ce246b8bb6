import CodeNav.Project.Discovery
import CodeNav.Proofs.Distinct
import CodeNav.Proofs.Path

/-! Discovery gives no file twice: each comes under its canonical spelling, and of two that are
spelled alike only the first stays. -/
namespace CodeNav

theorem nodup_eraseDups (items : List String) : items.eraseDups.Nodup :=
  (pairwise_eraseDupsBy _ items).imp fun other same => by simp [same] at other

namespace Discovery

variable {files : FileSystem} {skip : List String}

theorem normalize_of_mem_ownFiles {directory file : String} {entries : List Entry}
    (member : file ∈ ownFiles files directory entries) : Path.normalize file = file := by
  obtain ⟨name, _, rfl⟩ := List.mem_map.1 member
  exact Path.normalize_normalize _

def Canonical (met : List (Option String)) : Prop :=
  ∀ file, some file ∈ met → Path.normalize file = file

theorem canonical_nested {directory : String} {entries : List Entry}
    {nested : List (String × List (Option String))}
    (deeper : ∀ below ∈ nested, Canonical below.2) :
    Canonical ((ownFiles files directory entries).map some ++
      (sortByName nested).flatMap Prod.snd) := by
  intro file member
  rcases List.mem_append.1 member with own | inside
  · obtain ⟨_, own, same⟩ := List.mem_map.1 own
    cases same
    exact normalize_of_mem_ownFiles own
  · obtain ⟨below, sorted, inside⟩ := List.mem_flatMap.1 inside
    exact deeper below (List.mem_mergeSort.1 sorted) file inside

theorem canonical_nil : Canonical [] := nofun

theorem canonical_none : Canonical [none] := by
  intro file member
  cases List.mem_singleton.1 member

mutual

theorem canonical_belowEntry (room : Option Nat) {directory : String} (entry : Entry) :
    Canonical (belowEntry files skip room directory entry) := by
  cases entry with
  | file name document => exact canonical_nil
  | link name target =>
    rw [belowEntry]
    split
    · exact canonical_nil
    · split
      · exact canonical_none
      · exact canonical_nil
  | directory name entries =>
    rw [belowEntry]
    split
    · exact canonical_nil
    · split
      · exact canonical_none
      · split
        · exact canonical_nested (canonical_belowEntries _ entries)
        · exact canonical_nil

theorem canonical_belowEntries (room : Option Nat) {directory : String} (entries : List Entry) :
    ∀ below ∈ belowEntries files skip room directory entries, Canonical below.2 := by
  cases entries with
  | nil => exact nofun
  | cons entry rest =>
    intro below member
    rcases List.mem_cons.1 member with rfl | later
    · exact canonical_belowEntry room entry
    · exact canonical_belowEntries room rest below later

end

theorem canonical_walk {path : String} {met : List (Option String)}
    (walked : walk files skip path = .ok (some met)) : Canonical met := by
  rw [walk] at walked
  split at walked
  · cases walked
    split
    · exact canonical_nested (canonical_belowEntries _ _)
    · exact canonical_nil
  · cases walked
    intro file member
    cases List.mem_singleton.1 member
    exact Path.normalize_normalize _
  · split at walked <;> cases walked

theorem mem_of_mem_upToBreak {met : List (Option String)} {file : String}
    (member : file ∈ upToBreak met) : some file ∈ met := by
  obtain ⟨_, early, rfl⟩ := List.mem_filterMap.1 member
  exact (List.takeWhile_sublist _).subset early

theorem normalize_of_mem_visit {paths : List String} {file : String}
    (member : file ∈ (visit files skip paths).files) : Path.normalize file = file := by
  induction paths with
  | nil => cases member
  | cons given rest ih =>
    rw [visit] at member
    dsimp only at member
    split at member
    · cases member
    · exact ih member
    · next walked =>
      split at member
      · exact canonical_walk walked file (mem_of_mem_upToBreak member)
      · rcases List.mem_append.1 member with here | later
        · exact canonical_walk walked file (mem_of_mem_upToBreak here)
        · exact ih later

theorem normalize_of_mem_files {paths : List String} {file : String}
    (member : file ∈ (ofPaths files skip paths).files) : Path.normalize file = file :=
  normalize_of_mem_visit (List.mem_eraseDups.1 member)

theorem nodup_files (files : FileSystem) (skip paths : List String) :
    (ofPaths files skip paths).files.Nodup :=
  nodup_eraseDups _

end Discovery
end CodeNav
