import CodeNav.Project.Discovery
import CodeNav.Proofs.FileSystem.Distinct
import CodeNav.Proofs.Matched
import CodeNav.Proofs.Sorting

/-! Walks through directories. What can be reached from a directory is told by the names that lead
there, whatever the walk, and so is the order: the files of a directory come before what is in its
subdirectories, and each of these in the order of names. -/
namespace CodeNav.Discovery

def textAt (directory : String) (trail : List String) : String := trail.foldl Path.append directory

inductive Leaf (files : FileSystem) (directory : String) : Entry → Prop where
  | file {name : String} {document : Document} : Leaf files directory (.file name document)
  | link {name target : String} : (∀ names entries,
      files.locate (Path.append directory name) ≠ .ok (.directory names entries)) →
      Leaf files directory (.link name target)

inductive Reaches (files : FileSystem) (enters : String → String → Prop) :
    String → List Entry → List String → Prop where
  | own {directory : String} {entries : List Entry} {entry : Entry} : entry ∈ entries →
      Leaf files directory entry → Reaches files enters directory entries [entry.name]
  | through {directory name : String} {entries inner : List Entry} {trail : List String} :
      .directory name inner ∈ entries → enters directory name →
      Reaches files enters (Path.append directory name) inner trail →
      Reaches files enters directory entries (name :: trail)

/-- What comes first in a walk: of two leaves of a directory the one whose name is less, a leaf
before what is in a subdirectory, and so is what is in a subdirectory whose name is less. -/
inductive Precedes : List String → List String → Prop where
  | leaves {first second : String} : first < second → Precedes [first] [second]
  | upper {leaf name : String} {trail : List String} : trail ≠ [] →
      Precedes [leaf] (name :: trail)
  | directories {first second : String} {trail other : List String} : trail ≠ [] → other ≠ [] →
      first < second → Precedes (first :: trail) (second :: other)
  | within {name : String} {trail other : List String} : Precedes trail other →
      Precedes (name :: trail) (name :: other)

structure Walks (files : FileSystem) (enters : String → String → Prop) (directory : String)
    (entries : List Entry) (trails : List (List String)) : Prop where
  ordered : trails.Pairwise Precedes
  exactly : ∀ trail, trail ∈ trails ↔ Reaches files enters directory entries trail

variable {files : FileSystem} {enters : String → String → Prop} {directory : String}
  {entries : List Entry} {trail other : List String}

theorem Reaches.ne_nil (reaches : Reaches files enters directory entries trail) : trail ≠ [] := by
  cases reaches with
  | own => exact List.cons_ne_nil _ _
  | through => exact List.cons_ne_nil _ _

theorem not_precedes_nil : ¬ Precedes trail [] := nofun

theorem Precedes.asymm (first : Precedes trail other) : ¬ Precedes other trail := by
  induction first with
  | leaves less =>
    intro second
    cases second with
    | leaves more => exact absurd less (lt_asymm more)
    | upper some_left => exact some_left rfl
    | directories some_left => exact some_left rfl
    | within inner => exact not_precedes_nil inner
  | upper some_left =>
    intro second
    cases second with
    | leaves => exact some_left rfl
    | upper also_left => exact also_left rfl
    | directories _ also_left => exact also_left rfl
    | within inner => exact not_precedes_nil inner
  | directories some_left also_left less =>
    intro second
    cases second with
    | leaves => exact some_left rfl
    | upper => exact also_left rfl
    | directories _ _ more => exact absurd less (lt_asymm more)
    | within => exact absurd less (lt_irrefl _)
  | within inner ih =>
    intro second
    cases second with
    | leaves less => exact absurd less (lt_irrefl _)
    | upper => exact not_precedes_nil inner
    | directories _ _ less => exact absurd less (lt_irrefl _)
    | within also_inner => exact ih also_inner

theorem Walks.unique {trails others : List (List String)}
    (first : Walks files enters directory entries trails)
    (second : Walks files enters directory entries others) : trails = others := by
  have nodup {walked : List (List String)} (ordered : walked.Pairwise Precedes) :
      walked.Nodup := by
    apply ordered.imp
    rintro trail _ before rfl
    exact before.asymm before
  refine List.Perm.eq_of_pairwise ?_ first.ordered second.ordered ?_
  · intro a b _ _ before after
    exact absurd after before.asymm
  · rw [List.perm_ext_iff_of_nodup (nodup first.ordered) (nodup second.ordered)]
    exact fun trail => (first.exactly trail).trans (second.exactly trail).symm

def LeftOut (skip : List String) (name : String) : Prop :=
  ∃ pattern ∈ skip,
    (Text.Glob.ofString (Text.lower pattern)).Stands (Text.lower name).toList

/-- The subdirectory of this name is entered: it is not left out, and it can be opened. -/
def Entered (files : FileSystem) (skip : List String) (directory name : String) : Prop :=
  ¬ LeftOut skip name ∧ files.opens (Path.append directory name) = true

/-- Below a directory, in so many others that are entered one within the other, stands one more that
is not left out, or a link to one. -/
inductive Nested (files : FileSystem) (skip : List String) : Nat → String → List Entry → Prop where
  | next {directory : String} {entries : List Entry} {entry : Entry} : entry ∈ entries →
      ¬ Leaf files directory entry → ¬ LeftOut skip entry.name →
      Nested files skip 0 directory entries
  | within {depth : Nat} {directory name : String} {entries inner : List Entry} :
      .directory name inner ∈ entries → Entered files skip directory name →
      Nested files skip depth (Path.append directory name) inner →
      Nested files skip (depth + 1) directory entries

structure WalksInto (files : FileSystem) (enters : String → String → Prop) (directory : String)
    (entry : Entry) (trails : List (List String)) : Prop where
  ordered : trails.Pairwise Precedes
  exactly : ∀ trail, trail ∈ trails ↔ ∃ inner rest, entry = .directory entry.name inner ∧
    enters directory entry.name ∧
      Reaches files enters (Path.append directory entry.name) inner rest ∧
        trail = entry.name :: rest

def byName (entries : List Entry) : List Entry :=
  entries.mergeSort fun a b => decide (a.name ≤ b.name)

theorem belowEntries_eq (files : FileSystem) (skip : List String) (room : Option Nat)
    (directory : String) (entries : List Entry) :
    belowEntries files skip room directory entries =
      entries.map fun entry => (entry.name, belowEntry files skip room directory entry) := by
  induction entries with
  | nil => rfl
  | cons entry rest ih => rw [belowEntries, ih, List.map_cons]

theorem below_eq (files : FileSystem) (skip : List String) (room : Option Nat)
    (directory : String) (entries : List Entry) : below files skip room directory entries =
      (ownFiles files directory entries).map some ++
        (byName entries).flatMap (belowEntry files skip room directory) := by
  have sorted : sortByName (belowEntries files skip room directory entries) =
      (byName entries).map fun entry =>
        (entry.name, belowEntry files skip room directory entry) := by
    rw [belowEntries_eq, byName, List.map_mergeSort]
    · rfl
    · intro a _ b _
      rfl
  rw [below, sorted, List.flatMap_map]

section Directory

variable {skip : List String} {room : Option Nat} {name : String} {inner : List Entry}

end Directory

section Walked

variable {walked : List (List (List String))}
  (below : List.Forall₂ (WalksInto files enters directory) (byName entries) walked)
include below

end Walked

def fileAt (directory : String) (trail : List String) : String :=
  Path.normalize (textAt directory trail)

/-- What a walk meets are the files of another one, up to where it breaks off. -/
inductive Follows : List (Option String) → List String → Prop where
  | nil : Follows [] []
  | cons {met : List (Option String)} {found : List String} (file : String) :
      Follows met found → Follows (some file :: met) (file :: found)
  | breaks (met : List (Option String)) (found : List String) : Follows (none :: met) found

namespace Follows

variable {met other : List (Option String)} {found more : List String}

theorem map_some (found : List String) : Follows (found.map some) found := by
  induction found with
  | nil => exact .nil
  | cons file rest ih => exact .cons file ih

theorem append (first : Follows met found) (second : Follows other more) :
    Follows (met ++ other) (found ++ more) := by
  induction first with
  | nil => exact second
  | cons file _ ih => exact .cons file ih
  | breaks => exact .breaks _ _

theorem flatMap {α : Type} {meets : α → List (Option String)} {items : List α}
    {founds : List (List String)}
    (each : List.Forall₂ (fun item found => Follows (meets item) found) items founds) :
    Follows (items.flatMap meets) founds.flatten := by
  induction each with
  | nil => exact .nil
  | cons here _ ih => exact here.append ih

end Follows

section Met

variable {skip : List String}

theorem Walks.into {name : String} {inner : List Entry} {trails : List (List String)}
    (walks : Walks files enters (Path.append directory name) inner trails)
    (entered : enters directory name) :
    WalksInto files enters directory (.directory name inner) (trails.map (name :: ·)) := by
  constructor
  · rw [List.pairwise_map]
    exact walks.ordered.imp .within
  · intro trail
    rw [List.mem_map]
    constructor
    · rintro ⟨rest, member, rfl⟩
      exact ⟨inner, rest, rfl, entered, (walks.exactly rest).1 member, rfl⟩
    · rintro ⟨_, rest, ⟨⟩, -, reaches, rfl⟩
      exact ⟨rest, (walks.exactly rest).2 reaches, rfl⟩

end Met

end CodeNav.Discovery
