import CodeNav.FileSystem.Locate
import CodeNav.Path
import CodeNav.Project.Notice
import CodeNav.Text.Case
import CodeNav.Text.Glob

/-! Which files given paths stand for. A directory stands for the files in it, then for those of
its subdirectories, each by name; links to directories are not followed below it, and
subdirectories of certain names are left out, as are those that cannot be opened. A walk goes no
deeper than directories may nest. -/
namespace CodeNav

def skips (patterns : List String) (name : String) : Bool :=
  patterns.any fun pattern =>
    (Text.Glob.ofString (Text.lower pattern)).accepts (Text.lower name).toList

def sortByName {α : Type} (named : List (String × α)) : List (String × α) :=
  named.mergeSort fun a b => decide (a.1 ≤ b.1)

namespace Discovery

/-- The entry counts as a file of a directory: it is neither a directory nor a link to one. -/
def isFile (files : FileSystem) (directory : String) : Entry → Bool
  | .file _ _ => true
  | .directory _ _ => false
  | .link name _ => !files.isDirectory (Path.append directory name)

def ownFiles (files : FileSystem) (directory : String) (entries : List Entry) : List String :=
  let names := (entries.filter (isFile files directory)).map Entry.name
  (names.mergeSort fun a b => decide (a ≤ b)).map fun name =>
    Path.normalize (Path.append directory name)

mutual

/-- What a walk meets below an entry of a directory that is not left out: files, if the entry is a
directory that can be opened. Where no more than `room` directories can be nested, the walk breaks
off at the next one, even if that is but a link, and this shows as `none`. -/
def belowEntry (files : FileSystem) (skip : List String) (room : Option Nat) (directory : String) :
    Entry → List (Option String)
  | .directory name entries =>
    let here := Path.append directory name
    if skips skip name then []
    else if room = some 0 then [none]
    else if files.opens here then
      (ownFiles files here entries).map some ++
        (sortByName (belowEntries files skip (room.map Nat.pred) here entries)).flatMap Prod.snd
    else []
  | .link name _ =>
    if skips skip name then []
    else if room = some 0 ∧ files.isDirectory (Path.append directory name) then [none]
    else []
  | .file _ _ => []

def belowEntries (files : FileSystem) (skip : List String) (room : Option Nat)
    (directory : String) : List Entry → List (String × List (Option String))
  | [] => []
  | entry :: rest =>
    (entry.name, belowEntry files skip room directory entry) ::
      belowEntries files skip room directory rest

end

def below (files : FileSystem) (skip : List String) (room : Option Nat) (directory : String)
    (entries : List Entry) : List (Option String) :=
  (ownFiles files directory entries).map some ++
    (sortByName (belowEntries files skip room directory entries)).flatMap Prod.snd

def walk (files : FileSystem) (skip : List String) (path : String) :
    Except FileError (Option (List (Option String))) :=
  match files.locate path with
  | .ok (.directory _ entries) =>
    .ok (some (if files.opens path then below files skip files.nesting path entries else []))
  | .ok (.file _ _) => .ok (some [some (Path.normalize path)])
  | .error error => if error.meansAbsent then .ok none else .error error

def upToBreak (met : List (Option String)) : List String :=
  (met.takeWhile Option.isSome).filterMap id

end Discovery

structure Discovery where
  files : List String
  missing : List String
  failure : Option (FileError × String)
deriving DecidableEq, Repr

namespace Discovery

def visit (files : FileSystem) (skip : List String) : List String → Discovery
  | [] => ⟨[], [], none⟩
  | given :: rest =>
    let path := (Path.ofString given).toString
    match walk files skip path with
    | .error error => ⟨[], [], some (error, path)⟩
    | .ok none =>
      let later := visit files skip rest
      { later with missing := given :: later.missing }
    | .ok (some met) =>
      if none ∈ met then ⟨upToBreak met, [], some (.tooDeep, path)⟩
      else
        let later := visit files skip rest
        { later with files := upToBreak met ++ later.files }

/-- What paths stand for. Each file counts once, where it comes first. -/
def ofPaths (files : FileSystem) (skip : List String) (paths : List String) : Discovery :=
  let visited := visit files skip paths
  { visited with files := visited.files.eraseDups }

def notices (discovery : Discovery) : List Notice :=
  discovery.missing.map Notice.pathMissing ++
    discovery.failure.toList.map fun failure => Notice.discoveryFailed failure.1 failure.2

end Discovery
end CodeNav
