import CodeNav.Document
import CodeNav.Text.Quoted

/-! File systems: directories that hold files, directories and symbolic links, and the ways on
which a path can lead to nothing. -/
namespace CodeNav

/-- What a directory holds under a name. The target of a link is a path that starts at the
directory of the link. -/
inductive Entry where
  | file (name : String) (document : Document)
  | directory (name : String) (entries : List Entry)
  | link (name target : String)

namespace Entry

def name : Entry → String
  | .file name _ => name
  | .directory name _ => name
  | .link name _ => name

def named? (name : String) (entries : List Entry) : Option Entry :=
  entries.find? fun entry => entry.name = name

def descend : List Entry → List String → Option (List Entry)
  | entries, [] => some entries
  | entries, name :: rest =>
    match named? name entries with
    | some (.directory _ inner) => descend inner rest
    | _ => none

end Entry

inductive FileError where
  | notFound
  | notDirectory
  | isDirectory
  | nameTooLong
  | tooManyLinks
  | notPermitted
  | unusable
  | tooDeep
deriving DecidableEq, Repr

namespace FileError

def wording : FileError → String
  | .notFound => "[Errno 2] No such file or directory"
  | .notDirectory => "[Errno 20] Not a directory"
  | .isDirectory => "[Errno 21] Is a directory"
  | .nameTooLong => "[Errno 36] File name too long"
  | .tooManyLinks => "[Errno 40] Too many levels of symbolic links"
  | .notPermitted => "[Errno 13] Permission denied"
  | .unusable => "embedded null byte"
  | .tooDeep => "maximum recursion depth exceeded"

def message (error : FileError) (path : String) : String :=
  if error = .unusable ∨ error = .tooDeep then error.wording
  else s!"{error.wording}: {Text.quoted path}"

def meansAbsent : FileError → Bool
  | .notFound => true
  | .notDirectory => true
  | .tooManyLinks => true
  | .unusable => true
  | .isDirectory => false
  | .nameTooLong => false
  | .notPermitted => false
  | .tooDeep => false

end FileError

structure FileSystem where
  top : List Entry
  current : List String
  /-- The directories whose entries may not be listed. -/
  unlisted : List (List String) := []
  /-- The directories through which no path may lead. -/
  unsearchable : List (List String) := []
  /-- How many directories deep a walk can go, if there is a limit to it. -/
  nesting : Option Nat := none

end CodeNav
