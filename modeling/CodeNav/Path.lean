import CodeNav.Text.Cut

/-! Paths as a root and components. Repeated slashes and `.` components mean nothing and are not
kept; `..` is kept, because a link may stand before it. The text of a path is its one canonical
spelling, and a file is known by that spelling wherever it is stored. -/
namespace CodeNav

inductive Root where
  | current
  | single
  | double
deriving DecidableEq, Repr

structure Path where
  root : Root
  parts : List String
deriving DecidableEq, Repr

namespace Path

def rootOf : List Char → Root
  | '/' :: '/' :: '/' :: _ => .single
  | '/' :: '/' :: _ => .double
  | '/' :: _ => .single
  | _ => .current

def partsOf (text : List Char) : List String :=
  ((Text.fields '/' text).map String.ofList).filter fun part => part ≠ "" ∧ part ≠ "."

def ofString (text : String) : Path := ⟨rootOf text.toList, partsOf text.toList⟩

def rootText : Root → String
  | .current => ""
  | .single => "/"
  | .double => "//"

protected def toString (path : Path) : String :=
  if path.root = .current ∧ path.parts = [] then "."
  else rootText path.root ++ "/".intercalate path.parts

instance : ToString Path := ⟨Path.toString⟩

def parent (path : Path) : Path := { path with parts := path.parts.dropLast }

def forwardSlashes (text : String) : String :=
  String.ofList (text.toList.map fun c => if c = '\\' then '/' else c)

/-- The canonical spelling of a file's path, in which a backslash separates like a slash. -/
def normalize (text : String) : String := (ofString (forwardSlashes text)).toString

def append (directory name : String) : String :=
  if directory.toList.getLast? = some '/' then directory ++ name else directory ++ "/" ++ name

end Path
end CodeNav
