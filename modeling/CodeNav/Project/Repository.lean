import CodeNav.FileSystem.Locate

/-! The repository in which a directory lies: the nearest directory from it upward that holds
version control data. -/
namespace CodeNav

namespace Repository

def marker : String := ".git"

def isMarked (files : FileSystem) (names : List String) : Except FileError Bool :=
  match files.locate (FileSystem.nameText (names ++ [marker])) with
  | .ok _ => .ok true
  | .error error => if error.meansAbsent then .ok false else .error error

/-- The nearest marked directory from one upward. The names that lead to that one are given with
the last of them first. The top is its own parent: the search ends there, and does not look. -/
def search (files : FileSystem) : List String → Except FileError (Option (List String))
  | [] => .ok none
  | name :: above => do
    let here := (name :: above).reverse
    if ← isMarked files here then return some here else search files above

def around (files : FileSystem) (names : List String) : Except FileError (List String) :=
  (search files names.reverse).map fun root => root.getD names

def enclosing (files : FileSystem) (directory : String) : Except FileError String := do
  let located ← files.locate directory
  return FileSystem.nameText (← around files located.names)

end Repository
end CodeNav
