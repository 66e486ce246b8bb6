import CodeNav.FileSystem.Locate

/-! Changes of a file system. Whatever is put in gets the directories that lead to it; a file that
is written where a link stands is written where the link leads. -/
namespace CodeNav

namespace Entry

def put (new : Entry) (entries : List Entry) : List Entry :=
  if entries.any fun entry => entry.name = new.name then
    entries.map fun entry => if entry.name = new.name then new else entry
  else entries ++ [new]

def changeAt (change : List Entry → List Entry) : List String → List Entry → List Entry
  | [], entries => change entries
  | name :: rest, entries => entries.map fun entry =>
    match entry with
    | .directory other inner =>
      if other = name then .directory other (changeAt change rest inner) else entry
    | _ => entry

end Entry

namespace FileSystem

def emptyProject (name : String) : FileSystem where
  top := [.directory name []]
  current := [name]

def changeAt (files : FileSystem) (here : List String) (change : List Entry → List Entry) :
    FileSystem :=
  { files with top := Entry.changeAt change here files.top }

/-- Goes through components and makes the directories that are missing. Stops where a file or a
dead link stands in the way. -/
def makeWay (files : FileSystem) (here : List String) :
    List String → Option (FileSystem × List String)
  | [] => some (files, here)
  | part :: rest =>
    if part = "" ∨ part = "." then makeWay files here rest
    else if part = ".." then makeWay files here.dropLast rest
    else match files.child? here part with
      | none =>
        makeWay (files.changeAt here (Entry.put (.directory part []))) (here ++ [part]) rest
      | some (.directory _ _) => makeWay files (here ++ [part]) rest
      | some (.link _ _) =>
        match files.followWithin linkLimit here [part] with
        | .ok (.directory names _) => makeWay files names rest
        | _ => none
      | some (.file _ _) => none

def addDirectory (files : FileSystem) (text : String) : FileSystem :=
  match files.makeWay (startOf files.current text) (components text) with
  | some (files, _) => files
  | none => files

def makeParent (files : FileSystem) (here : List String) (parts : List String) :
    Option (FileSystem × List String × String) := do
  let (files, here) ← files.makeWay here parts.dropLast
  return (files, here, ← parts.getLast?)

def addLink (files : FileSystem) (text target : String) : FileSystem :=
  match files.makeParent (startOf files.current text) (components text) with
  | some (files, here, name) => files.changeAt here (Entry.put (.link name target))
  | none => files

def writeWithin (document : Document) : Nat → FileSystem → List String → List String → FileSystem
  | links, files, here, parts =>
    match files.makeParent here parts with
    | none => files
    | some (files, here, name) =>
      match files.child? here name, links with
      | some (.directory _ _), _ => files
      | some (.link _ _), 0 => files
      | some (.link _ target), links + 1 =>
        writeWithin document links files (startOf here target) (components target)
      | _, _ => files.changeAt here (Entry.put (.file name document))

def write (files : FileSystem) (text : String) (document : Document) : FileSystem :=
  writeWithin document linkLimit files (startOf files.current text) (components text)

def remove (files : FileSystem) (text : String) : FileSystem :=
  let parts := components text
  match files.followWithin linkLimit (startOf files.current text) parts.dropLast,
      parts.getLast? with
  | .ok (.directory here _), some name =>
    files.changeAt here fun entries => entries.filter fun entry => entry.name ≠ name
  | _, _ => files

end FileSystem
end CodeNav
