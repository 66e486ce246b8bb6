import CodeNav.FileSystem.Basic
import CodeNav.Text.Cut

/-! Where a path leads. Links are followed, at most forty of them, so that links in a circle come
to an end; `..` leaves the directory that the components before it have really reached. -/
namespace CodeNav

inductive Located where
  | directory (names : List String) (entries : List Entry)
  | file (names : List String) (document : Document)

def Located.names : Located → List String
  | .directory names _ => names
  | .file names _ => names

namespace FileSystem

def linkLimit : Nat := 40

def nameLimit : Nat := 255

def pathLimit : Nat := 4096

def components (text : String) : List String :=
  (Text.fields '/' text.toList).map String.ofList

def startOf (here : List String) (text : String) : List String :=
  if text.startsWith "/" then [] else here

def child? (files : FileSystem) (here : List String) (name : String) : Option Entry :=
  (Entry.descend files.top here).bind (Entry.named? name)

/-- Follows components from the directory to which the names `here` lead. Where a link stands,
`onLink` goes on from a directory with the components of the target and those that are left. -/
def follow (files : FileSystem)
    (onLink : List String → List String → Except FileError Located) (here : List String) :
    List String → Except FileError Located
  | [] =>
    match Entry.descend files.top here with
    | some entries => .ok (.directory here entries)
    | none => .error .notFound
  | part :: rest =>
    if part = "" then follow files onLink here rest
    else if here ∈ files.unsearchable then .error .notPermitted
    else if part = "." then follow files onLink here rest
    else if part = ".." then follow files onLink here.dropLast rest
    else if nameLimit < part.utf8ByteSize then .error .nameTooLong
    else match files.child? here part with
      | none => .error .notFound
      | some (.directory _ _) => follow files onLink (here ++ [part]) rest
      | some (.link _ target) => onLink (startOf here target) (components target ++ rest)
      | some (.file _ document) =>
        if rest = [] then .ok (.file (here ++ [part]) document) else .error .notDirectory

def followWithin (files : FileSystem) :
    Nat → List String → List String → Except FileError Located
  | 0, here, parts => files.follow (fun _ _ => .error .tooManyLinks) here parts
  | links + 1, here, parts => files.follow (files.followWithin links) here parts

def locate (files : FileSystem) (text : String) : Except FileError Located :=
  if text = "" then .error .notFound
  else if '\x00' ∈ text.toList then .error .unusable
  else if pathLimit ≤ text.utf8ByteSize then .error .nameTooLong
  else files.followWithin linkLimit (startOf files.current text) (components text)

def isDirectory (files : FileSystem) (text : String) : Bool :=
  match files.locate text with
  | .ok (.directory _ _) => true
  | _ => false

def opens (files : FileSystem) (text : String) : Bool :=
  match files.locate text with
  | .ok (.directory names _) => names ∉ files.unlisted
  | _ => false

def pathExists (files : FileSystem) (text : String) : Bool := (files.locate text).isOk

def nameText (names : List String) : String := "/" ++ "/".intercalate names

def realPath (files : FileSystem) (text : String) : Except FileError String :=
  (files.locate text).map fun located => nameText located.names

def directorySize : Nat := 4096

def sizeAt (files : FileSystem) (text : String) : Except FileError Nat :=
  (files.locate text).map fun
    | .file _ document => document.bytes.length
    | .directory _ _ => directorySize

def read (files : FileSystem) (text : String) : Except FileError Document :=
  match files.locate text with
  | .ok (.file _ document) => .ok document
  | .ok (.directory _ _) => .error .isDirectory
  | .error error => .error error

end FileSystem
end CodeNav
