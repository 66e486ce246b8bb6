import CodeNav.FileSystem.Change
import CodeNav.Text.Hex
import CodeNav.Text.Numeral

/-! Snapshots of a project: a text that says, line by line, which directories, links and files
there are, and what the parsers made of the files. Every line is a word and its values, with a
tab between them. All paths start at the project directory.

* `dir PATH` and `link PATH TARGET` stand for a directory and a link;
* `file PATH HEX` stands for a file, with its bytes as hexadecimal digits;
* `tree` gives the file before it a syntax tree, and each `node DEPTH TYPE FIELD START END` after
  it a node of that tree; the field is empty if the node has none. -/
namespace CodeNav.Snapshot

open Syntax

structure Malformed where
  line : String
deriving DecidableEq, Repr

def bytes? : List Char → Option Text.Utf8.Bytes
  | [] => some []
  | high :: low :: rest => do
    return UInt8.ofNat (16 * (← Text.hexValue? high) + (← Text.hexValue? low)) :: (← bytes? rest)
  | [_] => none

structure State where
  files : FileSystem
  last : Option (String × Document)

def node? (depth kind field start stop : String) : Option Node := do
  return ⟨← Text.natural? depth.toList, kind, if field = "" then none else some field,
    ← Text.natural? start.toList, ← Text.natural? stop.toList⟩

def State.settle (state : State) : FileSystem :=
  match state.last with
  | some (path, document) => state.files.write path document
  | none => state.files

def State.change (state : State) (change : Document → Document) : State :=
  { state with last := state.last.map fun file => (file.1, change file.2) }

def addNode (node : Node) (document : Document) : Document :=
  { document with tree := document.tree.map fun tree => ⟨tree.nodes ++ [node]⟩ }

def readLine (state : State) (line : String) : Except Malformed State :=
  match (Text.fields '\t' line.toList).map String.ofList with
  | [""] => .ok state
  | ["dir", path] => .ok ⟨state.settle.addDirectory path, none⟩
  | ["link", path, target] => .ok ⟨state.settle.addLink path target, none⟩
  | ["file", path, hex] =>
    match bytes? hex.toList with
    | some bytes => .ok ⟨state.settle, some (path, ⟨bytes, none⟩)⟩
    | none => .error ⟨line⟩
  | ["tree"] => .ok (state.change fun document => { document with tree := some ⟨[]⟩ })
  | ["node", depth, kind, field, start, stop] =>
    match node? depth kind field start stop with
    | some node => .ok (state.change (addNode node))
    | none => .error ⟨line⟩
  | _ => .error ⟨line⟩

def projectDirectory : String := "project"

def read (text : String) : Except Malformed FileSystem := do
  let lines := (Text.fields '\n' text.toList).map String.ofList
  let state ← lines.foldlM readLine ⟨.emptyProject projectDirectory, none⟩
  return state.settle

end CodeNav.Snapshot
