import CodeNav.Grammar.Basic
import CodeNav.Text.Cut

/-! The language Go: functions, methods under the type of their receiver, types, variables and
constants. -/
namespace CodeNav.Grammar.Go

open Syntax Pattern

/-- The type of a receiver, in its four forms: plain or generic, and each behind a pointer. -/
def receiverTypes : List Pattern :=
  let plain := ofKind "type_identifier" [] |>.captured "method.container"
  let generic := ofKind "generic_type" [plain.inField "type"]
  [plain, ofKind "pointer_type" [plain], generic, ofKind "pointer_type" [generic]]

def method (receiver : Pattern) : Pattern :=
  ofKind "method_declaration" [
    ofKind "parameter_list" [
      ofKind "parameter_declaration" [receiver.inField "type"]] |>.inField "receiver",
    ofKind "field_identifier" [] |>.inField "name" |>.captured "method.name"]
  |>.captured "method.def"

def declaration (kind nameKind label : String) : Pattern :=
  ofKind kind [ofKind nameKind [] |>.inField "name" |>.captured (label ++ ".name")]
  |>.captured (label ++ ".def")

/-- A constant declaration. Of several names only the first one is defined. -/
def constant : Pattern :=
  ofKind "const_spec" [ofKind "identifier" [] |>.firstInField "name" |>.captured "const.name"]
  |>.captured "const.def"

def definitions : Query := ⟨[
  [declaration "function_declaration" "identifier" "fn"],
  receiverTypes.map method,
  [declaration "type_spec" "type_identifier" "type"],
  [declaration "var_spec" "identifier" "var"],
  [constant]]⟩

def references : Query := namesOf ["identifier", "type_identifier", "field_identifier"]

def imports : Query := ⟨[
  [ofKind "import_spec" [
      anyNode.inField "name" |>.captured "import.alias",
      anyNode.inField "path" |>.captured "import.module"]
    |>.captured "import.stmt"],
  [ofKind "import_spec" [anyNode.inField "path" |>.captured "import.module"]
    |>.lacking "name" |>.captured "import.stmt"]]⟩

def isPathQuote (c : Char) : Bool := c = '"' || c = '\x60'

def lastSegment (path : List Char) : List Char :=
  match Text.cutLast? ['/'] path with
  | some (_, name) => name
  | none => path

/-- The name that an import gives itself, or else the last segment of its path. Blank and dot
imports and those of an empty path bind nothing. -/
def binding (captures : Captures) : Option Binding := do
  let path ← captures.get? "import.module"
  let target := Text.trimBoth isPathQuote path.text.toList
  if target.isEmpty then none
  else match captures.get? "import.alias" with
    | some own =>
      if own.text = "_" ∨ own.text = "." then none
      else some ⟨own.text, String.ofList target, own⟩
    | none => some ⟨String.ofList (lastSegment target), String.ofList target, path⟩

end Go

def go : Grammar where
  name := "go"
  tag := "go"
  title := "GoAdapter"
  extensions := [".go"]
  definitions := Go.definitions
  references := Go.references
  imports := Go.imports
  binding := fun captures => .ok (Go.binding captures)
  importedName := fun _ => none

end CodeNav.Grammar
