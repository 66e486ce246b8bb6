import CodeNav.Grammar.Basic
import CodeNav.Text.Cut

/-! The language Python: functions, classes, methods under their class, and assignments at the top
of a module. -/
namespace CodeNav.Grammar.Python

open Syntax Pattern

def nameOf (label : String) : Pattern :=
  ofKind "identifier" [] |>.inField "name" |>.captured label

def classAround (child : Pattern) : Pattern :=
  ofKind "class_definition" [
    nameOf "method.container",
    ofKind "block" [child] |>.inField "body"]

def methodDefinition : Pattern := ofKind "function_definition" [nameOf "method.name"]

def definitions : Query := ⟨[
  [ofKind "function_definition" [nameOf "fn.name"] |>.captured "fn.def"],
  [ofKind "class_definition" [nameOf "cls.name"] |>.captured "cls.def"],
  [classAround (methodDefinition.captured "method.def")],
  [classAround (ofKind "decorated_definition" [
    methodDefinition.inField "definition" |>.captured "method.def"])],
  [ofKind "module" [
    ofKind "expression_statement" [
      ofKind "assignment" [ofKind "identifier" [] |>.inField "left" |>.captured "var.name"]
        |>.captured "var.def"]]]]⟩

def references : Query := namesOf ["identifier"]

def dottedName (label : String) : Pattern :=
  ofKind "dotted_name" [] |>.inField "name" |>.captured label

def renamed (label : String) : Pattern :=
  ofKind "aliased_import" [
    dottedName label,
    ofKind "identifier" [] |>.inField "alias" |>.captured "import.alias"]
  |>.inField "name"

def fromModule : Pattern := anyNode.inField "module_name" |>.captured "import.module"

def imports : Query := ⟨[
  [ofKind "import_statement" [dottedName "import.module"] |>.captured "import.stmt"],
  [ofKind "import_statement" [renamed "import.module"] |>.captured "import.stmt"],
  [ofKind "import_from_statement" [fromModule, dottedName "import.name"]
    |>.captured "import.stmt"],
  [ofKind "import_from_statement" [fromModule, renamed "import.name"]
    |>.captured "import.stmt"]]⟩

/-- A name imported from a module binds itself or the name given to it, and stands for the name
within the module; a module that ends in a dot needs none in between. An imported module binds
the name given to it, or its first component. -/
def binding (captures : Captures) : Option Binding := do
  let source ← captures.get? "import.module"
  let own := captures.get? "import.alias"
  match captures.get? "import.name", own with
  | some name, own =>
    let located := own.getD name
    let dot := if source.text.toList.getLast? = some '.' then "" else "."
    some ⟨located.text, source.text ++ dot ++ name.text, located⟩
  | none, some own => some ⟨own.text, source.text, own⟩
  | none, none =>
    let first := source.text.toList.takeWhile (· ≠ '.')
    some ⟨String.ofList first, source.text, source⟩

def importedName (target : String) : Option String :=
  let last := match Text.cutLast? ['.'] target.toList with
    | some (_, name) => name
    | none => target.toList
  if last.isEmpty then none else some (String.ofList last)

end Python

def python : Grammar where
  name := "python"
  tag := "py"
  title := "PythonAdapter"
  extensions := [".py", ".pyi"]
  definitions := Python.definitions
  references := Python.references
  imports := Python.imports
  binding := fun captures => .ok (Python.binding captures)
  importedName := Python.importedName

def pythonWithoutImports : Grammar :=
  { python with
    binding := fun _ => .error .noImportRule
    importedName := fun _ => none }

end CodeNav.Grammar
