import CodeNav.Grammar.Basic
import CodeNav.Text.Cut

/-! The language TypeScript: functions, classes and their methods, interfaces, enumerations, type
names and variables. -/
namespace CodeNav.Grammar.TypeScript

open Syntax Pattern

def declaration (kind nameKind label : String) : Pattern :=
  ofKind kind [ofKind nameKind [] |>.inField "name" |>.captured (label ++ ".name")]
  |>.captured (label ++ ".def")

def method : Pattern :=
  ofKind "class_declaration" [
    ofKind "type_identifier" [] |>.inField "name" |>.captured "method.container",
    ofKind "class_body" [
      declaration "method_definition" "property_identifier" "method"] |>.inField "body"]

def definitions : Query := ⟨[
  [declaration "function_declaration" "identifier" "fn"],
  [declaration "class_declaration" "type_identifier" "cls"],
  [declaration "abstract_class_declaration" "type_identifier" "cls"],
  [declaration "interface_declaration" "type_identifier" "iface"],
  [declaration "enum_declaration" "identifier" "enum"],
  [declaration "type_alias_declaration" "type_identifier" "type"],
  [declaration "variable_declarator" "identifier" "var"],
  [method]]⟩

def references : Query := namesOf ["identifier", "type_identifier", "property_identifier"]

def importOf (part : Pattern) : Pattern :=
  ofKind "import_statement" [
    ofKind "import_clause" [part],
    ofKind "string" [] |>.inField "source" |>.captured "import.module"]
  |>.captured "import.stmt"

def ownName : Pattern := ofKind "identifier" [] |>.captured "import.alias"

def exportedName : Pattern :=
  ofKind "identifier" [] |>.inField "name" |>.captured "import.name"

def imports : Query := ⟨[
  [importOf ownName],
  [importOf (ofKind "namespace_import" [ownName])],
  [importOf (ofKind "named_imports" [
    ofKind "import_specifier" [exportedName, ownName.inField "alias"]])],
  [importOf (ofKind "named_imports" [
    ofKind "import_specifier" [exportedName] |>.lacking "alias"])]]⟩

def isSpecifierQuote (c : Char) : Bool := c = '"' || c = '\'' || c = '\x60'

def exportMark : String := "#"

/-- An import of a named symbol binds its name or the one given to it. Any other import binds the
name it gives, for the module as a whole. -/
def binding (captures : Captures) : Option Binding := do
  let source ← captures.get? "import.module"
  let specifier := String.ofList (Text.trimBoth isSpecifierQuote source.text.toList)
  let own := captures.get? "import.alias"
  match captures.get? "import.name" with
  | some name =>
    let located := own.getD name
    some ⟨located.text, specifier ++ exportMark ++ name.text, located⟩
  | none => own.map fun own => ⟨own.text, specifier, own⟩

/-- The name behind the last mark. Without a mark the target is a module. -/
def importedName (target : String) : Option String :=
  (Text.cutLast? exportMark.toList target.toList).map fun parts => String.ofList parts.2

end TypeScript

def typescript : Grammar where
  name := "typescript"
  tag := "ts"
  title := "TypeScriptAdapter"
  extensions := [".ts", ".mts", ".cts"]
  definitions := TypeScript.definitions
  references := TypeScript.references
  imports := TypeScript.imports
  binding := fun captures => .ok (TypeScript.binding captures)
  importedName := TypeScript.importedName

end CodeNav.Grammar
