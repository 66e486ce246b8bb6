import CodeNav.Findings
import CodeNav.Grammar.Basic

/-! Surveys: the matches of a language's three queries in one file, and the findings that they
make. Imports are noted first, then definitions by place, then references. -/
namespace CodeNav

open Syntax
open CodeNav.Text.Utf8 (Bytes)

structure Survey where
  imports : List Captures
  definitions : List Captures
  references : List Captures

namespace Survey

def ofTree (grammar : Grammar) (source : Bytes) (tree : Tree) : Survey where
  imports := grammar.imports.captures source tree
  definitions := grammar.definitions.captures source tree
  references := grammar.references.captures source tree

structure Named where
  name : String
  kind : String
  container : Option String
  capture : Capture
deriving DecidableEq, Repr

def kindOf (label : String) : String :=
  match label with
  | "fn" => "func"
  | "method" => "func"
  | "cls" => "class"
  | "iface" => "interface"
  | "enum" => "enum"
  | "type" => "type"
  | "const" => "const"
  | _ => "var"

def labelParts (name : String) : String × String :=
  match Text.cut? ['.'] name.toList with
  | some (label, role) => (String.ofList label, String.ofList role)
  | none => (name, "")

def containerOf (captures : List Capture) : Option String :=
  (captures.filter fun capture => (labelParts capture.name).2 = "container").getLast?.map (·.text)

def nameOf (captures : List Capture) : Option Capture :=
  (captures.filter fun capture => (labelParts capture.name).2 = "name").getLast?

/-- The definition that a match names. A match without a name, or with an empty one, defines
nothing. -/
def named? (captures : Captures) : Option Named :=
  match nameOf captures.values with
  | none => none
  | some capture =>
    if capture.text = "" then none
    else some ⟨capture.text, kindOf (labelParts capture.name).1, containerOf captures.values,
      capture⟩

def Named.qualified (named : Named) : Bool := named.container.any (· ≠ "")

abbrev Names := Table (Nat × Nat) Named

/-- Notes a definition at its place. One without container does not displace one that has it:
a method is matched as a function too. -/
def keep (names : Names) (named : Named) : Names :=
  match names.get? named.capture.span with
  | some known => if known.qualified && !named.qualified then names
    else names.insert named.capture.span named
  | none => names.insert named.capture.span named

def namesOf (definitions : List Captures) : Names :=
  (definitions.filterMap named?).foldl keep .empty

def spanBefore (a b : Nat × Nat) : Bool := a.1 < b.1 || (a.1 == b.1 && a.2 ≤ b.2)

def placed (names : Names) : List Named :=
  (names.entries.mergeSort fun a b => spanBefore a.1 b.1).map Prod.snd

def statementSpans (imports : List Captures) : List (Nat × Nat) :=
  imports.filterMap fun captures => (captures.get? "import.stmt").map Capture.span

def rangeOf (capture : Capture) : Except Failure Range :=
  capture.range.mapError Failure.badRange

structure Bound where
  found : Findings
  seen : List (String × (Nat × Nat))

/-- Notes what one import binds. The same name at the same place is noted once. -/
def bindImport (grammar : Grammar) (bound : Bound) (captures : Captures) :
    Except Failure Bound := do
  match ← grammar.binding captures with
  | none => return bound
  | some binding =>
    let key := (binding.localName, binding.located.span)
    if key ∈ bound.seen then return bound
    else
      let range ← rangeOf binding.located
      return ⟨bound.found.bind binding.localName binding.target range, bound.seen ++ [key]⟩

def bindImports (grammar : Grammar) (found : Findings) (imports : List Captures) :
    Except Failure Findings :=
  (imports.foldlM (bindImport grammar) ⟨found, []⟩).map Bound.found

structure Defined where
  found : Findings
  own : Table String Identity

def defineNamed (defined : Defined) (named : Named) : Except Failure Defined := do
  let range ← rangeOf named.capture
  let identity := defined.found.identify named.name named.container
  return {
    found := defined.found.define named.name named.kind range named.container
    own := if defined.own.contains named.name then defined.own
      else defined.own.insert named.name identity }

def defineNames (found : Findings) (names : Names) : Except Failure Defined :=
  (placed names).foldlM defineNamed ⟨found, .empty⟩

/-- A use of a name: a capture that is no definition's name and lies in no import statement. -/
def isUse (names : Names) (statements : List (Nat × Nat)) (capture : Capture) : Bool :=
  !names.contains capture.span &&
    !statements.any fun statement => statement.1 ≤ capture.start && capture.stop ≤ statement.2

def usesOf (names : Names) (statements : List (Nat × Nat)) (references : List Captures) :
    List Capture :=
  (references.filterMap fun captures => captures.get? "ref").filter (isUse names statements)

def referUse (own : Table String Identity) (found : Findings) (capture : Capture) :
    Except Failure Findings := do
  let range ← rangeOf capture
  return found.refer capture.text range (own.get? capture.text)

def findings (grammar : Grammar) (path : String) (survey : Survey) : Except Failure Findings := do
  let found ← bindImports grammar (Findings.start grammar.tag path) survey.imports
  let names := namesOf survey.definitions
  let defined ← defineNames found names
  let uses := usesOf names (statementSpans survey.imports) survey.references
  uses.foldlM (referUse defined.own) defined.found

end Survey

namespace Grammar

def findings (grammar : Grammar) (path : String) (source : Bytes) (tree : Option Tree) :
    Except Failure Findings :=
  match tree with
  | none => .ok (Findings.start grammar.tag path)
  | some tree => (Survey.ofTree grammar source tree).findings grammar path

end Grammar
end CodeNav
