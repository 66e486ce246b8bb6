import CodeNav.Symbol.Occurrence
import CodeNav.Table

/-! Everything that the analysis of one file found: definitions and references by identity,
names in the order in which they were found, and what each imported name stands for. -/
namespace CodeNav

structure Findings where
  lang : String
  file : String
  definitions : Table Identity Definition
  references : Table Identity (List Reference)
  occurrences : List Occurrence
  imports : Table String String

inductive Finding where
  | definition (name kind : String) (range : Range) (container : Option String)
  | reference (name : String) (range : Range) (target : Option Identity)
  | binding (localName target : String) (range : Range)
  | noReferences (target : Identity)
deriving DecidableEq

def total (counts : List Nat) : Nat := counts.foldr (· + ·) 0

namespace Findings

def start (lang path : String) : Findings :=
  ⟨lang, Path.normalize path, .empty, .empty, [], .empty⟩

def identify (found : Findings) (name : String) (container : Option String) : Identity :=
  Identity.of found.lang found.file name container

/-- Notes a definition. A later definition of the same identity replaces it, but both names
occur. -/
def define (found : Findings) (name kind : String) (range : Range) (container : Option String) :
    Findings :=
  let identity := found.identify name container
  { found with
    definitions := found.definitions.insert identity ⟨found.lang, found.file, range, name, kind⟩
    occurrences := found.occurrences ++ [⟨name, .definition, range, some identity⟩] }

def refer (found : Findings) (name : String) (range : Range) (target : Option Identity) :
    Findings :=
  let found := { found with
    occurrences := found.occurrences ++ [⟨name, .reference, range, none⟩] }
  match target with
  | none => found
  | some identity => { found with
      references := found.references.alter identity fun known =>
        known.getD [] ++ [⟨found.lang, found.file, range⟩] }

def bind (found : Findings) (localName target : String) (range : Range) : Findings :=
  { found with
    imports := found.imports.insert localName target
    occurrences := found.occurrences ++ [⟨localName, .binding, range, none⟩] }

def add (found : Findings) : Finding → Findings
  | .definition name kind range container => found.define name kind range container
  | .reference name range target => found.refer name range target
  | .binding localName target range => found.bind localName target range
  | .noReferences target => { found with references := found.references.insert target [] }

def identity? (found : Findings) : Finding → Option Identity
  | .definition name _ _ container => some (found.identify name container)
  | _ => none

def ofList (lang path : String) (items : List Finding) : Findings :=
  items.foldl add (start lang path)

def referenceCount (found : Findings) : Nat :=
  total (found.references.values.map List.length)

end Findings
end CodeNav
