import CodeNav.Index.Basic

/-! The questions that an index answers. Answers do not depend on how the index is arranged:
identities come sorted, definitions of a file in the order of their places. -/
namespace CodeNav

/-- A file defined an identity whose definition another file has taken out since. -/
structure Dangling where
  identity : Identity
deriving DecidableEq, Repr

def Dangling.message (error : Dangling) : String := Text.quoted error.identity

def sortTexts (texts : List String) : List String :=
  texts.mergeSort fun a b => decide (a ≤ b)

namespace Index

def definition (index : Index) (identity : Identity) : Option Definition :=
  index.definitions.get? identity

def referencesTo (index : Index) (identity : Identity) : List Reference :=
  (index.references.get? identity).getD []

def lookup (index : Index) (lang name : String) : List Identity :=
  sortTexts ((index.names.get? (Identity.lookupKey lang name)).getD [])

def entry? (index : Index) (path : String) : Option FileEntry :=
  index.files.get? (Path.normalize path)

def occurrences (index : Index) (path : String) : List Occurrence :=
  ((index.entry? path).map FileEntry.occurrences).getD []

def imports (index : Index) (path : String) : Table String String :=
  ((index.entry? path).map FileEntry.imports).getD .empty

def placedBefore (a b : Identity × Definition) : Bool :=
  if a.2.range.start ≠ b.2.range.start then a.2.range.start < b.2.range.start else a.1 ≤ b.1

def ownedDefinition (index : Index) (identity : Identity) :
    Except Dangling (Identity × Definition) :=
  match index.definition identity with
  | some definition => .ok (identity, definition)
  | none => .error ⟨identity⟩

def fileDefinitions (index : Index) (path : String) :
    Except Dangling (List (Identity × Definition)) := do
  let owned := ((index.entry? path).map FileEntry.defined).getD []
  let pairs ← owned.mapM index.ownedDefinition
  return pairs.mergeSort placedBefore

def localDefinitions (index : Index) (lang path name : String) :
    Except Dangling (List Identity) := do
  let pairs ← index.fileDefinitions path
  return (pairs.filter fun pair => pair.2.lang = lang ∧ pair.2.name = name).map Prod.fst

def fileNames (index : Index) : List String := sortTexts index.files.keys

def languageOf (index : Index) (path : String) : Option String :=
  (index.entry? path).map FileEntry.lang

structure Totals where
  files : Nat
  definitions : Nat
  references : Nat
  occurrences : Nat
  languages : List (String × Nat)
deriving DecidableEq, Repr

def tally (counts : Table String Nat) (label : String) : Table String Nat :=
  counts.alter label fun count => count.getD 0 + 1

def sortCounts (counts : Table String Nat) : List (String × Nat) :=
  counts.entries.mergeSort fun a b => decide (a.1 ≤ b.1)

def totals (index : Index) : Totals where
  files := index.files.size
  definitions := index.definitions.size
  references := total (index.references.values.map List.length)
  occurrences := total (index.files.values.map fun entry => entry.occurrences.length)
  languages := sortCounts ((index.files.values.map FileEntry.lang).foldl tally .empty)

end Index
end CodeNav
