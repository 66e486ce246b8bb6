import CodeNav.Findings

/-! The index of a project: the findings of all its files, so arranged that each question is one
look-up, and that the part of one file can be taken out again. -/
namespace CodeNav

/-- What the index keeps about one file: its names and imports, and which identities it defined
and referred to, so that they can be taken out with it. -/
structure FileEntry where
  lang : String
  occurrences : List Occurrence
  imports : Table String String
  defined : List Identity
  referred : List Identity

structure Index where
  definitions : Table Identity Definition
  references : Table Identity (List Reference)
  names : Table String (List Identity)
  files : Table String FileEntry

namespace Index

def empty : Index := ⟨.empty, .empty, .empty, .empty⟩

instance : EmptyCollection Index := ⟨empty⟩

instance : Inhabited Index := ⟨empty⟩

def addIdentity (identity : Identity) (known : Option (List Identity)) : List Identity :=
  let known := known.getD []
  if identity ∈ known then known else known ++ [identity]

def addDefinition (index : Index) (identity : Identity) (definition : Definition) : Index :=
  { index with
    definitions := index.definitions.insert identity definition
    names := index.names.alter (Identity.lookupKey definition.lang definition.name)
      (addIdentity identity) }

def addReferences (index : Index) (identity : Identity) (references : List Reference) : Index :=
  { index with
    references := index.references.alter identity fun known => known.getD [] ++ references }

/-- Takes an identity from those of a name. A name without identities is forgotten. -/
def dropName (names : Table String (List Identity)) (key : String) (identity : Identity) :
    Table String (List Identity) :=
  match names.get? key with
  | none => names
  | some known =>
    let kept := known.filter (· ≠ identity)
    if kept.isEmpty then names.erase key else names.insert key kept

def dropDefinition (index : Index) (identity : Identity) : Index :=
  match index.definitions.get? identity with
  | none => index
  | some definition =>
    { index with
      definitions := index.definitions.erase identity
      names := dropName index.names (Identity.lookupKey definition.lang definition.name) identity }

def dropReferences (file : String) (index : Index) (identity : Identity) : Index :=
  let kept := ((index.references.get? identity).getD []).filter (·.file ≠ file)
  { index with
    references :=
      if kept.isEmpty then index.references.erase identity
      else index.references.insert identity kept }

def knows (index : Index) (path : String) : Bool := index.files.contains (Path.normalize path)

def evict (index : Index) (path : String) : Index :=
  let file := Path.normalize path
  match index.files.get? file with
  | none => index
  | some entry =>
    let index := entry.defined.foldl dropDefinition index
    let index := entry.referred.foldl (dropReferences file) index
    { index with files := index.files.erase file }

/-- Puts in the findings of a file in place of any earlier ones, so the index always shows the
latest findings of each file. Empty lists of references leave no trace. -/
def merge (index : Index) (found : Findings) : Index :=
  let file := Path.normalize found.file
  let index := index.evict file
  let referring := found.references.entries.filter fun entry => !entry.2.isEmpty
  let index := found.definitions.entries.foldl
    (fun index entry => index.addDefinition entry.1 entry.2) index
  let index := referring.foldl (fun index entry => index.addReferences entry.1 entry.2) index
  { index with
    files := index.files.insert file
      ⟨found.lang, found.occurrences, found.imports, found.definitions.keys,
        referring.map Prod.fst⟩ }

end Index
end CodeNav
