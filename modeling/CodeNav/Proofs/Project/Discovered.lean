import CodeNav.Proofs.FileSystem.Spelled
import CodeNav.Proofs.Project.Discovery
import CodeNav.Proofs.Project.Walk

/-! What discovery finds: for each given path in turn what it stands for, each file where it comes
first. A path that leads nowhere is reported, and stands for nothing. -/
namespace CodeNav.Discovery

def lookedUp (given : String) : String := (Path.ofString given).toString

/-- A directory stands for the leaves that a walk finds in it, whatever its own name, a file for
itself, and a path that leads nowhere for nothing, like a directory that cannot be opened. -/
inductive StandsFor (files : FileSystem) (enters : String → String → Prop) (path : String) :
    List String → Prop where
  | directory {names : List String} {entries : List Entry} {trails : List (List String)} :
      files.locate path = .ok (.directory names entries) → files.opens path = true →
      Walks files enters path entries trails →
      StandsFor files enters path (trails.map (fileAt path))
  | closed {names : List String} {entries : List Entry} :
      files.locate path = .ok (.directory names entries) → files.opens path = false →
      StandsFor files enters path []
  | file {names : List String} {document : Document} :
      files.locate path = .ok (.file names document) →
      StandsFor files enters path [Path.normalize path]
  | nothing {error : FileError} : files.locate path = .error error →
      StandsFor files enters path []

def astray (files : FileSystem) (paths : List String) : List String :=
  paths.filter fun given => !files.pathExists (lookedUp given)

variable {files : FileSystem} {enters : String → String → Prop} {skip paths : List String}
  {path : String}

theorem StandsFor.unique {found other : List String} (first : StandsFor files enters path found)
    (second : StandsFor files enters path other) : found = other := by
  cases first with
  | directory located opens walks =>
    cases second with
    | directory also_located _ also_walks =>
      cases located.symm.trans also_located
      rw [walks.unique also_walks]
    | closed _ shut => cases opens.symm.trans shut
    | file also_located => cases located.symm.trans also_located
    | nothing also_located => cases located.symm.trans also_located
  | closed located shut =>
    cases second with
    | directory _ opens => cases opens.symm.trans shut
    | closed => rfl
    | file also_located => cases located.symm.trans also_located
    | nothing => rfl
  | file located =>
    cases second with
    | directory also_located => cases located.symm.trans also_located
    | closed also_located => cases located.symm.trans also_located
    | file => rfl
    | nothing also_located => cases located.symm.trans also_located
  | nothing located =>
    cases second with
    | directory also_located => cases located.symm.trans also_located
    | closed => rfl
    | file also_located => cases located.symm.trans also_located
    | nothing => rfl

section Walked

variable {met : Option (List (Option String))}

end Walked

def Gives (files : FileSystem) (skip : List String) (path : String) (found : List String) : Prop :=
  ∃ met, walk files skip path = .ok met ∧ Follows (met.getD []) found

section Visited

variable {found : List (List String)}

variable (distinct : files.Distinct)
  (gives : List.Forall₂ (fun given here => Gives files skip (lookedUp given) here) paths found)
include distinct gives

end Visited

end CodeNav.Discovery
