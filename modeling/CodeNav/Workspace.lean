import CodeNav.Answer
import CodeNav.Index.Resolution
import CodeNav.Project.Indexing
import CodeNav.Toolchain

/-! A workspace: analyzers, a configuration, and the index of what they have found so far. All
questions about a project are put to it. -/
namespace CodeNav

structure Workspace where
  analyzers : List Analyzer
  config : Config
  index : Index

inductive QueryError where
  | analysis (failure : Failure)
  | dangling (error : Dangling)
deriving DecidableEq

def QueryError.message : QueryError → String
  | .analysis failure => failure.message
  | .dangling error => error.message

namespace Workspace

def create (toolchain : Toolchain) (analyzers : List Analyzer) (config : Config) :
    Except SetupError Workspace :=
  if analyzers.isEmpty then
    toolchain.analyzers.map fun usual => ⟨usual, config, .empty⟩
  else .ok ⟨analyzers, config, .empty⟩

def languages (workspace : Workspace) : List String := workspace.analyzers.map Analyzer.lang

def describe (workspace : Workspace) : String :=
  s!"<Engine languages={Text.quotedList workspace.languages}>"

def run (workspace : Workspace) (files : FileSystem) (paths : List String) : Run :=
  .ofPaths files workspace.analyzers workspace.config workspace.index paths

def withIndex (workspace : Workspace) (index : Index) : Workspace := { workspace with index }

def indexPaths (workspace : Workspace) (files : FileSystem) (paths : List String) : Workspace :=
  workspace.withIndex (workspace.run files paths).index

def examine (workspace : Workspace) (files : FileSystem) (path : String) : Outcome :=
  CodeNav.examine files workspace.analyzers workspace.config path

def indexFile (workspace : Workspace) (files : FileSystem) (path : String) : Workspace :=
  workspace.withIndex (workspace.index.accept (workspace.examine files path))

def removeFile (workspace : Workspace) (path : String) : Workspace :=
  workspace.withIndex (workspace.index.evict path)

def answerFrom (index : Index) (occurrence : Occurrence) (candidates : List Identity) : Answer :=
  match candidates.findSome? index.definition with
  | some definition => ⟨some definition, some candidates, none, some occurrence⟩
  | none => ⟨none, some candidates, some .undefined, some occurrence⟩

def answerFor (workspace : Workspace) (file : String) (occurrence : Occurrence) :
    Except QueryError Answer := do
  match ← (Analyzer.pick workspace.analyzers file).mapError .analysis with
  | none => return ⟨none, none, some .noAnalyzer, some occurrence⟩
  | some analyzer =>
    let candidates ← (workspace.index.resolve analyzer.lang file occurrence
      analyzer.importedName).mapError .dangling
    return answerFrom workspace.index occurrence candidates

/-- Where the name at a position of a file is defined: the innermost name there counts, and of the
symbols that it can mean the first that is defined. -/
def definitionAt (workspace : Workspace) (path : String) (position : Position) :
    Except QueryError Answer :=
  let file := Path.normalize path
  if '\x00' ∈ file.toList then .error (.analysis .unusablePath)
  else match Occurrence.pick (workspace.index.occurrences file) position with
    | none => .ok ⟨none, none, some .noIdentifier, none⟩
    | some occurrence => workspace.answerFor file occurrence

def sortDefinitions {α : Type} (definition : α → Definition) (items : List α) : List α :=
  items.mergeSort fun a b => !(definition b).listedBefore (definition a)

def definitionTree (workspace : Workspace) : List Definition :=
  sortDefinitions id workspace.index.definitions.values

def listing (workspace : Workspace) : List (Identity × Definition) :=
  sortDefinitions Prod.snd workspace.index.definitions.entries

end Workspace
end CodeNav
