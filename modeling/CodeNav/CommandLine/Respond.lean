import CodeNav.CommandLine.Report
import CodeNav.Project.Repository
import CodeNav.Text.Control
import CodeNav.Workspace
import CodeNav.CommandLine.Arguments

/-! What each command does: it indexes, asks one question, and prints the answer. Nothing is kept
from one command to the next. -/
namespace CodeNav.CommandLine

structure Response where
  exitCode : Nat
  output : List String
  errors : List String
deriving DecidableEq, Repr

namespace Response

def textOf (lines : List String) : String := String.join (lines.map (· ++ "\n"))

def success (output : List String) : Response := ⟨0, output.map Text.plain, []⟩

def failed (errors : List String) : Response := ⟨1, [], errors.map Text.plain⟩

def misused (error : UsageError) : Response :=
  let reason := match error with
    | .noCommand => "Missing command."
    | .unknownCommand name => s!"No such command: {name}"
    | .unknownOption text => s!"No such option: {text}"
    | .noValue _ => "An option requires an argument."
    | .unwantedValue _ => "An option does not take a value."
    | .missingArgument => "Missing argument."
    | .unexpectedArgument text => s!"Unexpected extra argument: {text}"
    | .notANumber text => s!"Not a valid integer: {text}"
    | .belowOne number => s!"Not in the range from 1: {number}"
    | .noSuchPath path => s!"Path does not exist: {path}"
    | .notAFile path => s!"Path is a directory: {path}"
    | .notReadable path => s!"Path is not readable: {path}"
  ⟨2, [], [s!"Error: {reason}"]⟩

def withNotices (notices : List Notice) (response : Response) : Response :=
  { response with errors := notices.map Notice.line ++ response.errors }

end Response

def versionLine : String := "srcxref, version 0.3.0"

def helpLines : List String :=
  ["Usage: srcxref [OPTIONS] COMMAND [ARGS]...", "",
    "  srcxref index PATH...", "  srcxref definition FILE LINE COL", "  srcxref defs PATH...",
    "  srcxref references SYMBOL_ID --root PATH"]

def shown (command : Command) (lines : List String) (json : Json) : List String :=
  if command.json then [json.render 0] else lines

/-- The places to index for a question about a file: those that are given, or the repository in
which the file lies. Links are resolved, so that the question and the index spell files alike. -/
def rootsFor (files : FileSystem) (file : String) (given : List String) :
    Except FileError (List String) := do
  let roots ← match given with
    | [] => (Repository.enclosing files (Path.ofString file).parent.toString).map ([·])
    | _ => .ok given
  roots.mapM files.realPath

def respondAnswer (command : Command) (answer : Answer) : Response :=
  match answer.get with
  | .ok definition => .success (shown command [definitionLine definition] (answerJson answer))
  | .error complaint =>
    if command.json then ⟨1, [(answerJson answer).render 0], []⟩
    else .failed (complaintLines complaint)

def respondDefinition (command : Command) (workspace : Workspace) (file : String)
    (position : Position) : Response :=
  match workspace.definitionAt file position with
  | .ok answer => respondAnswer command answer
  | .error error => .failed [error.message]

def respondListing (command : Command) (workspace : Workspace) (file : String) : Response :=
  let listing := if file = "" then .ok workspace.listing else workspace.index.fileDefinitions file
  match listing with
  | .ok listing => .success (shown command (listingLines listing) (listingJson listing))
  | .error error => .failed [error.message]

def afterIndexing (workspace : Workspace) (files : FileSystem) (paths : List String)
    (respond : Run → Workspace → Response) : Response :=
  let run := workspace.run files paths
  (respond run (workspace.withIndex run.index)).withNotices run.notices

def perform (command : Command) (files : FileSystem) (workspace : Workspace) : Response :=
  match command.task with
  | .index paths => afterIndexing workspace files paths fun run _ =>
      .success (shown command (countsLines run.counts) (countsJson run.counts))
  | .definition file (line, col) given =>
    match rootsFor files file given, files.realPath file with
    | .ok roots, .ok file => afterIndexing workspace files roots fun _ indexed =>
        respondDefinition command indexed file ⟨line, col⟩
    | .error error, _ => .failed [error.message file]
    | _, .error error => .failed [error.message file]
  | .definitions paths file => afterIndexing workspace files paths fun _ indexed =>
      respondListing command indexed file
  | .references identity roots => afterIndexing workspace files roots fun _ indexed =>
      let references := indexed.index.referencesTo identity
      .success (shown command (referenceLines identity references)
        (.list (references.map referenceJson)))

def configFor (workers : Int) : Config :=
  match Settings.check { workers } with
  | .ok config => config
  | .error _ => .standard

def respondCommand (toolchain : Toolchain) (files : FileSystem) (workersSetting : Option String)
    (command : Command) : Response :=
  let (workers, notices) := match command.workers with
    | some workers => (workers, [])
    | none => workersFrom workersSetting
  let response := match Workspace.create toolchain [] (configFor workers) with
    | .ok workspace => perform command files workspace
    | .error error => .failed [s!"Error: cannot initialize language adapter {error.message}"]
  response.withNotices notices

def respond (toolchain : Toolchain) (files : FileSystem) (workersSetting : Option String)
    (arguments : List String) : Response :=
  match request files arguments with
  | .error error => .misused error
  | .ok .version => .success [versionLine]
  | .ok .help => .success helpLines
  | .ok (.command command) => respondCommand toolchain files workersSetting command

end CodeNav.CommandLine
