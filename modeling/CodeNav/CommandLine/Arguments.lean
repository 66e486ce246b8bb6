import CodeNav.FileSystem.Locate
import CodeNav.Text.Cut
import CodeNav.Text.Numeral

/-! What the arguments of a command line ask for. Options stand before or between the other
arguments, a cluster of one-letter options behind one hyphen; after `--` there are none. -/
namespace CodeNav.CommandLine

inductive Flag where
  | help
  | version
  | verbose
  | workers
  | json
  | root
  | file
deriving DecidableEq, Repr

structure OptionForm where
  flag : Flag
  long : String
  short : Option Char
  valued : Bool

def leadingForms : List OptionForm :=
  [⟨.version, "--version", none, false⟩, ⟨.verbose, "--verbose", some 'v', false⟩,
    ⟨.help, "--help", none, false⟩]

def commonForms : List OptionForm :=
  [⟨.workers, "--workers", some 'w', true⟩, ⟨.json, "--json-output", some 'j', false⟩,
    ⟨.help, "--help", none, false⟩]

def rootForm : OptionForm := ⟨.root, "--root", some 'r', true⟩

def fileForm : OptionForm := ⟨.file, "--file", some 'f', true⟩

inductive UsageError where
  | noCommand
  | unknownCommand (name : String)
  | unknownOption (text : String)
  | noValue (flag : Flag)
  | unwantedValue (flag : Flag)
  | missingArgument
  | unexpectedArgument (text : String)
  | notANumber (text : String)
  | belowOne (number : Int)
  | noSuchPath (path : String)
  | notAFile (path : String)
  | notReadable (path : String)
deriving DecidableEq, Repr

structure Scanned where
  options : List (Flag × String)
  rest : List String
deriving DecidableEq, Repr

namespace Scanned

def consArgument (argument : String) (scanned : Scanned) : Scanned :=
  { scanned with rest := argument :: scanned.rest }

def values (scanned : Scanned) (flag : Flag) : List String :=
  (scanned.options.filter fun option => option.1 = flag).map Prod.snd

def has (scanned : Scanned) (flag : Flag) : Bool := !(scanned.values flag).isEmpty

end Scanned

inductive OptionReading where
  | whole (options : List (Flag × String))
  | waiting (before : List (Flag × String)) (flag : Flag)

/-- Reads a cluster of one-letter options. What follows the letter of an option with a value is
the value. -/
def readCluster (forms : List OptionForm) : List Char → Except UsageError OptionReading
  | [] => .ok (.whole [])
  | c :: rest =>
    match forms.find? fun form => form.short = some c with
    | none => .error (.unknownOption (String.ofList ['-', c]))
    | some form =>
      if form.valued then
        if rest = [] then .ok (.waiting [] form.flag)
        else .ok (.whole [(form.flag, String.ofList rest)])
      else do
        match ← readCluster forms rest with
        | .whole options => return .whole ((form.flag, "") :: options)
        | .waiting before flag => return .waiting ((form.flag, "") :: before) flag

def readLong (form : OptionForm) (value : Option String) : Except UsageError OptionReading :=
  match form.valued, value with
  | true, some value => .ok (.whole [(form.flag, value)])
  | true, none => .ok (.waiting [] form.flag)
  | false, none => .ok (.whole [(form.flag, "")])
  | false, some _ => .error (.unwantedValue form.flag)

def splitValue (argument : String) : String × Option String :=
  match Text.cut? ['='] argument.toList with
  | some (name, value) => (String.ofList name, some (String.ofList value))
  | none => (argument, none)

def readOption (forms : List OptionForm) (argument : String) : Except UsageError OptionReading :=
  let (name, value) := splitValue argument
  match forms.find? fun form => form.long = name with
  | some form => readLong form value
  | none =>
    if argument.startsWith "--" then .error (.unknownOption name)
    else readCluster forms (argument.toList.drop 1)

def isOption (argument : String) : Bool := argument.startsWith "-" && argument ≠ "-"

def scan (forms : List OptionForm) (interspersed : Bool) : List String → Except UsageError Scanned
  | [] => .ok ⟨[], []⟩
  | argument :: rest =>
    if argument = "--" then .ok ⟨[], rest⟩
    else if isOption argument then do
      match ← readOption forms argument with
      | .whole options =>
        let later ← scan forms interspersed rest
        return { later with options := options ++ later.options }
      | .waiting before flag =>
        match rest with
        | [] => .error (.noValue flag)
        | value :: rest =>
          let later ← scan forms interspersed rest
          return { later with options := before ++ (flag, value) :: later.options }
    else if interspersed then
      (scan forms interspersed rest).map (Scanned.consArgument argument)
    else .ok ⟨[], argument :: rest⟩

inductive Task where
  | index (paths : List String)
  | definition (file : String) (position : Int × Int) (roots : List String)
  | definitions (paths : List String) (file : String)
  | references (identity : String) (roots : List String)
deriving DecidableEq, Repr

structure Command where
  task : Task
  workers : Option Int
  json : Bool
deriving DecidableEq, Repr

inductive Request where
  | version
  | help
  | command (command : Command)
deriving DecidableEq, Repr

def positive (text : String) : Except UsageError Int :=
  match Text.integer? text with
  | none => .error (.notANumber text)
  | some number => if 1 ≤ number then .ok number else .error (.belowOne number)

def existing (files : FileSystem) (path : String) : Except UsageError String :=
  if !files.pathExists path then .error (.noSuchPath path)
  else if files.isDirectory path && !files.opens path then .error (.notReadable path)
  else .ok path

def existingFile (files : FileSystem) (path : String) : Except UsageError String :=
  match files.locate path with
  | .ok (.file _ _) => .ok path
  | .ok (.directory _ _) => .error (.notAFile path)
  | .error _ => .error (.noSuchPath path)

def atLeastOne (arguments : List String) : Except UsageError (List String) :=
  if arguments.isEmpty then .error .missingArgument else .ok arguments

inductive CommandName where
  | index
  | definition
  | definitions
  | references
deriving DecidableEq, Repr

def commandNamed? : String → Option CommandName
  | "index" => some .index
  | "definition" => some .definition
  | "defs" => some .definitions
  | "references" => some .references
  | _ => none

def CommandName.forms : CommandName → List OptionForm
  | .index => commonForms
  | .definition => rootForm :: commonForms
  | .definitions => fileForm :: commonForms
  | .references => rootForm :: commonForms

def CommandName.task (name : CommandName) (files : FileSystem) (scanned : Scanned) :
    Except UsageError Task := do
  match name, scanned.rest with
  | .index, paths => return .index (← (← atLeastOne paths).mapM (existing files))
  | .definitions, paths =>
    return .definitions (← (← atLeastOne paths).mapM (existing files))
      ((scanned.values .file).getLast?.getD "")
  | .definition, [file, line, col] =>
    let file ← existingFile files file
    let position := (← positive line, ← positive col)
    return .definition file position (← (scanned.values .root).mapM (existing files))
  | .references, [identity] =>
    return .references identity (← (← atLeastOne (scanned.values .root)).mapM (existing files))
  | .definition, _ :: _ :: _ :: extra :: _ => .error (.unexpectedArgument extra)
  | .references, _ :: extra :: _ => .error (.unexpectedArgument extra)
  | _, _ => .error .missingArgument

def CommandName.request (name : CommandName) (files : FileSystem) (arguments : List String) :
    Except UsageError Request := do
  let scanned ← scan name.forms true arguments
  if scanned.has .help then return .help
  let task ← name.task files scanned
  let workers ← (scanned.values .workers).getLast?.mapM positive
  return .command ⟨task, workers, scanned.has .json⟩

def standalone? (scanned : Scanned) : Option Request :=
  scanned.options.findSome? fun option =>
    match option.1 with
    | .version => some .version
    | .help => some .help
    | _ => none

/-- A word that names no command. If it looks like an option, it is read as one more time: then
only an option that needs no command is understood. -/
def otherRequest (word : String) (arguments : List String) : Except UsageError Request := do
  if isOption word then
    match standalone? (← scan leadingForms false (word :: arguments)) with
    | some request => return request
    | none => .error (.unknownCommand word)
  else .error (.unknownCommand word)

def request (files : FileSystem) (arguments : List String) : Except UsageError Request := do
  let scanned ← scan leadingForms false arguments
  match standalone? scanned, scanned.rest with
  | some request, _ => return request
  | none, [] => .error .noCommand
  | none, word :: rest =>
    match commandNamed? word with
    | some name => name.request files rest
    | none => otherRequest word rest

end CodeNav.CommandLine
