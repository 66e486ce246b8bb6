import CodeNav.Analyzer.Basic
import CodeNav.Grammar.Go
import CodeNav.Grammar.Python
import CodeNav.Grammar.TypeScript
import CodeNav.Text.Quoted

/-! The languages that are known, each by its name, and the analyzers that they give. A language
gives none whose parser is missing or does not take one of the language's queries: better no index
than one that silently leaves out a language. -/
namespace CodeNav

inductive QueryRole where
  | definitions
  | references
  | imports
deriving DecidableEq, Repr

def QueryRole.label : QueryRole → String
  | .definitions => "defs"
  | .references => "refs"
  | .imports => "imports"

inductive Parser where
  | ready
  | missing (package : String)
deriving DecidableEq, Repr

structure Language where
  grammar : Grammar
  parser : Parser
  refused : List QueryRole

inductive SetupCause where
  | unknownLanguage
  | missingPackage (package : String)
  | refusedQuery (role : QueryRole)
deriving DecidableEq, Repr

def SetupCause.message : SetupCause → String
  | .unknownLanguage => "unknown language"
  | .missingPackage package => s!"grammar package {Text.quoted package} is not installed"
  | .refusedQuery role => s!"failed to compile {role.label} query:"

structure SetupError where
  lang : String
  cause : SetupCause
deriving DecidableEq, Repr

def SetupError.message (error : SetupError) : String := s!"{error.lang}: {error.cause.message}"

structure Toolchain where
  languages : Table String Language

namespace Language

def ofGrammar (grammar : Grammar) : Language := ⟨grammar, .ready, []⟩

def firstRefused (language : Language) : Option QueryRole :=
  [QueryRole.definitions, .references, .imports].find? (· ∈ language.refused)

def analyzer (language : Language) : Except SetupError Analyzer :=
  match language.parser, language.firstRefused with
  | .missing package, _ => .error ⟨language.grammar.tag, .missingPackage package⟩
  | .ready, some role => .error ⟨language.grammar.tag, .refusedQuery role⟩
  | .ready, none => .ok (.ofGrammar language.grammar)

end Language

namespace Toolchain

def standard : Toolchain where
  languages := Table.ofList ([Grammar.go, Grammar.typescript, Grammar.python].map fun grammar =>
    (grammar.name, Language.ofGrammar grammar))

def language? (toolchain : Toolchain) (name : String) : Option Language :=
  toolchain.languages.get? name

def add (toolchain : Toolchain) (name : String) (language : Language) : Toolchain :=
  ⟨toolchain.languages.insert name language⟩

def analyzer (toolchain : Toolchain) (name : String) : Except SetupError Analyzer :=
  match toolchain.language? name with
  | some language => language.analyzer
  | none => .error ⟨name, .unknownLanguage⟩

def standardNames : List String := ["go", "typescript", "python"]

def analyzers (toolchain : Toolchain) : Except SetupError (List Analyzer) :=
  standardNames.mapM toolchain.analyzer

def withoutParser (toolchain : Toolchain) (name package : String) : Toolchain :=
  match toolchain.language? name with
  | some language => toolchain.add name { language with parser := .missing package }
  | none => toolchain

end Toolchain
end CodeNav
