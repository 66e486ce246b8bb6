import CodeNav.Document
import CodeNav.Survey

/-! Analyzers: each takes care of the files of one language, and turns a file into findings. -/
namespace CodeNav

open Syntax

inductive Reading where
  | unparsed (failure : Failure)
  | treeless
  | unreadable (failure : Failure)
  | found (findings : Findings)

structure Analyzer where
  lang : String
  title : String
  handles : String → Except Failure Bool
  read : String → Document → Reading
  /-- The name of the symbol that an import's target stands for; absent if imports play no part
  when names are resolved. -/
  importedName : Option (String → Option String)

namespace Analyzer

def ofGrammar (grammar : Grammar) : Analyzer where
  lang := grammar.tag
  title := grammar.title
  handles := fun path => .ok (grammar.handles path)
  read := fun path document =>
    match document.tree with
    | none => .treeless
    | some tree =>
      match grammar.findings path document.bytes (some tree) with
      | .ok findings => .found findings
      | .error failure => .unreadable failure
  importedName := some grammar.importedName

def describe (analyzer : Analyzer) : String := s!"<{analyzer.title} lang={analyzer.lang}>"

def pick (analyzers : List Analyzer) (path : String) : Except Failure (Option Analyzer) :=
  match analyzers with
  | [] => .ok none
  | analyzer :: others => do
    if ← analyzer.handles path then return some analyzer else pick others path

end Analyzer
end CodeNav
