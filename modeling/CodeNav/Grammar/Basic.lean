import CodeNav.Failure
import CodeNav.Syntax.Capture
import CodeNav.Text.Case

/-! Languages whose files are read through a syntax tree: which files they are, what the queries
for definitions, references and imports are, and what an import binds.

Captures follow one convention. `k.name` names a definition whose kind `k` tells, `k.container`
the type around it and `k.def` all of it; `import.stmt`, `import.module`, `import.name` and
`import.alias` are the parts of an import; `ref` is a name in use. -/
namespace CodeNav

open Syntax

structure Binding where
  localName : String
  target : String
  located : Capture
deriving DecidableEq, Repr

structure Grammar where
  name : String
  tag : String
  title : String
  extensions : List String
  definitions : Query
  references : Query
  imports : Query
  binding : Captures → Except Failure (Option Binding)
  importedName : String → Option String

namespace Grammar

def handles (grammar : Grammar) (path : String) : Bool :=
  grammar.extensions.any fun ending => (Text.lower path).endsWith ending

def namesOf (kinds : List String) : Query :=
  ⟨[kinds.map fun kind => (Pattern.ofKind kind []).captured "ref"]⟩

end Grammar
end CodeNav
