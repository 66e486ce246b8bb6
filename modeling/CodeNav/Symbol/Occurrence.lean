import CodeNav.Source.Range
import CodeNav.Symbol.Identity

/-! What a file says about symbols: where one is defined, where one is referred to, and which
names occur. -/
namespace CodeNav

inductive Role where
  | definition
  | reference
  | binding
  | other (label : String)
deriving DecidableEq, Repr

def Role.label : Role → String
  | .definition => "def"
  | .reference => "ref"
  | .binding => "import"
  | .other label => label

def Role.ofLabel : String → Role
  | "def" => .definition
  | "ref" => .reference
  | "import" => .binding
  | label => .other label

structure Occurrence where
  name : String
  role : Role
  range : Range
  identity : Option Identity
deriving DecidableEq

structure Definition where
  lang : String
  file : String
  range : Range
  name : String
  kind : String
deriving DecidableEq

structure Reference where
  lang : String
  file : String
  range : Range
deriving DecidableEq

namespace Occurrence

def narrower (best : Option Occurrence) (next : Occurrence) : Option Occurrence :=
  match best with
  | none => some next
  | some occurrence =>
    if next.range.extent < occurrence.range.extent then some next else some occurrence

/-- The innermost occurrence at a position: of those that contain it the one of least extent, and
of several alike the first. -/
def pick (occurrences : List Occurrence) (position : Position) : Option Occurrence :=
  (occurrences.filter fun occurrence => occurrence.range.contains position).foldl narrower none

end Occurrence

namespace Definition

def listedBefore (a b : Definition) : Bool :=
  if a.file ≠ b.file then a.file < b.file
  else if a.kind ≠ b.kind then a.kind < b.kind
  else if a.name ≠ b.name then a.name < b.name
  else a.range.start < b.range.start

end Definition
end CodeNav
