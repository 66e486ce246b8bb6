import CodeNav.Syntax.Tree

/-! Patterns over syntax trees. A pattern asks for a node and, below it, for some of its children
in order; it matches in every way in which they can be found. -/
namespace CodeNav.Syntax

/-- What a pattern asks of a single node: its type, or any type; the field that holds it, and
whether it has to be the first of its siblings there; and fields that hold none of its
children. -/
structure NodeTest where
  kind : Option String
  field : Option String := none
  firstOfField : Bool := false
  without : List String := []
deriving DecidableEq, Repr

inductive Pattern where
  | node (test : NodeTest) (capture : Option String) (children : List Pattern)

structure Match where
  nodes : List Nat
  captures : List (String × Node)
deriving DecidableEq, Repr

namespace Match

def empty : Match := ⟨[], []⟩

def append (left right : Match) : Match :=
  ⟨left.nodes ++ right.nodes, left.captures ++ right.captures⟩

def under (place : Place) (capture : Option String) (below : Match) : Match :=
  ⟨place.index :: below.nodes, (capture.map (·, place.node)).toList ++ below.captures⟩

def last (found : Match) : Nat := found.nodes.foldl max 0

end Match

namespace Pattern

def test : Pattern → NodeTest
  | .node test _ _ => test

def ofKind (kind : String) (children : List Pattern) : Pattern :=
  .node { kind := some kind } none children

def anyNode : Pattern := .node { kind := none } none []

def inField (field : String) : Pattern → Pattern
  | .node test capture children => .node { test with field := some field } capture children

def firstInField (field : String) : Pattern → Pattern
  | .node test capture children =>
    .node { test with field := some field, firstOfField := true } capture children

def lacking (field : String) : Pattern → Pattern
  | .node test capture children =>
    .node { test with without := field :: test.without } capture children

def captured (name : String) : Pattern → Pattern
  | .node test _ children => .node test (some name) children

end Pattern

namespace NodeTest

def holds (test : NodeTest) (place : Place) : Bool :=
  test.kind.all (· = place.node.kind) &&
    place.children.all fun child => child.node.field.all fun field => field ∉ test.without

def sits (test : NodeTest) (siblings : List Place) (place : Place) : Bool :=
  test.field.all fun field =>
    place.node.field = some field &&
      (!test.firstOfField ||
        (siblings.find? fun sibling => sibling.node.field = some field).all
          (·.index = place.index))

end NodeTest

def choose (here : Place → List Match) (later : List Place → List Match) :
    List Place → List Match
  | [] => []
  | place :: rest =>
    (here place).flatMap (fun first => (later rest).map first.append) ++ choose here later rest

mutual

def Pattern.matchesAt : Pattern → Place → List Match
  | .node test capture children, place =>
    if test.holds place then
      (matchesBelow children place.children place.children).map (Match.under place capture)
    else []

def matchesBelow : List Pattern → List Place → List Place → List Match
  | [], _, _ => [Match.empty]
  | pattern :: others, siblings, left =>
    choose
      (fun place => if pattern.test.sits siblings place then pattern.matchesAt place else [])
      (matchesBelow others siblings) left

end

mutual

/-- A pattern is satisfied at a place by a match: the relation that `Pattern.matchesAt` lists. -/
inductive Pattern.Satisfied : Pattern → Place → Match → Prop where
  | node {test : NodeTest} {capture : Option String} {children : List Pattern} {place : Place}
      {below : Match} : test.holds place = true →
      SatisfiedBelow children place.children place.children below →
      Pattern.Satisfied (.node test capture children) place (below.under place capture)

inductive SatisfiedBelow : List Pattern → List Place → List Place → Match → Prop where
  | nil {siblings left : List Place} : SatisfiedBelow [] siblings left Match.empty
  | skip {pattern : Pattern} {others : List Pattern} {siblings left : List Place}
      {place : Place} {found : Match} : SatisfiedBelow (pattern :: others) siblings left found →
      SatisfiedBelow (pattern :: others) siblings (place :: left) found
  | take {pattern : Pattern} {others : List Pattern} {siblings left : List Place}
      {place : Place} {first rest : Match} : pattern.test.sits siblings place = true →
      Pattern.Satisfied pattern place first → SatisfiedBelow others siblings left rest →
      SatisfiedBelow (pattern :: others) siblings (place :: left) (first.append rest)

end

end CodeNav.Syntax
