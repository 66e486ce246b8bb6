import CodeNav.Syntax.Pattern

/-! Queries: lists of rules, each rule a list of alternative patterns. The matches of a query come
in the order in which a single pass through the document completes them. -/
namespace CodeNav.Syntax

structure Query where
  rules : List (List Pattern)

namespace Query

structure Ranked where
  rule : Nat
  found : Match
deriving DecidableEq, Repr

/-- What orders matches: the last node needed, the topmost node, the rule, and the other nodes of
the pattern. -/
def Ranked.key (ranked : Ranked) : List Nat :=
  match ranked.found.nodes with
  | [] => [0, 0, ranked.rule]
  | top :: others => ranked.found.last :: top :: ranked.rule :: others

def keyUpTo : List Nat → List Nat → Bool
  | [], _ => true
  | _ :: _, [] => false
  | a :: as, b :: bs => a < b || (a == b && keyUpTo as bs)

def matchesOf (rule : Nat) (alternatives : List Pattern) (place : Place) : List Ranked :=
  alternatives.flatMap fun pattern => (pattern.matchesAt place).map (Ranked.mk rule)

def allMatches (query : Query) (tree : Tree) : List Ranked :=
  query.rules.zipIdx.flatMap fun rule => tree.places.flatMap (matchesOf rule.2 rule.1)

def run (query : Query) (tree : Tree) : List Match :=
  ((query.allMatches tree).mergeSort fun a b => keyUpTo a.key b.key).map Ranked.found

end Query
end CodeNav.Syntax
