/-! Syntax trees as a parser reports them: the nodes in document order, each with its depth. The
parent of a node is the nearest earlier node of smaller depth. -/
namespace CodeNav.Syntax

structure Node where
  depth : Nat
  kind : String
  field : Option String
  start : Nat
  stop : Nat
deriving DecidableEq, Repr

structure Tree where
  nodes : List Node
deriving DecidableEq, Repr

structure Place where
  index : Nat
  node : Node
  after : List Node
deriving DecidableEq, Repr

def placesFrom (index : Nat) : List Node → List Place
  | [] => []
  | node :: rest => ⟨index, node, rest⟩ :: placesFrom (index + 1) rest

def Tree.places (tree : Tree) : List Place := placesFrom 0 tree.nodes

/-- The children of a node of depth `depth` among the nodes after it, which stand from `index`
on. They end where the depth falls back. A node deeper than one of them before it is below that
one; `bound` is the least depth so far. -/
def childrenFrom (depth : Nat) (bound : Option Nat) (index : Nat) : List Node → List Place
  | [] => []
  | node :: rest =>
    if node.depth ≤ depth then []
    else if bound.all (node.depth ≤ ·) then
      ⟨index, node, rest⟩ :: childrenFrom depth (some node.depth) (index + 1) rest
    else childrenFrom depth bound (index + 1) rest

def Place.children (place : Place) : List Place :=
  childrenFrom place.node.depth none (place.index + 1) place.after

namespace Tree

/-- The node `parent` is the nearest node before `child` of smaller depth. -/
def IsParent (tree : Tree) (parent child : Nat) : Prop :=
  parent < child ∧ ∃ above below, tree.nodes[parent]? = some above ∧
    tree.nodes[child]? = some below ∧ above.depth < below.depth ∧
    ∀ between node, parent < between → between < child →
      tree.nodes[between]? = some node → below.depth ≤ node.depth

inductive Above (tree : Tree) : Nat → Nat → Prop where
  | parent {above below : Nat} : tree.IsParent above below → Above tree above below
  | step {above middle below : Nat} :
      Above tree above middle → tree.IsParent middle below → Above tree above below

def Nested (tree : Tree) : Prop :=
  (∀ node ∈ tree.nodes, node.start ≤ node.stop) ∧
    ∀ parent child above below, tree.IsParent parent child →
      tree.nodes[parent]? = some above → tree.nodes[child]? = some below →
      above.start ≤ below.start ∧ below.stop ≤ above.stop

end Tree
end CodeNav.Syntax
