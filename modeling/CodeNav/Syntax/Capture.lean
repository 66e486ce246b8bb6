import CodeNav.Source.Offset
import CodeNav.Syntax.Query
import CodeNav.Table

/-! Captures: the named parts of a match, taken out of the tree together with their text. -/
namespace CodeNav.Syntax

open CodeNav.Text.Utf8 (Bytes decodeLossy)

structure Capture where
  name : String
  text : String
  start : Nat
  stop : Nat
  startPoint : Point
  stopPoint : Point
deriving DecidableEq, Repr

abbrev Captures := Table String Capture

namespace Capture

/-- The capture of a node of a source. Bytes that are no text become replacement characters. -/
def ofNode (source : Bytes) (name : String) (node : Node) : Capture where
  name := name
  text := decodeLossy (Source.slice source node.start node.stop)
  start := node.start
  stop := node.stop
  startPoint := Source.pointAt source node.start
  stopPoint := Source.pointAt source node.stop

def span (capture : Capture) : Nat × Nat := (capture.start, capture.stop)

def range (capture : Capture) : Except RangeError Range :=
  Range.ofPoints capture.startPoint capture.stopPoint

end Capture

/-- The captures of a match. Of several nodes under one name the first counts. -/
def Match.captured (source : Bytes) (found : Match) : Captures :=
  found.captures.foldl (fun captures entry =>
    if captures.contains entry.1 then captures
    else captures.insert entry.1 (Capture.ofNode source entry.1 entry.2)) .empty

def Query.captures (query : Query) (source : Bytes) (tree : Tree) : List Captures :=
  (query.run tree).map (Match.captured source)

end CodeNav.Syntax
