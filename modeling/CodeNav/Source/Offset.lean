import CodeNav.Source.Range
import CodeNav.Text.Utf8

/-! Offsets into the bytes of a source, and the points they stand for. Columns count bytes, not
characters, because that is what a parser counts. -/
namespace CodeNav.Source

open CodeNav.Text.Utf8 (Bytes)

def lineFeed : UInt8 := 10

def behind (point : Point) (byte : UInt8) : Point :=
  if byte = lineFeed then ⟨point.row + 1, 0⟩ else ⟨point.row, point.col + 1⟩

def pointAt (source : Bytes) (offset : Nat) : Point :=
  (source.take offset).foldl behind ⟨0, 0⟩

def slice (source : Bytes) (start stop : Nat) : Bytes := (source.drop start).take (stop - start)

end CodeNav.Source
