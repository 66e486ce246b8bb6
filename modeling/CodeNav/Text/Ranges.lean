/-! Sets of code points, written as ranges. -/
namespace CodeNav.Text

abbrev Ranges := List (Nat × Nat)

def Ranges.covers (ranges : Ranges) (code : Nat) : Bool :=
  ranges.any fun range => range.1 ≤ code && code ≤ range.2

end CodeNav.Text
