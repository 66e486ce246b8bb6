import CodeNav.Source.Position

/-! Stretches of text between two positions, both of which belong to the stretch. -/
namespace CodeNav

structure Range where
  start : Position
  stop : Position
  start_le_stop : start ≤ stop
deriving DecidableEq

structure RangeError where
  start : Position
  stop : Position
deriving DecidableEq, Repr

def RangeError.message (error : RangeError) : String :=
  s!"range end {error.stop.describe} precedes start {error.start.describe}"

/-- How many lines and columns a range reaches. The columns are negative when a later line ends
further left than the first one starts. -/
structure Extent where
  lines : Int
  cols : Int
deriving DecidableEq, Repr

instance : LT Extent := ⟨fun a b => a.lines < b.lines ∨ a.lines = b.lines ∧ a.cols < b.cols⟩

theorem Extent.lt_def {a b : Extent} :
    a < b ↔ a.lines < b.lines ∨ a.lines = b.lines ∧ a.cols < b.cols := Iff.rfl

instance (a b : Extent) : Decidable (a < b) := decidable_of_iff _ Extent.lt_def.symm

structure Point where
  row : Int
  col : Int
deriving DecidableEq, Repr

def Point.position (point : Point) : Position := ⟨point.row + 1, point.col + 1⟩

namespace Range

def between (start stop : Position) : Except RangeError Range :=
  if ordered : start ≤ stop then .ok ⟨start, stop, ordered⟩ else .error ⟨start, stop⟩

def ofPoints (start stop : Point) : Except RangeError Range :=
  between start.position stop.position

def contains (range : Range) (position : Position) : Bool :=
  decide (range.start ≤ position ∧ position ≤ range.stop)

def extent (range : Range) : Extent :=
  ⟨range.stop.line - range.start.line, range.stop.col - range.start.col⟩

theorem contains_iff {range : Range} {position : Position} :
    range.contains position = true ↔ range.start ≤ position ∧ position ≤ range.stop := by
  simp [contains]

theorem between_eq_ok {start stop : Position} {range : Range} :
    between start stop = .ok range ↔ range.start = start ∧ range.stop = stop := by
  unfold between
  split
  · next ordered =>
    constructor
    · rintro ⟨⟩
      exact ⟨rfl, rfl⟩
    · rintro ⟨rfl, rfl⟩
      rfl
  · next unordered =>
    constructor
    · intro h
      cases h
    · rintro ⟨rfl, rfl⟩
      exact absurd range.start_le_stop unordered

end Range
end CodeNav
