/-! Places in a text, by line and column. Both count from one in a file, but every pair of whole
numbers is a position, so that a question about any place has an answer. -/
namespace CodeNav

structure Position where
  line : Int
  col : Int
deriving DecidableEq, Repr, Inhabited

namespace Position

instance : LT Position := ⟨fun a b => a.line < b.line ∨ a.line = b.line ∧ a.col < b.col⟩

instance : LE Position := ⟨fun a b => a.line < b.line ∨ a.line = b.line ∧ a.col ≤ b.col⟩

theorem lt_def {a b : Position} :
    a < b ↔ a.line < b.line ∨ a.line = b.line ∧ a.col < b.col := Iff.rfl

theorem le_def {a b : Position} :
    a ≤ b ↔ a.line < b.line ∨ a.line = b.line ∧ a.col ≤ b.col := Iff.rfl

instance (a b : Position) : Decidable (a < b) := decidable_of_iff _ lt_def.symm

instance (a b : Position) : Decidable (a ≤ b) := decidable_of_iff _ le_def.symm

theorem not_lt {a b : Position} : ¬ b < a ↔ a ≤ b := by
  simp only [lt_def, le_def]
  omega

def sort (positions : List Position) : List Position :=
  positions.mergeSort fun a b => decide (a ≤ b)

def describe (position : Position) : String :=
  s!"Position(line={position.line}, col={position.col})"

end Position
end CodeNav
