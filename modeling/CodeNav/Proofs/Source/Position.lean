import CodeNav.Source.Range

/-! Positions stand in a total order. -/
namespace CodeNav.Position

theorem lt_trans {a b c : Position} (first : a < b) (second : b < c) : a < c := by
  simp only [lt_def] at *
  omega

theorem le_refl (a : Position) : a ≤ a := le_def.2 (.inr ⟨rfl, Int.le_refl _⟩)

theorem le_trans {a b c : Position} (first : a ≤ b) (second : b ≤ c) : a ≤ c := by
  simp only [le_def] at *
  omega

theorem le_total (a b : Position) : a ≤ b ∨ b ≤ a := by
  simp only [le_def]
  omega

theorem lt_irrefl (a : Position) : ¬ a < a := not_lt.2 (le_refl a)

theorem le_of_lt {a b : Position} (before : a < b) : a ≤ b := by
  simp only [lt_def, le_def] at *
  omega

theorem lt_or_lt_of_ne {a b : Position} (other : a ≠ b) : a < b ∨ b < a := by
  obtain ⟨line, col⟩ := a
  obtain ⟨line', col'⟩ := b
  simp only [ne_eq, Position.mk.injEq, not_and, lt_def] at other ⊢
  omega

theorem lt_of_le_of_ne {a b : Position} (before : a ≤ b) (other : a ≠ b) : a < b := by
  obtain less | more := lt_or_lt_of_ne other
  · exact less
  · exact absurd before fun upTo => not_lt.2 upTo more

end CodeNav.Position

namespace CodeNav

def Range.single (position : Position) : Range := ⟨position, position, position.le_refl⟩

end CodeNav
