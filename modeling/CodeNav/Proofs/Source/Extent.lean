import CodeNav.Proofs.Source.Position
import Mathlib.Order.Defs.LinearOrder

/-! Extents stand in a linear order, and that order refines nesting: a range within another one has
the smaller extent unless the two are the same. It does so although columns may be negative. -/
namespace CodeNav

namespace Extent

instance : LE Extent := ⟨fun a b => a.lines < b.lines ∨ a.lines = b.lines ∧ a.cols ≤ b.cols⟩

theorem le_def {a b : Extent} :
    a ≤ b ↔ a.lines < b.lines ∨ a.lines = b.lines ∧ a.cols ≤ b.cols := Iff.rfl

instance (a b : Extent) : Decidable (a ≤ b) := decidable_of_iff _ le_def.symm

theorem le_antisymm {a b : Extent} (first : a ≤ b) (second : b ≤ a) : a = b := by
  cases a
  cases b
  simp only [le_def, Extent.mk.injEq] at *
  omega

instance : LinearOrder Extent where
  le_refl a := le_def.2 (.inr ⟨rfl, Int.le_refl _⟩)
  le_trans a b c first second := by
    simp only [le_def] at *
    omega
  lt_iff_le_not_ge a b := by
    simp only [le_def, lt_def]
    omega
  le_antisymm a b := le_antisymm
  le_total a b := by
    simp only [le_def]
    omega
  toDecidableLE := inferInstance
  toDecidableEq := inferInstance
  toDecidableLT := inferInstance

end Extent

namespace Range

variable {inner outer : Range}

def Within (inner outer : Range) : Prop :=
  ∀ position, inner.contains position = true → outer.contains position = true

theorem within_iff : inner.Within outer ↔ outer.start ≤ inner.start ∧ inner.stop ≤ outer.stop := by
  constructor
  · intro within
    have starts := within inner.start (contains_iff.2 ⟨inner.start.le_refl, inner.start_le_stop⟩)
    have stops := within inner.stop (contains_iff.2 ⟨inner.start_le_stop, inner.stop.le_refl⟩)
    exact ⟨(contains_iff.1 starts).1, (contains_iff.1 stops).2⟩
  · rintro ⟨starts, stops⟩ position inside
    obtain ⟨behind, before⟩ := contains_iff.1 inside
    exact contains_iff.2 ⟨Position.le_trans starts behind, Position.le_trans before stops⟩

instance (inner outer : Range) : Decidable (inner.Within outer) := decidable_of_iff' _ within_iff

theorem Within.extent_le (within : inner.Within outer) : inner.extent ≤ outer.extent := by
  obtain ⟨starts, stops⟩ := within_iff.1 within
  simp only [Extent.le_def, extent, Position.le_def] at *
  omega

/-- A range within another one is as large only if it is the same. -/
theorem Within.eq_of_extent_le (within : inner.Within outer)
    (large : outer.extent ≤ inner.extent) : inner = outer := by
  have same := Extent.le_antisymm within.extent_le large
  obtain ⟨starts, stops⟩ := within_iff.1 within
  obtain ⟨⟨line, col⟩, ⟨line', col'⟩, _⟩ := inner
  obtain ⟨⟨first, left⟩, ⟨last, right⟩, _⟩ := outer
  simp only [extent, Extent.mk.injEq, Position.le_def, Range.mk.injEq, Position.mk.injEq] at *
  omega

end Range
end CodeNav
