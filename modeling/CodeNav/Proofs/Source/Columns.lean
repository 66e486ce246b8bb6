import CodeNav.Proofs.Source.Offset
import CodeNav.Syntax.Capture
import Mathlib.Data.List.DropRight

/-! Points in terms of bytes: rows count the line feeds before an offset, columns the bytes behind
the last of them. So a range holds the position of an offset just where its bytes enclose it. -/
namespace CodeNav

open CodeNav.Text.Utf8 (Bytes)

namespace Source

variable {source : Bytes}

def lastLine (bytes : Bytes) : Bytes := bytes.rtakeWhile fun byte => byte ≠ lineFeed

theorem foldl_behind (bytes : Bytes) :
    bytes.foldl behind ⟨0, 0⟩ = ⟨bytes.count lineFeed, (lastLine bytes).length⟩ := by
  -- From the end, since the last byte alone decides whether the column goes on.
  induction bytes using List.reverseRecOn with
  | nil => rfl
  | append_singleton before byte ih =>
    rw [List.foldl_append, ih, List.foldl_cons, List.foldl_nil, behind, lastLine, lastLine,
      List.rtakeWhile_concat, List.count_append]
    by_cases ends : byte = lineFeed
    · simp [ends]
    · simp [ends]

theorem pointAt_eq (source : Bytes) (offset : Nat) : pointAt source offset =
    ⟨(source.take offset).count lineFeed, (lastLine (source.take offset)).length⟩ :=
  foldl_behind _

/-- Up to the end of the source, positions stand in the order of their offsets. -/
theorem pointAt_le_iff {first second : Nat} (inside : first ≤ source.length) :
    (pointAt source first).position ≤ (pointAt source second).position ↔ first ≤ second := by
  constructor
  · intro upTo
    by_contra more
    have before : second < first := Nat.lt_of_not_le more
    exact Position.not_lt.2 upTo (pointAt_lt before (Nat.lt_of_lt_of_le before inside))
  · exact pointAt_le

end Source

namespace Syntax.Capture

theorem exists_range_ofNode {source : Bytes} (name : String) {node : Node}
    (forward : node.start ≤ node.stop) (inside : node.stop ≤ source.length) :
    ∃ range, (ofNode source name node).range = .ok range ∧ ∀ offset ≤ source.length,
      (range.contains (Source.pointAt source offset).position = true ↔
        node.start ≤ offset ∧ offset ≤ node.stop) := by
  refine ⟨⟨_, _, Source.pointAt_le forward⟩, Range.between_eq_ok.2 ⟨rfl, rfl⟩, ?_⟩
  intro offset bounded
  rw [Range.contains_iff]
  exact and_congr (Source.pointAt_le_iff (Nat.le_trans forward inside))
    (Source.pointAt_le_iff bounded)

end Syntax.Capture
end CodeNav
