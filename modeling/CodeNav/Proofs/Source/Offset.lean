import CodeNav.Proofs.Source.Position
import CodeNav.Source.Offset

/-! Offsets and points stand in the same order. Two offsets have one point just where both are at
or behind the end of the source, so a stretch of text is known by the points at its ends. -/
namespace CodeNav.Source

open CodeNav.Text.Utf8 (Bytes)

variable {source : Bytes}

theorem lt_behind (point : Point) (byte : UInt8) :
    point.position < (behind point byte).position := by
  rw [behind]
  split
  · exact Position.lt_def.2 (.inl (by dsimp only [Point.position]; omega))
  · exact Position.lt_def.2 (.inr ⟨rfl, by dsimp only [Point.position]; omega⟩)

theorem lt_foldl_behind (point : Point) {bytes : Bytes} (some_byte : bytes ≠ []) :
    point.position < (bytes.foldl behind point).position := by
  induction bytes generalizing point with
  | nil => exact absurd rfl some_byte
  | cons byte rest ih =>
    rw [List.foldl_cons]
    have next := lt_behind point byte
    cases rest with
    | nil => exact next
    | cons second others => exact Position.lt_trans next (ih _ (List.cons_ne_nil _ _))

theorem pointAt_add (source : Bytes) (first count : Nat) :
    pointAt source (first + count) =
      ((source.drop first).take count).foldl behind (pointAt source first) := by
  rw [pointAt, pointAt, List.take_add, List.foldl_append]

theorem pointAt_lt {first second : Nat} (before : first < second)
    (inside : first < source.length) :
    (pointAt source first).position < (pointAt source second).position := by
  obtain ⟨count, rfl⟩ := Nat.exists_eq_add_of_le (Nat.le_of_lt before)
  rw [pointAt_add]
  apply lt_foldl_behind
  intro none_between
  have length := congrArg List.length none_between
  rw [List.length_take, List.length_drop, List.length_nil] at length
  omega

theorem pointAt_of_le {offset : Nat} (behind_end : source.length ≤ offset) :
    pointAt source offset = pointAt source source.length := by
  rw [pointAt, pointAt, List.take_of_length_le behind_end, List.take_length]

theorem pointAt_le {first second : Nat} (before : first ≤ second) :
    (pointAt source first).position ≤ (pointAt source second).position := by
  obtain rfl | less := Nat.eq_or_lt_of_le before
  · exact Position.le_refl _
  · by_cases inside : first < source.length
    · exact Position.le_of_lt (pointAt_lt less inside)
    · have beyond : source.length ≤ first := by omega
      rw [pointAt_of_le beyond, pointAt_of_le (Nat.le_trans beyond before)]
      exact Position.le_refl _

theorem pointAt_inj {first second : Nat}
    (same : (pointAt source first).position = (pointAt source second).position) :
    min first source.length = min second source.length := by
  have apart {a b : Nat} (less : a < b) (inside : a < source.length)
      (equal : (pointAt source a).position = (pointAt source b).position) : False := by
    have before := pointAt_lt less inside
    rw [equal] at before
    exact Position.lt_irrefl _ before
  obtain less | rfl | more := Nat.lt_trichotomy first second
  · by_cases inside : first < source.length
    · exact (apart less inside same).elim
    · omega
  · rfl
  · by_cases inside : second < source.length
    · exact (apart more inside same.symm).elim
    · omega

theorem slice_min (source : Bytes) (start stop : Nat) :
    slice source (min start source.length) (min stop source.length) = slice source start stop := by
  rw [slice, slice]
  by_cases inside : start ≤ source.length
  · rw [Nat.min_eq_left inside, List.take_eq_take_iff, List.length_drop]
    omega
  · have none_left : source.drop start = [] := List.drop_of_length_le (by omega)
    have clipped : min start source.length = source.length := by omega
    rw [clipped, List.drop_length, none_left, List.take_nil, List.take_nil]

end CodeNav.Source
