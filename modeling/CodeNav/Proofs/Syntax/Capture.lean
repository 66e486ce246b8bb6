import CodeNav.Proofs.Source.Offset
import CodeNav.Proofs.Table
import CodeNav.Syntax.Capture

/-! Captures of one source. The range of a capture tells its text, and ranges stand in the order of
the bytes that the captures span. -/
namespace CodeNav.Syntax

open CodeNav.Text.Utf8 (Bytes decodeLossy)

def Capture.Of (source : Bytes) (capture : Capture) : Prop :=
  ∃ name node, capture = ofNode source name node

def Captures.Of (source : Bytes) (captures : Captures) : Prop :=
  ∀ capture ∈ captures.values, capture.Of source

theorem Captures.Of.get? {source : Bytes} {captures : Captures} (of : captures.Of source)
    {name : String} {capture : Capture} (found : captures.get? name = some capture) :
    capture.Of source :=
  of capture (Table.mem_values.2 ⟨name, found⟩)

theorem Captures.Of.insert {source : Bytes} {captures : Captures} (of : captures.Of source)
    (name label : String) (node : Node) :
    Captures.Of source (captures.insert name (Capture.ofNode source label node)) := by
  intro capture member
  obtain ⟨key, found⟩ := Table.mem_values.1 member
  rw [Table.get?_insert] at found
  split at found
  · rw [← Option.some.inj found]
    exact ⟨label, node, rfl⟩
  · exact of.get? found

theorem Match.captured_of (source : Bytes) (found : Match) :
    Captures.Of source (found.captured source) := by
  have keeps (entries : List (String × Node)) (captures : Captures) (of : captures.Of source) :
      Captures.Of source (entries.foldl (fun captures entry =>
        if captures.contains entry.1 then captures
        else captures.insert entry.1 (Capture.ofNode source entry.1 entry.2)) captures) := by
    induction entries generalizing captures with
    | nil => exact of
    | cons entry rest ih =>
      rw [List.foldl_cons]
      apply ih
      split
      · exact of
      · exact of.insert _ _ _
  exact keeps found.captures .empty nofun

theorem Query.captures_of {query : Query} {source : Bytes} {tree : Tree} {captures : Captures}
    (member : captures ∈ query.captures source tree) : captures.Of source := by
  obtain ⟨found, _, rfl⟩ := List.mem_map.1 member
  exact found.captured_of source

namespace Capture

variable {source : Bytes} {first second : Capture} {range : Range}

theorem range_eq_ok {capture : Capture} : capture.range = .ok range ↔
    range.start = capture.startPoint.position ∧ range.stop = capture.stopPoint.position :=
  Range.between_eq_ok

/-- One range, one text. -/
theorem text_eq_of_range (first_of : first.Of source) (second_of : second.Of source)
    (first_range : first.range = .ok range) (second_range : second.range = .ok range) :
    first.text = second.text := by
  obtain ⟨_, node, rfl⟩ := first_of
  obtain ⟨_, other, rfl⟩ := second_of
  rw [range_eq_ok] at first_range second_range
  have starts := Source.pointAt_inj (first_range.1.symm.trans second_range.1)
  have stops := Source.pointAt_inj (first_range.2.symm.trans second_range.2)
  change decodeLossy (Source.slice source node.start node.stop) =
    decodeLossy (Source.slice source other.start other.stop)
  rw [← Source.slice_min, starts, stops, Source.slice_min]

theorem start_le_start (first_of : first.Of source) (second_of : second.Of source)
    {first_range second_range : Range} (here : first.range = .ok first_range)
    (there : second.range = .ok second_range) (before : first.start ≤ second.start) :
    first_range.start ≤ second_range.start := by
  obtain ⟨_, node, rfl⟩ := first_of
  obtain ⟨_, other, rfl⟩ := second_of
  rw [(range_eq_ok.1 here).1, (range_eq_ok.1 there).1]
  exact Source.pointAt_le before

end Capture
end CodeNav.Syntax
