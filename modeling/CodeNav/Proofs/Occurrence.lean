import CodeNav.Proofs.Source.Extent
import CodeNav.Symbol.Occurrence
import Mathlib.Data.List.MinMax

/-! Which occurrence is picked at a position: of those that contain it the first one of least
extent. No other one that contains the position lies strictly within it. -/
namespace CodeNav.Occurrence

variable {occurrences : List Occurrence} {position : Position} {occurrence : Occurrence}

/-- To keep the narrower one of each two is to look for a least element. -/
theorem pick_eq_argmin (occurrences : List Occurrence) (position : Position) :
    pick occurrences position =
      (occurrences.filter fun occurrence => occurrence.range.contains position).argmin
        fun occurrence => occurrence.range.extent := by
  rw [pick, List.argmin]
  congr 1
  funext best next
  cases best <;> rfl

theorem mem_of_pick (chosen : pick occurrences position = some occurrence) :
    occurrence ∈ occurrences := by
  rw [pick_eq_argmin] at chosen
  exact (List.mem_filter.1 (List.argmin_mem chosen)).1

theorem pick_eq_none : pick occurrences position = none ↔
    ∀ occurrence ∈ occurrences, occurrence.range.contains position = false := by
  rw [pick_eq_argmin, List.argmin_eq_none, List.filter_eq_nil_iff]
  simp only [Bool.not_eq_true]

/-- Of the occurrences that contain the position the one has the least extent and stands first among
those of its extent. -/
structure Innermost (occurrences : List Occurrence) (position : Position)
    (chosen : Occurrence) : Prop where
  member : chosen ∈ occurrences
  contains : chosen.range.contains position = true
  least : ∀ other ∈ occurrences, other.range.contains position = true →
    chosen.range.extent ≤ other.range.extent
  first : occurrences.find? (fun other =>
    other.range.contains position && other.range.extent = chosen.range.extent) = some chosen

theorem find?_eq_some_of_argmin {α β : Type} [LinearOrder β] {measure : α → β} {items : List α}
    {least : α} (chosen : items.argmin measure = some least) :
    items.find? (fun other => measure other = measure least) = some least := by
  induction items with
  | nil => cases chosen
  | cons item rest ih =>
    rw [List.argmin_cons] at chosen
    cases later : rest.argmin measure with
    | none =>
      rw [later] at chosen
      obtain rfl := Option.some.inj chosen
      exact List.find?_cons_of_pos (decide_eq_true rfl)
    | some best =>
      simp only [later] at chosen
      split at chosen
      · next less =>
        obtain rfl := Option.some.inj chosen
        rw [List.find?_cons_of_neg (by simpa using less.ne')]
        exact ih later
      · obtain rfl := Option.some.inj chosen
        exact List.find?_cons_of_pos (decide_eq_true rfl)

theorem innermost_of_pick (chosen : pick occurrences position = some occurrence) :
    Innermost occurrences position occurrence := by
  have member := mem_of_pick chosen
  rw [pick_eq_argmin] at chosen
  refine ⟨member, (List.mem_filter.1 (List.argmin_mem chosen)).2, ?_, ?_⟩
  · intro other inside contained
    exact (List.argmin_eq_some_iff.1 chosen).2.1 other (List.mem_filter.2 ⟨inside, contained⟩)
  · rw [← find?_eq_some_of_argmin chosen, List.find?_filter]
    simp only [Bool.decide_and, Bool.decide_eq_true]

theorem Innermost.pick (innermost : Innermost occurrences position occurrence) :
    pick occurrences position = some occurrence := by
  cases chosen : Occurrence.pick occurrences position with
  | none =>
    have outside := pick_eq_none.1 chosen occurrence innermost.member
    rw [innermost.contains] at outside
    cases outside
  | some best =>
    have picked := innermost_of_pick chosen
    -- Both have the least extent, so they are the first with one and the same extent.
    have same : best.range.extent = occurrence.range.extent :=
      le_antisymm (picked.least occurrence innermost.member innermost.contains)
        (innermost.least best picked.member picked.contains)
    rw [← picked.first, same, innermost.first]

/-- Nothing is picked just where no occurrence contains the position. Otherwise the innermost one
is, and each one that contains the position within its range has the same range. -/
theorem pick_innermost (occurrences : List Occurrence) (position : Position) :
    (pick occurrences position = none ↔
      ∀ occurrence ∈ occurrences, occurrence.range.contains position = false) ∧
    (∀ chosen, pick occurrences position = some chosen ↔
      Innermost occurrences position chosen) ∧
    ∀ chosen, pick occurrences position = some chosen →
      ∀ other ∈ occurrences, other.range.contains position = true →
        other.range.Within chosen.range → other.range = chosen.range := by
  refine ⟨pick_eq_none, fun chosen => ⟨innermost_of_pick, Innermost.pick⟩, ?_⟩
  intro chosen picked other member contained within
  exact within.eq_of_extent_le ((innermost_of_pick picked).least other member contained)

/-- Of two ranges over two lines the one whose columns run backwards is the smaller one. -/
example :
    let wide : Occurrence := ⟨"a", .reference, ⟨⟨1, 2⟩, ⟨2, 9⟩, by decide⟩, none⟩
    let narrow : Occurrence := ⟨"b", .reference, ⟨⟨1, 8⟩, ⟨2, 5⟩, by decide⟩, none⟩
    pick [wide, narrow, { narrow with name := "c" }] ⟨2, 3⟩ = some narrow := by
  decide

end CodeNav.Occurrence
