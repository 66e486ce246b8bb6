import CodeNav.Proofs.Table
import CodeNav.Survey
import Mathlib.Data.List.Induction

/-! Which definition is kept at a span. Several matches may name one there; of those that give it a
container the last is kept, and where none does the last of all. -/
namespace CodeNav.Survey

variable {span : Nat × Nat} {all before : List Named} {named : Named}

def lastAt (span : Nat × Nat) (all : List Named) : Option Named :=
  (all.filter fun named => named.capture.span = span).getLast?

/-- Of the definitions at a span the last one that has a container, or else the last one. -/
def latestAt (span : Nat × Nat) (all : List Named) : Option Named :=
  (lastAt span (all.filter Named.qualified)).or (lastAt span all)

theorem lastAt_append_singleton (span : Nat × Nat) (before : List Named) (named : Named) :
    lastAt span (before ++ [named]) =
      if named.capture.span = span then some named else lastAt span before := by
  by_cases here : named.capture.span = span
  · rw [lastAt, List.filter_append, List.filter_cons_of_pos (by simpa using here), List.filter_nil,
      List.getLast?_concat, if_pos here]
  · rw [lastAt, List.filter_append, List.filter_cons_of_neg (by simpa using here), List.filter_nil,
      List.append_nil, if_neg here, lastAt]

theorem mem_of_lastAt (last : lastAt span all = some named) :
    named ∈ all ∧ named.capture.span = span := by
  obtain ⟨member, here⟩ := List.mem_filter.1 (List.mem_of_getLast? last)
  exact ⟨member, of_decide_eq_true here⟩

theorem lastAt_eq_none : lastAt span all = none ↔ ∀ named ∈ all, named.capture.span ≠ span := by
  simp [lastAt]

theorem all_latestAt (span : Nat × Nat) (all : List Named) :
    (latestAt span all).all (!·.qualified) = true ↔
      lastAt span (all.filter Named.qualified) = none := by
  rw [latestAt]
  cases last : lastAt span (all.filter Named.qualified) with
  | some named =>
    have qualified := (List.mem_filter.1 (mem_of_lastAt last).1).2
    simp [qualified]
  | none =>
    refine iff_of_true ?_ rfl
    rw [Option.none_or, Option.all_eq_true]
    intro named chosen
    obtain ⟨member, here⟩ := mem_of_lastAt chosen
    rw [Bool.not_eq_true', ← Bool.not_eq_true]
    intro qualified
    exact lastAt_eq_none.1 last named (List.mem_filter.2 ⟨member, qualified⟩) here

theorem latestAt_append_singleton (span : Nat × Nat) (before : List Named) (named : Named) :
    latestAt span (before ++ [named]) =
      if named.capture.span = span ∧
          (named.qualified ∨ (latestAt span before).all (!·.qualified)) then
        some named
      else latestAt span before := by
  simp only [all_latestAt]
  rw [latestAt, List.filter_append, lastAt_append_singleton]
  by_cases qualified : named.qualified
  · rw [List.filter_cons_of_pos qualified, List.filter_nil, lastAt_append_singleton]
    by_cases here : named.capture.span = span
    · simp [here, qualified]
    · simp [here, latestAt]
  · rw [List.filter_cons_of_neg qualified, List.filter_nil, List.append_nil]
    -- One without a container is kept only where no other has one.
    cases last : lastAt span (before.filter Named.qualified) with
    | some known => simp [latestAt, last, qualified]
    | none => simp [latestAt, last]

theorem mem_of_latestAt (kept : latestAt span all = some named) :
    named ∈ all ∧ named.capture.span = span := by
  rw [latestAt, Option.or_eq_some_iff] at kept
  obtain qualified | ⟨-, last⟩ := kept
  · obtain ⟨member, here⟩ := mem_of_lastAt qualified
    exact ⟨(List.mem_filter.1 member).1, here⟩
  · exact mem_of_lastAt last

theorem exists_latestAt_iff :
    (∃ named, latestAt span all = some named) ↔ ∃ named ∈ all, named.capture.span = span := by
  constructor
  · rintro ⟨named, kept⟩
    exact ⟨named, mem_of_latestAt kept⟩
  · rintro ⟨named, member, here⟩
    cases kept : latestAt span all with
    | some known => exact ⟨known, rfl⟩
    | none =>
      rw [latestAt, Option.or_eq_none_iff] at kept
      exact absurd here (lastAt_eq_none.1 kept.2 named member)

theorem get?_keep (names : Names) (named : Named) (span : Nat × Nat) :
    (keep names named).get? span =
      if named.capture.span = span ∧ (named.qualified ∨ (names.get? span).all (!·.qualified)) then
        some named
      else names.get? span := by
  by_cases here : named.capture.span = span
  · subst here
    rw [keep]
    cases stored : names.get? named.capture.span with
    | none => simp
    | some known =>
      dsimp only
      by_cases known_qualified : known.qualified
      · by_cases qualified : named.qualified
        · simp [qualified]
        · simp [qualified, known_qualified, stored]
      · simp [known_qualified]
  · rw [if_neg fun both => here both.1, keep]
    split
    · split
      · rfl
      · simp [here]
    · simp [here]

theorem get?_foldl_keep (all : List Named) (span : Nat × Nat) :
    (all.foldl keep .empty).get? span = latestAt span all := by
  -- From the end, so that what the earlier definitions left is at hand.
  induction all using List.reverseRecOn with
  | nil => rfl
  | append_singleton before named ih =>
    rw [List.foldl_append, List.foldl_cons, List.foldl_nil, get?_keep, ih,
      latestAt_append_singleton]

theorem get?_namesOf_eq (definitions : List Syntax.Captures) (span : Nat × Nat) :
    (namesOf definitions).get? span = latestAt span (definitions.filterMap named?) :=
  get?_foldl_keep _ span

theorem unqualified_of_latestAt (kept : latestAt span all = some named)
    (unqualified : named.qualified = false) {other : Named} (member : other ∈ all)
    (here : other.capture.span = span) : other.qualified = false := by
  have none_qualified := (all_latestAt span all).1 (by simp [kept, unqualified])
  rw [← Bool.not_eq_true]
  intro qualified
  exact lastAt_eq_none.1 none_qualified other (List.mem_filter.2 ⟨member, qualified⟩) here

end CodeNav.Survey
