import CodeNav.Proofs.Survey.Spans

/-! Surveys that can be noted. A range is all that noting can lack, so where every capture has one
the survey has findings. -/
namespace CodeNav

open Syntax

def Grammar.Locates (grammar : Grammar) : Prop :=
  ∀ captures, ∃ result, grammar.binding captures = .ok result ∧
    ∀ imported ∈ result, imported.located ∈ captures.values

namespace Survey

def HasRange (capture : Capture) : Prop := ∃ range, capture.range = .ok range

structure Ranged (survey : Survey) : Prop where
  imports : ∀ captures ∈ survey.imports, ∀ capture ∈ captures.values, HasRange capture
  definitions : ∀ captures ∈ survey.definitions, ∀ capture ∈ captures.values, HasRange capture
  references : ∀ captures ∈ survey.references, ∀ capture ∈ captures.values, HasRange capture

variable {grammar : Grammar} {survey : Survey}

theorem exists_rangeOf {capture : Capture} (ranged : HasRange capture) :
    ∃ range, rangeOf capture = .ok range :=
  ranged.imp fun _ known => rangeOf_eq_ok.2 known

theorem exists_bindImport (locates : grammar.Locates) (bound : Bound) {captures : Captures}
    (ranged : ∀ capture ∈ captures.values, HasRange capture) :
    ∃ next, bindImport grammar bound captures = .ok next := by
  obtain ⟨result, binds, inside⟩ := locates captures
  simp only [bindImport, bind_eq_ok]
  cases result with
  | none => exact ⟨bound, none, binds, rfl⟩
  | some imported =>
    by_cases seen : (imported.localName, imported.located.span) ∈ bound.seen
    · exact ⟨bound, some imported, binds, if_pos seen⟩
    · obtain ⟨range, known⟩ := exists_rangeOf (ranged _ (inside imported rfl))
      exact ⟨_, some imported, binds, (if_neg seen).trans (bind_eq_ok.2 ⟨range, known, rfl⟩)⟩

theorem exists_bindImports (locates : grammar.Locates) (found : Findings)
    {imports : List Captures}
    (ranged : ∀ captures ∈ imports, ∀ capture ∈ captures.values, HasRange capture) :
    ∃ final, bindImports grammar found imports = .ok final := by
  obtain ⟨bound, folded⟩ := exists_foldlM_eq_ok (fun state captures member =>
    exists_bindImport locates state (ranged captures member)) ⟨found, []⟩
  exact ⟨bound.found, map_eq_ok.2 ⟨bound, folded, rfl⟩⟩

theorem hasRange_placed {definitions : List Captures}
    (ranged : ∀ captures ∈ definitions, ∀ capture ∈ captures.values, HasRange capture)
    {named : Named} (member : named ∈ placed (namesOf definitions)) : HasRange named.capture := by
  obtain ⟨captures, inside, known⟩ := exists_named_of_mem_placed member
  have chosen := (named?_eq_some.1 known).1
  exact ranged captures inside _ (List.mem_filter.1 (List.mem_of_getLast? chosen)).1

theorem exists_defineNames (found : Findings) {definitions : List Captures}
    (ranged : ∀ captures ∈ definitions, ∀ capture ∈ captures.values, HasRange capture) :
    ∃ defined, defineNames found (namesOf definitions) = .ok defined := by
  apply exists_foldlM_eq_ok
  intro defined named member
  obtain ⟨range, known⟩ := exists_rangeOf (hasRange_placed ranged member)
  exact ⟨_, bind_eq_ok.2 ⟨range, known, rfl⟩⟩

theorem exists_referUses (own : Table String Identity) (found : Findings) {names : Names}
    {statements : List (Nat × Nat)} {references : List Captures}
    (ranged : ∀ captures ∈ references, ∀ capture ∈ captures.values, HasRange capture) :
    ∃ final, (usesOf names statements references).foldlM (referUse own) found = .ok final := by
  apply exists_foldlM_eq_ok
  intro state capture member
  obtain ⟨captures, inside, stored⟩ := List.mem_filterMap.1 (List.mem_filter.1 member).1
  obtain ⟨range, known⟩ :=
    exists_rangeOf (ranged captures inside capture (Table.mem_values.2 ⟨_, stored⟩))
  exact ⟨_, bind_eq_ok.2 ⟨range, known, rfl⟩⟩

theorem exists_findings (locates : grammar.Locates) (ranged : survey.Ranged) (path : String) :
    ∃ found, survey.findings grammar path = .ok found := by
  obtain ⟨bound, binds⟩ :=
    exists_bindImports locates (Findings.start grammar.tag path) ranged.imports
  obtain ⟨defined, defines⟩ := exists_defineNames bound ranged.definitions
  obtain ⟨found, refers⟩ := exists_referUses defined.own defined.found ranged.references
  exact ⟨found, bind_eq_ok.2 ⟨bound, binds, bind_eq_ok.2 ⟨defined, defines, refers⟩⟩⟩

end Survey
end CodeNav
