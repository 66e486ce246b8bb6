import CodeNav.Proofs.Marks
import CodeNav.Proofs.Survey.Kept
import CodeNav.Proofs.Syntax.Capture
import Mathlib.Data.List.Induction

/-! What a survey notes, item by item: bindings first, then definitions by place, then uses, each
of these under the first definition of its name. -/
namespace CodeNav.Survey

structure Transcript where
  bindings : List (Binding × Range)
  definitions : List (Named × Range)
  uses : List (Syntax.Capture × Range)

namespace Transcript

def binding (noted : Binding × Range) : Finding :=
  .binding noted.1.localName noted.1.target noted.2

def definition (noted : Named × Range) : Finding :=
  .definition noted.1.name noted.1.kind noted.2 noted.1.container

def use (own : String → Option Identity) (noted : Syntax.Capture × Range) : Finding :=
  .reference noted.1.text noted.2 (own noted.1.text)

def own (definitions : List (Named × Range)) (found : Findings) (name : String) : Option Identity :=
  (definitions.find? fun noted => noted.1.name = name).map fun noted =>
    found.identify noted.1.name noted.1.container

def items (transcript : Transcript) (found : Findings) : List Finding :=
  transcript.bindings.map binding ++ transcript.definitions.map definition ++
    transcript.uses.map (use (own transcript.definitions found))

def findings (transcript : Transcript) (grammar : Grammar) (path : String) : Findings :=
  Findings.ofList grammar.tag path (transcript.items (Findings.start grammar.tag path))

structure Of (transcript : Transcript) (survey : Survey) : Prop where
  definitions : transcript.definitions.map Prod.fst = placed (namesOf survey.definitions)
  definition_range : ∀ noted ∈ transcript.definitions, noted.1.capture.range = .ok noted.2
  uses : transcript.uses.map Prod.fst = usesOf (namesOf survey.definitions)
    (statementSpans survey.imports) survey.references
  use_range : ∀ noted ∈ transcript.uses, noted.1.range = .ok noted.2

end Transcript

open Transcript

theorem rangeOf_eq_ok {capture : Syntax.Capture} {range : Range} :
    rangeOf capture = .ok range ↔ capture.range = .ok range := by
  rw [rangeOf]
  cases capture.range with
  | error failure =>
    constructor
    · intro done
      cases done
    · intro done
      cases done
  | ok known => exact ⟨fun done => congrArg _ (Except.ok.inj done), fun done => done ▸ rfl⟩

theorem get?_namesOf {definitions : List Syntax.Captures} {span : Nat × Nat} {named : Named}
    (stored : (namesOf definitions).get? span = some named) :
    named.capture.span = span ∧ ∃ captures ∈ definitions, named? captures = some named := by
  rw [get?_namesOf_eq] at stored
  obtain ⟨member, here⟩ := mem_of_latestAt stored
  exact ⟨here, List.mem_filterMap.1 member⟩

theorem mem_placed {names : Names} {named : Named} :
    named ∈ placed names ↔ ∃ span, names.get? span = some named := by
  simp only [placed, List.mem_map, List.mem_mergeSort, Table.get?_eq_some]
  constructor
  · rintro ⟨⟨span, named⟩, member, rfl⟩
    exact ⟨span, member⟩
  · rintro ⟨span, member⟩
    exact ⟨(span, named), member, rfl⟩

theorem exists_named_of_mem_placed {definitions : List Syntax.Captures} {named : Named}
    (member : named ∈ placed (namesOf definitions)) :
    ∃ captures ∈ definitions, named? captures = some named := by
  obtain ⟨span, stored⟩ := mem_placed.1 member
  exact (get?_namesOf stored).2

theorem spanBefore_iff {a b : Nat × Nat} :
    spanBefore a b = true ↔ a.1 < b.1 ∨ a.1 = b.1 ∧ a.2 ≤ b.2 := by
  simp [spanBefore]

theorem spanBefore_trans {a b c : Nat × Nat} (first : spanBefore a b = true)
    (second : spanBefore b c = true) : spanBefore a c = true := by
  rw [spanBefore_iff] at first second ⊢
  omega

theorem spanBefore_total (a b : Nat × Nat) : (spanBefore a b || spanBefore b a) = true := by
  rw [Bool.or_eq_true, spanBefore_iff, spanBefore_iff]
  omega

theorem pairwise_entries (names : Names) :
    (names.entries.mergeSort fun a b => spanBefore a.1 b.1).Pairwise
      fun a b => spanBefore a.1 b.1 = true := by
  apply List.pairwise_mergeSort
  · intro a b c
    exact spanBefore_trans
  · intro a b
    exact spanBefore_total a.1 b.1

theorem pairwise_placed (definitions : List Syntax.Captures) :
    (placed (namesOf definitions)).Pairwise fun a b => a.capture.start ≤ b.capture.start := by
  rw [placed, List.pairwise_map]
  apply (pairwise_entries (namesOf definitions)).imp_of_mem
  intro a b first second before
  rw [List.mem_mergeSort] at first second
  have here := (get?_namesOf (Table.get?_eq_some.2 first)).1
  have there := (get?_namesOf (Table.get?_eq_some.2 second)).1
  rw [spanBefore_iff, ← here, ← there] at before
  dsimp only [Syntax.Capture.span] at before
  omega

theorem named?_of {source : Text.Utf8.Bytes} {captures : Syntax.Captures} {named : Named}
    (of : captures.Of source) (found : named? captures = some named) :
    named.capture.Of source := by
  rw [named?] at found
  split at found
  · cases found
  · next capture chosen =>
    split at found
    · cases found
    · rw [← Option.some.inj found]
      rw [nameOf] at chosen
      exact of capture (List.mem_filter.1 (List.mem_of_getLast? chosen)).1

def boundBy (grammar : Grammar) (captures : Syntax.Captures) :
    Option (Syntax.Captures × Binding) :=
  match grammar.binding captures with
  | .ok (some binding) => some (captures, binding)
  | _ => none

def place (bound : Syntax.Captures × Binding) : String × (Nat × Nat) :=
  (bound.2.localName, bound.2.located.span)

/-- The matches that bind a name, of several that bind one name at one place the first. -/
def firstBinding (bound : List (Syntax.Captures × Binding)) : List (Syntax.Captures × Binding) :=
  bound.eraseDupsBy fun first second => place first = place second

def bindings (grammar : Grammar) (imports : List Syntax.Captures) :
    List (Syntax.Captures × Binding) :=
  firstBinding (imports.filterMap (boundBy grammar))

theorem bindImport_eq_ok {grammar : Grammar} {bound next : Bound} {captures : Syntax.Captures}
    (done : bindImport grammar bound captures = .ok next) :
    boundBy grammar captures = none ∧ next = bound ∨
      ∃ imported, boundBy grammar captures = some (captures, imported) ∧
        (place (captures, imported) ∈ bound.seen ∧ next = bound ∨
          place (captures, imported) ∉ bound.seen ∧ ∃ range, imported.located.range = .ok range ∧
            next = ⟨bound.found.add (binding (imported, range)),
              bound.seen ++ [place (captures, imported)]⟩) := by
  rw [bindImport, bind_eq_ok] at done
  obtain ⟨bound_name, told, done⟩ := done
  rw [boundBy, told]
  cases bound_name with
  | none =>
    cases done
    exact .inl ⟨rfl, rfl⟩
  | some imported =>
    refine .inr ⟨imported, rfl, ?_⟩
    dsimp only at done
    split at done
    · next known =>
      cases done
      exact .inl ⟨known, rfl⟩
    · next fresh =>
      rw [bind_eq_ok] at done
      obtain ⟨range, ranged, done⟩ := done
      cases done
      exact .inr ⟨fresh, range, rangeOf_eq_ok.1 ranged, rfl⟩

theorem foldlM_bindImport_eq_ok {grammar : Grammar} {bound final : Bound}
    {imports : List Syntax.Captures}
    (done : imports.foldlM (bindImport grammar) bound = .ok final) :
    ∃ noted : List (Binding × Range),
      noted.map Prod.fst = (firstBinding ((imports.filterMap (boundBy grammar)).filter
        fun imported => place imported ∉ bound.seen)).map Prod.snd ∧
      (∀ pair ∈ noted, pair.1.located.range = .ok pair.2) ∧
      final.found = (noted.map binding).foldl Findings.add bound.found := by
  induction imports generalizing bound with
  | nil =>
    cases done
    refine ⟨[], ?_, List.forall_mem_nil _, rfl⟩
    rw [List.filterMap_nil, List.filter_nil, firstBinding, List.eraseDupsBy_nil, List.map_nil,
      List.map_nil]
  | cons captures rest ih =>
    rw [List.foldlM_cons, bind_eq_ok] at done
    obtain ⟨middle, first, done⟩ := done
    obtain ⟨noted, kept, ranges, later⟩ := ih done
    rcases bindImport_eq_ok first with
      ⟨unbound, rfl⟩ | ⟨imported, told, ⟨known, rfl⟩ | ⟨fresh, range, ranged, rfl⟩⟩
    · rw [List.filterMap_cons_none unbound]
      exact ⟨noted, kept, ranges, later⟩
    · rw [List.filterMap_cons_some told, List.filter_cons_of_neg (by simp [known])]
      exact ⟨noted, kept, ranges, later⟩
    · refine ⟨(imported, range) :: noted, ?_, ?_, later⟩
      · -- Behind the match that is noted, those of its place count as seen.
        rw [List.filterMap_cons_some told, List.filter_cons_of_pos (by simp [fresh]),
          firstBinding, List.eraseDupsBy_cons, List.filter_filter, List.map_cons, List.map_cons,
          kept, firstBinding]
        congr 4
        funext other
        simp [List.mem_append, Bool.and_comm]
      · intro pair member
        rcases List.mem_cons.1 member with rfl | inside
        · exact ranged
        · exact ranges pair inside

theorem bindImports_eq_ok {grammar : Grammar} {found final : Findings}
    {imports : List Syntax.Captures} (done : bindImports grammar found imports = .ok final) :
    ∃ noted : List (Binding × Range),
      noted.map Prod.fst = (bindings grammar imports).map Prod.snd ∧
      (∀ pair ∈ noted, pair.1.located.range = .ok pair.2) ∧
      final = (noted.map binding).foldl Findings.add found := by
  rw [bindImports, map_eq_ok] at done
  obtain ⟨bound, folded, rfl⟩ := done
  obtain ⟨noted, kept, ranges, same⟩ := foldlM_bindImport_eq_ok folded
  rw [List.filter_eq_self.2 fun imported _ => by simp] at kept
  exact ⟨noted, kept, ranges, same⟩

def noteNamed (defined : Defined) (noted : Named × Range) : Defined where
  found := defined.found.add (definition noted)
  own := if defined.own.contains noted.1.name then defined.own
    else defined.own.insert noted.1.name (defined.found.identify noted.1.name noted.1.container)

theorem found_foldl_noteNamed (pairs : List (Named × Range)) (defined : Defined) :
    (pairs.foldl noteNamed defined).found =
      (pairs.map definition).foldl Findings.add defined.found := by
  induction pairs generalizing defined with
  | nil => rfl
  | cons noted rest ih => exact ih (noteNamed defined noted)

theorem own_foldl_noteNamed (pairs : List (Named × Range)) (found : Findings) (name : String) :
    (pairs.foldl noteNamed ⟨found, .empty⟩).own.get? name = own pairs found name := by
  -- From the end, so that the table made by the earlier definitions is at hand.
  induction pairs using List.reverseRecOn with
  | nil => rfl
  | append_singleton before noted ih =>
    have known : (before.foldl noteNamed ⟨found, .empty⟩).found.identify noted.1.name
        noted.1.container = found.identify noted.1.name noted.1.container := by
      rw [found_foldl_noteNamed, Findings.identify_foldl]
    have here : ([noted].find? fun noted => noted.1.name = name) =
        if noted.1.name = name then some noted else none := by
      by_cases same : noted.1.name = name
      · simp [same]
      · simp [same]
    rw [List.foldl_append, List.foldl_cons, List.foldl_nil, noteNamed, own, List.find?_append, here,
      Option.map_or]
    dsimp only
    rw [known, Table.get?_insert_missing, ih]
    congr 1
    split <;> rfl

theorem defineNames_eq_ok {found : Findings} {names : Names} {defined : Defined}
    (done : defineNames found names = .ok defined) :
    ∃ definitions : List (Named × Range), definitions.map Prod.fst = placed names ∧
      (∀ noted ∈ definitions, noted.1.capture.range = .ok noted.2) ∧
      defined.found = (definitions.map definition).foldl Findings.add found ∧
      defined.own.get? = own definitions found := by
  have steps (state : Defined) (named : Named) : defineNamed state named =
      (rangeOf named.capture).map fun range => noteNamed state (named, range) := by
    rw [defineNamed]
    cases rangeOf named.capture <;> rfl
  obtain ⟨definitions, names_same, ranges, rfl⟩ := foldlM_eq_ok steps done
  refine ⟨definitions, names_same, ?_, found_foldl_noteNamed _ _, ?_⟩
  · intro noted member
    exact rangeOf_eq_ok.1 (ranges noted member)
  · funext name
    exact own_foldl_noteNamed definitions found name

def noteUse (own : Table String Identity) (found : Findings) (noted : Syntax.Capture × Range) :
    Findings :=
  found.add (use own.get? noted)

theorem foldlM_referUse_eq_ok {own : Table String Identity} {found final : Findings}
    {captures : List Syntax.Capture} (done : captures.foldlM (referUse own) found = .ok final) :
    ∃ uses : List (Syntax.Capture × Range), uses.map Prod.fst = captures ∧
      (∀ noted ∈ uses, noted.1.range = .ok noted.2) ∧
      final = (uses.map (use own.get?)).foldl Findings.add found := by
  have steps (state : Findings) (capture : Syntax.Capture) : referUse own state capture =
      (rangeOf capture).map fun range => noteUse own state (capture, range) := by
    rw [referUse]
    cases rangeOf capture <;> rfl
  obtain ⟨uses, captures_same, ranges, rfl⟩ := foldlM_eq_ok steps done
  refine ⟨uses, captures_same, ?_, ?_⟩
  · intro noted member
    exact rangeOf_eq_ok.1 (ranges noted member)
  · rw [List.foldl_map]
    rfl

/-- The findings of a survey are those of a transcript of it, in which the imports have bound what
they bind. -/
theorem exists_transcript_bindings {grammar : Grammar} {path : String} {survey : Survey}
    {found : Findings} (done : survey.findings grammar path = .ok found) :
    ∃ transcript : Transcript, transcript.Of survey ∧
      transcript.bindings.map Prod.fst = (bindings grammar survey.imports).map Prod.snd ∧
      (∀ noted ∈ transcript.bindings, noted.1.located.range = .ok noted.2) ∧
      found = transcript.findings grammar path := by
  rw [findings, bind_eq_ok] at done
  obtain ⟨bound, bindings_done, done⟩ := done
  rw [bind_eq_ok] at done
  obtain ⟨defined, definitions_done, uses_done⟩ := done
  obtain ⟨bindings, kept, bound_ranges, rfl⟩ := bindImports_eq_ok bindings_done
  obtain ⟨definitions, names, ranges, defined_found, defined_own⟩ :=
    defineNames_eq_ok definitions_done
  obtain ⟨uses, captures, use_ranges, rfl⟩ := foldlM_referUse_eq_ok uses_done
  have own_same : defined.own.get? = own definitions (Findings.start grammar.tag path) := by
    rw [defined_own]
    funext name
    simp only [own, Findings.identify_foldl]
  refine ⟨⟨bindings, definitions, uses⟩, ⟨names, ranges, captures, use_ranges⟩, kept,
    bound_ranges, ?_⟩
  rw [own_same, defined_found, Transcript.findings, Findings.ofList, items, List.foldl_append,
    List.foldl_append]

theorem exists_transcript {grammar : Grammar} {path : String} {survey : Survey}
    {found : Findings} (done : survey.findings grammar path = .ok found) :
    ∃ transcript : Transcript, transcript.Of survey ∧ found = transcript.findings grammar path := by
  obtain ⟨transcript, transcript_of, _, _, same⟩ := exists_transcript_bindings done
  exact ⟨transcript, transcript_of, same⟩

theorem recorded {grammar : Grammar} {path : String} {survey : Survey} {found : Findings}
    (done : survey.findings grammar path = .ok found) : found.Recorded := by
  obtain ⟨transcript, _, rfl⟩ := exists_transcript done
  exact Findings.recorded_ofList _ _ _

end CodeNav.Survey
