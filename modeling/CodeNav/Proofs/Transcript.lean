import CodeNav.Proofs.Survey

/-! The findings that a transcript makes: their definitions stand in the order of their places, and
each use is recorded under the first definition of its name. -/
namespace CodeNav.Survey

variable {source : Text.Utf8.Bytes} {grammar : Grammar} {path : String} {survey : Survey}
  {found : Findings} {transcript : Transcript}

structure Of (survey : Survey) (source : Text.Utf8.Bytes) : Prop where
  definitions : ∀ captures ∈ survey.definitions, captures.Of source
  references : ∀ captures ∈ survey.references, captures.Of source

theorem ofTree_of (grammar : Grammar) (source : Text.Utf8.Bytes) (tree : Syntax.Tree) :
    (ofTree grammar source tree).Of source :=
  ⟨fun _ member => Syntax.Query.captures_of member, fun _ member => Syntax.Query.captures_of member⟩

namespace Transcript

def mark (grammar : Grammar) (path : String) (noted : Named × Range) : Occurrence :=
  ⟨noted.1.name, .definition, noted.2,
    some ((Findings.start grammar.tag path).identify noted.1.name noted.1.container)⟩

@[simp] theorem lang_findings (transcript : Transcript) (grammar : Grammar) (path : String) :
    (transcript.findings grammar path).lang = grammar.tag :=
  Findings.lang_ofList _ _ _

@[simp] theorem file_findings (transcript : Transcript) (grammar : Grammar) (path : String) :
    (transcript.findings grammar path).file = Path.normalize path :=
  Findings.file_ofList _ _ _

def bound (noted : Binding × Range) : Occurrence :=
  ⟨noted.1.localName, .binding, noted.2, none⟩

def shown (noted : Syntax.Capture × Range) : Occurrence := ⟨noted.1.text, .reference, noted.2, none⟩

theorem occurrences_findings (transcript : Transcript) (grammar : Grammar) (path : String) :
    (transcript.findings grammar path).occurrences =
      transcript.bindings.map bound ++ transcript.definitions.map (mark grammar path) ++
        transcript.uses.map shown := by
  have none_before : (Findings.start grammar.tag path).occurrences = [] := rfl
  rw [findings, Findings.ofList, Findings.occurrences_foldl, none_before, List.nil_append, items,
    List.flatMap_append, List.flatMap_append, List.flatMap_map, List.flatMap_map, List.flatMap_map,
    List.map_eq_flatMap, List.map_eq_flatMap, List.map_eq_flatMap]
  rfl

theorem filter_role_map {α : Type} {view : α → Occurrence} {role : Role}
    (same : ∀ item, (view item).role = role) (asked : Role → Prop) [DecidablePred asked]
    (items : List α) : (items.map view).filter (fun occurrence => asked occurrence.role) =
      if asked role then items.map view else [] := by
  have kept (item : α) : decide (asked (view item).role) = decide (asked role) := by rw [same]
  rw [List.filter_map, Function.comp_def, funext kept]
  split
  · next ask => rw [decide_eq_true ask, List.filter_true]
  · next ask => rw [decide_eq_false ask, List.filter_false, List.map_nil]

theorem filter_role_findings (transcript : Transcript) (grammar : Grammar) (path : String)
    (asked : Role → Prop) [DecidablePred asked] :
    (transcript.findings grammar path).occurrences.filter
        (fun occurrence => asked occurrence.role) =
      (if asked .binding then transcript.bindings.map bound else []) ++
        (if asked .definition then transcript.definitions.map (mark grammar path) else []) ++
          if asked .reference then transcript.uses.map shown else [] := by
  have binds (noted : Binding × Range) : (bound noted).role = .binding := rfl
  have defines (noted : Named × Range) : (mark grammar path noted).role = .definition := rfl
  have refers (noted : Syntax.Capture × Range) : (shown noted).role = .reference := rfl
  rw [occurrences_findings, List.filter_append, List.filter_append, filter_role_map binds,
    filter_role_map defines, filter_role_map refers]

theorem marks_findings (transcript : Transcript) (grammar : Grammar) (path : String) :
    (transcript.findings grammar path).marks =
      transcript.definitions.map (mark grammar path) := by
  rw [Findings.marks, transcript.filter_role_findings grammar path (· = .definition)]
  simp

def stored (lang file : String) (noted : Named × Range) : Identity × Definition :=
  (Identity.of lang file noted.1.name noted.1.container,
    ⟨lang, file, noted.2, noted.1.name, noted.1.kind⟩)

theorem definitions_foldl_definition (definitions : List (Named × Range)) (found : Findings) :
    ((definitions.map definition).foldl Findings.add found).definitions =
      (definitions.map (stored found.lang found.file)).foldl
        (fun table entry => table.insert entry.1 entry.2) found.definitions := by
  induction definitions generalizing found with
  | nil => rfl
  | cons noted rest ih => exact ih (found.add (definition noted))

/-- The definitions are stored one after the other, so that of several under one identity the last
remains. -/
theorem definitions_findings (transcript : Transcript) (grammar : Grammar) (path : String) :
    (transcript.findings grammar path).definitions =
      .ofList (transcript.definitions.map (stored grammar.tag (Path.normalize path))) := by
  have bind_keeps (state : Findings) (noted : Binding × Range) :
      (state.add (binding noted)).definitions = state.definitions := rfl
  have use_keeps (own : String → Option Identity) (state : Findings)
      (noted : Syntax.Capture × Range) :
      (state.add (use own noted)).definitions = state.definitions := by
    rw [use, Findings.definitions_add]
  rw [findings, Findings.ofList, items, List.foldl_append, List.foldl_append,
    List.foldl_map (l := transcript.uses), foldl_keeps (use_keeps _), definitions_foldl_definition,
    Findings.lang_foldl, Findings.file_foldl, List.foldl_map (l := transcript.bindings),
    foldl_keeps bind_keeps]
  rfl

theorem mem_occurrences_findings {occurrence : Occurrence}
    (member : occurrence ∈ (transcript.findings grammar path).occurrences)
    (role : occurrence.role = .reference) :
    occurrence.identity = none ∧ ∃ noted ∈ transcript.uses,
      noted.1.text = occurrence.name ∧ noted.2 = occurrence.range := by
  rw [occurrences_findings, List.mem_append, List.mem_append] at member
  simp only [List.mem_map] at member
  obtain (⟨noted, _, rfl⟩ | ⟨noted, _, rfl⟩) | ⟨noted, inside, rfl⟩ := member
  · cases role
  · cases role
  · exact ⟨rfl, noted, inside, rfl, rfl⟩

theorem introduced_findings (transcript : Transcript) (grammar : Grammar) (path name : String) :
    (transcript.findings grammar path).introduced name =
      own transcript.definitions (Findings.start grammar.tag path) name := by
  rw [Findings.introduced, marks_findings, List.find?_map, own]
  have same : ((fun mark : Occurrence => decide (mark.name = name)) ∘ mark grammar path) =
      fun noted => decide (noted.1.name = name) := rfl
  rw [same]
  cases transcript.definitions.find? fun noted => noted.1.name = name with
  | none => rfl
  | some noted => rfl

theorem mem_referencesTo_findings {identity : Identity} {reference : Reference}
    (member : reference ∈ (transcript.findings grammar path).referencesTo identity) :
    ∃ noted ∈ transcript.uses, noted.2 = reference.range ∧
      (transcript.findings grammar path).introduced noted.1.text = some identity := by
  obtain none_before | ⟨name, noted⟩ := Findings.mem_referencesTo_foldl member
  · cases none_before
  · simp only [items, List.mem_append, List.mem_map] at noted
    obtain (⟨_, _, other⟩ | ⟨_, _, other⟩) | ⟨noted, inside, same⟩ := noted
    · cases other
    · cases other
    · obtain ⟨_, range_same, own_same⟩ := Finding.reference.inj same
      rw [← introduced_findings] at own_same
      exact ⟨noted, inside, range_same, own_same⟩

theorem exists_named (transcript_of : transcript.Of survey) {noted : Named × Range}
    (member : noted ∈ transcript.definitions) :
    ∃ captures ∈ survey.definitions, named? captures = some noted.1 := by
  apply exists_named_of_mem_placed
  rw [← transcript_of.definitions]
  exact List.mem_map_of_mem member

theorem pairwise_marks (transcript : Transcript) (of : survey.Of source)
    (transcript_of : transcript.Of survey) (grammar : Grammar) (path : String) :
    (transcript.findings grammar path).marks.Pairwise fun a b =>
      a.range.start ≤ b.range.start := by
  have capture_of (noted : Named × Range) (member : noted ∈ transcript.definitions) :
      noted.1.capture.Of source := by
    obtain ⟨captures, matched, named⟩ := exists_named transcript_of member
    exact named?_of (of.definitions captures matched) named
  have sorted := pairwise_placed survey.definitions
  rw [← transcript_of.definitions, List.pairwise_map] at sorted
  rw [marks_findings, List.pairwise_map]
  apply sorted.imp_of_mem
  intro first second inside member before
  exact Syntax.Capture.start_le_start (capture_of first inside) (capture_of second member)
    (transcript_of.definition_range first inside) (transcript_of.definition_range second member)
    before

theorem use_of (of : survey.Of source) (transcript_of : transcript.Of survey)
    {noted : Syntax.Capture × Range} (member : noted ∈ transcript.uses) :
    noted.1.Of source := by
  have inside := List.mem_map_of_mem (f := Prod.fst) member
  rw [transcript_of.uses] at inside
  obtain ⟨captures, matched, found⟩ := List.mem_filterMap.1 (List.mem_filter.1 inside).1
  exact (of.references captures matched).get? found

/-- A use is recorded under the first definition of its name. -/
theorem introduced_of_recorded (of : survey.Of source) (transcript_of : transcript.Of survey)
    {occurrence : Occurrence} {identity : Identity} {reference : Reference}
    (inside : occurrence ∈ (transcript.findings grammar path).occurrences)
    (role : occurrence.role = .reference)
    (member : reference ∈ (transcript.findings grammar path).referencesTo identity)
    (here : reference.range = occurrence.range) :
    (transcript.findings grammar path).introduced occurrence.name = some identity := by
  obtain ⟨_, noted, used, text, range⟩ := mem_occurrences_findings inside role
  obtain ⟨other, recorded, other_range, introduced⟩ := mem_referencesTo_findings member
  have same := Syntax.Capture.text_eq_of_range (use_of of transcript_of recorded)
    (use_of of transcript_of used) (transcript_of.use_range other recorded)
    ((other_range.trans (here.trans range.symm)) ▸ transcript_of.use_range noted used)
  rw [← text, ← same]
  exact introduced

end Transcript
end CodeNav.Survey
