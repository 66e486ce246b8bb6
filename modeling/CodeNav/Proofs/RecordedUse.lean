import CodeNav.Grammar.Python
import CodeNav.Proofs.Evaluation
import CodeNav.Proofs.Index.Resolution
import CodeNav.Proofs.Transcript

/-! Uses that a survey records, and what they resolve to. A use is recorded under the first
definition of its name; it resolves to the stored definition of the name that stands first. The
two are one just where the first definition, as it is stored, leads the others. -/
namespace CodeNav

namespace Findings

def Leads (found : Findings) (identity : Identity) (name : String) : Prop :=
  ∃ definition, found.definitions.get? identity = some definition ∧ definition.name = name ∧
    ∀ other another, found.definitions.get? other = some another → another.name = name →
      Index.placedBefore (identity, definition) (other, another) = true

def Lacks (found : Findings) (name : String) : Prop :=
  ∀ identity definition, found.definitions.get? identity = some definition →
    definition.name ≠ name

def DefinedOnce (found : Findings) (identity : Identity) : Prop :=
  (found.marksOf identity).length = 1

def Apart (found : Findings) (name : String) : Prop :=
  (found.marks.filter fun mark => mark.name = name).Pairwise fun a b =>
    a.range.start ≠ b.range.start

instance (found : Findings) (identity : Identity) : Decidable (found.DefinedOnce identity) :=
  inferInstanceAs (Decidable ((found.marksOf identity).length = 1))

instance (found : Findings) (name : String) : Decidable (found.Apart name) :=
  inferInstanceAs (Decidable ((found.marks.filter fun mark => mark.name = name).Pairwise
    fun a b => a.range.start ≠ b.range.start))

theorem mem_filter_placed {found : Findings} (coherent : found.Coherent) {name : String}
    {pair : Identity × Definition} :
    pair ∈ found.placed.filter (fun pair => pair.2.lang = found.lang ∧ pair.2.name = name) ↔
      found.definitions.get? pair.1 = some pair.2 ∧ pair.2.name = name := by
  rw [List.mem_filter, mem_placed, decide_eq_true_eq]
  constructor
  · rintro ⟨stored, _, same⟩
    exact ⟨stored, same⟩
  · rintro ⟨stored, same⟩
    exact ⟨stored, (coherent.definitions pair.1 pair.2 stored).1, same⟩

theorem head?_named {found : Findings} (coherent : found.Coherent) {name : String}
    {identity : Identity} :
    (found.named found.lang name).head? = some identity ↔ found.Leads identity name := by
  have sorted := (Index.pairwise_placedBefore found.definitions.entries).filter
    fun pair => pair.2.lang = found.lang ∧ pair.2.name = name
  have inside (pair : Identity × Definition) : pair ∈ found.placed.filter
      (fun pair => pair.2.lang = found.lang ∧ pair.2.name = name) ↔
        found.definitions.get? pair.1 = some pair.2 ∧ pair.2.name = name :=
    mem_filter_placed coherent
  rw [named]
  rw [← placed] at sorted
  cases listed : found.placed.filter
      fun pair => pair.2.lang = found.lang ∧ pair.2.name = name with
  | nil =>
    rw [listed] at inside
    constructor
    · intro chosen
      cases chosen
    · rintro ⟨definition, stored, same, _⟩
      cases (inside (identity, definition)).2 ⟨stored, same⟩
  | cons first others =>
    rw [listed] at sorted inside
    rw [List.pairwise_cons] at sorted
    obtain ⟨stored_first, first_name⟩ := (inside first).1 List.mem_cons_self
    rw [List.map_cons, List.head?_cons, Option.some.injEq]
    constructor
    · rintro rfl
      refine ⟨first.2, stored_first, first_name, ?_⟩
      intro other another stored same
      obtain here | later := List.mem_cons.1 ((inside (other, another)).2 ⟨stored, same⟩)
      · rw [here]
        exact Index.placedBefore_refl _
      · exact sorted.1 _ later
    · rintro ⟨definition, stored, same, leads⟩
      obtain here | later := List.mem_cons.1 ((inside (identity, definition)).2 ⟨stored, same⟩)
      · rw [← here]
      · exact Index.placedBefore_antisymm (sorted.1 _ later)
          (leads first.1 first.2 stored_first first_name)

theorem named_eq_nil {found : Findings} (coherent : found.Coherent) {name : String} :
    found.named found.lang name = [] ↔ found.Lacks name := by
  rw [List.eq_nil_iff_forall_not_mem]
  constructor
  · intro none_named identity definition stored same
    exact none_named identity (mem_named.2
      ⟨definition, stored, (coherent.definitions identity definition stored).1, same⟩)
  · intro lacks identity member
    obtain ⟨definition, stored, _, same⟩ := mem_named.1 member
    exact lacks identity definition stored same

theorem eq_or_lt_of_first {found : Findings}
    (ordered : found.marks.Pairwise fun a b => a.range.start ≤ b.range.start) {name : String}
    (apart : found.Apart name) {first mark : Occurrence}
    (chosen : found.marks.find? (fun mark => mark.name = name) = some first)
    (inside : mark ∈ found.marks) (named : mark.name = name) :
    mark = first ∨ first.range.start < mark.range.start := by
  obtain ⟨first_named, before, after, split_at, none_before⟩ :=
    List.find?_eq_some_iff_append.1 chosen
  rw [split_at, List.mem_append] at inside
  obtain early | late := inside
  · have unnamed := none_before mark early
    simp [named] at unnamed
  · obtain same | later := List.mem_cons.1 late
    · exact .inl same
    · rw [Apart, split_at, List.filter_append, List.filter_cons, if_pos first_named,
        List.pairwise_append, List.pairwise_cons] at apart
      rw [split_at, List.pairwise_append, List.pairwise_cons] at ordered
      have other_place := apart.2.1.1 mark (List.mem_filter.2 ⟨later, by simp [named]⟩)
      have behind := ordered.2.1.1 mark later
      exact .inr (Position.lt_of_le_of_ne behind other_place)

/-- An identity that is defined once, as the first of its name, leads the definitions of the
name. -/
theorem Faithful.leads_of_once {found : Findings} (faithful : found.Faithful)
    (ordered : found.marks.Pairwise fun a b => a.range.start ≤ b.range.start) {name : String}
    (apart : found.Apart name) {identity : Identity} (once : found.DefinedOnce identity)
    (introduced : found.introduced name = some identity) : found.Leads identity name := by
  obtain ⟨first, chosen, own⟩ := Option.bind_eq_some_iff.1 introduced
  have named : first.name = name := by simpa using List.find?_some chosen
  have first_mark : first ∈ found.marksOf identity :=
    List.mem_filter.2 ⟨List.mem_of_find?_eq_some chosen, decide_eq_true own⟩
  obtain ⟨only, alone⟩ := List.length_eq_one_iff.1 once
  rw [alone, List.mem_singleton] at first_mark
  have last : (found.marksOf identity).getLast? = some first := by
    rw [alone, first_mark]
    rfl
  obtain ⟨definition, stored, name_same, range_same⟩ := faithful.stored last
  refine ⟨definition, stored, name_same.trans named, ?_⟩
  intro other another stored_other name_other
  obtain ⟨mark, last_other, mark_name, mark_range⟩ := faithful.mark stored_other
  obtain ⟨inside, mark_own⟩ := List.mem_filter.1 (List.mem_of_getLast? last_other)
  rw [Index.placedBefore_iff, range_same, ← mark_range]
  obtain rfl | behind := eq_or_lt_of_first ordered apart chosen inside (mark_name.trans name_other)
  · have same := own.symm.trans (of_decide_eq_true mark_own)
    exact .inr ⟨rfl, le_of_eq (Option.some.inj same)⟩
  · exact .inl behind

end Findings

def Index.Latest (index : Index) (found : Findings) : Prop :=
  (∃ prior : Index, index = prior.merge found) ∨
    ∃ history, Clean history ∧ found ∈ live history ∧ index = run history

theorem Index.Latest.holds {index : Index} {found : Findings} (latest : index.Latest found) :
    index.Holds found := by
  obtain ⟨prior, rfl⟩ | ⟨history, clean, member, rfl⟩ := latest
  · exact holds_merge prior found
  · exact (stores_run clean).holds (lists_run history) member

namespace Index.Holds

variable {index : Index} {found : Findings} {spelling : String} {occurrence : Occurrence}

/-- A use means the symbol that leads its name in the file, or, where the file lacks the name, what
the other files give. -/
theorem resolve_use (holds : index.Holds found)
    (importedName : Option (String → Option String)) (coherent : found.Coherent)
    (here : Path.normalize spelling = Path.normalize found.file)
    (unidentified : occurrence.identity = none) (identity : Identity) :
    index.resolve found.lang spelling occurrence importedName = .ok [identity] ↔
      found.Leads identity occurrence.name ∨ found.Lacks occurrence.name ∧
        index.shared found.lang spelling occurrence.name importedName = [identity] := by
  have other : index.own occurrence = none := by
    rw [own, unidentified]
    rfl
  have listed := holds.localDefinitions here found.lang occurrence.name
  rw [← Findings.head?_named coherent, ← Findings.named_eq_nil coherent]
  cases named : found.named found.lang occurrence.name with
  | nil =>
    rw [named] at listed
    rw [resolve_shared other listed, Except.ok.injEq]
    constructor
    · intro alone
      exact .inr ⟨rfl, alone⟩
    · rintro (leads | ⟨_, alone⟩)
      · cases leads
      · exact alone
  | cons first others =>
    rw [named] at listed
    rw [resolve_local other listed, Except.ok.injEq, List.head?_cons, Option.some.injEq]
    constructor
    · intro same
      exact .inl (List.cons.inj same).1
    · rintro (rfl | ⟨lacks, _⟩)
      · rfl
      · cases lacks

end Index.Holds

namespace Grammar

variable {grammar : Grammar} {path spelling : String} {source : Text.Utf8.Bytes}
  {tree : Syntax.Tree} {found : Findings} {index : Index} {occurrence : Occurrence}
  {identity : Identity} {reference : Reference}

/-- A use that is recorded under an identity resolves to it just where the identity leads the
definitions of its name, as is so where it is defined once. -/
theorem resolve_recorded_use (surveyed : grammar.findings path source (some tree) = .ok found)
    (latest : index.Latest found) (here : Path.normalize spelling = Path.normalize path)
    (inside : occurrence ∈ found.occurrences) (role : occurrence.role = .reference)
    (member : reference ∈ found.referencesTo identity)
    (recorded : reference.range = occurrence.range) :
    found.introduced occurrence.name = some identity ∧
      (index.resolve grammar.tag spelling occurrence (some grammar.importedName) = .ok [identity] ↔
        found.Leads identity occurrence.name ∨ found.Lacks occurrence.name ∧
          index.shared grammar.tag spelling occurrence.name (some grammar.importedName) =
            [identity]) ∧
      (found.DefinedOnce identity → found.Apart occurrence.name →
        index.resolve grammar.tag spelling occurrence (some grammar.importedName) =
          .ok [identity]) := by
  have of := Survey.ofTree_of grammar source tree
  have noted := Survey.recorded surveyed
  obtain ⟨transcript, transcript_of, rfl⟩ := Survey.exists_transcript surveyed
  have introduced := Survey.Transcript.introduced_of_recorded of transcript_of inside role member
    recorded
  obtain ⟨unidentified, _⟩ := Survey.Transcript.mem_occurrences_findings inside role
  have lang := transcript.lang_findings grammar path
  have file := congrArg Path.normalize (transcript.file_findings grammar path)
  rw [Path.normalize_normalize] at file
  have resolved := latest.holds.resolve_use (some grammar.importedName) noted.coherent
    (here.trans file.symm) unidentified identity
  rw [lang] at resolved
  refine ⟨introduced, resolved, ?_⟩
  intro once apart
  have ordered := transcript.pairwise_marks of transcript_of grammar path
  exact resolved.2 (.inl (noted.faithful.leads_of_once ordered apart once introduced))

/-- A variable, a method of the same name, and the variable again; at the end both names of the
module are used. -/
def reassignedSource : Text.Utf8.Bytes :=
  "x = 1\nclass C:\n    def x(): pass\nx = 2\nx\nC\n".toList.map fun c => c.toNat.toUInt8

def reassignedTree : Syntax.Tree := ⟨[
  ⟨0, "module", none, 0, 43⟩,
  ⟨1, "expression_statement", none, 0, 5⟩,
  ⟨2, "assignment", none, 0, 5⟩,
  ⟨3, "identifier", some "left", 0, 1⟩,
  ⟨3, "integer", some "right", 4, 5⟩,
  ⟨1, "class_definition", none, 6, 32⟩,
  ⟨2, "identifier", some "name", 12, 13⟩,
  ⟨2, "block", some "body", 19, 32⟩,
  ⟨3, "function_definition", none, 19, 32⟩,
  ⟨4, "identifier", some "name", 23, 24⟩,
  ⟨4, "parameters", some "parameters", 24, 26⟩,
  ⟨4, "block", some "body", 28, 32⟩,
  ⟨5, "pass_statement", none, 28, 32⟩,
  ⟨1, "expression_statement", none, 33, 38⟩,
  ⟨2, "assignment", none, 33, 38⟩,
  ⟨3, "identifier", some "left", 33, 34⟩,
  ⟨3, "integer", some "right", 37, 38⟩,
  ⟨1, "expression_statement", none, 39, 40⟩,
  ⟨2, "identifier", none, 39, 40⟩,
  ⟨1, "expression_statement", none, 41, 42⟩,
  ⟨2, "identifier", none, 41, 42⟩]⟩

def reassignedRange (line col : Nat) : Range :=
  ⟨⟨line, col⟩, ⟨line, col + 1⟩, Position.le_def.2 (.inr ⟨rfl, by dsimp only; omega⟩)⟩

def reassigned : Findings := Findings.ofList "py" "m.py"
  [.definition "x" "var" (reassignedRange 1 1) none,
    .definition "C" "class" (reassignedRange 2 7) none,
    .definition "x" "func" (reassignedRange 3 9) (some "C"),
    .definition "x" "var" (reassignedRange 4 1) none,
    .reference "x" (reassignedRange 5 1) (some "py::m.py::x"),
    .reference "C" (reassignedRange 6 1) (some "py::m.py::C")]

theorem findings_reassigned :
    python.findings "m.py" reassignedSource (some reassignedTree) = .ok reassigned :=
  findings_of_evaluated (by decide +kernel)

/-- The method leads the name, because the variable is stored where it was defined last. -/
theorem leads_reassigned : reassigned.Leads "py::m.py::C.x" "x" := by
  refine ⟨⟨"py", "m.py", reassignedRange 3 9, "x", "func"⟩, rfl, rfl, ?_⟩
  have all : ∀ entry ∈ reassigned.definitions.entries, entry.2.name = "x" →
      Index.placedBefore ("py::m.py::C.x", ⟨"py", "m.py", reassignedRange 3 9, "x", "func"⟩)
        entry = true := by decide
  intro other another stored same
  exact all (other, another) (Table.get?_eq_some.1 stored) same

theorem latest_reassigned : (Index.empty.merge reassigned).Latest reassigned :=
  .inl ⟨Index.empty, rfl⟩

theorem resolve_recorded_use_reassigned :
    python.findings "m.py" reassignedSource (some reassignedTree) = .ok reassigned ∧
      (Index.empty.merge reassigned).Latest reassigned ∧
      ⟨"C", .reference, reassignedRange 6 1, none⟩ ∈ reassigned.occurrences ∧
      ⟨"py", "m.py", reassignedRange 6 1⟩ ∈ reassigned.referencesTo "py::m.py::C" ∧
      (Index.empty.merge reassigned).resolve "py" "./m.py"
        ⟨"C", .reference, reassignedRange 6 1, none⟩ (some python.importedName) =
          .ok ["py::m.py::C"] := by
  have inside : (⟨"C", .reference, reassignedRange 6 1, none⟩ : Occurrence) ∈
      reassigned.occurrences := by decide
  have member : (⟨"py", "m.py", reassignedRange 6 1⟩ : Reference) ∈
      reassigned.referencesTo "py::m.py::C" := by decide
  have here : Path.normalize "./m.py" = Path.normalize "m.py" := by with_unfolding_all rfl
  obtain ⟨_, _, once⟩ :=
    resolve_recorded_use findings_reassigned latest_reassigned here inside rfl member rfl
  exact ⟨findings_reassigned, latest_reassigned, inside, member, once rfl (by decide)⟩

/-- The variable is recorded as used, and yet that use leads to the method. -/
theorem resolve_reassigned :
    python.findings "m.py" reassignedSource (some reassignedTree) = .ok reassigned ∧
      (Index.empty.merge reassigned).Latest reassigned ∧
      ⟨"x", .reference, reassignedRange 5 1, none⟩ ∈ reassigned.occurrences ∧
      ⟨"py", "m.py", reassignedRange 5 1⟩ ∈ reassigned.referencesTo "py::m.py::x" ∧
      (Index.empty.merge reassigned).resolve "py" "m.py"
        ⟨"x", .reference, reassignedRange 5 1, none⟩ (some python.importedName) =
          .ok ["py::m.py::C.x"] := by
  refine ⟨findings_reassigned, latest_reassigned, by decide, by decide, ?_⟩
  have resolved := latest_reassigned.holds.resolve_use (some python.importedName)
    (Survey.recorded findings_reassigned).coherent
    (show Path.normalize "m.py" = Path.normalize reassigned.file by with_unfolding_all rfl)
    (show (⟨"x", .reference, reassignedRange 5 1, none⟩ : Occurrence).identity = none from rfl)
    "py::m.py::C.x"
  exact resolved.2 (.inl leads_reassigned)

end Grammar
end CodeNav
