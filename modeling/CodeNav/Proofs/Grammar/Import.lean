import CodeNav.Proofs.Bindings
import CodeNav.Proofs.Grammar.Names
import CodeNav.Proofs.Syntax.Query

/-! What a tree imports, and the table that is made of it. The imports are told by the tree alone.
Where the patterns of a language read off just these, the findings note each of them once, in the
order in which they are completed in the document, and a name stands for what the last import of it
says. -/
namespace CodeNav

open Syntax
open CodeNav.Text.Utf8 (Bytes)

def Syntax.Place.text (source : Bytes) (place : Place) : String :=
  Source.text source place.node.span

structure Import where
  localName : String
  target : String
  located : Place
  last : Place

namespace Import

def Binds (source : Bytes) (each : Import) (imported : Binding) : Prop :=
  ∃ label, imported =
    ⟨each.localName, each.target, Capture.ofNode source label each.located.node⟩

structure ShownBy (grammar : Grammar) (source : Bytes) (each : Import) (found : Match) :
    Prop where
  last : found.last = each.last.index
  binds : ∃ imported, grammar.binding (found.captured source) = .ok (some imported) ∧
    each.Binds source imported

structure NotedAs (source : Bytes) (each : Import) (occurrence : Occurrence) : Prop where
  role : occurrence.role = .binding
  name : occurrence.name = each.localName
  range : Source.range source each.located.node.span = .ok occurrence.range
  identity : occurrence.identity = none

def Apart (imports : Import → Prop) : Prop :=
  ∀ first second, imports first → imports second →
    first.located.node.span = second.located.node.span → first.located = second.located

structure Distinct (imports : Import → Prop) : Prop where
  located : ∀ first second, imports first → imports second →
    first.located = second.located → first = second
  last : ∀ first second, imports first → imports second →
    first.last.index = second.last.index → first = second

theorem apart_of_fields {tree : Tree} {fields : List String} {imports : Import → Prop}
    (inside : ∀ each, imports each →
      each.located ∈ tree.places ∧ ∃ field ∈ fields, each.located.node.field = some field)
    (distinct : ∀ first ∈ tree.places, ∀ second ∈ tree.places, ∀ field ∈ fields,
      ∀ other ∈ fields, first.node.field = some field → second.node.field = some other →
        first.node.span = second.node.span → first = second) :
    Apart imports := by
  intro first second here there
  obtain ⟨member, field, known, held⟩ := inside first here
  obtain ⟨also_member, other, also_known, also_held⟩ := inside second there
  exact distinct _ member _ also_member field known other also_known held also_held

theorem Binds.unique {source : Bytes} {imports : Import → Prop} (apart : Apart imports)
    (distinct : Distinct imports) {first second : Import} {imported : Binding}
    (here : imports first) (there : imports second) (binds : first.Binds source imported)
    (also_binds : second.Binds source imported) : first = second := by
  obtain ⟨label, rfl⟩ := binds
  obtain ⟨other, same⟩ := also_binds
  refine distinct.located first second here there (apart first second here there ?_)
  exact congrArg (fun imported : Binding => imported.located.span) same

end Import

def Findings.bound (found : Findings) : List Occurrence :=
  found.occurrences.filter fun occurrence => occurrence.role = .binding

/-- The findings note these imports, each of them once and in this order. A name is known if one of
them binds it, and stands for what the last one says that does. -/
structure Findings.Notes (found : Findings) (source : Bytes) (listed : List Import) : Prop where
  occurrences : List.Forall₂ (Import.NotedAs source) listed found.bound
  names : ∀ name, name ∈ found.imports.keys ↔ ∃ each ∈ listed, each.localName = name
  targets : ∀ name, found.imports.get? name =
    (listed.filter fun each => each.localName = name).getLast?.map Import.target

theorem Survey.Transcript.bound_findings (transcript : Survey.Transcript) (grammar : Grammar)
    (path : String) : (transcript.findings grammar path).bound = transcript.bindings.map bound := by
  rw [Findings.bound, transcript.filter_role_findings grammar path (· = .binding)]
  simp

namespace Grammar

/-- The patterns for imports read off the imports of a tree: whatever a match binds, an import of
the tree does, and each import is shown by a match. -/
structure ReadsImports (grammar : Grammar) (source : Bytes) (tree : Tree)
    (imports : Import → Prop) : Prop where
  sound : ∀ found, grammar.imports.Finds tree found → ∀ imported,
    grammar.binding (found.captured source) = .ok (some imported) →
      ∃ each, imports each ∧ each.ShownBy grammar source found
  complete : ∀ each, imports each →
    ∃ found, grammar.imports.Finds tree found ∧ each.ShownBy grammar source found

namespace ReadsImports

variable {grammar : Grammar} {source : Bytes} {tree : Tree} {imports : Import → Prop}
  {path : String} {found : Findings}

def bound (grammar : Grammar) (source : Bytes) (tree : Tree) : List (Captures × Binding) :=
  (grammar.imports.captures source tree).filterMap (Survey.boundBy grammar)

theorem mem_bound {bound : Captures × Binding} : bound ∈ ReadsImports.bound grammar source tree ↔
    ∃ found, grammar.imports.Finds tree found ∧ bound.1 = found.captured source ∧
      grammar.binding (found.captured source) = .ok (some bound.2) := by
  simp only [ReadsImports.bound, Query.captures, List.filterMap_map, List.mem_filterMap,
    Function.comp_apply, Survey.boundBy_eq_some, Query.mem_run]

theorem bindings_sublist (grammar : Grammar) (source : Bytes) (tree : Tree) :
    (Survey.bindings grammar (grammar.imports.captures source tree)).Sublist
      (ReadsImports.bound grammar source tree) := eraseDupsBy_sublist _ _

variable (reads : grammar.ReadsImports source tree imports) (apart : Import.Apart imports)
  (distinct : Import.Distinct imports)
include reads

theorem exists_import {bound : Captures × Binding}
    (member : bound ∈ ReadsImports.bound grammar source tree) :
    ∃ each, imports each ∧ each.Binds source bound.2 := by
  obtain ⟨found, finds, -, told⟩ := mem_bound.1 member
  obtain ⟨each, known, -, imported, also_told, binds⟩ := reads.sound found finds _ told
  rw [told] at also_told
  cases also_told
  exact ⟨each, known, binds⟩

include apart distinct

/-- Of what the matches bind, nothing comes behind what an import binds that is completed later. -/
theorem pairwise_bound : (ReadsImports.bound grammar source tree).Pairwise fun earlier later =>
    ∀ first second, imports first → imports second → first.Binds source earlier.2 →
      second.Binds source later.2 → first.last.index ≤ second.last.index := by
  have ends {found : Match} (finds : grammar.imports.Finds tree found) {imported : Binding}
      (told : grammar.binding (found.captured source) = .ok (some imported)) {each : Import}
      (known : imports each) (binds : each.Binds source imported) :
      found.last = each.last.index := by
    obtain ⟨other, also_known, last, _, also_told, also_binds⟩ := reads.sound found finds _ told
    rw [told] at also_told
    cases also_told
    rw [last, also_binds.unique apart distinct also_known known binds]
  rw [ReadsImports.bound, Query.captures, List.filterMap_map, List.pairwise_filterMap]
  apply (Query.pairwise_run grammar.imports tree).imp_of_mem
  intro first second inside also_inside upTo bound told other also_told each another known
    also_known binds also_binds
  have here := (Survey.boundBy_eq_some.1 told).2
  have there := (Survey.boundBy_eq_some.1 also_told).2
  rwa [ends (Query.mem_run.1 inside) here known binds,
    ends (Query.mem_run.1 also_inside) there also_known also_binds] at upTo

theorem mem_of_forall₂ {listed : List Import}
    (matched : List.Forall₂ (fun bound (each : Import) => imports each ∧ each.Binds source bound.2)
      (Survey.bindings grammar (grammar.imports.captures source tree)) listed) (each : Import) :
    each ∈ listed ↔ imports each := by
  constructor
  · intro member
    obtain ⟨_, -, imported, -⟩ := exists_of_forall₂_right matched member
    exact imported
  · intro imported
    obtain ⟨found, finds, -, told, bound, binds⟩ := reads.complete each imported
    -- One that is bound at the same place is kept for it, and is bound by the same import.
    obtain ⟨other, member, same⟩ := exists_mem_eraseDupsBy
      (fun first second => Survey.place first = Survey.place second)
      (fun _ => decide_eq_true rfl)
      (mem_bound.2 ⟨found, finds, (rfl : (found.captured source, told).1 = _), bound⟩)
    obtain ⟨another, listed_there, also_imported, also_binds⟩ :=
      exists_of_forall₂_left matched member
    obtain ⟨label, rfl⟩ := binds
    obtain ⟨other_label, shown⟩ := also_binds
    have spans := congrArg Prod.snd (of_decide_eq_true same)
    rw [Survey.place, Survey.place, shown] at spans
    exact distinct.located _ _ imported also_imported
      (apart _ _ imported also_imported spans) ▸ listed_there

theorem pairwise_last_of_forall₂ {listed : List Import}
    (matched : List.Forall₂ (fun bound (each : Import) => imports each ∧ each.Binds source bound.2)
      (Survey.bindings grammar (grammar.imports.captures source tree)) listed) :
    listed.Pairwise fun first second => first.last.index < second.last.index := by
  have ordered := (reads.pairwise_bound apart distinct).sublist (bindings_sublist ..)
  apply pairwise_of_forall₂ matched (ordered.and (pairwise_eraseDupsBy _ _))
  rintro earlier later first second ⟨here, binds⟩ ⟨there, also_binds⟩ ⟨upTo, other⟩
  refine Nat.lt_of_le_of_ne (upTo first second here there binds also_binds) ?_
  intro same
  obtain rfl := distinct.last first second here there same
  obtain ⟨label, shown⟩ := binds
  obtain ⟨other_label, also_shown⟩ := also_binds
  rw [decide_eq_false_iff_not, Survey.place, Survey.place, shown, also_shown] at other
  exact other rfl

theorem exists_listed : ∃ listed : List Import, (∀ each, each ∈ listed ↔ imports each) ∧
    listed.Pairwise (fun first second => first.last.index < second.last.index) ∧
    List.Forall₂ (fun bound (each : Import) => each.Binds source bound.2)
      (Survey.bindings grammar (grammar.imports.captures source tree)) listed := by
  have known (bound : Captures × Binding) (member : bound ∈
      Survey.bindings grammar (grammar.imports.captures source tree)) :
      ∃ each : Import, imports each ∧ each.Binds source bound.2 :=
    reads.exists_import ((bindings_sublist ..).subset member)
  obtain ⟨listed, matched⟩ := exists_forall₂ known
  exact ⟨listed, reads.mem_of_forall₂ apart distinct matched,
    reads.pairwise_last_of_forall₂ apart distinct matched, matched.imp fun _ _ both => both.2⟩

end ReadsImports

variable {grammar : Grammar} {source : Bytes} {path : String}

theorem targets_of_forall₂ {noted : List (Binding × Range)} {listed : List Import}
    (matched : List.Forall₂ (fun noted each => each.Binds source noted.1) noted listed)
    (name : String) :
    ((noted.map Prod.fst).filter fun imported => imported.localName = name).map Binding.target =
      (listed.filter fun each => each.localName = name).map Import.target := by
  induction matched with
  | nil => rfl
  | @cons imported each _ _ here _ ih =>
    obtain ⟨label, bound⟩ := here
    rw [List.map_cons, bound]
    by_cases same : each.localName = name
    · simp [same, ih]
    · simp [same, ih]

theorem notes_of_forall₂ {transcript : Survey.Transcript} {listed : List Import}
    (ranges : ∀ noted ∈ transcript.bindings, noted.1.located.range = .ok noted.2)
    (matched : List.Forall₂ (fun noted each => each.Binds source noted.1)
      transcript.bindings listed) :
    (transcript.findings grammar path).Notes source listed := by
  have targets (name : String) : (transcript.findings grammar path).imports.get? name =
      (listed.filter fun each => each.localName = name).getLast?.map Import.target := by
    rw [Survey.Transcript.get?_imports_findings, targets_of_forall₂ matched, List.getLast?_map]
  refine ⟨?_, ?_, targets⟩
  · rw [Survey.Transcript.bound_findings, List.forall₂_map_right_iff]
    have ranged := (List.forall₂_and_left _ _).2 ⟨ranges, matched⟩
    refine ranged.flip.imp ?_
    rintro each noted ⟨range, label, bound⟩
    rw [bound] at range
    exact ⟨rfl, congrArg Binding.localName bound, range, rfl⟩
  · intro name
    rw [Table.mem_keys_iff, targets, Option.isSome_map]
    simp

theorem ReadsImports.exists_notes {tree : Tree} {imports : Import → Prop}
    (reads : grammar.ReadsImports source tree imports) (apart : Import.Apart imports)
    (distinct : Import.Distinct imports) {found : Findings}
    (done : grammar.findings path source (some tree) = .ok found) :
    ∃ listed : List Import, (∀ each, each ∈ listed ↔ imports each) ∧
      listed.Pairwise (fun first second => first.last.index < second.last.index) ∧
      found.Notes source listed := by
  obtain ⟨listed, exactly, ordered, matched⟩ := reads.exists_listed apart distinct
  obtain ⟨transcript, -, kept, ranges, rfl⟩ := Survey.exists_transcript_bindings done
  refine ⟨listed, exactly, ordered, notes_of_forall₂ ranges ?_⟩
  have same : transcript.bindings.map Prod.fst =
      (Survey.bindings grammar (grammar.imports.captures source tree)).map Prod.snd := kept
  rw [← List.forall₂_map_left_iff (f := Prod.fst)
    (R := fun (imported : Binding) (each : Import) => each.Binds source imported), same,
    List.forall₂_map_left_iff]
  exact matched

end Grammar
end CodeNav
