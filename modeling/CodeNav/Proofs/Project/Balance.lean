import CodeNav.Proofs.Index.Totals
import CodeNav.Proofs.Project.Discovery
import CodeNav.Proofs.Project.Isolation

/-! The counts of a run balance. Every discovered file is counted once, as indexed, left out or
given up; and what was counted of the indexed files is what the index then reports, if it was empty
and no two files define the same symbol. -/
namespace CodeNav

namespace Counts

structure Balanced (counts : Counts) (discovered : Nat) : Prop where
  scanned : counts.scanned = discovered
  settled : counts.scanned = counts.indexed + counts.skipped + counts.errors
  languages : total counts.languages.values = counts.indexed

def settled (counts : Counts) : Nat := counts.indexed + counts.skipped + counts.errors

theorem settled_record (counts : Counts) (outcome : Outcome) :
    (counts.record outcome).settled = counts.settled + 1 := by
  cases outcome <;> simp only [record, settled] <;> omega

theorem settled_foldl (counts : Counts) (outcomes : List Outcome) :
    (outcomes.foldl record counts).settled = counts.settled + outcomes.length := by
  induction outcomes generalizing counts with
  | nil => rfl
  | cons outcome rest ih =>
    rw [List.foldl_cons, ih, settled_record, List.length_cons]
    omega

theorem scanned_record (counts : Counts) (outcome : Outcome) :
    (counts.record outcome).scanned = counts.scanned := by
  cases outcome <;> rfl

def Labelled (counts : Counts) : Prop := total counts.languages.values = counts.indexed

theorem Labelled.record {counts : Counts} (labelled : counts.Labelled) (outcome : Outcome) :
    (counts.record outcome).Labelled := by
  cases outcome with
  | indexed found =>
    simp only [Labelled, Counts.record, Index.total_tally]
    rw [labelled]
  | skipped => exact labelled
  | failed notice => exact labelled
  | aborted failure => exact labelled

theorem balanced_foldl (outcomes : List Outcome) :
    (outcomes.foldl record (.start outcomes.length)).Balanced outcomes.length := by
  have scanned : (outcomes.foldl record (.start outcomes.length)).scanned = outcomes.length :=
    foldl_keeps scanned_record _ _
  have settled : (outcomes.foldl record (.start outcomes.length)).settled = outcomes.length :=
    (settled_foldl _ outcomes).trans (Nat.zero_add _)
  have labelled : (outcomes.foldl record (.start outcomes.length)).Labelled :=
    List.foldlRecOn _ _ rfl fun _ labelled outcome _ => labelled.record outcome
  exact ⟨scanned, scanned.trans settled.symm, labelled⟩

def totals (counts : Counts) : Index.Totals :=
  ⟨counts.indexed, counts.definitions, counts.references, counts.occurrences,
    Index.sortCounts counts.languages⟩

theorem Agree.totals_eq {left right : Counts} (agree : left.Agree right) :
    left.totals = right.totals := by
  rw [totals, totals, agree.indexed, agree.definitions, agree.references, agree.occurrences,
    Index.sortCounts_eq agree.languages]

structure Tallies (counts : Counts) (index : Index) : Prop where
  indexed : counts.indexed = index.files.size
  definitions : counts.definitions = index.definitions.size
  references : counts.references = index.referenceCount
  occurrences : counts.occurrences =
    total (index.files.values.map fun entry => entry.occurrences.length)
  languages : counts.languages =
    (index.files.values.map FileEntry.lang).foldl Index.tally .empty

namespace Tallies

variable {counts : Counts} {index : Index}

theorem totals_eq (tallies : counts.Tallies index) : counts.totals = index.totals := by
  rw [totals, tallies.indexed, tallies.definitions, tallies.references, tallies.occurrences,
    tallies.languages]
  rfl

theorem start (bare : index.totals = Index.empty.totals) (scanned : Nat) :
    (Counts.start scanned).Tallies index := by
  have none_there : index.files.values = [] :=
    List.map_eq_nil_iff.2 (List.length_eq_zero_iff.1 (congrArg Index.Totals.files bare))
  constructor
  · exact (congrArg Index.Totals.files bare).symm
  · exact (congrArg Index.Totals.definitions bare).symm
  · exact (congrArg Index.Totals.references bare).symm
  · exact (congrArg Index.Totals.occurrences bare).symm
  · rw [none_there]
    rfl

theorem record_indexed (tallies : counts.Tallies index) {found : Findings} {rest : List Findings}
    (new : index.New (found :: rest)) :
    (counts.record (.indexed found)).Tallies (index.merge found) := by
  have unknown := new.unknown found List.mem_cons_self
  have files := Index.files_merge_of_unknown unknown
  have definitions := Index.definitions_absorb_of_fresh (new.fresh found List.mem_cons_self)
  have references := Index.referenceCount_absorb index found
  rw [← Index.merge_of_unknown unknown] at definitions references
  have values : (index.merge found).files.values =
      index.files.values ++ [Index.entryOf found] := by
    rw [Table.values, files, List.map_append]
    rfl
  constructor
  · simp only [Counts.record, Table.size, files, List.length_append, tallies.indexed]
    rfl
  · simp only [Counts.record, Table.size, definitions, List.length_append, tallies.definitions]
  · simp only [Counts.record, references, tallies.references]
  · have together (counts others : List Nat) : total counts + total others =
        total (counts ++ others) := List.sum_append.symm
    rw [values, List.map_append, ← together, ← tallies.occurrences]
    rfl
  · rw [values, List.map_append, List.foldl_append, ← tallies.languages]
    rfl

theorem record_of_findings?_eq_none (tallies : counts.Tallies index) {outcome : Outcome}
    (nothing : outcome.findings? = none) : (counts.record outcome).Tallies index := by
  cases outcome with
  | indexed found => cases nothing
  | skipped => exact ⟨tallies.1, tallies.2, tallies.3, tallies.4, tallies.5⟩
  | failed notice => exact ⟨tallies.1, tallies.2, tallies.3, tallies.4, tallies.5⟩
  | aborted failure => exact ⟨tallies.1, tallies.2, tallies.3, tallies.4, tallies.5⟩

end Tallies
end Counts

variable {files : FileSystem} {analyzers : List Analyzer} {config : Config} {order : List String}

theorem Run.tallies_through {run : Run} (tallies : run.counts.Tallies run.index)
    (new : run.index.New (foundIn files analyzers config order)) :
    (through files analyzers config run order).counts.Tallies
      (through files analyzers config run order).index := by
  induction order generalizing run with
  | nil => exact tallies
  | cons file rest ih =>
    rw [foundIn, List.filterMap_cons] at new
    rw [through, List.foldl_cons, ← through]
    cases examined : (examine files analyzers config file).findings? with
    | none =>
      rw [examined] at new
      have unchanged : run.index.accept (examine files analyzers config file) = run.index := by
        rw [Index.accept, examined]
      apply ih
      · rw [record, unchanged]
        exact tallies.record_of_findings?_eq_none examined
      · rw [record, unchanged]
        exact new
    | some found =>
      rw [examined] at new
      rw [Outcome.findings?_eq_some.1 examined]
      exact ih (tallies.record_indexed new) new.merge

/-- Files that are spelled canonically keep their places when some give no findings. -/
theorem files_foundIn_sublist (addresses : ∀ analyzer ∈ analyzers, analyzer.Addresses)
    (canonical : ∀ file ∈ order, Path.normalize file = file) :
    ((foundIn files analyzers config order).map fun found => Path.normalize found.file).Sublist
      order := by
  induction order with
  | nil => exact .slnil
  | cons file rest ih =>
    have later := ih fun other member => canonical other (List.mem_cons_of_mem _ member)
    rw [foundIn, List.filterMap_cons]
    cases examined : (examine files analyzers config file).findings? with
    | none => exact later.cons file
    | some found =>
      have here : Path.normalize found.file = file := by
        rw [file_of_examine addresses (Outcome.findings?_eq_some.1 examined),
          Path.normalize_normalize, canonical file List.mem_cons_self]
      rw [List.map_cons, here]
      exact later.cons_cons file

namespace Workspace

variable {workspace : Workspace} {discovery : Discovery} {paths : List String}

theorem counts_runThrough (workspace : Workspace) (files : FileSystem) (discovery : Discovery)
    (order : List String) : (workspace.runThrough files discovery order).counts =
      (order.map (workspace.examine files)).foldl Counts.record
        (.start discovery.files.length) :=
  Run.counts_through _ order

theorem distinct_foundIn
    (discovered : discovery = Discovery.ofPaths files workspace.config.skip paths)
    (perm : order.Perm discovery.files)
    (addresses : ∀ analyzer ∈ workspace.analyzers, analyzer.Addresses) :
    ((foundIn files workspace.analyzers workspace.config order).map
      fun found => Path.normalize found.file).Nodup := by
  have canonical : ∀ file ∈ order, Path.normalize file = file := by
    intro file member
    rw [perm.mem_iff, discovered] at member
    exact Discovery.normalize_of_mem_files member
  have nodup : order.Nodup := by
    rw [perm.nodup_iff, discovered]
    exact Discovery.nodup_files _ _ _
  exact nodup.sublist (files_foundIn_sublist addresses canonical)

theorem totals_runThrough
    (discovered : discovery = Discovery.ofPaths files workspace.config.skip paths)
    (perm : order.Perm discovery.files)
    (addresses : ∀ analyzer ∈ workspace.analyzers, analyzer.Addresses)
    (bare : workspace.index.totals = Index.empty.totals)
    (unshared : Index.Unshared
      (foundIn files workspace.analyzers workspace.config discovery.files)) :
    (workspace.runThrough files discovery order).counts.totals =
      (workspace.runThrough files discovery order).index.totals := by
  have distinct := distinct_foundIn discovered perm addresses
  have disjoint := (unshared.of_subset (perm.filterMap _).subset).disjoint distinct
  have tallies : (workspace.runThrough files discovery order).counts.Tallies
      (workspace.runThrough files discovery order).index :=
    Run.tallies_through (.start bare _) (.of_totals bare distinct disjoint)
  exact tallies.totals_eq

/-- The discovered files are examined by several workers, who merge in one order and count in
another. Each file is counted once; and if the index was empty and no two files define the same
symbol, the index reports what was counted. -/
theorem runThrough_balanced (workspace : Workspace) (files : FileSystem) (paths : List String)
    {discovery : Discovery}
    (discovered : discovery = Discovery.ofPaths files workspace.config.skip paths)
    {merged counted : List String} (merged_all : merged.Perm discovery.files)
    (counted_all : counted.Perm discovery.files) :
    (workspace.runThrough files discovery counted).counts.Balanced discovery.files.length ∧
      ((∀ analyzer ∈ workspace.analyzers, analyzer.Addresses) →
        workspace.index.totals = Index.empty.totals →
        Index.Unshared (foundIn files workspace.analyzers workspace.config discovery.files) →
        (workspace.runThrough files discovery counted).counts.totals =
          (workspace.runThrough files discovery merged).index.totals) := by
  constructor
  · have balanced := Counts.balanced_foldl (counted.map (workspace.examine files))
    rw [List.length_map, counted_all.length_eq] at balanced
    rw [counts_runThrough]
    exact balanced
  · intro addresses bare unshared
    rw [← totals_runThrough discovered merged_all addresses bare unshared]
    apply Counts.Agree.totals_eq
    rw [counts_runThrough, counts_runThrough]
    exact .of_perm ((counted_all.trans merged_all.symm).map _) _

theorem unshared_goodFindings : Index.Unshared goodFindings := by decide

theorem runThrough_balanced_troubled :
    discoveredTroubled = Discovery.ofPaths troubled Config.standard.skip troubledPaths ∧
      discoveredTroubled.files.reverse.Perm discoveredTroubled.files ∧
      (∀ analyzer ∈ (mixedAfter []).analyzers, analyzer.Addresses) ∧
      (mixedAfter []).index.totals = Index.empty.totals ∧
      Index.Unshared (foundIn troubled mixedAnalyzers .standard discoveredTroubled.files) ∧
      ((mixedAfter []).runThrough troubled discoveredTroubled
        discoveredTroubled.files.reverse).counts.Balanced 7 ∧
      ((mixedAfter []).runThrough troubled discoveredTroubled
          discoveredTroubled.files.reverse).counts.totals =
        ((mixedAfter []).runThrough troubled discoveredTroubled
          discoveredTroubled.files).index.totals := by
  have unshared := unshared_goodFindings
  rw [← foundIn_troubled] at unshared
  have swapped := List.reverse_perm discoveredTroubled.files
  have addresses := addresses_mixedAfter []
  obtain ⟨balanced, same⟩ :=
    runThrough_balanced (mixedAfter []) troubled troubledPaths ofPaths_troubled (.refl _) swapped
  exact ⟨ofPaths_troubled, swapped, addresses, rfl, unshared, balanced,
    same addresses rfl unshared⟩

end Workspace
end CodeNav
