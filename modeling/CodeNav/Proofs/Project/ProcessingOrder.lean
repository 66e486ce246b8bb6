import CodeNav.Proofs.Index.Reordering
import CodeNav.Proofs.Noted

/-! The order in which discovered files are examined plays no part, as long as no two files ever
define the same identity. Workers take files in any order, and a file that was in before is first
taken out again, wherever in the order it comes. -/
namespace CodeNav

structure Counts.Agree (left right : Counts) : Prop where
  scanned : left.scanned = right.scanned
  indexed : left.indexed = right.indexed
  skipped : left.skipped = right.skipped
  errors : left.errors = right.errors
  definitions : left.definitions = right.definitions
  references : left.references = right.references
  occurrences : left.occurrences = right.occurrences
  languages : ∀ label, left.languages.get? label = right.languages.get? label

namespace Counts.Agree

variable {left middle right : Counts}

theorem refl (counts : Counts) : counts.Agree counts :=
  ⟨rfl, rfl, rfl, rfl, rfl, rfl, rfl, fun _ => rfl⟩

theorem trans (first : left.Agree middle) (second : middle.Agree right) : left.Agree right where
  scanned := first.scanned.trans second.scanned
  indexed := first.indexed.trans second.indexed
  skipped := first.skipped.trans second.skipped
  errors := first.errors.trans second.errors
  definitions := first.definitions.trans second.definitions
  references := first.references.trans second.references
  occurrences := first.occurrences.trans second.occurrences
  languages label := (first.languages label).trans (second.languages label)

theorem record (agree : left.Agree right) (outcome : Outcome) :
    (left.record outcome).Agree (right.record outcome) := by
  obtain ⟨scanned, indexed, skipped, errors, definitions, references, occurrences, languages⟩ :=
    agree
  cases outcome with
  | indexed found =>
    constructor
    case languages =>
      intro label
      simp only [Counts.record, Index.tally, Table.get?_alter, languages]
    all_goals simp only [Counts.record, scanned, indexed, skipped, errors, definitions, references,
      occurrences]
  | skipped =>
    exact ⟨scanned, indexed, congrArg (· + 1) skipped, errors, definitions, references,
      occurrences, languages⟩
  | failed notice =>
    exact ⟨scanned, indexed, skipped, congrArg (· + 1) errors, definitions, references,
      occurrences, languages⟩
  | aborted failure =>
    exact ⟨scanned, indexed, skipped, congrArg (· + 1) errors, definitions, references,
      occurrences, languages⟩

theorem record_swap (counts : Counts) (first second : Outcome) :
    ((counts.record first).record second).Agree ((counts.record second).record first) := by
  cases first with
  | indexed found =>
    cases second with
    | indexed other =>
      -- Only here do both write the same counts with amounts of their own.
      exact ⟨rfl, rfl, rfl, rfl, Nat.add_right_comm _ _ _, Nat.add_right_comm _ _ _,
        Nat.add_right_comm _ _ _,
        Index.get?_tally_eq_of_perm (.swap other.lang found.lang []) counts.languages⟩
    | skipped => exact refl _
    | failed notice => exact refl _
    | aborted failure => exact refl _
  | skipped => cases second <;> exact refl _
  | failed notice => cases second <;> exact refl _
  | aborted failure => cases second <;> exact refl _

theorem of_perm {outcomes others : List Outcome} (perm : outcomes.Perm others) (counts : Counts) :
    (outcomes.foldl Counts.record counts).Agree (others.foldl Counts.record counts) :=
  foldl_rel_of_perm refl (fun _ _ _ => trans) (fun _ _ outcome agree => agree.record outcome)
    record_swap perm counts

end Counts.Agree

namespace Index

def Unshared (all : List Findings) : Prop :=
  ∀ first ∈ all, ∀ second ∈ all, Path.normalize first.file ≠ Path.normalize second.file →
    ∀ identity ∈ first.definitions.keys, identity ∉ second.definitions.keys

instance (all : List Findings) : Decidable (Unshared all) :=
  inferInstanceAs (Decidable (∀ first ∈ all, ∀ second ∈ all,
    Path.normalize first.file ≠ Path.normalize second.file →
      ∀ identity ∈ first.definitions.keys, identity ∉ second.definitions.keys))

def OnePerFile (all : List Findings) : Prop :=
  ∀ first ∈ all, ∀ second ∈ all,
    Path.normalize first.file = Path.normalize second.file → first = second

variable {history : List Change} {all others : List Findings}

theorem merged_append_merges (history : List Change) (all : List Findings) :
    merged (history ++ all.map .merge) = merged history ++ all := by
  rw [merged, List.filterMap_append, List.filterMap_map, ← merged]
  exact congrArg (merged history ++ ·) List.filterMap_some

theorem Unshared.of_subset (unshared : Unshared all) (subset : others ⊆ all) : Unshared others :=
  fun first member second inside => unshared first (subset member) second (subset inside)

theorem Unshared.disjoint (unshared : Unshared all)
    (distinct : (all.map fun found => Path.normalize found.file).Nodup) : Disjoint all :=
  (List.pairwise_map.1 distinct).imp_of_mem fun first second apart =>
    unshared _ first _ second apart

theorem clean_of_unshared (unshared : Unshared (merged history)) : Clean history := by
  rintro before after rfl
  have inside : live before ⊆ merged (before ++ after) := by
    intro found member
    have came : ∀ found ∈ live before, Change.merge found ∈ before :=
      of_mem_live fun _ here => here
    exact mem_merged.2 (List.mem_append_left _ (came found member))
  exact (unshared.of_subset inside).disjoint (lists_run before).distinct

theorem clean_append_merges (unshared : Unshared (merged history ++ all)) :
    Clean (history ++ all.map .merge) := by
  apply clean_of_unshared
  rwa [merged_append_merges]

theorem run_append_merges (history : List Change) (all : List Findings) :
    run (history ++ all.map .merge) = all.foldl merge (run history) := by
  rw [run, List.foldl_append, List.foldl_map]
  rfl

/-- What is in after the merges of a run: all that it merged, and the other files that were in. -/
theorem mem_live_append_merges (single : OnePerFile all) {found : Findings} :
    found ∈ live (history ++ all.map .merge) ↔
      found ∈ all ∨ found ∈ live history ∧
        ∀ other ∈ all, Path.normalize other.file ≠ Path.normalize found.file := by
  induction all using List.reverseRecOn with
  | nil => simp
  | append_singleton before latest ih =>
    have earlier : OnePerFile before := fun first member second inside =>
      single first (List.mem_append_left _ member) second (List.mem_append_left _ inside)
    have same (here : found ∈ before)
        (file : Path.normalize found.file = Path.normalize latest.file) : found = latest :=
      single found (List.mem_append_left _ here) latest (by simp) file
    rw [List.map_append, List.map_singleton, ← List.append_assoc, live_append_singleton, liveAfter,
      List.mem_append, List.mem_filter, ih earlier, List.mem_singleton, decide_eq_true_eq]
    -- Findings of the latest file go, but for the latest ones; those may have been there before.
    by_cases file : Path.normalize found.file = Path.normalize latest.file
    · constructor
      · rintro (⟨_, other⟩ | rfl)
        · exact absurd file other
        · exact .inl (by simp)
      · rintro (member | ⟨_, apart⟩)
        · rcases List.mem_append.1 member with here | last
          · exact .inr (same here file)
          · exact .inr (List.mem_singleton.1 last)
        · exact absurd file.symm (apart latest (by simp))
    · have other : found ≠ latest := fun same => file (same ▸ rfl)
      simp only [file, other, not_false_eq_true, and_true, or_false, ne_eq, List.mem_append,
        List.mem_singleton, or_imp, forall_and, forall_eq, Ne.symm file]

theorem live_append_perm (single : OnePerFile all) (perm : all.Perm others) :
    (live (history ++ all.map .merge)).Perm (live (history ++ others.map .merge)) := by
  have also_single : OnePerFile others := fun first member second inside =>
    single first (perm.mem_iff.2 member) second (perm.mem_iff.2 inside)
  have distinct (changes : List Change) : (live changes).Nodup :=
    List.Nodup.of_map _ (lists_run changes).distinct
  rw [List.perm_ext_iff_of_nodup (distinct _) (distinct _)]
  intro found
  rw [mem_live_append_merges single, mem_live_append_merges also_single]
  simp only [perm.mem_iff]

theorem agreeUpToOrder_of_perm (recorded : Recorded history)
    (all_recorded : ∀ found ∈ all, found.Recorded) (single : OnePerFile all)
    (unshared : Unshared (merged history ++ all)) (perm : all.Perm others) :
    (run (history ++ all.map .merge)).AgreeUpToOrder (run (history ++ others.map .merge)) := by
  have others_recorded : ∀ found ∈ others, found.Recorded :=
    fun found member => all_recorded found (perm.mem_iff.2 member)
  have others_unshared : Unshared (merged history ++ others) :=
    unshared.of_subset (perm.symm.append_left _).subset
  have stores := stores_run (clean_append_merges unshared)
  have others_stores := stores_run (clean_append_merges others_unshared)
  exact stores.agreeUpToOrder others_stores
    (shows_run (recorded.append (recorded_map_merge all_recorded)))
    (shows_run (recorded.append (recorded_map_merge others_recorded)))
    (live_append_perm single perm)

end Index

variable {files : FileSystem} {analyzers : List Analyzer} {config : Config}

def foundIn (files : FileSystem) (analyzers : List Analyzer) (config : Config)
    (order : List String) : List Findings :=
  order.filterMap fun file => (examine files analyzers config file).findings?

theorem Outcome.findings?_eq_some {outcome : Outcome} {found : Findings} :
    outcome.findings? = some found ↔ outcome = .indexed found := by
  cases outcome <;> simp [findings?]

theorem mem_foundIn {order : List String} {found : Findings} :
    found ∈ foundIn files analyzers config order ↔
      ∃ file ∈ order, examine files analyzers config file = .indexed found := by
  rw [foundIn, List.mem_filterMap]
  simp only [Outcome.findings?_eq_some]

theorem recorded_of_mem_foundIn (notes : ∀ analyzer ∈ analyzers, analyzer.Notes)
    {order : List String} {found : Findings}
    (member : found ∈ foundIn files analyzers config order) : found.Recorded := by
  obtain ⟨file, _, examined⟩ := mem_foundIn.1 member
  exact (notedFor_of_examine notes examined).recorded

theorem onePerFile_foundIn (notes : ∀ analyzer ∈ analyzers, analyzer.Notes) (order : List String) :
    Index.OnePerFile (foundIn files analyzers config order) := by
  intro first member second inside same
  obtain ⟨_, _, examined⟩ := mem_foundIn.1 member
  obtain ⟨_, _, again⟩ := mem_foundIn.1 inside
  exact eq_of_examine (fun analyzer member => (notes analyzer member).addresses) examined again same

namespace Run

theorem index_through (run : Run) (order : List String) :
    (through files analyzers config run order).index =
      (foundIn files analyzers config order).foldl Index.merge run.index := by
  induction order generalizing run with
  | nil => rfl
  | cons file rest ih =>
    rw [through, List.foldl_cons, ← through, ih, foundIn, foundIn, List.filterMap_cons, record,
      Index.accept]
    cases (examine files analyzers config file).findings? <;> rfl

theorem counts_through (run : Run) (order : List String) :
    (through files analyzers config run order).counts =
      (order.map (examine files analyzers config)).foldl Counts.record run.counts := by
  rw [through, List.foldl_map]
  exact (List.foldl_hom counts fun _ _ => rfl).symm

end Run

namespace Workspace

def runThrough (workspace : Workspace) (files : FileSystem) (discovery : Discovery)
    (order : List String) : Run :=
  .through files workspace.analyzers workspace.config (.start workspace.index discovery) order

theorem run_eq_runThrough (workspace : Workspace) (files : FileSystem) (paths : List String) :
    workspace.run files paths =
      workspace.runThrough files (Discovery.ofPaths files workspace.config.skip paths)
        (Discovery.ofPaths files workspace.config.skip paths).files := rfl

theorem index_indexPaths (workspace : Workspace) (files : FileSystem) (paths : List String) :
    (workspace.indexPaths files paths).index =
      (foundIn files workspace.analyzers workspace.config
        (Discovery.ofPaths files workspace.config.skip paths).files).foldl Index.merge
          workspace.index :=
  Run.index_through _ _

theorem index_runThrough {workspace : Workspace} {history : List Index.Change}
    (reached : workspace.index = Index.run history) (files : FileSystem) (discovery : Discovery)
    (order : List String) :
    (workspace.runThrough files discovery order).index = Index.run (history ++
      (foundIn files workspace.analyzers workspace.config order).map .merge) := by
  rw [runThrough, Run.index_through, Index.run_append_merges, ← reached]
  rfl

theorem counts_run_agree (workspace : Workspace) (files : FileSystem) {discovery : Discovery}
    {order others : List String} (perm : order.Perm others) :
    (workspace.runThrough files discovery others).counts.Agree
      (workspace.runThrough files discovery order).counts := by
  rw [runThrough, runThrough, Run.counts_through, Run.counts_through]
  exact .of_perm (perm.symm.map _) _

theorem index_run_agrees {workspace : Workspace} {history : List Index.Change}
    (reached : workspace.index = Index.run history) (recorded : Index.Recorded history)
    (notes : ∀ analyzer ∈ workspace.analyzers, analyzer.Notes) (files : FileSystem)
    {discovery : Discovery} {order others : List String}
    (unshared : Index.Unshared (Index.merged history ++
      foundIn files workspace.analyzers workspace.config others))
    (perm : order.Perm others) :
    (workspace.runThrough files discovery others).index.AgreeUpToOrder
      (workspace.runThrough files discovery order).index := by
  rw [index_runThrough reached, index_runThrough reached]
  exact Index.agreeUpToOrder_of_perm recorded
    (fun _ member => recorded_of_mem_foundIn notes member) (onePerFile_foundIn notes _) unshared
    (perm.symm.filterMap _)

/-- In whatever order the discovered files are examined, the counts are those of the usual run,
and the index gives the same answers. -/
theorem runThrough_agrees {workspace : Workspace} {history : List Index.Change}
    (reached : workspace.index = Index.run history) (recorded : Index.Recorded history)
    (notes : ∀ analyzer ∈ workspace.analyzers, analyzer.Notes) (files : FileSystem)
    (paths : List String) {discovery : Discovery}
    (discovered : discovery = Discovery.ofPaths files workspace.config.skip paths)
    (unshared : Index.Unshared (Index.merged history ++
      foundIn files workspace.analyzers workspace.config discovery.files))
    {order : List String} (perm : order.Perm discovery.files) :
    (workspace.run files paths).counts.Agree
        (workspace.runThrough files discovery order).counts ∧
      (workspace.run files paths).index.AgreeUpToOrder
        (workspace.runThrough files discovery order).index := by
  rw [run_eq_runThrough, ← discovered]
  exact ⟨counts_run_agree workspace files perm, index_run_agrees reached recorded notes files
    unshared perm⟩

/-- Two sources; the second uses its own symbol and one of the first. -/
def twoSources : FileSystem where
  top := [.file "a.toy" ⟨Text.Utf8.encode "def f\nf\n", none⟩,
    .file "b.toy" ⟨Text.Utf8.encode "def g\ng f\n", none⟩]
  current := []

def seenBefore : List Index.Change :=
  [.merge (.ofList "toy" "./b.toy" [.definition "old" "func" (.single ⟨1, 5⟩) none,
      .reference "f" (.single ⟨2, 1⟩) (some "toy::a.toy::f")]),
    .merge (.ofList "toy" "c.toy" [.definition "f" "func" (.single ⟨1, 3⟩) none,
      .reference "f" (.single ⟨2, 1⟩) (some "toy::a.toy::f")])]

def mixedAnalyzers : List Analyzer := [.failing, .ofGrammar .python, .lines]

def mixedAfter (history : List Index.Change) : Workspace :=
  ⟨mixedAnalyzers, .standard, Index.run history⟩

def sourcePaths : List String := ["b.toy", "gone.toy", "./a.toy", "b.toy"]

def discoveredSources : Discovery := ⟨["b.toy", "a.toy"], ["gone.toy"], none⟩

theorem ofPaths_twoSources :
    discoveredSources = Discovery.ofPaths twoSources Config.standard.skip sourcePaths := by
  with_unfolding_all rfl

theorem foundIn_twoSources :
    foundIn twoSources mixedAnalyzers .standard discoveredSources.files =
      [.ofList "toy" "b.toy" [.definition "g" "func" (.single ⟨1, 5⟩) none,
          .reference "g" (.single ⟨2, 1⟩) (some "toy::b.toy::g"),
          .reference "f" (.single ⟨2, 3⟩) none],
        .ofList "toy" "a.toy" [.definition "f" "func" (.single ⟨1, 3⟩) none,
          .reference "f" (.single ⟨2, 1⟩) (some "toy::a.toy::f")]] := by
  with_unfolding_all rfl

theorem recorded_seenBefore : Index.Recorded seenBefore := by simp [seenBefore]

theorem unshared_twoSources : Index.Unshared (Index.merged seenBefore ++
    foundIn twoSources mixedAnalyzers .standard discoveredSources.files) := by
  rw [foundIn_twoSources]
  decide +kernel

theorem labels_mixed : ∀ analyzer ∈ mixedAnalyzers, analyzer.Labels := by
  intro analyzer member
  simp only [mixedAnalyzers, List.mem_cons, List.not_mem_nil, or_false] at member
  rcases member with rfl | rfl | rfl
  · exact Analyzer.labels_failing
  · exact Analyzer.labels_ofGrammar _
  · exact Analyzer.labels_lines

theorem notes_mixedAfter (history : List Index.Change) :
    ∀ analyzer ∈ (mixedAfter history).analyzers, analyzer.Notes :=
  fun analyzer member => (labels_mixed analyzer member).notes

theorem runThrough_agrees_twoSources :
    Index.Recorded seenBefore ∧ (∀ analyzer ∈ (mixedAfter seenBefore).analyzers, analyzer.Notes) ∧
      Index.Unshared (Index.merged seenBefore ++
        foundIn twoSources mixedAnalyzers .standard discoveredSources.files) ∧
      discoveredSources = Discovery.ofPaths twoSources Config.standard.skip sourcePaths ∧
      ["a.toy", "b.toy"].Perm discoveredSources.files ∧
      ((mixedAfter seenBefore).run twoSources sourcePaths).counts.Agree
        ((mixedAfter seenBefore).runThrough twoSources discoveredSources
          ["a.toy", "b.toy"]).counts ∧
      ((mixedAfter seenBefore).run twoSources sourcePaths).index.AgreeUpToOrder
        ((mixedAfter seenBefore).runThrough twoSources discoveredSources
          ["a.toy", "b.toy"]).index := by
  have swapped : ["a.toy", "b.toy"].Perm discoveredSources.files := .swap _ _ _
  exact ⟨recorded_seenBefore, notes_mixedAfter _, unshared_twoSources, ofPaths_twoSources, swapped,
    runThrough_agrees rfl recorded_seenBefore (notes_mixedAfter _) twoSources _ ofPaths_twoSources
      unshared_twoSources swapped⟩

end Workspace
end CodeNav
