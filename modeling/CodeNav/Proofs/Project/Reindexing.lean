import CodeNav.Proofs.Project.Balance

/-! Indexing an unchanged project again changes nothing. After a run the files that it merged stand
behind all others, in the order of the run. A second run takes them out one by one and puts each
behind the rest, until they stand as before; what happens in between leaves no mark. -/
namespace CodeNav

namespace Index

variable {history : List Change} {all : List Findings}

theorem filter_untouched (all : List Findings) : all.filter (untouched all) = [] := by
  rw [List.filter_eq_nil_iff]
  intro found member apart
  simpa using List.all_eq_true.1 apart found member

theorem live_merges_again (distinct : (all.map fun found => Path.normalize found.file).Nodup) :
    live (history ++ all.map .merge ++ all.map .merge) = live (history ++ all.map .merge) := by
  rw [live_append_merges distinct, live_append_merges distinct, List.filter_append,
    List.filter_filter, filter_untouched, List.append_nil]
  simp only [Bool.and_self]

/-- Merges of different files that end a history can be made twice. -/
theorem merges_again_agree (recorded : Recorded history)
    (all_recorded : ∀ found ∈ all, found.Recorded)
    (distinct : (all.map fun found => Path.normalize found.file).Nodup) :
    AgreeOnFiles (run (history ++ all.map .merge ++ all.map .merge))
        (run (history ++ all.map .merge)) ∧
      (Unshared (merged history ++ all) →
        AgreeOnDefinitions (run (history ++ all.map .merge ++ all.map .merge))
          (run (history ++ all.map .merge))) := by
  have same := @live_merges_again history all distinct
  have once := recorded.append (recorded_map_merge all_recorded)
  have shows := shows_run once
  have shows_again := shows_run (once.append (recorded_map_merge all_recorded))
  rw [same] at shows_again
  refine ⟨shows_again.agreeOnFiles shows, ?_⟩
  intro unshared
  have unshared_again : Unshared (merged (history ++ all.map .merge) ++ all) := by
    apply unshared.of_subset
    rw [merged_append_merges]
    simp
  have stores := stores_run (clean_append_merges unshared)
  have stores_again := stores_run (clean_append_merges unshared_again)
  rw [same] at stores_again
  exact stores_again.agreeOnDefinitions stores shows_again shows

end Index

namespace Workspace

variable {workspace : Workspace} {history : List Index.Change} {files : FileSystem}
  {paths : List String} {discovery : Discovery}

theorem index_indexPaths_run (reached : workspace.index = Index.run history)
    (discovered : discovery = Discovery.ofPaths files workspace.config.skip paths) :
    (workspace.indexPaths files paths).index = Index.run (history ++
      (foundIn files workspace.analyzers workspace.config discovery.files).map .merge) := by
  rw [discovered]
  exact index_runThrough reached files _ _

/-- A second run over the same files counts what the first one counted, and after it the index gives
the same answers as before, in the same order. -/
theorem indexPaths_idempotent (reached : workspace.index = Index.run history)
    (recorded : Index.Recorded history) (notes : ∀ analyzer ∈ workspace.analyzers, analyzer.Notes)
    (discovered : discovery = Discovery.ofPaths files workspace.config.skip paths) :
    ((workspace.indexPaths files paths).run files paths).counts =
        (workspace.run files paths).counts ∧
      Index.AgreeOnFiles ((workspace.indexPaths files paths).indexPaths files paths).index
        (workspace.indexPaths files paths).index ∧
      (Index.Unshared (Index.merged history ++
          foundIn files workspace.analyzers workspace.config discovery.files) →
        Index.AgreeOnDefinitions ((workspace.indexPaths files paths).indexPaths files paths).index
          (workspace.indexPaths files paths).index) := by
  have distinct := distinct_foundIn discovered (.refl _) fun analyzer member =>
    (notes analyzer member).addresses
  have agree := Index.merges_again_agree recorded
    (fun _ member => recorded_of_mem_foundIn notes member) distinct
  have once := index_indexPaths_run reached discovered
  have twice : ((workspace.indexPaths files paths).indexPaths files paths).index =
      Index.run (history ++
        (foundIn files workspace.analyzers workspace.config discovery.files).map .merge ++
        (foundIn files workspace.analyzers workspace.config discovery.files).map .merge) :=
    index_indexPaths_run once discovered
  rw [once, twice]
  refine ⟨?_, agree⟩
  rw [run_eq_runThrough, run_eq_runThrough, counts_runThrough, counts_runThrough]
  rfl

theorem unshared_troubled : Index.Unshared (Index.merged seenBefore ++
    foundIn troubled mixedAnalyzers .standard discoveredTroubled.files) := by
  rw [foundIn_troubled]
  decide

/-- One file was in before and cannot be read any more, another one was in and is not discovered. -/
theorem indexPaths_idempotent_troubled :
    Index.Recorded seenBefore ∧ (∀ analyzer ∈ (mixedAfter seenBefore).analyzers, analyzer.Notes) ∧
      discoveredTroubled = Discovery.ofPaths troubled Config.standard.skip troubledPaths ∧
      Index.Unshared (Index.merged seenBefore ++
        foundIn troubled mixedAnalyzers .standard discoveredTroubled.files) ∧
      (((mixedAfter seenBefore).indexPaths troubled troubledPaths).run troubled
          troubledPaths).counts = ((mixedAfter seenBefore).run troubled troubledPaths).counts ∧
      Index.AgreeOnFiles
        (((mixedAfter seenBefore).indexPaths troubled troubledPaths).indexPaths troubled
          troubledPaths).index
        ((mixedAfter seenBefore).indexPaths troubled troubledPaths).index ∧
      Index.AgreeOnDefinitions
        (((mixedAfter seenBefore).indexPaths troubled troubledPaths).indexPaths troubled
          troubledPaths).index
        ((mixedAfter seenBefore).indexPaths troubled troubledPaths).index := by
  have notes := notes_mixedAfter seenBefore
  obtain ⟨counts, on_files, on_definitions⟩ :=
    indexPaths_idempotent rfl recorded_seenBefore notes ofPaths_troubled
  exact ⟨recorded_seenBefore, notes, ofPaths_troubled, unshared_troubled, counts, on_files,
    on_definitions unshared_troubled⟩

end Workspace
end CodeNav
