import CodeNav.Proofs.Project.Pipeline
import CodeNav.Proofs.Project.ProcessingOrder

/-! A run whose work is shared out among threads leaves what a run over the files one after the
other leaves: the workers have counted just the discovered files, in some order. -/
namespace CodeNav.Workspace

variable {workspace : Workspace} {history : List Index.Change} {files : FileSystem}
  {paths : List String} {discovery : Discovery} {capacity workers : Nat}

/-- The threads can come to their end. However they got there, the counts are those of the usual
run and the index gives its answers. Between merging a file and counting it a worker may be
overtaken, so the files need not have been merged in the order in which they were counted. -/
theorem run_agrees_with_threads (reached : workspace.index = Index.run history)
    (recorded : Index.Recorded history) (notes : ∀ analyzer ∈ workspace.analyzers, analyzer.Notes)
    (discovered : discovery = Discovery.ofPaths files workspace.config.skip paths)
    (unshared : Index.Unshared (Index.merged history ++
      foundIn files workspace.analyzers workspace.config discovery.files))
    (some_worker : 1 ≤ workers) (room : 1 ≤ capacity) :
    (∃ last, Pipeline.Steps capacity
      (Pipeline.start workers discovery.files discovery.failure.isSome) last ∧ last.Ended) ∧
    ∀ last, Pipeline.Steps capacity
        (Pipeline.start workers discovery.files discovery.failure.isSome) last → last.Ended →
      (workspace.run files paths).counts.Agree
          (workspace.runThrough files discovery last.recorded).counts ∧
        ∀ merged : List String, merged.Perm last.recorded →
          (workspace.run files paths).index.AgreeUpToOrder
            (workspace.runThrough files discovery merged).index := by
  refine ⟨Pipeline.exists_end some_worker room (.none _) Pipeline.closing_start, ?_⟩
  intro last steps ended
  have counted := (steps.complete some_worker ended).recorded_perm
  rw [run_eq_runThrough, ← discovered]
  exact ⟨counts_run_agree workspace files counted, fun merged perm =>
    index_run_agrees reached recorded notes files unshared (perm.trans counted)⟩

end CodeNav.Workspace
