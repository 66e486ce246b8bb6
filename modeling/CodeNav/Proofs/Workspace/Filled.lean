import CodeNav.Proofs.Project.ProcessingOrder

/-! What a workspace becomes by use. Its index is that of a history in which every file that was
merged had been examined with the analyzers of the workspace. -/
namespace CodeNav

namespace Workspace

inductive Step : Workspace → Workspace → Prop where
  | indexPaths (workspace : Workspace) (files : FileSystem) (paths : List String)
      {discovery : Discovery} {order : List String}
      (discovered : discovery = Discovery.ofPaths files workspace.config.skip paths)
      (perm : order.Perm discovery.files) :
      Step workspace (workspace.withIndex (workspace.runThrough files discovery order).index)
  | indexFile (workspace : Workspace) (files : FileSystem) (path : String) :
      Step workspace (workspace.indexFile files path)
  | removeFile (workspace : Workspace) (path : String) :
      Step workspace (workspace.removeFile path)

inductive Filled (analyzers : List Analyzer) (config : Config) : Workspace → Prop where
  | start : Filled analyzers config ⟨analyzers, config, .empty⟩
  | step {before after : Workspace} (filled : Filled analyzers config before)
      (step : Step before after) : Filled analyzers config after

theorem Step.indexPaths_run (workspace : Workspace) (files : FileSystem) (paths : List String) :
    Step workspace (workspace.indexPaths files paths) :=
  .indexPaths workspace files paths rfl (.refl _)

variable {analyzers : List Analyzer} {config : Config} {workspace before after : Workspace}

def Examined (analyzers : List Analyzer) (config : Config) (changes : List Index.Change) : Prop :=
  ∀ found, Index.Change.merge found ∈ changes →
    ∃ files path, CodeNav.examine files analyzers config path = .indexed found

theorem exists_changes_runThrough (workspace : Workspace) (files : FileSystem)
    (discovery : Discovery) (order : List String) :
    ∃ changes,
      (workspace.runThrough files discovery order).index =
        changes.foldl Index.apply workspace.index ∧
      Examined workspace.analyzers workspace.config changes := by
  refine ⟨(foundIn files workspace.analyzers workspace.config order).map .merge, ?_, ?_⟩
  · rw [List.foldl_map]
    exact Run.index_through _ order
  · intro found member
    obtain ⟨other, inside, same⟩ := List.mem_map.1 member
    cases same
    obtain ⟨file, _, examined⟩ := mem_foundIn.1 inside
    exact ⟨files, file, examined⟩

theorem index_indexFile (workspace : Workspace) (files : FileSystem) (path : String)
    (discovery : Discovery) : (workspace.indexFile files path).index =
      (workspace.runThrough files discovery [path]).index := rfl

theorem Step.exists_changes (step : Step before after) :
    after.analyzers = before.analyzers ∧ after.config = before.config ∧
      ∃ changes, after.index = changes.foldl Index.apply before.index ∧
        Examined before.analyzers before.config changes := by
  cases step with
  | @indexPaths files paths discovery order _ _ =>
    exact ⟨rfl, rfl, exists_changes_runThrough before files discovery order⟩
  | indexFile files path =>
    refine ⟨rfl, rfl, ?_⟩
    rw [index_indexFile before files path ⟨[path], [], none⟩]
    exact exists_changes_runThrough before files _ [path]
  | removeFile path =>
    refine ⟨rfl, rfl, [.evict path], rfl, ?_⟩
    intro found member
    cases List.mem_singleton.1 member

theorem Filled.exists_history (filled : Filled analyzers config workspace) :
    workspace.analyzers = analyzers ∧ workspace.config = config ∧
      ∃ history, workspace.index = Index.run history ∧ Examined analyzers config history := by
  induction filled with
  | start => exact ⟨rfl, rfl, [], rfl, nofun⟩
  | step _ step ih =>
    obtain ⟨rfl, rfl, history, reached, examined⟩ := ih
    obtain ⟨same_analyzers, same_config, changes, changed, also_examined⟩ := step.exists_changes
    refine ⟨same_analyzers, same_config, history ++ changes, ?_, ?_⟩
    · rw [changed, reached, Index.run, Index.run, List.foldl_append]
    · intro found member
      exact (List.mem_append.1 member).elim (examined found) (also_examined found)

end Workspace
end CodeNav
