import CodeNav.Proofs.Project.Discovery
import CodeNav.Proofs.Project.ProcessingOrder

/-! Files that cannot be indexed leave no mark. Whatever goes wrong with a file, the index stays as
it was, with the file's own earlier findings; and after a run it is the earlier index into which the
findings of the other files were merged, as if there had been no more files. -/
namespace CodeNav

variable {files : FileSystem} {analyzers : List Analyzer} {config : Config}

namespace Outcome

/-- The file is left out, it is given up for a reason that is reported, or the work on it breaks
off. -/
def GivesUp (outcome : Outcome) : Prop :=
  outcome = .skipped ∨ (∃ notice, outcome = .failed notice) ∨
    ∃ failure, outcome = .aborted failure

theorem givesUp_iff {outcome : Outcome} : outcome.GivesUp ↔ outcome.findings? = none := by
  cases outcome <;> simp [GivesUp, findings?]

theorem GivesUp.not_indexed {outcome : Outcome} (givesUp : outcome.GivesUp) (found : Findings) :
    outcome ≠ .indexed found := by
  rintro rfl
  cases givesUp_iff.1 givesUp

theorem indexed_or_givesUp (outcome : Outcome) :
    (∃ found, outcome = .indexed found) ∨ outcome.GivesUp := by
  cases findings : outcome.findings? with
  | none => exact .inr (givesUp_iff.2 findings)
  | some found => exact .inl ⟨found, findings?_eq_some.1 findings⟩

end Outcome

/-- The file of a path has an analyzer whose language is wanted, it is not too large and can be
read, and these are the findings of the analyzer in it. -/
def Yields (files : FileSystem) (analyzers : List Analyzer) (config : Config) (path : String)
    (found : Findings) : Prop :=
  ∃ analyzer size document, Analyzer.pick analyzers (Path.normalize path) = .ok (some analyzer) ∧
    config.covers analyzer.lang = true ∧
    files.sizeAt (Path.normalize path) = .ok size ∧ (size : Int) ≤ config.maxFileSize ∧
    files.read (Path.normalize path) = .ok document ∧
    analyzer.read (Path.normalize path) document = .found found

theorem yields_iff {path : String} {found : Findings} :
    Yields files analyzers config path found ↔
      examine files analyzers config path = .indexed found := by
  simp only [examine_eq_indexed, examineWith_eq_indexed, Yields, exists_and_left]

namespace Index

variable {index : Index} {all : List Findings} {path : String}

theorem accept_of_givesUp {outcome : Outcome} (givesUp : outcome.GivesUp) :
    index.accept outcome = index := by
  rw [accept, Outcome.givesUp_iff.1 givesUp]

theorem entry?_foldl_merge
    (absent : ∀ found ∈ all, Path.normalize found.file ≠ Path.normalize path) :
    Index.entry? (all.foldl merge index) path = index.entry? path := by
  induction all generalizing index with
  | nil => rfl
  | cons found rest ih =>
    rw [List.foldl_cons, ih fun other member => absent other (List.mem_cons_of_mem _ member),
      entry?_merge, if_neg (absent found List.mem_cons_self)]

theorem entry?_foldl_merge_of_mem {found : Findings} (member : found ∈ all)
    (single : ∀ other ∈ all, Path.normalize other.file = Path.normalize found.file →
      other = found) :
    Index.entry? (all.foldl merge index) found.file = some (entryOf found) := by
  induction all using List.reverseRecOn with
  | nil => cases member
  | append_singleton before latest ih =>
    rw [List.foldl_append, List.foldl_cons, List.foldl_nil, entry?_merge]
    by_cases same : Path.normalize latest.file = Path.normalize found.file
    · rw [if_pos same, single latest (by simp) same]
    · rw [if_neg same]
      apply ih
      · rcases List.mem_append.1 member with earlier | last
        · exact earlier
        · exact absurd (by rw [List.mem_singleton.1 last]) same
      · exact fun other inside => single other (List.mem_append_left _ inside)

end Index

namespace Workspace

theorem indexFile_cases (workspace : Workspace) (files : FileSystem) (path : String) :
    (∃ found, workspace.examine files path = .indexed found ∧
      (workspace.indexFile files path).index = workspace.index.merge found) ∨
    (workspace.examine files path).GivesUp ∧
      (workspace.indexFile files path).index = workspace.index := by
  obtain ⟨found, examined⟩ | givesUp := (workspace.examine files path).indexed_or_givesUp
  · refine .inl ⟨found, examined, ?_⟩
    rw [indexFile, examined]
    rfl
  · exact .inr ⟨givesUp, Index.accept_of_givesUp givesUp⟩

theorem exists_discovered {workspace : Workspace}
    (addresses : ∀ analyzer ∈ workspace.analyzers, analyzer.Addresses) {paths : List String}
    {found : Findings}
    (member : found ∈ foundIn files workspace.analyzers workspace.config
      (Discovery.ofPaths files workspace.config.skip paths).files) :
    Path.normalize found.file ∈ (Discovery.ofPaths files workspace.config.skip paths).files ∧
      workspace.examine files found.file = .indexed found := by
  obtain ⟨file, discovered, examined⟩ := mem_foundIn.1 member
  have canonical := Discovery.normalize_of_mem_files discovered
  have own : found.file = file := (file_of_examine addresses examined).trans canonical
  rw [own, canonical]
  exact ⟨discovered, examined⟩

theorem entry?_indexPaths_of_indexed {workspace : Workspace}
    (addresses : ∀ analyzer ∈ workspace.analyzers, analyzer.Addresses) {paths : List String}
    {path : String} {found : Findings}
    (discovered : Path.normalize path ∈
      (Discovery.ofPaths files workspace.config.skip paths).files)
    (examined : workspace.examine files path = .indexed found) :
    Index.entry? (workspace.indexPaths files paths).index path =
      some (Index.entryOf found) := by
  have own := file_of_examine addresses examined
  have canonical : workspace.examine files (Path.normalize path) = .indexed found :=
    (examine_normalize path).trans examined
  have kept : Index.entry? ((foundIn files workspace.analyzers workspace.config
      (Discovery.ofPaths files workspace.config.skip paths).files).foldl Index.merge
        workspace.index) found.file = some (Index.entryOf found) :=
    Index.entry?_foldl_merge_of_mem (mem_foundIn.2 ⟨_, discovered, canonical⟩)
      fun other member same =>
        eq_of_examine addresses (exists_discovered addresses member).2 examined same
  rw [own, Index.entry?, Path.normalize_normalize] at kept
  rw [index_indexPaths]
  exact kept

theorem entry?_indexPaths_of_not {workspace : Workspace}
    (addresses : ∀ analyzer ∈ workspace.analyzers, analyzer.Addresses) {paths : List String}
    {path : String}
    (left_out : Path.normalize path ∉
        (Discovery.ofPaths files workspace.config.skip paths).files ∨
      (workspace.examine files path).GivesUp) :
    Index.entry? (workspace.indexPaths files paths).index path = workspace.index.entry? path := by
  rw [index_indexPaths]
  apply Index.entry?_foldl_merge
  intro found member same
  obtain ⟨discovered, examined⟩ := exists_discovered addresses member
  rw [same] at discovered
  rcases left_out with absent | givesUp
  · exact absent discovered
  · -- Another spelling of the path would have been given up as well.
    rw [examine, ← examine_normalize, same, examine_normalize] at examined
    exact givesUp.not_indexed found examined

/-- Whatever comes of a file, the index gains the findings of the file and nothing else, and only
if there are any. A run merges the findings of the files that can be indexed, in the order of
their discovery; it replaces what was kept about these, and about no other file. -/
theorem indexing_isolated (workspace : Workspace) (files : FileSystem) :
    (∀ path,
      (∃ found, Yields files workspace.analyzers workspace.config path found ∧
        workspace.examine files path = .indexed found ∧
        (workspace.indexFile files path).index = workspace.index.merge found) ∨
      (∀ found, ¬ Yields files workspace.analyzers workspace.config path found) ∧
        (workspace.examine files path).GivesUp ∧
        (workspace.indexFile files path).index = workspace.index) ∧
    (∀ paths, (workspace.indexPaths files paths).index =
      (foundIn files workspace.analyzers workspace.config
        (Discovery.ofPaths files workspace.config.skip paths).files).foldl Index.merge
          workspace.index) ∧
    ((∀ analyzer ∈ workspace.analyzers, analyzer.Addresses) → ∀ path,
      (∀ found, workspace.examine files path = .indexed found →
        found.file = Path.normalize path) ∧
      ∀ paths,
        (∀ found, workspace.examine files path = .indexed found →
          Path.normalize path ∈ (Discovery.ofPaths files workspace.config.skip paths).files →
          Index.entry? (workspace.indexPaths files paths).index path =
            some (Index.entryOf found)) ∧
        ((workspace.examine files path).GivesUp ∨
            Path.normalize path ∉ (Discovery.ofPaths files workspace.config.skip paths).files →
          Index.entry? (workspace.indexPaths files paths).index path =
            workspace.index.entry? path)) := by
  refine ⟨?_, workspace.index_indexPaths files, ?_⟩
  · intro path
    obtain ⟨found, examined, merged⟩ | ⟨givesUp, unchanged⟩ := workspace.indexFile_cases files path
    · exact .inl ⟨found, yields_iff.2 examined, examined, merged⟩
    · refine .inr ⟨?_, givesUp, unchanged⟩
      intro found yields
      exact givesUp.not_indexed found (yields_iff.1 yields)
  · intro addresses path
    refine ⟨fun found => file_of_examine addresses, fun paths => ⟨?_, ?_⟩⟩
    · intro found examined discovered
      exact entry?_indexPaths_of_indexed addresses discovered examined
    · intro left_out
      exact entry?_indexPaths_of_not addresses left_out.symm

/-- Two good sources among files that go wrong in every other way. -/
def troubled : FileSystem where
  top := [.file "a.toy" ⟨Text.Utf8.encode "def g\ng\n", none⟩,
    .file "b.toy" ⟨Text.Utf8.encode "def f\nSYNTAX ERROR\n", none⟩,
    .file "c.broken" ⟨[], none⟩,
    .file "d.toy" ⟨Text.Utf8.encode "NO TREE\n", none⟩,
    .file "e.toy" ⟨Text.Utf8.encode "def h\nEXPLODE\n", none⟩,
    .file "f.txt" ⟨[], none⟩,
    .link "g.toy" "gone.toy",
    .file "h.toy" ⟨Text.Utf8.encode "def k\ng k\n", none⟩]
  current := []

def goodFindings : List Findings :=
  [.ofList "toy" "a.toy" [.definition "g" "func" (.single ⟨1, 5⟩) none,
      .reference "g" (.single ⟨2, 1⟩) (some "toy::a.toy::g")],
    .ofList "toy" "h.toy" [.definition "k" "func" (.single ⟨1, 5⟩) none,
      .reference "g" (.single ⟨2, 1⟩) none,
      .reference "k" (.single ⟨2, 3⟩) (some "toy::h.toy::k")]]

def troubledPaths : List String :=
  ["a.toy", "b.toy", "c.broken", "d.toy", "e.toy", "f.txt", "g.toy", "./a.toy", "h.toy"]

def discoveredTroubled : Discovery :=
  ⟨["a.toy", "b.toy", "c.broken", "d.toy", "e.toy", "f.txt", "h.toy"], ["g.toy"], none⟩

theorem ofPaths_troubled :
    discoveredTroubled = Discovery.ofPaths troubled Config.standard.skip troubledPaths := by
  decide +kernel

theorem foundIn_troubled :
    foundIn troubled mixedAnalyzers .standard discoveredTroubled.files = goodFindings := by
  with_unfolding_all rfl

theorem givesUp_troubled : ((mixedAfter seenBefore).examine troubled "./b.toy").GivesUp := by
  rw [Outcome.givesUp_iff]
  with_unfolding_all rfl

theorem addresses_mixedAfter (history : List Index.Change) :
    ∀ analyzer ∈ (mixedAfter history).analyzers, analyzer.Addresses :=
  fun analyzer member => (notes_mixedAfter history analyzer member).addresses

theorem indexing_isolated_troubled :
    (∀ analyzer ∈ (mixedAfter seenBefore).analyzers, analyzer.Addresses) ∧
      (Index.run seenBefore).knows "./b.toy" = true ∧
      ((mixedAfter seenBefore).examine troubled "./b.toy").GivesUp ∧
      ((mixedAfter seenBefore).indexPaths troubled troubledPaths).index =
        goodFindings.foldl Index.merge (Index.run seenBefore) ∧
      (∀ found ∈ goodFindings,
        Index.entry? ((mixedAfter seenBefore).indexPaths troubled troubledPaths).index found.file =
          some (Index.entryOf found)) ∧
      Index.entry? ((mixedAfter seenBefore).indexPaths troubled troubledPaths).index "./b.toy" =
        Index.entry? (Index.run seenBefore) "./b.toy" := by
  have addresses := addresses_mixedAfter seenBefore
  obtain ⟨_, merged, entries⟩ := indexing_isolated (mixedAfter seenBefore) troubled
  refine ⟨addresses, rfl, givesUp_troubled, ?_, ?_, ?_⟩
  · rw [merged, ← foundIn_troubled, ofPaths_troubled]
    rfl
  · intro found member
    rw [← foundIn_troubled, ofPaths_troubled] at member
    obtain ⟨discovered, examined⟩ := exists_discovered addresses member
    exact ((entries addresses _).2 troubledPaths).1 found examined discovered
  · exact ((entries addresses _).2 troubledPaths).2 (.inl givesUp_troubled)

end Workspace
end CodeNav
