import CodeNav.Proofs.Index.Locality
import CodeNav.Proofs.Workspace.DefinitionAt

/-! Where the name at a position of a file is defined does not depend on what other files say, but
for the definitions of the name and of the one that an import gives it. Nothing leaks from files
that were taken out or merged again. -/
namespace CodeNav.Workspace

variable {left right : Workspace} {history others : List Index.Change} {found other : Findings}
  {path : String} {position : Position}

theorem answerFrom_eq {first second : Index} {candidates : List Identity}
    (same : ∀ identity ∈ candidates, first.definition identity = second.definition identity)
    (occurrence : Occurrence) :
    answerFrom first occurrence candidates = answerFrom second occurrence candidates := by
  have chosen : candidates.findSome? first.definition = candidates.findSome? second.definition := by
    induction candidates with
    | nil => rfl
    | cons identity rest ih =>
      rw [List.findSome?_cons, List.findSome?_cons, same identity List.mem_cons_self,
        ih fun other member => same other (List.mem_cons_of_mem _ member)]
  rw [answerFrom, answerFrom, chosen]

theorem occurrences_of_holds {index : Index} (holds : index.Holds found)
    (file : Path.normalize path = Path.normalize found.file) :
    index.occurrences (Path.normalize path) = found.occurrences := by
  have known := holds.entry
  rw [← file] at known
  exact occurrences_of_entry known

theorem answerFor_eq (twins : left.index.Twins right.index history others found other)
    (analyzers : left.analyzers = right.analyzers)
    (steady : ∀ analyzer ∈ left.analyzers, analyzer.Steady)
    (plain : ∀ analyzer ∈ left.analyzers, ':' ∉ analyzer.lang.toList) {file : String}
    (own_file : Path.normalize file = Path.normalize found.file) {occurrence : Occurrence}
    (occurs : occurrence ∈ found.occurrences)
    (same : ∀ analyzer, Analyzer.pick left.analyzers file = .ok (some analyzer) →
      left.index.SameNames right.index found analyzer.lang analyzer.importedName
        occurrence.name) :
    ∃ answer, left.answerFor file occurrence = .ok answer ∧
      right.answerFor file occurrence = .ok answer := by
  rcases Analyzer.pick_cases steady file with ⟨picked, _⟩ | ⟨analyzer, member, picked, _⟩
  · exact ⟨_, answerFor_unhandled occurrence picked,
      answerFor_unhandled occurrence (analyzers ▸ picked)⟩
  · obtain ⟨candidates, here, there, defined⟩ :=
      twins.resolve_eq own_file (plain analyzer member) occurs (same analyzer picked)
    refine ⟨_, answerFor_resolved picked here, ?_⟩
    rw [answerFor_resolved (analyzers ▸ picked) there, answerFrom_eq defined]

/-- Two workspaces give the same answer at every position of a file whose latest findings are
alike in both, if they know the same definitions of the name there and of the one that an import
gives it. Only for a path that no file can have is there no answer, in either. -/
theorem definitionAt_local (twins : left.index.Twins right.index history others found other)
    (analyzers : left.analyzers = right.analyzers)
    (steady : ∀ analyzer ∈ left.analyzers, analyzer.Steady)
    (plain : ∀ analyzer ∈ left.analyzers, ':' ∉ analyzer.lang.toList)
    (file : Path.normalize path = Path.normalize found.file) (position : Position)
    (same : ∀ occurrence analyzer, Occurrence.pick found.occurrences position = some occurrence →
      Analyzer.pick left.analyzers (Path.normalize path) = .ok (some analyzer) →
      left.index.SameNames right.index found analyzer.lang analyzer.importedName
        occurrence.name) :
    left.definitionAt path position = right.definitionAt path position ∧
      ('\x00' ∉ path.toList → ∃ answer, left.definitionAt path position = .ok answer) := by
  by_cases nul : '\x00' ∈ path.toList
  · rw [definitionAt_nul nul, definitionAt_nul nul]
    exact ⟨rfl, absurd nul⟩
  · have here := occurrences_of_holds (twins.first.holds twins.latest) file
    have there := occurrences_of_holds (twins.second.holds twins.also_latest)
      (twins.alike.file ▸ file)
    rw [definitionAt_usable nul, definitionAt_usable nul, here, there, ← twins.alike.occurrences]
    cases chosen : Occurrence.pick found.occurrences position with
    | none => exact ⟨rfl, fun _ => ⟨_, rfl⟩⟩
    | some occurrence =>
      obtain ⟨answer, mine, yours⟩ := answerFor_eq twins analyzers steady plain
        ((Path.normalize_normalize path).trans file) (Occurrence.mem_of_pick chosen)
        fun analyzer => same occurrence analyzer chosen
      exact ⟨mine.trans yours.symm, fun _ => ⟨answer, mine⟩⟩

def aliasing : Findings :=
  .ofList "py" "use.py"
    [.binding "g" "lib.h.f" (.single ⟨1, 1⟩), .reference "g" (.single ⟨2, 1⟩) none]

def bare : List Index.Change :=
  [.merge (.ofList "py" "lib/h.py" [.definition "f" "func" (.single ⟨1, 5⟩) none]),
    .merge aliasing]

/-- The same file after much else: a file of its language with a function of the name has come and
gone, one of another language has stayed, and the function that it uses has got company. -/
def crowded : List Index.Change :=
  [.merge (.ofList "py" "g.py" [.definition "g" "func" (.single ⟨1, 5⟩) none]),
    .merge (.ofList "py" "lib/h.py" [.definition "f" "func" (.single ⟨1, 5⟩) none]),
    .merge aliasing,
    .merge (.ofList "go" "g.go" [.definition "g" "func" (.single ⟨3, 6⟩) none]),
    .merge (.ofList "py" "lib/h.py" [.definition "k" "var" (.single ⟨4, 1⟩) none,
      .definition "f" "func" (.single ⟨1, 5⟩) none, .reference "f" (.single ⟨5, 1⟩)
        (some "py::lib/h.py::f")]),
    .evict "g.py"]

theorem reached_bare : (pythonAfter bare).index.Reached bare :=
  Index.reached_run (by simp [bare, aliasing]) (by decide) (by decide)

theorem reached_crowded : (pythonAfter crowded).index.Reached crowded :=
  Index.reached_run (by simp [crowded, aliasing]) (by decide) (by decide)

theorem plain_pythonAfter (history : List Index.Change) :
    ∀ analyzer ∈ (pythonAfter history).analyzers, ':' ∉ analyzer.lang.toList := by
  intro analyzer member
  rw [List.mem_singleton.1 member]
  decide

theorem sameNames_aliasing (occurrence : Occurrence) (analyzer : Analyzer)
    (chosen : Occurrence.pick aliasing.occurrences ⟨2, 1⟩ = some occurrence)
    (picked : Analyzer.pick (pythonAfter bare).analyzers (Path.normalize "./use.py") =
      .ok (some analyzer)) :
    (pythonAfter bare).index.SameNames (pythonAfter crowded).index aliasing analyzer.lang
      analyzer.importedName occurrence.name := by
  have there : Occurrence.pick aliasing.occurrences ⟨2, 1⟩ =
      some ⟨"g", .reference, .single ⟨2, 1⟩, none⟩ := rfl
  obtain rfl := Option.some.inj (there.symm.trans chosen)
  obtain rfl := List.mem_singleton.1 (Analyzer.mem_of_pick picked)
  have named : (pythonAfter bare).index.SameUnder (pythonAfter crowded).index "py" "g" :=
    .of_eq (by decide)
  have imported : (pythonAfter bare).index.SameUnder (pythonAfter crowded).index "py" "f" :=
    .of_eq (by decide)
  have target : aliasing.meaning (Analyzer.ofGrammar .python).importedName "g" = some "f" := by
    rfl
  refine ⟨named, ?_⟩
  intro meant known
  obtain rfl := Option.some.inj (target.symm.trans known)
  exact imported

theorem twins_aliasing :
    (pythonAfter bare).index.Twins (pythonAfter crowded).index bare crowded aliasing aliasing where
  first := reached_bare
  second := reached_crowded
  latest := by decide
  also_latest := by decide
  alike := .refl _

theorem definitionAt_local_aliasing :
    (pythonAfter bare).index.Twins (pythonAfter crowded).index bare crowded aliasing aliasing ∧
      (∀ analyzer ∈ (pythonAfter bare).analyzers, analyzer.Steady) ∧
      (∀ analyzer ∈ (pythonAfter bare).analyzers, ':' ∉ analyzer.lang.toList) ∧
      (pythonAfter bare).definitionAt "./use.py" ⟨2, 1⟩ =
        (pythonAfter crowded).definitionAt "./use.py" ⟨2, 1⟩ ∧
      ('\x00' ∉ "./use.py".toList →
        ∃ answer, (pythonAfter bare).definitionAt "./use.py" ⟨2, 1⟩ = .ok answer) :=
  ⟨twins_aliasing, steady_pythonAfter _, plain_pythonAfter _,
    definitionAt_local twins_aliasing rfl (steady_pythonAfter _) (plain_pythonAfter _)
      (by with_unfolding_all rfl) ⟨2, 1⟩ sameNames_aliasing⟩

end CodeNav.Workspace
