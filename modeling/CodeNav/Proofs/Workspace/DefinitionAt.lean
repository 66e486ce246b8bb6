import CodeNav.Proofs.Analyzer
import CodeNav.Proofs.Index.Resolution
import CodeNav.Proofs.Occurrence
import CodeNav.Workspace

/-! What comes of the question where the name at a position is defined. After a clean history it
has one of three answers, and which of them it is depends on the latest findings of the file and on
the analyzers alone. A path that no file can have is an error instead. -/
namespace CodeNav

def Index.NameAt (history : List Index.Change) (path : String) (position : Position) : Prop :=
  ∃ found ∈ live history, Path.normalize found.file = Path.normalize path ∧
    ∃ occurrence ∈ found.occurrences, occurrence.range.contains position = true

def Answer.Declines (answer : Answer) (reason : String) : Prop :=
  answer.miss.map Miss.message = some reason ∧ answer.candidates = none

/-- The answer is that of its candidates: all of them are defined, and the first one counts. -/
structure Answer.Follows (answer : Answer) (index : Index) (candidates : List Identity) : Prop where
  listed : answer.candidates = some candidates
  distinct : candidates.Nodup
  defined : ∀ identity ∈ candidates, (index.definition identity).isSome = true
  found : answer.found = true ↔ candidates ≠ []
  first : ∀ identity, candidates.head? = some identity →
    answer.definition = index.definition identity
  undefined : answer.miss.map Miss.message = some "definition not found" ↔ candidates = []

namespace Workspace

def Handles (workspace : Workspace) (path : String) : Prop :=
  ∃ analyzer ∈ workspace.analyzers, analyzer.handles (Path.normalize path) = .ok true

structure Settles (workspace : Workspace) (history : List Index.Change) (path : String)
    (position : Position) (answer : Answer) : Prop where
  nameless : answer.Declines "no identifier at position" ↔ ¬ Index.NameAt history path position
  unhandled : Index.NameAt history path position →
    (answer.Declines "no adapter for file" ↔ ¬ workspace.Handles path)
  resolved : Index.NameAt history path position → workspace.Handles path →
    ∃ candidates, answer.Follows workspace.index candidates

variable {workspace : Workspace} {history : List Index.Change} {path : String}
  {position : Position}

theorem nul_mem_normalize : '\x00' ∈ (Path.normalize path).toList ↔ '\x00' ∈ path.toList :=
  Path.mem_normalize (by decide) (by decide) (by decide)

theorem occurrences_of_entry {index : Index} {entry : FileEntry}
    (known : index.files.get? (Path.normalize path) = some entry) :
    index.occurrences (Path.normalize path) = entry.occurrences := by
  rw [Index.occurrences, Index.entry?, Path.normalize_normalize, known]
  rfl

theorem pick_occurrences {index : Index} {history : List Index.Change}
    (lists : index.Lists (Index.live history)) :
    Occurrence.pick (index.occurrences (Path.normalize path)) position = none ↔
      ¬ Index.NameAt history path position := by
  rw [Occurrence.pick_eq_none]
  constructor
  · rintro none_there ⟨found, member, same, occurrence, inside, contained⟩
    have known := lists.entry_of_mem member
    rw [same] at known
    rw [occurrences_of_entry known] at none_there
    rw [none_there occurrence inside] at contained
    cases contained
  · intro nameless occurrence inside
    rw [Bool.eq_false_iff]
    intro contained
    cases known : index.files.get? (Path.normalize path) with
    | none =>
      rw [Index.occurrences, Index.entry?, Path.normalize_normalize, known] at inside
      cases inside
    | some entry =>
      rw [occurrences_of_entry known] at inside
      obtain ⟨found, member, same, rfl⟩ := lists.mem_of_entry known
      exact nameless ⟨found, member, same, occurrence, inside, contained⟩

theorem findSome_of_isSome {index : Index} {first : Identity} {others : List Identity}
    (defined : (index.definition first).isSome = true) :
    (first :: others).findSome? index.definition = index.definition first := by
  obtain ⟨definition, stored⟩ := Option.isSome_iff_exists.1 defined
  rw [List.findSome?_cons, stored]

theorem follows_answerFrom {index : Index} (occurrence : Occurrence) {candidates : List Identity}
    (distinct : candidates.Nodup)
    (defined : ∀ identity ∈ candidates, (index.definition identity).isSome = true) :
    (answerFrom index occurrence candidates).Follows index candidates := by
  cases candidates with
  | nil =>
    have answer : answerFrom index occurrence [] =
        ⟨none, some [], some .undefined, some occurrence⟩ := rfl
    rw [answer]
    exact ⟨rfl, distinct, defined, by simp [Answer.found], nofun, by simp [Miss.message]⟩
  | cons first others =>
    obtain ⟨definition, stored⟩ := Option.isSome_iff_exists.1 (defined first List.mem_cons_self)
    have answer : answerFrom index occurrence (first :: others) =
        ⟨some definition, some (first :: others), none, some occurrence⟩ := by
      rw [answerFrom, findSome_of_isSome (defined first List.mem_cons_self), stored]
    rw [answer]
    refine ⟨rfl, distinct, defined, by simp [Answer.found], ?_, by simp⟩
    rintro identity ⟨⟩
    exact stored.symm

theorem settles_nameless (nameless : ¬ Index.NameAt history path position) :
    workspace.Settles history path position ⟨none, none, some .noIdentifier, none⟩ :=
  ⟨⟨fun _ => nameless, fun _ => ⟨rfl, rfl⟩⟩, fun named => absurd named nameless,
    fun named => absurd named nameless⟩

theorem settles_unhandled (named : Index.NameAt history path position)
    (unhandled : ¬ workspace.Handles path) (occurrence : Occurrence) :
    workspace.Settles history path position ⟨none, none, some .noAnalyzer, some occurrence⟩ := by
  refine ⟨⟨?_, fun nameless => absurd named nameless⟩, ?_, ?_⟩
  · intro declines
    have reason : Miss.message .noAnalyzer = "no identifier at position" :=
      Option.some.inj declines.1
    exact absurd reason (by decide)
  · intro _
    exact ⟨fun _ => unhandled, fun _ => ⟨rfl, rfl⟩⟩
  · intro _ handled
    exact absurd handled unhandled

theorem settles_resolved (named : Index.NameAt history path position)
    (handled : workspace.Handles path) {answer : Answer} {candidates : List Identity}
    (follows : answer.Follows workspace.index candidates) :
    workspace.Settles history path position answer := by
  have listed (reason : String) : ¬ answer.Declines reason := by
    intro declines
    have none_listed := declines.2
    rw [follows.listed] at none_listed
    cases none_listed
  refine ⟨⟨fun declines => absurd declines (listed _), fun nameless => absurd named nameless⟩,
    ?_, fun _ _ => ⟨candidates, follows⟩⟩
  intro _
  exact ⟨fun declines => absurd declines (listed _), fun unhandled => absurd handled unhandled⟩

theorem answerFor_unhandled {file : String} (occurrence : Occurrence)
    (picked : Analyzer.pick workspace.analyzers file = .ok none) :
    workspace.answerFor file occurrence =
      .ok ⟨none, none, some .noAnalyzer, some occurrence⟩ := by
  rw [answerFor, picked]
  rfl

theorem answerFor_resolved {file : String} {occurrence : Occurrence} {analyzer : Analyzer}
    {candidates : List Identity}
    (picked : Analyzer.pick workspace.analyzers file = .ok (some analyzer))
    (resolved : workspace.index.resolve analyzer.lang file occurrence analyzer.importedName =
      .ok candidates) :
    workspace.answerFor file occurrence =
      .ok (answerFrom workspace.index occurrence candidates) := by
  rw [answerFor, picked]
  change ((workspace.index.resolve analyzer.lang file occurrence
    analyzer.importedName).mapError QueryError.dangling >>= _) = _
  rw [resolved]
  rfl

theorem answerFor_settles (reached : workspace.index = Index.run history)
    (clean : Index.Clean history) (steady : ∀ analyzer ∈ workspace.analyzers, analyzer.Steady)
    (named : Index.NameAt history path position) (occurrence : Occurrence) :
    ∃ answer, workspace.answerFor (Path.normalize path) occurrence = .ok answer ∧
      workspace.Settles history path position answer := by
  obtain ⟨picked, none_handles⟩ | ⟨analyzer, member, picked, handles⟩ :=
    Analyzer.pick_cases steady (Path.normalize path)
  · refine ⟨_, answerFor_unhandled occurrence picked, settles_unhandled named ?_ occurrence⟩
    rintro ⟨analyzer, member, handles⟩
    rw [none_handles analyzer member] at handles
    cases handles
  · have lists := Index.lists_run history
    have stores := Index.stores_run clean
    rw [← reached] at lists stores
    obtain ⟨candidates, resolved, distinct, defined⟩ := stores.resolve lists analyzer.lang
      (Path.normalize path) occurrence analyzer.importedName
    exact ⟨_, answerFor_resolved picked resolved, settles_resolved named
      ⟨analyzer, member, handles⟩ (follows_answerFrom occurrence distinct defined)⟩

/-- No file can have a path with a null character, so the question itself fails. -/
theorem definitionAt_nul (nul : '\x00' ∈ path.toList) :
    workspace.definitionAt path position = .error (.analysis .unusablePath) := by
  rw [definitionAt, if_pos (nul_mem_normalize.2 nul)]

theorem definitionAt_usable (usable : '\x00' ∉ path.toList) :
    workspace.definitionAt path position =
      match Occurrence.pick (workspace.index.occurrences (Path.normalize path)) position with
      | none => .ok ⟨none, none, some .noIdentifier, none⟩
      | some occurrence => workspace.answerFor (Path.normalize path) occurrence := by
  rw [definitionAt]
  exact if_neg fun nul => usable (nul_mem_normalize.1 nul)

/-- After a clean history every question about a possible path has the answer that is due, and
only those have. -/
theorem definitionAt_settles (reached : workspace.index = Index.run history)
    (clean : Index.Clean history) (steady : ∀ analyzer ∈ workspace.analyzers, analyzer.Steady)
    (path : String) (position : Position) :
    ((∃ answer, workspace.definitionAt path position = .ok answer ∧
      workspace.Settles history path position answer) ↔ '\x00' ∉ path.toList) ∧
    ('\x00' ∈ path.toList →
      workspace.definitionAt path position = .error (.analysis .unusablePath)) := by
  have lists := Index.lists_run history
  rw [← reached] at lists
  refine ⟨⟨?_, ?_⟩, definitionAt_nul⟩
  · rintro ⟨answer, given, _⟩ nul
    rw [definitionAt_nul nul] at given
    cases given
  · intro usable
    rw [definitionAt_usable usable]
    cases chosen : Occurrence.pick (workspace.index.occurrences (Path.normalize path)) position with
    | none => exact ⟨_, rfl, settles_nameless ((pick_occurrences lists).1 chosen)⟩
    | some occurrence =>
      -- Something is picked, so a name stands there.
      have named : Index.NameAt history path position := by
        by_contra nameless
        rw [(pick_occurrences lists).2 nameless] at chosen
        cases chosen
      exact answerFor_settles reached clean steady named occurrence

def acrossFiles : List Index.Change :=
  let line (number : Nat) : Range :=
    ⟨⟨number, 1⟩, ⟨number, 2⟩, Position.le_def.2 (.inr ⟨rfl, (by decide : (1 : Int) ≤ 2)⟩)⟩
  let helper := Findings.ofList "py" "lib/h.py" [.definition "f" "func" (line 1) none]
  [.merge helper, .merge (Findings.ofList "py" "g.py" [.definition "f" "func" (line 1) none]),
    .merge (Findings.ofList "py" "use.py"
      [.binding "f" "lib.h.f" (line 1), .reference "f" (line 2) none]),
    .merge helper, .evict "g.py"]

def pythonAfter (history : List Index.Change) : Workspace :=
  ⟨[.ofGrammar .python], .standard, Index.run history⟩

theorem steady_pythonAfter (history : List Index.Change) :
    ∀ analyzer ∈ (pythonAfter history).analyzers, analyzer.Steady := by
  intro analyzer member
  rw [List.mem_singleton.1 member]
  exact Analyzer.steady_ofGrammar _

theorem clean_acrossFiles : Index.Clean acrossFiles := Index.clean_of_inits (by decide)

theorem definitionAt_settles_acrossFiles :
    Index.Clean acrossFiles ∧
      (∀ analyzer ∈ (pythonAfter acrossFiles).analyzers, analyzer.Steady) ∧
      ((∃ answer, (pythonAfter acrossFiles).definitionAt "./use.py" ⟨2, 1⟩ = .ok answer ∧
        (pythonAfter acrossFiles).Settles acrossFiles "./use.py" ⟨2, 1⟩ answer) ↔
          '\x00' ∉ "./use.py".toList) ∧
      ('\x00' ∈ "./use.py".toList → (pythonAfter acrossFiles).definitionAt "./use.py" ⟨2, 1⟩ =
        .error (.analysis .unusablePath)) :=
  ⟨clean_acrossFiles, steady_pythonAfter _,
    definitionAt_settles rfl clean_acrossFiles (steady_pythonAfter _) _ _⟩

/-- Without any findings no name stands anywhere, and yet that is not the answer. -/
theorem definitionAt_nul_unsettled :
    Index.Clean [] ∧ (∀ analyzer ∈ (pythonAfter []).analyzers, analyzer.Steady) ∧
      ¬ Index.NameAt [] "a\x00.py" ⟨1, 1⟩ ∧
      (pythonAfter []).definitionAt "a\x00.py" ⟨1, 1⟩ = .error (.analysis .unusablePath) ∧
      ¬ ∃ answer, (pythonAfter []).definitionAt "a\x00.py" ⟨1, 1⟩ = .ok answer ∧
        (pythonAfter []).Settles [] "a\x00.py" ⟨1, 1⟩ answer := by
  have refused : (pythonAfter []).definitionAt "a\x00.py" ⟨1, 1⟩ =
      .error (.analysis .unusablePath) := definitionAt_nul (by decide)
  refine ⟨Index.clean_of_inits (by decide), steady_pythonAfter _, ?_, refused, ?_⟩
  · rintro ⟨found, member, _⟩
    cases member
  · rintro ⟨answer, given, _⟩
    rw [refused] at given
    cases given

end Workspace
end CodeNav
