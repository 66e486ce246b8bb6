import CodeNav.Proofs.Index.Confinement
import CodeNav.Proofs.Workspace.DefinitionAt
import CodeNav.Proofs.Workspace.Filled

/-! A name in a file never leads to a symbol of another language. The analyzer that takes care of a
file when a question is asked is the one that examined it, and all that the index has under its
language came from files of that language. -/
namespace CodeNav

structure Answer.Within (answer : Answer) (lang : String) : Prop where
  candidates : ∀ candidates, answer.candidates = some candidates →
    ∀ identity ∈ candidates, Identity.OfLang lang identity
  definition : ∀ definition, answer.definition = some definition → definition.lang = lang

def Findings.MadeBy (found : Findings) (analyzers : List Analyzer) : Prop :=
  ∃ analyzer, Analyzer.pick analyzers (Path.normalize found.file) = .ok (some analyzer) ∧
    found.NotedIn analyzer.lang found.file

namespace Workspace

variable {analyzers : List Analyzer} {config : Config} {workspace : Workspace} {path : String}
  {position : Position}

theorem madeBy_of_examine {files : FileSystem}
    (labels : ∀ analyzer ∈ analyzers, analyzer.Labels) {found : Findings}
    (examined : CodeNav.examine files analyzers config path = .indexed found) :
    found.MadeBy analyzers := by
  have file := file_of_examine (fun analyzer member => (labels analyzer member).notes.addresses)
    examined
  obtain ⟨analyzer, document, picked, reading⟩ := exists_reading_of_examine examined
  have noted := labels analyzer (Analyzer.mem_of_pick picked) _ document found reading
  refine ⟨analyzer, ?_, file ▸ noted⟩
  rw [file, Path.normalize_normalize]
  exact picked

theorem tagged_of_madeBy {history : List Index.Change}
    (tags : ∀ analyzer ∈ analyzers, analyzer.lang ≠ "" ∧ ':' ∉ analyzer.lang.toList)
    (made : ∀ found, Index.Change.merge found ∈ history → found.MadeBy analyzers) :
    Index.Tagged history := by
  have tag (found : Findings) (member : Index.Change.merge found ∈ history) :
      found.lang ≠ "" ∧ ':' ∉ found.lang.toList := by
    obtain ⟨analyzer, picked, noted⟩ := made found member
    rw [noted.lang_eq]
    exact tags analyzer (Analyzer.mem_of_pick picked)
  refine ⟨?_, fun found member => (tag found member).2, fun found member => (tag found member).1⟩
  intro found member
  obtain ⟨analyzer, _, noted⟩ := made found member
  exact noted.notedFor.recorded

theorem answerFor_eq_ok {file : String} {occurrence : Occurrence} {analyzer : Analyzer}
    {answer : Answer} (picked : Analyzer.pick workspace.analyzers file = .ok (some analyzer))
    (given : workspace.answerFor file occurrence = .ok answer) :
    ∃ candidates, workspace.index.resolve analyzer.lang file occurrence analyzer.importedName =
      .ok candidates ∧ answer = answerFrom workspace.index occurrence candidates := by
  rw [answerFor, picked] at given
  change ((workspace.index.resolve analyzer.lang file occurrence
    analyzer.importedName).mapError QueryError.dangling >>= _) = _ at given
  cases resolved : workspace.index.resolve analyzer.lang file occurrence analyzer.importedName with
  | error error =>
    rw [resolved] at given
    cases given
  | ok candidates =>
    rw [resolved] at given
    cases given
    exact ⟨candidates, rfl, rfl⟩

theorem within_answerFrom {index : Index} {lang : String} {candidates : List Identity}
    (occurrence : Occurrence) (ofLang : ∀ identity ∈ candidates, Identity.OfLang lang identity)
    (stored : ∀ identity definition, index.definition identity = some definition →
      Identity.OfLang definition.lang identity) :
    (answerFrom index occurrence candidates).Within lang := by
  rw [answerFrom]
  split
  · next definition chosen =>
    obtain ⟨identity, member, here⟩ := List.exists_of_findSome?_eq_some chosen
    constructor
    · rintro others ⟨⟩
      exact ofLang
    · rintro other ⟨⟩
      exact (stored identity definition here).unique (ofLang identity member)
  · constructor
    · rintro others ⟨⟩
      exact ofLang
    · rintro other ⟨⟩

theorem message_answerFrom (index : Index) (occurrence : Occurrence)
    (candidates : List Identity) :
    (answerFrom index occurrence candidates).miss.map Miss.message ≠
      some "no adapter for file" := by
  rw [answerFrom]
  split <;> simp [Miss.message]

theorem exists_latest_of_pick {history : List Index.Change} {occurrence : Occurrence}
    (chosen : Occurrence.pick ((Index.run history).occurrences (Path.normalize path)) position =
      some occurrence) :
    ∃ found ∈ Index.live history, Path.normalize found.file = Path.normalize path ∧
      occurrence ∈ found.occurrences := by
  have member := Occurrence.mem_of_pick chosen
  cases known : (Index.run history).files.get? (Path.normalize path) with
  | none =>
    rw [Index.occurrences, Index.entry?, Path.normalize_normalize, known] at member
    cases member
  | some entry =>
    rw [occurrences_of_entry known] at member
    obtain ⟨found, latest, file, rfl⟩ := (Index.lists_run history).mem_of_entry known
    exact ⟨found, latest, file, member⟩

/-- However a workspace was used, an answer about a file never says that no analyzer takes care of
it; its candidates and its definition are of the language of the analyzer that does. -/
theorem definitionAt_confined (filled : Filled analyzers config workspace)
    (tags : ∀ analyzer ∈ analyzers, analyzer.lang ≠ "" ∧ ':' ∉ analyzer.lang.toList)
    (labels : ∀ analyzer ∈ analyzers, analyzer.Labels) {answer : Answer}
    (given : workspace.definitionAt path position = .ok answer) :
    answer.miss.map Miss.message ≠ some "no adapter for file" ∧
      (answer.Declines "no identifier at position" ∧ answer.definition = none ∨
        ∃ analyzer, Analyzer.pick analyzers (Path.normalize path) = .ok (some analyzer) ∧
          answer.Within analyzer.lang) := by
  obtain ⟨rfl, rfl, history, reached, examined⟩ := filled.exists_history
  have made (found : Findings) (member : Index.Change.merge found ∈ history) :
      found.MadeBy workspace.analyzers := by
    obtain ⟨files, other, examined⟩ := examined found member
    exact madeBy_of_examine labels examined
  have tagged := tagged_of_madeBy tags made
  have usable : '\x00' ∉ path.toList := by
    intro nul
    rw [definitionAt_nul nul] at given
    cases given
  rw [definitionAt_usable usable, reached] at given
  cases chosen : Occurrence.pick ((Index.run history).occurrences (Path.normalize path)) position
      with
  | none =>
    rw [chosen] at given
    cases given
    exact ⟨by decide, .inl ⟨⟨rfl, rfl⟩, rfl⟩⟩
  | some occurrence =>
    rw [chosen] at given
    obtain ⟨found, latest, file, occurs⟩ := exists_latest_of_pick chosen
    have merged : Index.Change.merge found ∈ history :=
      Index.of_mem_live (fun _ here => here) found latest
    obtain ⟨analyzer, picked, noted⟩ := made found merged
    rw [file] at picked
    obtain ⟨candidates, resolved, rfl⟩ := answerFor_eq_ok picked given
    rw [reached, ← noted.lang_eq] at resolved
    have own_file : Path.normalize (Path.normalize path) = Path.normalize found.file := by
      rw [Path.normalize_normalize, file]
    refine ⟨message_answerFrom _ occurrence candidates, .inr ⟨analyzer, picked, ?_⟩⟩
    rw [reached, ← noted.lang_eq]
    exact within_answerFrom occurrence
      (fun _ member => tagged.ofLang_of_resolve latest own_file occurs resolved member)
      fun _ _ stored => tagged.ofLang_of_definition stored

/-- Two files with functions of one identity: in one the function has a qualified name, in the
other the path of the file holds the rest of it. -/
def oneIdentity : FileSystem where
  top := [.file "a.toy" ⟨Text.Utf8.encode "def x.toy::f\n", none⟩,
    .file "a.toy::x.toy" ⟨Text.Utf8.encode "def f\nf\n", none⟩]
  current := []

def replaced : Workspace :=
  ((mixedAfter []).indexFile oneIdentity "./a.toy::x.toy").indexPaths oneIdentity ["a.toy"]

def replacedAnswer : Answer where
  definition := some ⟨"toy", "a.toy", ⟨⟨1, 5⟩, ⟨1, 12⟩, by decide⟩, "x.toy::f", "func"⟩
  candidates := some ["toy::a.toy::x.toy::f"]
  miss := none
  occurrence := some ⟨"f", .reference, .single ⟨2, 1⟩, none⟩

theorem filled_replaced : Filled mixedAnalyzers .standard replaced :=
  .step (.step .start (.indexFile _ _ _)) (.indexPaths_run _ _ _)

theorem tags_mixed :
    ∀ analyzer ∈ mixedAnalyzers, analyzer.lang ≠ "" ∧ ':' ∉ analyzer.lang.toList := by
  intro analyzer member
  simp only [mixedAnalyzers, List.mem_cons, List.not_mem_nil, or_false] at member
  rcases member with rfl | rfl | rfl <;> decide

def qualifiedPathFindings : Findings :=
  .ofList "toy" "a.toy::x.toy" [.definition "f" "func" (.single ⟨1, 3⟩) none,
    .reference "f" (.single ⟨2, 1⟩) (some "toy::a.toy::x.toy::f")]

def qualifiedNameFindings : Findings :=
  .ofList "toy" "a.toy" [.definition "x.toy::f" "func" ⟨⟨1, 5⟩, ⟨1, 12⟩, by decide⟩ none]

theorem index_replaced : replaced.index =
    Index.run [.merge qualifiedPathFindings, .merge qualifiedNameFindings] := by
  have first : foundIn oneIdentity mixedAnalyzers .standard ["./a.toy::x.toy"] =
      [qualifiedPathFindings] := by
    with_unfolding_all rfl
  have second : foundIn oneIdentity mixedAnalyzers .standard
      (Discovery.ofPaths oneIdentity Config.standard.skip ["a.toy"]).files =
        [qualifiedNameFindings] := by
    with_unfolding_all rfl
  have indexed : ((mixedAfter []).indexFile oneIdentity "./a.toy::x.toy").index =
      [qualifiedPathFindings].foldl Index.merge .empty := by
    rw [index_indexFile _ _ _ ⟨[], [], none⟩, runThrough, Run.index_through]
    exact congrArg (List.foldl Index.merge _) first
  rw [replaced, index_indexPaths, indexed]
  change (foundIn oneIdentity mixedAnalyzers .standard
    (Discovery.ofPaths oneIdentity Config.standard.skip ["a.toy"]).files).foldl Index.merge _ = _
  rw [second]
  rfl

theorem definitionAt_replaced :
    replaced.definitionAt "a.toy::x.toy" ⟨2, 1⟩ = .ok replacedAnswer := by
  have chosen : Occurrence.pick
      (replaced.index.occurrences (Path.normalize "a.toy::x.toy")) ⟨2, 1⟩ =
        some ⟨"f", .reference, .single ⟨2, 1⟩, none⟩ := by
    rw [index_replaced]
    rfl
  have owned : (replaced.index.definedBy (Path.normalize "a.toy::x.toy")).mapM
      replaced.index.ownedDefinition = .ok [("toy::a.toy::x.toy::f",
        ⟨"toy", "a.toy", ⟨⟨1, 5⟩, ⟨1, 12⟩, by decide⟩, "x.toy::f", "func"⟩)] := by
    rw [index_replaced]
    decide +kernel
  have named : (replaced.index.names.get? (Identity.lookupKey "toy" "f")).getD [] =
      ["toy::a.toy::x.toy::f"] := by
    rw [index_replaced]
    with_unfolding_all rfl
  have listed : replaced.index.localDefinitions "toy" (Path.normalize "a.toy::x.toy") "f" =
      .ok [] := by
    rw [Index.localDefinitions_eq, Index.fileDefinitions_eq, owned]
    simp [bind, Except.bind]
  have resolved : replaced.index.resolve "toy" (Path.normalize "a.toy::x.toy")
      ⟨"f", .reference, .single ⟨2, 1⟩, none⟩ none = .ok ["toy::a.toy::x.toy::f"] := by
    rw [Index.resolve_shared rfl listed]
    simp only [Index.shared, Index.lookup, named, sortTexts, List.mergeSort_singleton]
  have picked : Analyzer.pick replaced.analyzers (Path.normalize "a.toy::x.toy") =
      .ok (some .lines) := by
    change Analyzer.pick mixedAnalyzers _ = _
    have broken : (Path.normalize "a.toy::x.toy").endsWith ".broken" = false := by
      with_unfolding_all rfl
    have python : Grammar.python.handles (Path.normalize "a.toy::x.toy") = false := by
      with_unfolding_all rfl
    have toy : (Path.normalize "a.toy::x.toy").endsWith ".toy" = true := by with_unfolding_all rfl
    simp [mixedAnalyzers, Analyzer.pick, Analyzer.failing, Analyzer.ofGrammar, Analyzer.lines,
      broken, python, toy, bind, Except.bind, pure, Except.pure]
  rw [definitionAt_usable (by decide), chosen]
  refine (answerFor_resolved picked resolved).trans ?_
  rw [index_replaced]
  decide +kernel

theorem definitionAt_confined_replaced :
    Filled mixedAnalyzers .standard replaced ∧
      (∀ analyzer ∈ mixedAnalyzers, analyzer.lang ≠ "" ∧ ':' ∉ analyzer.lang.toList) ∧
      (∀ analyzer ∈ mixedAnalyzers, analyzer.Labels) ∧
      replaced.definitionAt "a.toy::x.toy" ⟨2, 1⟩ = .ok replacedAnswer ∧
      replacedAnswer.miss.map Miss.message ≠ some "no adapter for file" ∧
      (replacedAnswer.Declines "no identifier at position" ∧ replacedAnswer.definition = none ∨
        ∃ analyzer,
          Analyzer.pick mixedAnalyzers (Path.normalize "a.toy::x.toy") = .ok (some analyzer) ∧
            replacedAnswer.Within analyzer.lang) :=
  ⟨filled_replaced, tags_mixed, labels_mixed, definitionAt_replaced,
    definitionAt_confined filled_replaced tags_mixed labels_mixed definitionAt_replaced⟩

end Workspace
end CodeNav
