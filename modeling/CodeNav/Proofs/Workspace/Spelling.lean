import CodeNav.Proofs.Index.Displaced
import CodeNav.Proofs.Project.ProcessingOrder

/-! How a path is spelled plays no part. Each function looks at the canonical spelling alone, so
two paths that have it in common give the same findings, the same answers and the same index. -/
namespace CodeNav

variable {path other : String}

theorem Identity.of_respelled (same : Path.normalize path = Path.normalize other)
    (lang name : String) (container : Option String) :
    of lang path name container = of lang other name container := by
  rw [of, of, same]

namespace Findings

theorem start_respelled (same : Path.normalize path = Path.normalize other) (lang : String) :
    start lang path = start lang other := by
  rw [start, start, same]

theorem ofList_respelled (same : Path.normalize path = Path.normalize other) (lang : String)
    (items : List Finding) : ofList lang path items = ofList lang other items := by
  rw [ofList, ofList, start_respelled same]

end Findings

theorem Grammar.findings_respelled (same : Path.normalize path = Path.normalize other)
    (grammar : Grammar) (source : Text.Utf8.Bytes) (tree : Option Syntax.Tree) :
    grammar.findings path source tree = grammar.findings other source tree := by
  have begun := Findings.start_respelled same grammar.tag
  cases tree with
  | none => rw [findings, findings, begun]
  | some tree => rw [findings, findings, Survey.findings, Survey.findings, begun]

namespace Analyzer

theorem read_ofGrammar_respelled (same : Path.normalize path = Path.normalize other)
    (grammar : Grammar) (document : Document) :
    (ofGrammar grammar).read path document = (ofGrammar grammar).read other document := by
  simp only [ofGrammar, Grammar.findings_respelled same]

theorem read_lines_respelled (same : Path.normalize path = Path.normalize other)
    (document : Document) : lines.read path document = lines.read other document := by
  simp only [lines, Lines.read, Lines.findings, Findings.start_respelled same]

end Analyzer

theorem examine_respelled (same : Path.normalize path = Path.normalize other) (files : FileSystem)
    (analyzers : List Analyzer) (config : Config) :
    examine files analyzers config path = examine files analyzers config other := by
  rw [← examine_normalize, same, examine_normalize]

namespace Index

theorem evict_respelled (same : Path.normalize path = Path.normalize other) (index : Index) :
    index.evict path = index.evict other := by
  rw [← evict_normalize, same, evict_normalize]

theorem merge_respelled (same : Path.normalize path = Path.normalize other) (index : Index)
    (found : Findings) :
    index.merge { found with file := path } = index.merge { found with file := other } := by
  simp only [merge, same]

theorem entry?_respelled (same : Path.normalize path = Path.normalize other) (index : Index) :
    index.entry? path = index.entry? other := by
  rw [Index.entry?, Index.entry?, same]

theorem imports_respelled (same : Path.normalize path = Path.normalize other) (index : Index) :
    index.imports path = index.imports other := by
  rw [imports, imports, entry?_respelled same]

theorem fileDefinitions_respelled (same : Path.normalize path = Path.normalize other)
    (index : Index) : index.fileDefinitions path = index.fileDefinitions other := by
  rw [fileDefinitions, fileDefinitions, entry?_respelled same]

theorem localDefinitions_respelled (same : Path.normalize path = Path.normalize other)
    (index : Index) (lang name : String) :
    index.localDefinitions lang path name = index.localDefinitions lang other name := by
  rw [localDefinitions, localDefinitions, fileDefinitions_respelled same]

theorem resolve_respelled (same : Path.normalize path = Path.normalize other) (index : Index)
    (lang : String) (occurrence : Occurrence) (importedName : Option (String → Option String)) :
    index.resolve lang path occurrence importedName =
      index.resolve lang other occurrence importedName := by
  simp only [resolve, importedCandidates, localDefinitions_respelled same,
    imports_respelled same]

end Index

namespace Workspace

theorem definitionAt_respelled (same : Path.normalize path = Path.normalize other)
    (workspace : Workspace) (position : Position) :
    workspace.definitionAt path position = workspace.definitionAt other position := by
  simp only [definitionAt, same]

/-- In a workspace, one path does what the other does wherever a path can be given: for noting
and merging findings, for the analysis and for changes of the index, and in each question. -/
structure Interchangeable (workspace : Workspace) (path other : String) : Prop where
  identity : ∀ lang name container,
    Identity.of lang path name container = Identity.of lang other name container
  noted : ∀ lang items, Findings.ofList lang path items = Findings.ofList lang other items
  merged : ∀ lang items, workspace.index.merge (.ofList lang path items) =
    workspace.index.merge (.ofList lang other items)
  readdressed : ∀ found : Findings, workspace.index.merge { found with file := path } =
    workspace.index.merge { found with file := other }
  extracted : ∀ (grammar : Grammar) source tree,
    grammar.findings path source tree = grammar.findings other source tree
  read : ∀ (analyzer : Analyzer) document,
    analyzer = .lines ∨ (∃ grammar, analyzer = .ofGrammar grammar) →
      analyzer.read path document = analyzer.read other document
  examined : ∀ files, workspace.examine files path = workspace.examine files other
  indexed : ∀ files, workspace.indexFile files path = workspace.indexFile files other
  known : workspace.index.knows path = workspace.index.knows other
  removed : workspace.removeFile path = workspace.removeFile other
  definitionAt : ∀ position,
    workspace.definitionAt path position = workspace.definitionAt other position
  fileDefinitions :
    workspace.index.fileDefinitions path = workspace.index.fileDefinitions other
  occurrences : workspace.index.occurrences path = workspace.index.occurrences other
  imports : workspace.index.imports path = workspace.index.imports other
  languageOf : workspace.index.languageOf path = workspace.index.languageOf other
  localDefinitions : ∀ lang name, workspace.index.localDefinitions lang path name =
    workspace.index.localDefinitions lang other name
  resolved : ∀ lang occurrence importedName,
    workspace.index.resolve lang path occurrence importedName =
      workspace.index.resolve lang other occurrence importedName

variable {workspace : Workspace}

theorem Interchangeable.normalize_eq (alike : workspace.Interchangeable path other) :
    Path.normalize path = Path.normalize other := by
  have here : (Findings.ofList "" path []).NotedFor path := ⟨"", [], rfl⟩
  have there : (Findings.ofList "" other []).NotedFor other := ⟨"", [], rfl⟩
  rw [← here.file, alike.noted, there.file]

/-- In every workspace, paths that are spelled alike canonically do the same. -/
theorem interchangeable_of_normalize_eq (workspace : Workspace)
    (same : Path.normalize path = Path.normalize other) :
    workspace.Interchangeable path other where
  identity := Identity.of_respelled same
  noted := Findings.ofList_respelled same
  merged lang items := by rw [Findings.ofList_respelled same]
  readdressed := Index.merge_respelled same workspace.index
  extracted := Grammar.findings_respelled same
  read := by
    rintro analyzer document (rfl | ⟨grammar, rfl⟩)
    · exact Analyzer.read_lines_respelled same document
    · exact Analyzer.read_ofGrammar_respelled same grammar document
  examined files := examine_respelled same files _ _
  indexed files := by rw [indexFile, indexFile, examine, examine, examine_respelled same]
  known := by rw [Index.knows, Index.knows, same]
  removed := by rw [removeFile, removeFile, Index.evict_respelled same]
  definitionAt := definitionAt_respelled same workspace
  fileDefinitions := Index.fileDefinitions_respelled same workspace.index
  occurrences := by rw [Index.occurrences, Index.occurrences, Index.entry?_respelled same]
  imports := Index.imports_respelled same workspace.index
  languageOf := by rw [Index.languageOf, Index.languageOf, Index.entry?_respelled same]
  localDefinitions := Index.localDefinitions_respelled same workspace.index
  resolved := Index.resolve_respelled same workspace.index

/-- The file is known. Its name ends as the analyzer asks in one of the spellings only. -/
theorem interchangeable_trailingSlash :
    Path.normalize "./b.toy/" = Path.normalize ".\\b.toy" ∧
      (mixedAfter seenBefore).index.knows "./b.toy/" = true ∧
      (mixedAfter seenBefore).Interchangeable "./b.toy/" ".\\b.toy" := by
  have same : Path.normalize "./b.toy/" = Path.normalize ".\\b.toy" := by decide
  have known : (mixedAfter seenBefore).index.knows "./b.toy/" = true := rfl
  exact ⟨same, known, interchangeable_of_normalize_eq _ same⟩

end Workspace
end CodeNav
