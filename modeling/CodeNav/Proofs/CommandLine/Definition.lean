import CodeNav.CommandLine.Respond
import CodeNav.Proofs.CommandLine.Arguments
import CodeNav.Proofs.Project.Isolation
import CodeNav.Proofs.Project.RealPath
import CodeNav.Proofs.RecordedUse
import CodeNav.Proofs.Workspace.Spelling

/-! The command that asks where a name is defined. It answers like a workspace that has indexed the
root, asked about the file by its real path. -/
namespace CodeNav

def Workspace.Finds (workspace : Workspace) (path : String) (position : Position)
    (definition : Definition) : Prop :=
  ∃ answer, workspace.definitionAt path position = .ok answer ∧ answer.get = .ok definition

theorem Workspace.finds_iff {workspace : Workspace} {path : String} {position : Position}
    {definition : Definition} : workspace.Finds path position definition ↔
      ((workspace.definitionAt path position).toOption.bind fun answer => answer.get.toOption) =
        some definition := by
  simp only [Finds, Option.bind_eq_some_iff, toOption_eq_some]

namespace CommandLine

/-- The response is what the workspace has to say on a position: it is a success just if there is a
definition, and then that is all it prints. -/
def Tells (response : Response) (workspace : Workspace) (path : String) (position : Position) :
    Prop :=
  (response.exitCode = 0 ↔ ∃ definition, workspace.Finds path position definition) ∧
    ∀ definition, workspace.Finds path position definition →
      response.output = [Text.plain (definitionLine definition)]

theorem ofPaths_configFor (files : FileSystem) (analyzers : List Analyzer) (workers : Int)
    (index : Index) (paths : List String) :
    Run.ofPaths files analyzers (configFor workers) index paths =
      Run.ofPaths files analyzers .standard index paths := by
  rw [configFor, Settings.check]
  split
  · next config checked =>
    split at checked
    · cases checked
      rfl
    · cases checked
  · rfl

theorem exists_create {toolchain : Toolchain} {engine : Workspace}
    (created : Workspace.create toolchain [] .standard = .ok engine) :
    ∃ usual, engine = ⟨usual, .standard, .empty⟩ ∧
      ∀ config, Workspace.create toolchain [] config = .ok ⟨usual, config, .empty⟩ := by
  change toolchain.analyzers.map _ = _ at created
  cases known : toolchain.analyzers with
  | error error =>
    rw [known] at created
    cases created
  | ok usual =>
    rw [known] at created
    cases created
    refine ⟨usual, rfl, fun config => ?_⟩
    change toolchain.analyzers.map _ = _
    rw [known]
    rfl

theorem withNotices_withNotices (response : Response) (first second : List Notice) :
    (response.withNotices second).withNotices first = response.withNotices (first ++ second) := by
  simp only [Response.withNotices, List.map_append, List.append_assoc]

theorem perform_definition {files : FileSystem} {workspace : Workspace} {file root : String}
    {line col : Int} {real_root real_file : String}
    (root_found : files.realPath root = .ok real_root)
    (file_found : files.realPath file = .ok real_file) :
    perform (definitionCommand file root line col) files workspace =
      afterIndexing workspace files [real_root] fun _ indexed =>
        respondDefinition (definitionCommand file root line col) indexed real_file ⟨line, col⟩ := by
  have roots : rootsFor files file [root] = .ok [real_root] := by
    change [root].mapM files.realPath = _
    rw [List.mapM_cons, root_found]
    rfl
  rw [perform, definitionCommand]
  dsimp only
  rw [roots, file_found]

theorem respondDefinition_config (command : Command) (analyzers : List Analyzer)
    (config other : Config) (index : Index) (path : String) (position : Position) :
    respondDefinition command ⟨analyzers, config, index⟩ path position =
      respondDefinition command ⟨analyzers, other, index⟩ path position := by
  have same : Workspace.definitionAt ⟨analyzers, config, index⟩ path position =
      Workspace.definitionAt ⟨analyzers, other, index⟩ path position := by
    rw [Workspace.definitionAt, Workspace.definitionAt]
    simp only [Workspace.answerFor]
  -- Not `rw`: the equation that unfolds this match takes long to derive.
  delta respondDefinition
  rw [same]

/-- How many workers there are changes nothing in the answer. -/
theorem respondCommand_definition {toolchain : Toolchain} {files : FileSystem}
    {engine : Workspace} {file root : String} {line col : Int} {real_root real_file : String}
    (created : Workspace.create toolchain [] .standard = .ok engine)
    (root_found : files.realPath root = .ok real_root)
    (file_found : files.realPath file = .ok real_file) (setting : Option String) :
    ∃ notices, respondCommand toolchain files setting (definitionCommand file root line col) =
      (respondDefinition (definitionCommand file root line col)
        (engine.indexPaths files [real_root]) real_file ⟨line, col⟩).withNotices notices := by
  obtain ⟨usual, rfl, created_with⟩ := exists_create created
  have told : respondCommand toolchain files setting (definitionCommand file root line col) =
      (perform (definitionCommand file root line col) files
        ⟨usual, configFor (workersFrom setting).1, .empty⟩).withNotices
          (workersFrom setting).2 := by
    rw [respondCommand]
    dsimp only [definitionCommand]
    rw [created_with]
  rw [told, perform_definition root_found file_found, afterIndexing, Workspace.run,
    ofPaths_configFor, withNotices_withNotices]
  exact ⟨_, congrArg _ (respondDefinition_config _ usual _ _ _ _ _)⟩

theorem tells_respondDefinition {command : Command} (text : command.json = false)
    (workspace : Workspace) (path : String) (position : Position) (notices : List Notice) :
    Tells ((respondDefinition command workspace path position).withNotices notices) workspace path
      position := by
  delta respondDefinition
  cases asked : workspace.definitionAt path position with
  | error error =>
    have nothing (definition : Definition) : ¬ workspace.Finds path position definition := by
      rintro ⟨answer, given, -⟩
      cases asked.symm.trans given
    exact ⟨iff_of_false nofun fun ⟨definition, found⟩ => nothing definition found,
      fun definition found => absurd found (nothing definition)⟩
  | ok answer =>
    have finds (definition : Definition) :
        workspace.Finds path position definition ↔ answer.get = .ok definition := by
      constructor
      · rintro ⟨_, given, got⟩
        cases asked.symm.trans given
        exact got
      · exact fun got => ⟨answer, asked, got⟩
    simp only [Tells, finds, respondAnswer]
    cases answer.get with
    | ok definition =>
      refine ⟨iff_of_true rfl ⟨definition, rfl⟩, ?_⟩
      rintro _ ⟨⟩
      simp only [shown, text, Bool.false_eq_true, if_false]
      rfl
    | error complaint =>
      rw [text]
      exact ⟨iff_of_false nofun nofun, nofun⟩

/-- What matters of a place is the canonical spelling of its file. -/
theorem Tells.respelled {response : Response} {workspace : Workspace} {path other : String}
    {position : Position} (tells : Tells response workspace path position)
    (same : Path.normalize path = Path.normalize other) :
    Tells response workspace other position := by
  rw [Tells] at tells ⊢
  simp only [Workspace.Finds] at tells ⊢
  rwa [← Workspace.definitionAt_respelled same]

open Discovery (textAt fileAt Reaches)
open FileSystem (nameText)

section Asked

variable {toolchain : Toolchain} {files : FileSystem} {engine : Workspace}
  {root lineText colText : String} {names place : List String} {entries : List Entry}
  {document : Document} {line col : Int}

/-- Below a root that may not be listed nothing is discovered. -/
theorem files_unlisted (named : files.WellNamed)
    (root_found : files.locate root = .ok (.directory names entries))
    (unlisted : names ∈ files.unlisted) (skip : List String) :
    (Discovery.ofPaths files skip [nameText names]).files = [] := by
  have held := FileSystem.holds_of_locate root_found
  have spelled := FileSystem.ofString_nameText (held.isName named)
  rw [Located.names] at spelled
  cases located : files.locate (nameText names) with
  | error error =>
    simp only [Discovery.ofPaths, Discovery.visit, spelled, Discovery.walk, located]
    cases error.meansAbsent <;> rfl
  | ok there =>
    cases FileSystem.locate_nameText held named located
    have shut : files.opens (nameText names) = false := by
      rw [FileSystem.opens, located]
      simpa using unlisted
    simp only [Discovery.ofPaths, Discovery.visit, spelled, Discovery.walk, located, shut]
    rfl

theorem not_finds_empty {analyzers : List Analyzer} {config : Config} (path : String)
    (position : Position) (definition : Definition) :
    ¬ (Workspace.mk analyzers config .empty).Finds path position definition := by
  have nothing (file : String) : Index.empty.occurrences file = [] := rfl
  rintro ⟨answer, given, got⟩
  rw [Workspace.definitionAt] at given
  dsimp only at given
  split at given
  · cases given
  · rw [nothing] at given
    cases given
    cases got

theorem tells_respond {file : String} (named : files.WellNamed)
    (created : Workspace.create toolchain [] .standard = .ok engine)
    (root_found : files.locate root = .ok (.directory names entries))
    (file_found : files.locate file = .ok (.file place document))
    (plain : isOption file = false) (line_read : positive lineText = .ok line)
    (col_read : positive colText = .ok col) (setting : Option String) :
    Tells (respond toolchain files setting (asking file lineText colText root))
      (engine.indexPaths files [nameText names]) (nameText place) ⟨line, col⟩ := by
  rw [respond, request_definition plain file_found line_read col_read,
    existing_directory root_found]
  by_cases unlisted : names ∈ files.unlisted
  · obtain ⟨usual, rfl, -⟩ := exists_create created
    have empty : Workspace.indexPaths ⟨usual, .standard, .empty⟩ files [nameText names] =
        ⟨usual, .standard, .empty⟩ := by
      have filled := Workspace.index_indexPaths ⟨usual, .standard, .empty⟩ files [nameText names]
      rw [files_unlisted named root_found unlisted] at filled
      exact congrArg (Workspace.mk usual .standard) filled
    rw [empty, if_pos unlisted]
    exact ⟨iff_of_false nofun fun ⟨definition, found⟩ => not_finds_empty _ _ definition found,
      fun definition found => absurd found (not_finds_empty _ _ definition)⟩
  · obtain ⟨notices, answered⟩ := respondCommand_definition created
      (FileSystem.realPath_of_locate root_found) (FileSystem.realPath_of_locate file_found) setting
    rw [if_neg unlisted, Except.map]
    dsimp only
    rw [answered]
    exact tells_respondDefinition rfl _ _ _ notices

/-- Asked about a file that a walk below a root reaches, the command answers like a workspace that
has indexed where the root really is, asked about where the file really is. This is the file that
discovery below the real root yields, just if the file is no link itself; then the command finds
what was indexed. A file that looks like an option is not understood. -/
theorem respond_asking {enters : String → String → Prop} {start : String} {trail : List String}
    (created : Workspace.create toolchain [] .standard = .ok engine)
    (distinct : files.Distinct) (named : files.WellNamed)
    (root_found : files.locate root = .ok (.directory names entries))
    (walked : Reaches files enters start entries trail)
    (file_found : files.locate (textAt root trail) = .ok (.file place document))
    (line_read : positive lineText = .ok line) (col_read : positive colText = .ok col)
    (setting : Option String) :
    let file := textAt root trail
    let response := respond toolchain files setting (asking file lineText colText root)
    let indexed := engine.indexPaths files [nameText names]
    (isOption file = true → response.exitCode = 2) ∧
    (isOption file = false → Tells response indexed (nameText place) ⟨line, col⟩) ∧
    (files.realPath file = .ok (textAt (nameText names) trail) ↔
      ¬ files.IsLink (names ++ trail)) ∧
    (isOption file = false → ¬ files.IsLink (names ++ trail) →
      Tells response indexed (fileAt (nameText names) trail) ⟨line, col⟩) := by
  intro file response indexed
  have told (plain : isOption file = false) :
      Tells response indexed (nameText place) ⟨line, col⟩ :=
    tells_respond named created root_found file_found plain line_read col_read setting
  have spelled := FileSystem.realPath_textAt distinct named root_found walked file_found
  refine ⟨?_, told, spelled, ?_⟩
  · intro option
    obtain ⟨error, misread⟩ := request_of_isOption files option
      (FileSystem.slash_mem_textAt walked.ne_nil)
      (not_isOption_of_positive line_read) (not_isOption_of_positive col_read) root
    change (respond toolchain files setting (asking file lineText colText root)).exitCode = 2
    rw [respond, misread]
    rfl
  · intro plain no_link
    have same := Except.ok.inj
      ((FileSystem.realPath_of_locate file_found).symm.trans (spelled.2 no_link))
    refine (told plain).respelled ?_
    rw [fileAt, Path.normalize_normalize, ← same]
    rfl

end Asked

def assignedTree : Syntax.Tree := ⟨[
  ⟨0, "module", none, 0, 6⟩,
  ⟨1, "expression_statement", none, 0, 5⟩,
  ⟨2, "assignment", none, 0, 5⟩,
  ⟨3, "identifier", some "left", 0, 1⟩,
  ⟨3, "integer", some "right", 4, 5⟩]⟩

def assigned : Document where
  bytes := "x = 1\n".toList.map fun c => c.toNat.toUInt8
  tree := some assignedTree

def outEntries : List Entry := [.file "m.py" assigned]

def linkEntries : List Entry := [.link "l.py" "../out/m.py"]

def linkedFiles : FileSystem where
  top := [.directory "p" [.directory "out" outEntries, .directory "r" linkEntries,
    .link "s" "out"]]
  current := ["p"]

theorem locate_linkedFiles :
    linkedFiles.locate "s" = .ok (.directory ["p", "out"] outEntries) ∧
      linkedFiles.locate "/p/out" = .ok (.directory ["p", "out"] outEntries) ∧
      linkedFiles.locate "r" = .ok (.directory ["p", "r"] linkEntries) ∧
      linkedFiles.locate "/p/r" = .ok (.directory ["p", "r"] linkEntries) ∧
      ∀ path ∈ ["s/m.py", "/p/out/m.py", "r/l.py", "/p/r/l.py"],
        linkedFiles.locate path = .ok (.file ["p", "out", "m.py"] assigned) := by
  simp only [List.forall_mem_cons, List.not_mem_nil, IsEmpty.forall_iff, implies_true, and_true]
  with_unfolding_all exact ⟨rfl, rfl, rfl, rfl, rfl, rfl, rfl, rfl⟩

def assignedAt (path : String) : Findings :=
  .ofList "py" path [.definition "x" "var" ⟨⟨1, 1⟩, ⟨1, 2⟩, by decide⟩ none]

def linkedPaths : List String := ["/p/out/m.py", "/p/r/l.py"]

theorem findings_assigned : ∀ path ∈ linkedPaths,
    Grammar.python.findings path assigned.bytes (some assignedTree) = .ok (assignedAt path) := by
  have computed : ∀ path ∈ linkedPaths,
      (Grammar.python.evaluated path assigned.bytes assignedTree).toOption =
        some (assignedAt path) := by
    decide
  intro path member
  exact Grammar.findings_of_evaluated (computed path member)

def usual : List Analyzer := [.ofGrammar .go, .ofGrammar .typescript, .ofGrammar .python]

theorem create_standard :
    Workspace.create .standard [] .standard = .ok ⟨usual, .standard, .empty⟩ := by
  with_unfolding_all rfl

theorem pick_usual : ∀ path ∈ linkedPaths,
    Analyzer.pick usual path = .ok (some (.ofGrammar .python)) := by
  with_unfolding_all exact List.forall_mem_cons.2 ⟨rfl, List.forall_mem_singleton.2 rfl⟩

theorem normalize_linkedPaths : ∀ path ∈ linkedPaths, Path.normalize path = path :=
  List.forall_mem_cons.2 ⟨rfl, List.forall_mem_singleton.2 rfl⟩

theorem examine_linkedFiles {path : String} (member : path ∈ linkedPaths) :
    examine linkedFiles usual .standard path = .indexed (assignedAt path) := by
  have spelled := normalize_linkedPaths path member
  have among : path ∈ ["s/m.py", "/p/out/m.py", "r/l.py", "/p/r/l.py"] := by
    revert path
    decide
  have located := locate_linkedFiles.2.2.2.2 path among
  have found := findings_assigned path member
  have tree : assigned.tree = some assignedTree := rfl
  refine yields_iff.1 ⟨.ofGrammar .python, 6, assigned, ?_, rfl, ?_, by decide, ?_, ?_⟩
  · rw [spelled]
    exact pick_usual path member
  · rw [spelled, FileSystem.sizeAt, located]
    rfl
  · rw [spelled, FileSystem.read, located]
  · simp only [spelled, Analyzer.ofGrammar, tree, found]

def linkedWorkspace (path : String) : Workspace :=
  ⟨usual, .standard, Index.empty.merge (assignedAt path)⟩

theorem indexPaths_linkedFiles {root path : String} (member : path ∈ linkedPaths)
    (discovered : (Discovery.ofPaths linkedFiles Config.standard.skip [root]).files = [path]) :
    Workspace.indexPaths ⟨usual, .standard, .empty⟩ linkedFiles [root] = linkedWorkspace path := by
  have filled := Workspace.index_indexPaths ⟨usual, .standard, .empty⟩ linkedFiles [root]
  have found : foundIn linkedFiles usual .standard [path] = [assignedAt path] := by
    rw [foundIn, List.filterMap_cons, examine_linkedFiles member]
    rfl
  rw [discovered, found] at filled
  exact congrArg (Workspace.mk usual .standard) filled

def assignedName (path : String) : Definition :=
  ⟨"py", path, ⟨⟨1, 1⟩, ⟨1, 2⟩, by decide⟩, "x", "var"⟩

theorem finds_linkedWorkspace {path : String} (member : path ∈ linkedPaths) :
    (linkedWorkspace path).Finds path ⟨1, 1⟩ (assignedName path) := by
  have answers : ∀ path ∈ linkedPaths,
      (((linkedWorkspace path).definitionAt path ⟨1, 1⟩).toOption.bind
        fun answer => answer.get.toOption) = some (assignedName path) := by
    decide +kernel
  exact Workspace.finds_iff.2 (answers path member)

theorem not_finds_linkedWorkspace (definition : Definition) :
    ¬ (linkedWorkspace "/p/r/l.py").Finds "/p/out/m.py" ⟨1, 1⟩ definition := by
  have answer : (((linkedWorkspace "/p/r/l.py").definitionAt "/p/out/m.py" ⟨1, 1⟩).toOption.bind
      fun answer => answer.get.toOption) = none := by
    rfl
  rw [Workspace.finds_iff, answer]
  exact (Option.some_ne_none definition).symm

theorem distinct_linkedFiles : linkedFiles.Distinct := by
  have made : linkedFiles = (((FileSystem.emptyProject "p").write "out/m.py" assigned).addLink
      "r/l.py" "../out/m.py").addLink "s" "out" := by
    with_unfolding_all rfl
  rw [made]
  exact (((FileSystem.Built.empty "p").write _ _).addLink _ _ |>.addLink _ _).distinct

theorem wellNamed_linkedFiles : linkedFiles.WellNamed := by
  have out : Entry.WellNamed outEntries := .mk (by decide) fun _ _ member => by
    cases List.mem_singleton.1 member
  have linked : Entry.WellNamed linkEntries := .mk (by decide) fun _ _ member => by
    cases List.mem_singleton.1 member
  refine .mk (by decide) fun name inner member => ?_
  cases List.mem_singleton.1 member
  refine .mk (by decide) fun name inner member => ?_
  simp only [List.mem_cons, Entry.directory.injEq, reduceCtorEq, List.not_mem_nil,
    or_false] at member
  obtain ⟨-, rfl⟩ | ⟨-, rfl⟩ := member
  · exact out
  · exact linked

theorem files_singleton {files : FileSystem} {directory : String} {names : List String}
    {entry : Entry} (plain : (Path.ofString directory).toString = directory)
    (located : files.locate directory = .ok (.directory names [entry]))
    (opens : files.opens directory = true)
    (leaf : Discovery.isFile files directory entry = true) (skip : List String) :
    (Discovery.ofPaths files skip [directory]).files =
      [Path.normalize (Path.append directory entry.name)] := by
  have nothing (room : Option Nat) :
      Discovery.belowEntry files skip room directory entry = [] := by
    cases entry with
    | file => rfl
    | link name target =>
      rw [Discovery.isFile, Bool.not_eq_true'] at leaf
      simp [Discovery.belowEntry, leaf]
    | directory => cases leaf
  have below (room : Option Nat) : Discovery.below files skip room directory [entry] =
      [some (Path.normalize (Path.append directory entry.name))] := by
    rw [Discovery.below_eq, Discovery.byName, List.mergeSort_singleton, List.flatMap_singleton,
      nothing, List.append_nil, Discovery.ownFiles, List.filter_cons_of_pos leaf, List.filter_nil,
      List.map_singleton, List.mergeSort_singleton, List.map_singleton, List.map_singleton]
  simp only [Discovery.ofPaths, Discovery.visit, plain, Discovery.walk, located, opens, below,
    if_true]
  rfl

theorem indexPaths_linkedFiles_out :
    Workspace.indexPaths ⟨usual, .standard, .empty⟩ linkedFiles ["/p/out"] =
      linkedWorkspace "/p/out/m.py" := by
  obtain ⟨-, located, -⟩ := locate_linkedFiles
  refine indexPaths_linkedFiles (by decide) ?_
  have opens : linkedFiles.opens "/p/out" = true := by
    rw [FileSystem.opens, located]
    rfl
  rw [files_singleton rfl located opens rfl]
  rfl

theorem files_linkedFiles_r :
    (Discovery.ofPaths linkedFiles Config.standard.skip ["/p/r"]).files = ["/p/r/l.py"] := by
  obtain ⟨-, -, -, located, file⟩ := locate_linkedFiles
  have leaf : Discovery.isFile linkedFiles "/p/r" (.link "l.py" "../out/m.py") = true := by
    have text : Path.append "/p/r" "l.py" = "/p/r/l.py" := rfl
    rw [Discovery.isFile, text, FileSystem.isDirectory, file _ (by decide)]
    rfl
  have opens : linkedFiles.opens "/p/r" = true := by
    rw [FileSystem.opens, located]
    rfl
  rw [files_singleton rfl located opens leaf]
  rfl

theorem positive_one : positive "1" = .ok 1 := by
  rfl

theorem respond_asking_linkedFiles :
    linkedFiles.Distinct ∧ linkedFiles.WellNamed ∧ ¬ linkedFiles.IsLink ["p", "out", "m.py"] ∧
      (respond .standard linkedFiles none (asking "s/m.py" "1" "1" "s")).exitCode = 0 ∧
      (respond .standard linkedFiles none (asking "s/m.py" "1" "1" "s")).output =
        ["x  var  /p/out/m.py:1:1"] := by
  obtain ⟨root_found, -, -, -, file⟩ := locate_linkedFiles
  have text : textAt "s" ["m.py"] = "s/m.py" := rfl
  have walked : Reaches linkedFiles (Discovery.Entered linkedFiles Config.standard.skip) "s"
      outEntries ["m.py"] := .own (List.mem_singleton_self _) .file
  have no_link : ¬ linkedFiles.IsLink ["p", "out", "m.py"] :=
    (FileSystem.HoldsFile.of_holds (FileSystem.holds_of_locate
      (file "s/m.py" (by decide)))).not_isLink
  have answered := respond_asking create_standard distinct_linkedFiles wellNamed_linkedFiles
    root_found walked (text ▸ file "s/m.py" (by decide)) positive_one positive_one none
  have indexed : nameText ["p", "out"] = "/p/out" := rfl
  have discovered : fileAt "/p/out" ["m.py"] = "/p/out/m.py" := rfl
  rw [text, indexed, discovered, indexPaths_linkedFiles_out] at answered
  have tells := answered.2.2.2 (not_isOption_of_head? (by decide)) no_link
  have finds : (linkedWorkspace "/p/out/m.py").Finds "/p/out/m.py" ⟨1, 1⟩ _ :=
    finds_linkedWorkspace (by decide)
  refine ⟨distinct_linkedFiles, wellNamed_linkedFiles, no_link, tells.1.2 ⟨_, finds⟩, ?_⟩
  rw [tells.2 _ finds]
  with_unfolding_all rfl

/-- The file is discovered and indexed under the path of a link that leads to it. There the name has
a definition, and yet the command fails, because it asks about the file that the link leads to. -/
theorem respond_link_linkedFiles :
    linkedFiles.locate "r/l.py" = .ok (.file ["p", "out", "m.py"] assigned) ∧
      (Discovery.ofPaths linkedFiles Config.standard.skip ["/p/r"]).files = ["/p/r/l.py"] ∧
      examine linkedFiles usual .standard "/p/r/l.py" = .indexed (assignedAt "/p/r/l.py") ∧
      (Workspace.indexPaths ⟨usual, .standard, .empty⟩ linkedFiles ["/p/r"]).Finds "/p/r/l.py"
        ⟨1, 1⟩ (assignedName "/p/r/l.py") ∧
      (respond .standard linkedFiles none (asking "r/l.py" "1" "1" "r")).exitCode ≠ 0 ∧
      ¬ Tells (respond .standard linkedFiles none (asking "r/l.py" "1" "1" "r"))
        (Workspace.indexPaths ⟨usual, .standard, .empty⟩ linkedFiles ["/p/r"]) "/p/r/l.py"
        ⟨1, 1⟩ := by
  obtain ⟨-, -, root_found, -, file⟩ := locate_linkedFiles
  have file_found := file "r/l.py" (by decide)
  have discovered := files_linkedFiles_r
  have member : "/p/r/l.py" ∈ linkedPaths := by decide
  have indexed := indexPaths_linkedFiles member discovered
  have real_root : nameText ["p", "r"] = "/p/r" := rfl
  have real_file : nameText ["p", "out", "m.py"] = "/p/out/m.py" := rfl
  have told := tells_respond wellNamed_linkedFiles create_standard root_found file_found
    (not_isOption_of_head? (by decide)) positive_one positive_one none
  rw [real_root, real_file, indexed] at told
  have finds := finds_linkedWorkspace member
  have fails : (respond .standard linkedFiles none (asking "r/l.py" "1" "1" "r")).exitCode ≠ 0 := by
    intro success
    obtain ⟨definition, found⟩ := told.1.1 success
    exact not_finds_linkedWorkspace definition found
  rw [indexed]
  refine ⟨file_found, discovered, examine_linkedFiles member, finds, fails, ?_⟩
  intro tells
  exact fails (tells.1.2 ⟨_, finds⟩)

end CommandLine
end CodeNav
