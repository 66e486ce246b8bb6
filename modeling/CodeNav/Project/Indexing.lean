import CodeNav.Analyzer.Basic
import CodeNav.Index.Read
import CodeNav.Project.Config
import CodeNav.Project.Discovery

/-! Indexing: each discovered file is examined on its own, and what is found goes into the index.
What comes of one file depends on no other file and not on the index. -/
namespace CodeNav

inductive Outcome where
  | indexed (findings : Findings)
  | skipped
  | failed (notice : Notice)
  | aborted (failure : Failure)

namespace Outcome

def findings? : Outcome → Option Findings
  | .indexed findings => some findings
  | _ => none

def notices (file : String) : Outcome → List Notice
  | .failed notice => [notice]
  | .aborted failure => [.aborted file failure]
  | _ => []

def ofReading (file : String) : Reading → Outcome
  | .found findings => .indexed findings
  | .treeless => .failed (.treeless file)
  | .unparsed failure => .failed (.unparsed file failure)
  | .unreadable failure => .failed (.unextractable file failure)

end Outcome

def examineWith (analyzer : Analyzer) (files : FileSystem) (maxFileSize : Int) (file : String) :
    Outcome :=
  match files.sizeAt file with
  | .error .unusable => .aborted .unusablePath
  | .error error => .failed (.unreadable file error)
  | .ok size =>
    if maxFileSize < size then .skipped
    else match files.read file with
      | .error error => .failed (.unreadable file error)
      | .ok document => .ofReading file (analyzer.read file document)

/-- What comes of a file. Files that no analyzer takes care of are skipped, and so are files of
other languages than the configuration asks for, and files that are too large. -/
def examine (files : FileSystem) (analyzers : List Analyzer) (config : Config) (path : String) :
    Outcome :=
  let file := Path.normalize path
  match Analyzer.pick analyzers file with
  | .error failure => .aborted failure
  | .ok none => .skipped
  | .ok (some analyzer) =>
    if config.covers analyzer.lang then examineWith analyzer files config.maxFileSize file
    else .skipped

def Index.accept (index : Index) (outcome : Outcome) : Index :=
  match outcome.findings? with
  | some findings => index.merge findings
  | none => index

structure Counts where
  scanned : Nat
  indexed : Nat
  skipped : Nat
  errors : Nat
  definitions : Nat
  references : Nat
  occurrences : Nat
  languages : Table String Nat

namespace Counts

def start (scanned : Nat) : Counts := ⟨scanned, 0, 0, 0, 0, 0, 0, .empty⟩

def record (counts : Counts) : Outcome → Counts
  | .indexed findings => { counts with
      indexed := counts.indexed + 1
      definitions := counts.definitions + findings.definitions.size
      references := counts.references + findings.referenceCount
      occurrences := counts.occurrences + findings.occurrences.length
      languages := Index.tally counts.languages findings.lang }
  | .skipped => { counts with skipped := counts.skipped + 1 }
  | .failed _ => { counts with errors := counts.errors + 1 }
  | .aborted _ => { counts with errors := counts.errors + 1 }

end Counts

structure Run where
  index : Index
  counts : Counts
  notices : List Notice

namespace Run

def start (index : Index) (discovery : Discovery) : Run :=
  ⟨index, .start discovery.files.length, discovery.notices⟩

def record (run : Run) (file : String) (outcome : Outcome) : Run where
  index := run.index.accept outcome
  counts := run.counts.record outcome
  notices := run.notices ++ outcome.notices file

def through (files : FileSystem) (analyzers : List Analyzer) (config : Config) (run : Run)
    (found : List String) : Run :=
  found.foldl (fun run file => run.record file (examine files analyzers config file)) run

def ofPaths (files : FileSystem) (analyzers : List Analyzer) (config : Config) (index : Index)
    (paths : List String) : Run :=
  let discovery := Discovery.ofPaths files config.skip paths
  through files analyzers config (start index discovery) discovery.files

end Run
end CodeNav
