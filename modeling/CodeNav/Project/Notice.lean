import CodeNav.Failure
import CodeNav.FileSystem.Basic

/-! What is reported while a project is indexed. Nothing that is reported stops the run. -/
namespace CodeNav

inductive Notice where
  | workersIgnored (setting : String)
  | pathMissing (path : String)
  | discoveryFailed (error : FileError) (path : String)
  | unreadable (file : String) (error : FileError)
  | unparsed (file : String) (failure : Failure)
  | treeless (file : String)
  | unextractable (file : String) (failure : Failure)
  | aborted (file : String) (failure : Failure)
deriving DecidableEq

namespace Notice

def level : Notice → String
  | .discoveryFailed _ _ => "ERROR"
  | _ => "WARNING"

def message : Notice → String
  | .workersIgnored setting => s!"Ignoring invalid SRCXREF_WORKERS={Text.quoted setting}"
  | .pathMissing path => s!"Path does not exist: {path}"
  | .discoveryFailed error path => s!"File discovery failed: {error.message path}"
  | .unreadable file error => s!"Cannot read {file}: {error.message file}"
  | .unparsed file failure => s!"Failed to parse {file}: {failure.message}"
  | .treeless file => s!"Failed to parse {file}: no tree"
  | .unextractable file failure => s!"Failed to extract symbols from {file}: {failure.message}"
  | .aborted file failure => s!"Error indexing {file}: {failure.message}"

def line (notice : Notice) : String := s!"{notice.level} srcxref.indexer: {notice.message}"

end Notice
end CodeNav
