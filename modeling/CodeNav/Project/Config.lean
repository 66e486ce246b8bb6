import CodeNav.Project.Notice
import CodeNav.Text.Numeral

/-! How a project is indexed: by how many workers, through how long a queue, without which
directories, up to which size of file and for which languages. -/
namespace CodeNav

def defaultWorkers : Int := 4

def defaultSkip : List String :=
  [".git", ".hg", ".svn", "__pycache__", ".mypy_cache", ".pytest_cache", ".ruff_cache", ".tox",
    "venv", ".venv", "node_modules"]

structure Settings where
  workers : Int := defaultWorkers
  queueSize : Int := 512
  skip : List String := defaultSkip
  maxFileSize : Int := 1000000
  languages : Option (List String) := none
deriving DecidableEq, Repr

structure Config extends Settings where
  workers_pos : 1 ≤ workers
  queueSize_pos : 1 ≤ queueSize
deriving DecidableEq, Repr

inductive ConfigError where
  | noWorker (given : Int)
  | noQueue (given : Int)
deriving DecidableEq, Repr

def ConfigError.message : ConfigError → String
  | .noWorker given => s!"workers must be >= 1, got {given}"
  | .noQueue given => s!"queue_size must be >= 1, got {given}"

def Settings.check (settings : Settings) : Except ConfigError Config :=
  if workers : 1 ≤ settings.workers then
    if queue : 1 ≤ settings.queueSize then .ok ⟨settings, workers, queue⟩
    else .error (.noQueue settings.queueSize)
  else .error (.noWorker settings.workers)

/-- The number of workers that a setting of the environment asks for. A setting that is no
number from one on is reported and ignored. -/
def workersFrom (setting : Option String) : Int × List Notice :=
  match setting with
  | none => (defaultWorkers, [])
  | some "" => (defaultWorkers, [])
  | some text =>
    match Text.integer? text with
    | some workers =>
      if 1 ≤ workers then (workers, []) else (defaultWorkers, [.workersIgnored text])
    | none => (defaultWorkers, [.workersIgnored text])

namespace Config

instance : Inhabited Config := ⟨⟨{}, by decide, by decide⟩⟩

def standard : Config := default

def covers (config : Config) (lang : String) : Bool :=
  match config.languages with
  | none => true
  | some [] => true
  | some wanted => wanted.contains lang

end Config
end CodeNav
