/-! How the work of a run is shared out. One thread discovers files and puts them into a queue of
limited length; workers take them from its front. When discovery has ended, however it ended, one
mark for each worker closes the queue. Each step is one action of one thread. -/
namespace CodeNav.Pipeline

inductive Item where
  | file (path : String)
  | close
deriving DecidableEq, Repr

inductive Finder where
  | finding (ahead : List String) (fails : Bool)
  | closing (marks : Nat)
deriving DecidableEq, Repr

inductive Worker where
  | waiting
  | busy (file : String)
  | done
deriving DecidableEq, Repr

structure State where
  finder : Finder
  queue : List Item
  workers : List Worker
  sent : List String
  taken : List (Nat × String)
  recorded : List String
  closed : List Nat
  reported : Bool
deriving DecidableEq, Repr

def start (workers : Nat) (files : List String) (fails : Bool) : State :=
  ⟨.finding files fails, [], List.replicate workers .waiting, [], [], [], [], false⟩

/-- One action, for a queue of a given capacity. Nobody puts into a full queue or takes from an
empty one. -/
inductive Step (capacity : Nat) : State → State → Prop where
  | send {state : State} {file : String} {ahead : List String} {fails : Bool}
      (finds : state.finder = .finding (file :: ahead) fails)
      (room : state.queue.length < capacity) :
      Step capacity state { state with
        finder := .finding ahead fails
        queue := state.queue ++ [.file file]
        sent := state.sent ++ [file] }
  | finish {state : State} {fails : Bool} (found : state.finder = .finding [] fails) :
      Step capacity state { state with
        finder := .closing state.workers.length
        reported := fails }
  | close {state : State} {marks : Nat} (closes : state.finder = .closing (marks + 1))
      (room : state.queue.length < capacity) :
      Step capacity state { state with
        finder := .closing marks
        queue := state.queue ++ [.close] }
  | take {state : State} {worker : Nat} {file : String} {queue : List Item}
      (waits : state.workers[worker]? = some .waiting)
      (front : state.queue = .file file :: queue) :
      Step capacity state { state with
        queue := queue
        workers := state.workers.set worker (.busy file)
        taken := state.taken ++ [(worker, file)] }
  | record {state : State} {worker : Nat} {file : String}
      (works : state.workers[worker]? = some (.busy file)) :
      Step capacity state { state with
        workers := state.workers.set worker .waiting
        recorded := state.recorded ++ [file] }
  | retire {state : State} {worker : Nat} {queue : List Item}
      (waits : state.workers[worker]? = some .waiting)
      (front : state.queue = .close :: queue) :
      Step capacity state { state with
        queue := queue
        workers := state.workers.set worker .done
        closed := state.closed ++ [worker] }

inductive Steps (capacity : Nat) : State → State → Prop where
  | none (state : State) : Steps capacity state state
  | more {a b c : State} (before : Steps capacity a b) (next : Step capacity b c) :
      Steps capacity a c

def State.Ended (state : State) : Prop :=
  state.finder = .closing 0 ∧ ∀ worker ∈ state.workers, worker = .done

def State.Stuck (capacity : Nat) (state : State) : Prop := ∀ next, ¬ Step capacity state next

end CodeNav.Pipeline
