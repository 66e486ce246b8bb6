import CodeNav.Project.Pipeline
import Mathlib.Data.List.Nodup
import Mathlib.Data.List.Perm.Subperm
import Mathlib.Order.WellFounded

/-! The work of a run is shared out without loss, in whatever order the threads act. Files pass
the queue in their order, every worker holds what it took until that is counted, and there are
always as many marks as workers that are still to take one. So somebody can act until all are
done, and each action leaves less to do. -/
namespace CodeNav.Pipeline

def Item.path? : Item → Option String
  | .file path => some path
  | .close => none

def Worker.held? : Worker → Option String
  | .busy file => some file
  | _ => none

namespace Finder

def ahead : Finder → List String
  | .finding ahead _ => ahead
  | .closing _ => []

def marks (all : Nat) : Finder → Nat
  | .finding _ _ => all
  | .closing marks => marks

def Announces (fails reported : Bool) : Finder → Prop
  | .finding _ ahead => ahead = fails ∧ reported = false
  | .closing _ => reported = fails

/-- The actions to come on what is not in the queue yet: three for each file and two for each
mark. -/
def work (all : Nat) : Finder → Nat
  | .finding ahead _ => 3 * ahead.length + 1 + 2 * all
  | .closing marks => 2 * marks

end Finder

namespace State

def queued (state : State) : List String := state.queue.filterMap Item.path?

def held (state : State) : List String := state.workers.filterMap Worker.held?

def takenFiles (state : State) : List String := state.taken.map Prod.snd

/-- The files on their way: found, then put, then taken. -/
structure Traffic (files : List String) (fails : Bool) (state : State) : Prop where
  found : state.sent ++ state.finder.ahead = files
  passed : state.takenFiles ++ state.queued = state.sent
  announced : state.finder.Announces fails state.reported

/-- The files with the workers: what was taken is held or counted. -/
structure Custody (workers : Nat) (state : State) : Prop where
  size : state.workers.length = workers
  takers : ∀ pair ∈ state.taken, pair.1 < workers
  counted : (state.recorded ++ state.held).Perm state.takenFiles

/-- The marks: put or still to be put, for each worker that is not done. Behind a mark there are
only marks. -/
structure Closing (workers : Nat) (state : State) : Prop where
  size : state.workers.length = workers
  marks : state.finder.marks workers + state.queue.count .close + state.closed.length = workers
  behind : state.queue.Pairwise fun first second => first = .close → second = .close
  last : state.closed ≠ [] → ∀ item ∈ state.queue, item = .close
  distinct : state.closed.Nodup
  closed : ∀ worker, worker ∈ state.closed ↔ state.workers[worker]? = some .done

/-- Everything that was found has been dealt with, once, and every worker has taken a mark. -/
structure Complete (workers : Nat) (files : List String) (fails : Bool) (state : State) : Prop where
  queue : state.queue = []
  closed : state.closed.Perm (List.range workers)
  sent : state.sent = files
  taken : state.takenFiles = state.sent
  takers : ∀ pair ∈ state.taken, pair.1 < workers
  recorded : state.recorded.Perm state.takenFiles
  reported : state.reported = fails

def work (state : State) : Nat :=
  state.finder.work state.workers.length + 2 * state.queued.length +
    state.queue.count .close + state.held.length

end State

open State

variable {capacity workers : Nat} {files : List String} {fails : Bool} {state next : State}

theorem filterMap_perm {α β : Type} (view : α → Option β) {items : List α} {place : Nat} {item : α}
    (stands : items[place]? = some item) :
    (items.filterMap view).Perm ((items.eraseIdx place).filterMap view ++ (view item).toList) := by
  obtain ⟨inside, rfl⟩ := List.getElem?_eq_some_iff.1 stands
  have first := (List.getElem_cons_eraseIdx_perm inside).symm.filterMap view
  have split_off : (items[place] :: items.eraseIdx place).filterMap view =
      (view items[place]).toList ++ (items.eraseIdx place).filterMap view := by
    cases seen : view items[place] <;> simp [seen]
  rw [split_off] at first
  exact first.trans List.perm_append_comm

theorem filterMap_set_perm {α β : Type} (view : α → Option β) {items : List α} {place : Nat}
    {old : α} (stands : items[place]? = some old) (new : α) :
    ((items.set place new).filterMap view ++ (view old).toList).Perm
      (items.filterMap view ++ (view new).toList) := by
  have inside : place < items.length := (List.getElem?_eq_some_iff.1 stands).1
  have before := filterMap_perm view stands
  have written : (items.set place new)[place]? = some new := by simp [inside]
  have after := filterMap_perm view written
  rw [List.eraseIdx_set_eq] at after
  have swapped : ((items.eraseIdx place).filterMap view ++ (view new).toList ++
      (view old).toList).Perm
        ((items.eraseIdx place).filterMap view ++ (view old).toList ++ (view new).toList) := by
    simp only [List.append_assoc]
    exact List.perm_append_comm.append_left _
  exact (after.append_right _).trans (swapped.trans (before.append_right _).symm)

theorem Step.traffic (step : Step capacity state next) (traffic : state.Traffic files fails) :
    next.Traffic files fails := by
  have found := traffic.found
  have passed := traffic.passed
  have announced := traffic.announced
  unfold takenFiles queued at passed
  cases step with
  | send finds room =>
    rw [finds] at found announced
    refine ⟨?_, ?_, announced⟩
    · simpa [Finder.ahead] using found
    · simp [takenFiles, queued, Item.path?, ← passed]
  | finish finds =>
    rw [finds] at found announced
    exact ⟨found, passed, announced.1⟩
  | close closes room =>
    rw [closes] at found announced
    refine ⟨found, ?_, announced⟩
    simpa [takenFiles, queued, List.filterMap_cons, Item.path?] using passed
  | take waits front =>
    rw [front] at passed
    refine ⟨found, ?_, announced⟩
    simpa [takenFiles, queued, List.filterMap_cons, Item.path?] using passed
  | record works => exact ⟨found, passed, announced⟩
  | retire waits front =>
    rw [front] at passed
    refine ⟨found, ?_, announced⟩
    simpa [takenFiles, queued, List.filterMap_cons, Item.path?] using passed

theorem Step.custody (step : Step capacity state next) (custody : state.Custody workers) :
    next.Custody workers := by
  have size := custody.size
  have takers := custody.takers
  have counted := custody.counted
  cases step with
  | send finds room => exact ⟨size, takers, counted⟩
  | finish finds => exact ⟨size, takers, counted⟩
  | close closes room => exact ⟨size, takers, counted⟩
  | @take worker file queue waits front =>
    have inside : worker < workers := size ▸ (List.getElem?_eq_some_iff.1 waits).1
    have handed := filterMap_set_perm Worker.held? waits (.busy file)
    simp only [Worker.held?, Option.toList_none, Option.toList_some, List.append_nil] at handed
    refine ⟨by simpa using size, ?_, ?_⟩
    · intro pair member
      rcases List.mem_append.1 member with earlier | here
      · exact takers pair earlier
      · rw [List.mem_singleton.1 here]
        exact inside
    · simp only [held, takenFiles, List.map_append, List.map_singleton]
      have all := (handed.append_left state.recorded).trans
        (List.append_assoc _ _ _ ▸ counted.append_right [file])
      exact all
  | @record worker file works =>
    have given_back := filterMap_set_perm Worker.held? works .waiting
    simp only [Worker.held?, Option.toList_none, Option.toList_some, List.append_nil] at given_back
    refine ⟨by simpa using size, takers, ?_⟩
    have all := (given_back.append_left state.recorded).trans counted
    simp only [held, List.append_assoc]
    exact (List.perm_append_comm.append_left _).trans all
  | @retire worker queue waits front =>
    have kept := filterMap_set_perm Worker.held? waits .done
    simp only [Worker.held?, Option.toList_none, List.append_nil] at kept
    refine ⟨by simpa using size, takers, ?_⟩
    exact (kept.append_left state.recorded).trans counted

/-- Before the first mark is put no worker has taken one. -/
theorem State.Closing.unmarked (closing : state.Closing workers) {ahead : List String}
    (finds : state.finder = .finding ahead fails) :
    Item.close ∉ state.queue ∧ state.closed = [] := by
  have marks := closing.marks
  rw [finds] at marks
  simp only [Finder.marks] at marks
  exact ⟨List.count_eq_zero.1 (by omega), List.length_eq_zero_iff.1 (by omega)⟩

theorem Step.marks (step : Step capacity state next) (closing : state.Closing workers) :
    next.finder.marks workers + next.queue.count .close + next.closed.length = workers := by
  have marks := closing.marks
  cases step with
  | send finds _ =>
    rw [finds] at marks
    simpa [Finder.marks] using marks
  | finish finds =>
    rw [finds] at marks
    simpa only [Finder.marks, closing.size] using marks
  | close closes _ =>
    rw [closes] at marks
    simp only [Finder.marks, List.count_append, List.count_singleton_self] at marks ⊢
    omega
  | take _ front =>
    rw [front] at marks
    simpa using marks
  | record _ => exact marks
  | retire _ front =>
    rw [front] at marks
    simp only [List.count_cons_self, List.length_append, List.length_singleton] at marks ⊢
    omega

theorem pairwise_concat {queue : List Item} {item : Item}
    (behind : queue.Pairwise fun first second => first = .close → second = .close)
    (fits : Item.close ∈ queue → item = .close) :
    (queue ++ [item]).Pairwise fun first second => first = .close → second = .close := by
  rw [List.pairwise_append]
  refine ⟨behind, List.pairwise_singleton _ _, ?_⟩
  rintro first member other latest rfl
  exact (List.mem_singleton.1 latest).trans (fits member)

theorem Step.behind (step : Step capacity state next) (closing : state.Closing workers) :
    next.queue.Pairwise fun first second => first = .close → second = .close := by
  have behind := closing.behind
  cases step with
  | send finds _ =>
    exact pairwise_concat behind fun marked => absurd marked (closing.unmarked finds).1
  | finish _ => exact behind
  | close _ _ => exact pairwise_concat behind fun _ => rfl
  | take _ front =>
    rw [front] at behind
    exact (List.pairwise_cons.1 behind).2
  | record _ => exact behind
  | retire _ front =>
    rw [front] at behind
    exact (List.pairwise_cons.1 behind).2

theorem Step.last (step : Step capacity state next) (closing : state.Closing workers) :
    next.closed ≠ [] → ∀ item ∈ next.queue, item = .close := by
  have last := closing.last
  cases step with
  | send finds _ => exact fun some_closed => absurd (closing.unmarked finds).2 some_closed
  | finish _ => exact last
  | close _ _ =>
    intro some_closed item member
    rcases List.mem_append.1 member with earlier | latest
    · exact last some_closed item earlier
    · exact List.mem_singleton.1 latest
  | take _ front =>
    intro some_closed item member
    exact last some_closed item (front ▸ List.mem_cons_of_mem _ member)
  | record _ => exact last
  | retire _ front =>
    have behind := closing.behind
    rw [front] at behind
    exact fun _ item member => (List.pairwise_cons.1 behind).1 item member rfl

theorem Step.distinct (step : Step capacity state next) (closing : state.Closing workers) :
    next.closed.Nodup := by
  have distinct := closing.distinct
  cases step with
  | send _ _ => exact distinct
  | finish _ => exact distinct
  | close _ _ => exact distinct
  | take _ _ => exact distinct
  | record _ => exact distinct
  | @retire worker _ waits _ =>
    have waiting : worker ∉ state.closed := by simp [closing.closed, waits]
    exact List.concat_eq_append ▸ List.Nodup.concat waiting distinct

theorem closed_set {workers : List Worker} {closed : List Nat} {worker : Nat} {new : Worker}
    (kept : ∀ other, other ∈ closed ↔ workers[other]? = some .done)
    (open_worker : workers[worker]? ≠ some .done) (still : new ≠ .done) (other : Nat) :
    other ∈ closed ↔ (workers.set worker new)[other]? = some .done := by
  rw [kept, List.getElem?_set]
  by_cases same : worker = other
  · subst same
    simp [open_worker, still]
  · simp [same]

theorem Step.closed (step : Step capacity state next) (closing : state.Closing workers)
    (other : Nat) : other ∈ next.closed ↔ next.workers[other]? = some .done := by
  have closed := closing.closed
  cases step with
  | send _ _ => exact closed other
  | finish _ => exact closed other
  | close _ _ => exact closed other
  | take waits _ => exact closed_set closed (by simp [waits]) (by simp) other
  | record works => exact closed_set closed (by simp [works]) (by simp) other
  | @retire worker _ waits _ =>
    have inside : worker < state.workers.length := (List.getElem?_eq_some_iff.1 waits).1
    rw [List.mem_append, List.mem_singleton, closed, List.getElem?_set]
    by_cases same : worker = other
    · subst same
      simp [inside]
    · simp [same, Ne.symm same]

theorem Step.closing (step : Step capacity state next) (closing : state.Closing workers) :
    next.Closing workers where
  size := by
    have size := closing.size
    cases step <;> simpa using size
  marks := step.marks closing
  behind := step.behind closing
  last := step.last closing
  distinct := step.distinct closing
  closed := step.closed closing

theorem Steps.keeps {holds : State → Prop} {first last : State} (steps : Steps capacity first last)
    (initially : holds first)
    (kept : ∀ state next, Step capacity state next → holds state → holds next) : holds last := by
  induction steps with
  | none => exact initially
  | more _ step ih => exact kept _ _ step ih

theorem traffic_start : (start workers files fails).Traffic files fails :=
  ⟨rfl, rfl, rfl, rfl⟩

theorem custody_start : (start workers files fails).Custody workers := by
  refine ⟨List.length_replicate, nofun, ?_⟩
  have idle : (start workers files fails).held = [] := by
    simp [held, start, Worker.held?]
  rw [idle]
  exact .nil

theorem closing_start : (start workers files fails).Closing workers := by
  refine ⟨List.length_replicate, by simp [start, Finder.marks], .nil, nofun, .nil, ?_⟩
  intro worker
  simp only [start, List.not_mem_nil, List.getElem?_replicate, false_iff]
  split <;> simp

theorem Steps.traffic (steps : Steps capacity (start workers files fails) state) :
    state.Traffic files fails :=
  steps.keeps traffic_start fun _ _ step traffic => step.traffic traffic

theorem Steps.custody (steps : Steps capacity (start workers files fails) state) :
    state.Custody workers :=
  steps.keeps custody_start fun _ _ step custody => step.custody custody

theorem Steps.closing (steps : Steps capacity (start workers files fails) state) :
    state.Closing workers :=
  steps.keeps closing_start fun _ _ step closing => step.closing closing

theorem exists_open_worker (closing : state.Closing workers)
    (fewer : state.closed.length < workers) :
    ∃ worker : Nat, state.workers[worker]? = some .waiting ∨
      ∃ file, state.workers[worker]? = some (.busy file) := by
  by_contra none_open
  push Not at none_open
  have all_closed : List.range workers ⊆ state.closed := by
    intro worker member
    have inside : worker < state.workers.length := closing.size ▸ List.mem_range.1 member
    have stands := List.getElem?_eq_getElem inside
    rw [closing.closed, stands]
    cases standing : state.workers[worker] with
    | waiting => exact absurd (standing ▸ stands) (none_open worker).1
    | busy file => exact absurd (standing ▸ stands) ((none_open worker).2 file)
    | done => rfl
  have enough := (List.subperm_of_subset List.nodup_range all_closed).length_le
  rw [List.length_range] at enough
  omega

theorem exists_step_of_worker (closing : state.Closing workers)
    (fewer : state.closed.length < workers) (filled : state.queue ≠ []) :
    ∃ next, Step capacity state next := by
  obtain ⟨worker, waits | ⟨file, works⟩⟩ := exists_open_worker closing fewer
  · cases front : state.queue with
    | nil => exact absurd front filled
    | cons item queue =>
      cases item with
      | file path => exact ⟨_, .take waits front⟩
      | close => exact ⟨_, .retire waits front⟩
  · exact ⟨_, .record works⟩

theorem closed_subset (closing : state.Closing workers) : state.closed ⊆ List.range workers := by
  intro worker member
  have stands := (closing.closed worker).1 member
  have inside : worker < state.workers.length := (List.getElem?_eq_some_iff.1 stands).1
  exact List.mem_range.2 (closing.size ▸ inside)

theorem closed_perm_of_done (closing : state.Closing workers)
    (done : ∀ worker ∈ state.workers, worker = .done) : state.closed.Perm (List.range workers) := by
  rw [List.perm_ext_iff_of_nodup closing.distinct List.nodup_range]
  intro worker
  constructor
  · intro member
    exact closed_subset closing member
  · intro member
    have inside : worker < state.workers.length := closing.size ▸ List.mem_range.1 member
    rw [closing.closed, List.getElem?_eq_getElem inside, done _ (List.getElem_mem inside)]

theorem done_of_closed (closing : state.Closing workers) (enough : workers ≤ state.closed.length) :
    ∀ worker ∈ state.workers, worker = .done := by
  have perm : state.closed.Perm (List.range workers) :=
    (List.subperm_of_subset closing.distinct (closed_subset closing)).perm_of_length_le
      (by simpa using enough)
  intro worker member
  obtain ⟨place, inside, rfl⟩ := List.getElem_of_mem member
  have taken : place ∈ state.closed := by simpa [perm.mem_iff, ← closing.size] using inside
  rw [closing.closed, List.getElem?_eq_getElem inside] at taken
  exact Option.some.inj taken

theorem fewer_closed (some_worker : 1 ≤ workers) (closing : state.Closing workers)
    (going : ¬ state.Ended) : state.closed.length < workers := by
  by_contra enough
  have marks := closing.marks
  have finished : state.finder = .closing 0 := by
    cases finds : state.finder with
    | finding ahead ends =>
      rw [finds] at marks
      simp only [Finder.marks] at marks
      omega
    | closing left =>
      rw [finds] at marks
      simp only [Finder.marks] at marks
      have none_left : left = 0 := by omega
      rw [none_left]
  exact going ⟨finished, done_of_closed closing (not_lt.1 enough)⟩

/-- As long as not all threads are done, one of them can act: the finder if the queue is empty,
and a worker otherwise. -/
theorem exists_step (some_worker : 1 ≤ workers) (room : 1 ≤ capacity)
    (closing : state.Closing workers) (going : ¬ state.Ended) :
    ∃ next, Step capacity state next := by
  have fewer := fewer_closed some_worker closing going
  by_cases empty : state.queue = []
  · have free : state.queue.length < capacity := by
      rw [empty]
      exact room
    have marks := closing.marks
    cases finds : state.finder with
    | finding ahead ends =>
      cases ahead with
      | nil => exact ⟨_, .finish finds⟩
      | cons file ahead => exact ⟨_, .send finds free⟩
    | closing left =>
      cases left with
      | succ left => exact ⟨_, .close finds free⟩
      | zero =>
        rw [finds, empty] at marks
        simp only [Finder.marks, List.count_nil] at marks
        omega
  · exact exists_step_of_worker closing fewer empty

theorem queue_of_ended (some_worker : 1 ≤ workers) (closing : state.Closing workers)
    (ended : state.Ended) : state.queue = [] := by
  have marks := closing.marks
  have all_closed := (closed_perm_of_done closing ended.2).length_eq
  rw [List.length_range] at all_closed
  rw [ended.1] at marks
  simp only [Finder.marks] at marks
  have some_closed : state.closed ≠ [] := by
    intro nobody
    rw [nobody, List.length_nil] at all_closed
    omega
  -- Only marks could be left, and none are.
  have unmarked : Item.close ∉ state.queue := List.count_eq_zero.1 (by omega)
  rw [List.eq_nil_iff_forall_not_mem]
  intro item member
  exact unmarked (closing.last some_closed item member ▸ member)

theorem held_of_done (done : ∀ worker ∈ state.workers, worker = .done) : state.held = [] := by
  unfold held
  rw [List.filterMap_eq_nil_iff]
  intro worker member
  rw [done worker member]
  rfl

theorem complete_of_ended (some_worker : 1 ≤ workers) (traffic : state.Traffic files fails)
    (custody : state.Custody workers) (closing : state.Closing workers) (ended : state.Ended) :
    state.Complete workers files fails := by
  have empty := queue_of_ended some_worker closing ended
  have found := traffic.found
  have passed := traffic.passed
  have announced := traffic.announced
  have counted := custody.counted
  rw [ended.1] at found announced
  rw [held_of_done ended.2, List.append_nil] at counted
  refine ⟨empty, closed_perm_of_done closing ended.2, ?_, ?_, custody.takers, counted, announced⟩
  · simpa [Finder.ahead] using found
  · simpa [queued, empty] using passed

theorem Steps.complete (steps : Steps capacity (start workers files fails) state)
    (some_worker : 1 ≤ workers) (ended : state.Ended) : state.Complete workers files fails :=
  complete_of_ended some_worker steps.traffic steps.custody steps.closing ended

theorem State.Complete.recorded_perm (complete : state.Complete workers files fails) :
    state.recorded.Perm files := by
  have recorded := complete.recorded
  rw [complete.taken, complete.sent] at recorded
  exact recorded

theorem length_held_set {workers : List Worker} {place : Nat} {old : Worker}
    (stands : workers[place]? = some old) (new : Worker) :
    ((workers.set place new).filterMap Worker.held?).length + old.held?.toList.length =
      (workers.filterMap Worker.held?).length + new.held?.toList.length := by
  simpa using (filterMap_set_perm Worker.held? stands new).length_eq

/-- Each action leaves one less, so no schedule goes on for ever. -/
theorem Step.work (step : Step capacity state next) : next.work + 1 = state.work := by
  unfold State.work queued held
  cases step with
  | send finds room =>
    have put (file : String) : (state.queue ++ [Item.file file]).count Item.close =
        state.queue.count Item.close := by simp
    simp only [finds, Finder.work, put, List.filterMap_append, List.length_append,
      List.length_cons, List.filterMap_cons, List.filterMap_nil, Item.path?, List.length_nil]
    omega
  | finish finds =>
    simp only [finds, Finder.work, List.length_nil]
    omega
  | close closes room =>
    simp only [closes, Finder.work, List.filterMap_append, List.filterMap_cons,
      List.filterMap_nil, Item.path?, List.append_nil, List.count_append,
      List.count_singleton_self]
    omega
  | @take worker file queue waits front =>
    have handed := length_held_set waits (.busy file)
    have taken : (Item.file file :: queue).count Item.close = queue.count Item.close := by simp
    simp only [Worker.held?, Option.toList_none, Option.toList_some, List.length_nil,
      List.length_singleton] at handed
    simp only [front, taken, List.length_set, List.filterMap_cons, Item.path?, List.length_cons]
    omega
  | @record worker file works =>
    have given_back := length_held_set works .waiting
    simp only [Worker.held?, Option.toList_none, Option.toList_some, List.length_nil,
      List.length_singleton] at given_back
    simp only [List.length_set]
    omega
  | @retire worker queue waits front =>
    have kept := length_held_set waits .done
    simp only [Worker.held?, Option.toList_none, List.length_nil] at kept
    simp only [front, List.length_set, List.filterMap_cons, Item.path?, List.count_cons_self]
    omega

theorem wellFounded_step (capacity : Nat) :
    WellFounded fun next state => Step capacity state next := by
  refine Subrelation.wf (r := InvImage (· < ·) State.work) ?_ (InvImage.wf _ Nat.lt_wfRel.wf)
  intro next state step
  have left := step.work
  unfold InvImage
  omega

theorem exists_end (some_worker : 1 ≤ workers) (room : 1 ≤ capacity) {first : State}
    (steps : Steps capacity first state) (closing : state.Closing workers) :
    ∃ last, Steps capacity first last ∧ last.Ended := by
  induction state using (wellFounded_step capacity).induction with
  | h state ih =>
    by_cases ended : state.Ended
    · exact ⟨state, steps, ended⟩
    · obtain ⟨next, step⟩ := exists_step some_worker room closing ended
      exact ih next step (.more steps step) (step.closing closing)

/-- In whatever order the threads act, none of them waits for ever, and they can always come to
their end. Then every file that was found has been taken once and counted once, and every worker
has taken one mark. -/
theorem steps_complete (some_worker : 1 ≤ workers) (room : 1 ≤ capacity) (files : List String)
    (fails : Bool) (state : State) (steps : Steps capacity (start workers files fails) state) :
    (state.Stuck capacity → state.Ended) ∧ (∃ last, Steps capacity state last ∧ last.Ended) ∧
      (state.Ended → state.Complete workers files fails) := by
  refine ⟨?_, exists_end some_worker room (.none state) steps.closing,
    steps.complete some_worker⟩
  intro stuck
  by_contra going
  obtain ⟨next, step⟩ := exists_step some_worker room steps.closing going
  exact stuck next step

/-- The end of a run of two workers, whose queue has one place and whose discovery fails after
two files. -/
def drained : State where
  finder := .closing 0
  queue := []
  workers := [.done, .done]
  sent := ["a.py", "b.py"]
  taken := [(0, "a.py"), (1, "b.py")]
  recorded := ["b.py", "a.py"]
  closed := [1, 0]
  reported := true

theorem steps_drained : Steps 1 (start 2 ["a.py", "b.py"] true) drained := by
  have steps : Steps 1 (start 2 ["a.py", "b.py"] true) _ := .none _
  have steps := steps.more (.send rfl (by decide))
  have steps := steps.more (@Step.take 1 _ 0 _ _ rfl rfl)
  have steps := steps.more (.send rfl (by decide))
  have steps := steps.more (.finish rfl)
  have steps := steps.more (@Step.take 1 _ 1 _ _ rfl rfl)
  have steps := steps.more (.close rfl (by decide))
  have steps := steps.more (@Step.record 1 _ 1 _ rfl)
  have steps := steps.more (@Step.record 1 _ 0 _ rfl)
  have steps := steps.more (@Step.retire 1 _ 1 _ rfl rfl)
  have steps := steps.more (.close rfl (by decide))
  have steps := steps.more (@Step.retire 1 _ 0 _ rfl rfl)
  exact steps

theorem ended_drained : drained.Ended := ⟨rfl, by decide⟩

theorem steps_complete_drained :
    1 ≤ 2 ∧ 1 ≤ 1 ∧ Steps 1 (start 2 ["a.py", "b.py"] true) drained ∧ drained.Ended ∧
      drained.Complete 2 ["a.py", "b.py"] true := by
  obtain ⟨_, _, complete⟩ :=
    steps_complete (by decide) (by decide) ["a.py", "b.py"] true drained steps_drained
  exact ⟨by decide, by decide, steps_drained, ended_drained, complete ended_drained⟩

end CodeNav.Pipeline
