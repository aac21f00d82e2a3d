import ReplicaSet.Proofs.QueueRecords
import ReplicaSet.Proofs.Requests

/-!
Where the tasks of a set are. Each task that callbacks create is in one place at any time, and what
is done with stays so.
-/
namespace ReplicaSet

/-- Where a task can be. -/
inductive Place where
  /-- It was handed in and not yet received. -/
  | channel
  | ready
  | delayed
  | running
  | completed
  | givenUp
  /-- The worker came to its end before it was done with. -/
  | abandoned
  /-- It was scheduled when there was no worker any more. -/
  | dropped
deriving DecidableEq, Repr

/-- Where a task has come to rest, as the record tells. -/
def Notice.fate? : Notice → Option (Place × Change)
  | completed change _ => some (.completed, change)
  | gaveUp change _ => some (.givenUp, change)
  | changeDropped change => some (.dropped, change)
  | _ => none

namespace Queue

variable {τ ρ : Type}

/-- Where a task comes to rest after a run. -/
def Verdict.place? : Verdict → Option Place
  | completed => some .completed
  | gaveUp => some .givenUp
  | putOff => none

theorem Verdict.fates_records (verdict : Verdict) (job : Job Change) :
    (verdict.records job).filterMap Notice.fate? =
      (verdict.place?.map fun place => (place, job.task)).toList := by
  cases verdict with
  | completed | putOff => rfl
  | gaveUp =>
    obtain ⟨task, attempts⟩ := job
    cases task <;> rfl

/-- The tasks in a queue, each with its place. -/
def placed (queue : Queue WakeHeap τ ρ) : List (Place × τ) :=
  match queue.exit? with
  | none =>
    queue.current?.toList.map (fun job => (.running, job.task)) ++
      queue.ready.map (fun job => (.ready, job.task)) ++
      (DelayLine.toList queue.delayed).map (fun job => (.delayed, job.task)) ++
      queue.inbox.map fun task => (.channel, task)
  | some exit =>
    (exit.inHand?.toList.map Job.task ++ queue.waiting).map fun task => (.abandoned, task)

theorem placed_tasks (queue : Queue WakeHeap τ ρ) : queue.placed.map Prod.snd = queue.held := by
  unfold placed held abandoned unfinished
  cases queue.exit? with
  | none => simp [Function.comp_def]
  | some => simp [Function.comp_def]

end Queue

namespace Simulation

def Event.fate? : Event → Option (Place × Change)
  | .noted _ notice => notice.fate?
  | _ => none

namespace Cluster

variable {cluster middle after next : Cluster} {job : Job Change} {deed : Deed} {deeds : List Deed}

/-- The tasks that have come to rest, in the order in which they did. -/
def fates (cluster : Cluster) : List (Place × Change) :=
  cluster.readings Event.fate?

/-- All tasks, each with its place. -/
def placed (cluster : Cluster) : List (Place × Change) :=
  cluster.controller.queue.placed ++ cluster.fates

/-! ### What comes to rest -/

/-- From the one state to the other these tasks come to rest, and none else. -/
def Rests (before after : Cluster) (tasks : List Change) : Prop :=
  ∃ more, after.fates = before.fates ++ more ∧ more.map Prod.snd = tasks

theorem fates_eq (cluster : Cluster) : cluster.fates = cluster.queueRecords.filterMap Notice.fate? := by
  have same (entry : Entry) : entry.event.fate? = entry.event.ofQueue?.bind Notice.fate? := by
    cases entry.event with
    | noted name notice => cases notice <;> rfl
    | _ => rfl
  rw [fates, queueRecords, readings, readings, List.filterMap_reverse, List.filterMap_filterMap]
  exact congrArg List.reverse (List.filterMap_congr fun entry _ => same entry)

theorem fates_answered (cluster : Cluster) (job : Job Change) (via : Member)
    (answer : StoreAnswer) :
    (cluster.answered job via answer).fates = cluster.fates ++
      ((cluster.controller.queue.conclude cluster.now job
        (cluster.controller.answered job.task via answer).1).1.place?.map
          fun place => (place, job.task)).toList := by
  rw [fates_eq, queueRecords_answered, List.filterMap_append, ← fates_eq, Queue.Verdict.fates_records]

/-- What comes to rest by a move of the worker is what the queue is done with. -/
theorem Writes.rests {news : List (Queue.Mark Change)} (writes : cluster.Writes after news) :
    cluster.Rests after (news.filterMap Queue.Mark.finished?) := by
  have one (pending : Nat) (mark : Queue.Mark Change) :
      ((mark.records pending).filterMap Notice.fate?).map Prod.snd = mark.finished?.toList := by
    cases mark with
    | ended job verdict =>
      rw [Queue.Mark.records, verdict.fates_records]
      cases verdict <;> rfl
    | left exit => cases exit <;> rfl
    | _ => rfl
  refine ⟨_, by rw [fates_eq, writes, List.filterMap_append, ← fates_eq], ?_⟩
  rw [List.filterMap_flatMap, List.map_flatMap, List.filterMap_eq_flatMap_toList]
  exact List.flatMap_congr fun mark _ => one _ mark

/-- What the worker does to its queue, and what comes to rest by it. -/
theorem work?_does (worked : cluster.work? = some next) :
    ∃ marks, cluster.controller.queue.Does cluster.now marks next.controller.queue ∧
      cluster.Rests next (marks.filterMap Queue.Mark.finished?) := by
  obtain ⟨marks, does, writes⟩ := work?_writes worked
  exact ⟨marks, does, writes.rests⟩

/-! ### What a deed does -/

/-- A task that is created is in the queue afterwards, or it is dropped. -/
theorem Outside.accounts {queue later : Queue Queue.WakeHeap Change Call} {tasks : List Change}
    {records : List Notice} (outside : Outside queue tasks later records) :
    later.held ++ (records.filterMap Notice.fate?).map Prod.snd = queue.held ++ tasks := by
  cases outside with
  | keep | told | dropped => rfl
  | handed alive task =>
    rw [Queue.held_submit? (Queue.submit?_eq_some.mpr ⟨alive, rfl⟩)]
    exact List.append_nil _
  | goOn running later =>
    rw [Queue.held_goOn running]
    rfl

/-- After any deed each task is where it was, somewhere else, or at rest, and only what the deed
creates is new. -/
theorem Step.accounts (step : Step cluster deed after) :
    ∃ tasks, cluster.Rests after tasks ∧ (after.controller.queue.held ++ tasks).Perm
      (cluster.controller.queue.held ++ commissions cluster.controller.roster deed) := by
  by_cases isWork : deed = .work
  · subst isWork
    cases step with
    | work worked =>
      obtain ⟨marks, does, rests⟩ := work?_does worked
      exact ⟨_, rests, (List.append_nil _).symm ▸ does.held_perm⟩
  · obtain ⟨records, outside, written⟩ := step.outside isWork
    refine ⟨_, ⟨_, ?_, rfl⟩, .of_eq outside.accounts⟩
    rw [fates_eq, written, List.filterMap_append, ← fates_eq]

/-! ### Runs -/

theorem placed_tasks (cluster : Cluster) :
    cluster.placed.map Prod.snd = cluster.controller.queue.held ++ cluster.fates.map Prod.snd := by
  rw [placed, List.map_append, Queue.placed_tasks]

theorem Run.placed_perm (run : Run deeds cluster) :
    (cluster.placed.map Prod.snd).Perm (created deeds) := by
  induction run with
  | start fresh =>
    obtain ⟨name, settings, same⟩ := fresh.controller_eq
    rw [placed_tasks, same, Queue.held_create, fates, fresh.readings]
    exact .refl _
  | @next deeds cluster deed after run step ih =>
    obtain ⟨tasks, ⟨more, fates, rfl⟩, accounts⟩ := step.accounts
    rw [placed_tasks] at ih ⊢
    rw [run.created_next, fates, List.map_append]
    exact Queue.balance_next ih accounts

theorem Run.placed_nodup (run : Run deeds cluster) : (cluster.placed.map Prod.snd).Nodup :=
  run.placed_perm.nodup_iff.mpr (chronicled_created deeds).nodup

theorem Run.created_of_held (run : Run deeds cluster) {task : Change}
    (held : task ∈ cluster.controller.queue.held) : task ∈ created deeds := by
  rw [← run.placed_perm.mem_iff, placed_tasks]
  exact List.mem_append_left _ held

theorem Run.created_of_rested (run : Run deeds cluster) {place : Place} {task : Change}
    (rested : (place, task) ∈ cluster.fates) : task ∈ created deeds := by
  rw [← run.placed_perm.mem_iff, placed_tasks]
  exact List.mem_append_right _ (List.mem_map_of_mem rested)

theorem Onward.fates {more : List Deed} (onward : Onward cluster more after) :
    ∃ later, after.fates = cluster.fates ++ later := by
  induction onward with
  | rest => exact ⟨[], (List.append_nil _).symm⟩
  | next _ step ih =>
    obtain ⟨later, before⟩ := ih
    obtain ⟨tasks, ⟨more, fates, -⟩, -⟩ := step.accounts
    exact ⟨later ++ more, by rw [fates, before, List.append_assoc]⟩

/-- What has come to rest stays so, and no run of it begins or goes on. -/
theorem Run.rests (run : Run deeds cluster) {place : Place} {task : Change}
    (rested : (place, task) ∈ cluster.fates) {more : List Deed} (onward : Onward cluster more after) :
    (place, task) ∈ after.fates ∧ task ∉ after.controller.queue.held := by
  obtain ⟨later, fates⟩ := onward.fates
  have still : (place, task) ∈ after.fates := fates ▸ List.mem_append_left _ rested
  have distinct := (run.onward onward).placed_nodup
  rw [placed_tasks] at distinct
  refine ⟨still, fun held => ?_⟩
  exact (List.nodup_append.mp distinct).2.2 task held task (List.mem_map_of_mem still) rfl

theorem fates_place {place : Place} {task : Change} (placed : (place, task) ∈ cluster.placed)
    (atRest : place = .completed ∨ place = .givenUp) : (place, task) ∈ cluster.fates := by
  refine (List.mem_append.mp placed).resolve_left fun inQueue => ?_
  unfold Queue.placed at inQueue
  split at inQueue
  · simp only [List.mem_append, List.mem_map, Prod.mk.injEq] at inQueue
    rcases atRest with rfl | rfl <;> simp at inQueue
  · obtain ⟨other, -, same⟩ := List.mem_map.mp inQueue
    cases same
    rcases atRest with absurd | absurd <;> cases absurd

/-- The tasks of a set are those that callbacks create: one for each admission, one for each
dismissal, and none else. Each is in one place at any time, and what is completed or given up stays
so and is not run again. -/
theorem Run.tasks_placed (run : Run deeds cluster) :
    (∀ deed, created (deeds ++ [deed]) =
      created deeds ++ commissions cluster.controller.roster deed) ∧
    (created deeds).Nodup ∧ (cluster.placed.map Prod.snd).Perm (created deeds) ∧
    (∀ task ∈ created deeds, ∃! place, (place, task) ∈ cluster.placed) ∧
    ∀ place task, (place, task) ∈ cluster.placed → place = .completed ∨ place = .givenUp →
      ∀ more after, Onward cluster more after → (place, task) ∈ after.placed ∧
        (∀ job queue, after.controller.queue.turn after.now = .start job queue → job.task ≠ task) ∧
        ∀ job call, after.controller.queue.phase = .running job call → job.task ≠ task := by
  refine ⟨run.created_next, (chronicled_created deeds).nodup, run.placed_perm, ?_, ?_⟩
  · intro task isCreated
    obtain ⟨⟨place, other⟩, placed, rfl⟩ := List.mem_map.mp (run.placed_perm.mem_iff.mpr isCreated)
    refine ⟨place, placed, fun another alsoPlaced => ?_⟩
    exact congrArg Prod.fst (List.inj_on_of_nodup_map run.placed_nodup alsoPlaced placed rfl)
  · intro place task placed atRest more after onward
    obtain ⟨still, released⟩ := run.rests (fates_place placed atRest) onward
    refine ⟨List.mem_append_right _ still, fun job queue started same => ?_,
      fun job call running same => ?_⟩
    · exact released (same ▸ Queue.mem_held_of_start started)
    · exact released (same ▸ Queue.mem_held_of_running running)

/-- A second member is about to join, and the founding is over for good. -/
theorem tasks_placed_joining :
    ∃ deeds, Run deeds joining ∧ .join ⟨1, ⟨"b", .node⟩⟩ ∈ created deeds ∧
      (∀ place, (place, .join ⟨1, ⟨"b", .node⟩⟩) ∈ joining.placed → place = .ready) ∧
      ∀ more after, Onward joining more after →
        (.completed, .found ⟨0, ⟨"a", .node⟩⟩) ∈ after.placed := by
  obtain ⟨deeds, run⟩ := joining_run
  obtain ⟨-, -, same, only, rests⟩ := run.tasks_placed
  have isReady : (.ready, .join ⟨1, ⟨"b", .node⟩⟩) ∈ joining.placed := by decide
  have isCreated := same.mem_iff.mp (List.mem_map_of_mem isReady)
  refine ⟨deeds, run, isCreated, fun place placed => ?_, fun more after onward => ?_⟩
  · exact (only _ isCreated).unique placed isReady
  · exact (rests .completed _ (by decide) (.inl rfl) more after onward).1

end Cluster

end Simulation

end ReplicaSet
