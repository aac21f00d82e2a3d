import ReplicaSet.Proofs.QueueAttempts
import ReplicaSet.Proofs.QueueEffort

/-!
A worker that is driven at one instant. If its runs end without waiting it comes to rest, runs no
task twice in the meantime, and leaves nothing behind that could be run.
-/
namespace ReplicaSet.Queue

variable {τ ρ : Type} {now moves : Nat} {queue after : Queue WakeHeap τ ρ}
  {marks told : List (Nat × Mark τ)}

/-! ### One instant -/

/-- A move of the worker by which no run waits: one that is under way comes to its end, or the worker
to its own. -/
def Moves (now : Nat) (queue : Queue WakeHeap τ ρ) (news : List (Mark τ))
    (next : Queue WakeHeap τ ρ) : Prop :=
  queue.Does now news next ∧ (queue.current?.isSome → next.current? = none)

/-- What happens to a queue within the instant, with what is told of it and the number of moves of
the worker. Tasks are handed in at any time, also by a run that is under way. -/
inductive Drive (now : Nat) (first : Queue WakeHeap τ ρ) :
    List (Nat × Mark τ) → Nat → Queue WakeHeap τ ρ → Prop
  | rest : Drive now first [] 0 first
  | submit {told : List (Nat × Mark τ)} {moves : Nat} {queue next : Queue WakeHeap τ ρ} {task : τ}
      (drive : Drive now first told moves queue) (submitted : queue.submit? task = some next) :
      Drive now first (told ++ [(now, .submitted task)]) moves next
  | tell {told : List (Nat × Mark τ)} {moves : Nat} {queue : Queue WakeHeap τ ρ}
      (drive : Drive now first told moves queue) (cause : StopCause) :
      Drive now first told moves (queue.tellToStop cause)
  | work {told : List (Nat × Mark τ)} {moves : Nat} {queue next : Queue WakeHeap τ ρ}
      {news : List (Mark τ)} (drive : Drive now first told moves queue)
      (move : queue.Moves now news next) :
      Drive now first (told ++ news.map fun mark => (now, mark)) (moves + 1) next

namespace Drive

theorem course {start : Nat} {first : Queue WakeHeap τ ρ} (drive : Drive now queue told moves after)
    (earlier : Course start first marks now queue) : Course start first (marks ++ told) now after := by
  induction drive with
  | rest => exact (List.append_nil marks).symm ▸ earlier
  | submit _ submitted ih => exact List.append_assoc .. ▸ ih.submit submitted
  | tell _ cause ih => exact ih.tell cause
  | work _ move ih => exact List.append_assoc .. ▸ ih.work move.1

theorem atOnce (drive : Drive now queue told moves after) : ∀ mark ∈ told, mark.1 = now := by
  induction drive with
  | rest => nofun
  | submit _ _ ih =>
    exact fun mark member => (List.mem_append.mp member).elim (ih mark) (by simp +contextual)
  | tell _ _ ih => exact ih
  | work _ _ ih =>
    intro mark member
    rcases List.mem_append.mp member with old | isNew
    · exact ih mark old
    · obtain ⟨what, -, rfl⟩ := List.mem_map.mp isNew
      rfl

end Drive

/-! ### Rest -/

theorem effort_submit? {weight : ρ → Nat} {task : τ} (submitted : queue.submit? task = some after) :
    effort weight now after = effort weight now queue + 7 := by
  obtain ⟨-, rfl⟩ := submit?_eq_some.mp submitted
  simp only [effort, dueCount, phaseEffort, List.length_append, List.length_cons, List.length_nil]
  omega

/-- Each move uses up some effort, and only what is handed in brings in more. -/
theorem Drive.moves_le {weight : ρ → Nat} (bounds : ∀ run, 2 < weight run ∧ weight run < 7)
    (drive : Drive now queue told moves after) :
    moves + effort weight now after ≤ effort weight now queue + 7 * (submissions told).length := by
  induction drive with
  | rest => simp
  | @submit told moves queue next task drive submitted ih =>
    rw [effort_submit? submitted, submissions_append, List.length_append]
    have one : (submissions [(now, Mark.submitted task)]).length = 1 := rfl
    omega
  | tell _ cause ih => exact ih
  | @work told moves queue next news drive move ih =>
    obtain ⟨does, prompt⟩ := move
    have lower : effort weight now next < effort weight now queue := by
      refine does.works.effort_lt bounds fun job run later running goesOn => ?_
      have stops := prompt (by simp [current?, running])
      simp [current?, goesOn] at stops
    rw [submissions_append, does.submissions_eq, List.append_nil]
    omega

/-- The worker has nothing to do, and nothing that could be run at the instant is left. -/
structure AtRest (now : Nat) (queue : Queue WakeHeap τ ρ) : Prop where
  parked : queue.phase = .parked
  rests : queue.turn now = .rest
  received : queue.inbox = []
  ready : queue.ready = []
  delayed : ∀ entry ∈ queue.delayed.entries, now < entry.wakeAt

theorem AtRest.no_move {news : List (Mark τ)} {next : Queue WakeHeap τ ρ} (atRest : queue.AtRest now) :
    ¬ queue.Does now news next := by
  intro does
  cases does with
  | park _ _ _ moved | receive _ _ moved | wake _ moved => cases atRest.rests.symm.trans moved
  | leave left => cases atRest.rests.symm.trans left
  | run started | start started => cases atRest.rests.symm.trans started
  | goOn running | conclude running | breakOff running => cases atRest.parked.symm.trans running

/-- A worker that is alive is at rest, or it can go on. -/
theorem Regular.rests_or_moves (regular : queue.Regular now) (alive : queue.exit? = none) :
    queue.AtRest now ∨ ∃ news next, queue.Moves now news next := by
  by_cases running : ∃ job run, queue.phase = .running job run
  · obtain ⟨job, run, running⟩ := running
    refine .inr ⟨_, _, .conclude running .done, fun _ => ?_⟩
    simp [current?, (conclude_frame _ _ _ _).1]
  · have idle (job : Job τ) (run : ρ) : queue.phase ≠ .running job run := fun same =>
      running ⟨job, run, same⟩
    have noRun : ¬ queue.current?.isSome := by
      unfold current?
      split
      · rename_i job run same
        exact absurd same (idle job run)
      · simp
    cases turn : queue.turn now with
    | rest =>
      obtain ⟨parked, -, empty, later⟩ := turn_rest turn alive idle
      refine .inl ⟨parked, turn, empty, regular.parked parked, fun entry member => ?_⟩
      obtain ⟨wakeAt, wakes, first⟩ := WakeHeap.nextWake?_le regular.ordered member
      exact (later wakeAt wakes).trans_le first
    | move next =>
      obtain ⟨news, does, -⟩ := does_move turn
      exact .inr ⟨news, next, does, fun isRun => absurd isRun noRun⟩
    | start job next => exact .inr ⟨_, _, .run turn .done, fun isRun => absurd isRun noRun⟩
    | leave exit next => exact .inr ⟨_, _, .leave turn, fun isRun => absurd isRun noRun⟩

/-! ### No task twice -/

namespace Lineup

variable {delay time due : Nat} {lineup first next last : Lineup τ} {mark : Mark τ} {job : Job τ}
  {task : τ}

/-- The task is being run, or it is not run before the instant. -/
def Spent (due : Nat) (task : τ) (lineup : Lineup τ) : Prop :=
  (∃ job, lineup.worker = .busy job ∧ job.task = task) ∨ lineup.Asleep due task

theorem Step.spent (step : Step delay time lineup mark next) (alive : next.worker ≠ .gone)
    (distinct : lineup.tasks.Nodup) (early : time < due) (enough : due = time + delay)
    (notAgain : mark ≠ .submitted task) (spent : lineup.Spent due task) : next.Spent due task := by
  rcases spent with ⟨job, busy, rfl⟩ | asleep
  · cases step with
    | submitted => exact .inl ⟨job, busy, rfl⟩
    | received idle | looked idle | started idle => cases idle.symm.trans busy
    | finished runs settled =>
      obtain rfl := Worker.busy.inj (runs.symm.trans busy)
      exact .inr (enough ▸ Step.asleep_of_ended distinct (.finished runs settled))
    | putOff serial runs =>
      obtain rfl := Worker.busy.inj (runs.symm.trans busy)
      exact .inr (enough ▸ Step.asleep_of_ended distinct (.putOff serial runs))
    | left exit _ gone => exact absurd gone alive
  · exact .inr (step.asleep alive asleep early notAgain)

theorem Step.worker_of_started (step : Step delay time lineup (.started job) next) :
    lineup.worker = .idle ∧ next.worker = .busy job := by
  cases step with
  | started idle => exact ⟨idle, rfl⟩

theorem Step.started_of_spent (step : Step delay time lineup (.started job) next)
    (spent : lineup.Spent due task) : job.task ≠ task := by
  rcases spent with ⟨other, busy, -⟩ | asleep
  · cases step.worker_of_started.1.symm.trans busy
  · exact fun same => step.run?_ne asleep (same ▸ rfl)

/-- Whatever is run, also what was being run at the start, was handed in. -/
theorem Steps.handed_of_ran {earlier : List (Nat × Mark τ)}
    (history : Steps delay .empty earlier first) (steps : Steps delay first marks last)
    (ran : task ∈ first.current?.toList.map Job.task ++ runs marks) :
    task ∈ submissions (earlier ++ marks) := by
  have whole := history.trans steps
  refine whole.firstRuns_within.subset (whole.firstRuns_of_runs ?_)
  rw [runs_append, List.mem_append]
  refine (List.mem_append.mp ran).imp_left fun current => ?_
  obtain ⟨job, runs, rfl⟩ := List.mem_map.mp current
  obtain ⟨time, begun⟩ := history.started_of_busy (mem_current?.mp runs)
  exact mem_runs.mpr ⟨time, job, begun, rfl⟩

/-- Of all tasks of which a run begins or goes on at one instant, none does twice. -/
theorem Steps.runs_once {now : Nat} {earlier : List (Nat × Mark τ)}
    (history : Steps delay .empty earlier first) (steps : Steps delay first marks last)
    (positive : 0 < delay) (atOnce : ∀ mark ∈ marks, mark.1 = now)
    (distinct : (submissions (earlier ++ marks)).Nodup) :
    (first.current?.toList.map Job.task ++ runs marks).Nodup ∧
      (last.worker ≠ .gone → ∀ task ∈ first.current?.toList.map Job.task ++ runs marks,
        last.Spent (now + delay) task) := by
  induction steps with
  | rest =>
    refine ⟨by cases first.current? <;> simp [runs, starts], fun _ task member => ?_⟩
    obtain ⟨job, runs, rfl⟩ := List.mem_map.mp ((List.append_nil _).subst (motive := (task ∈ ·)) member)
    exact .inl ⟨job, mem_current?.mp runs, rfl⟩
  | @next marks time mark lineup next steps step ih =>
    obtain rfl : time = now := atOnce _ (List.mem_append_right _ List.mem_cons_self)
    have handed := distinct
    rw [← List.append_assoc, submissions_snoc] at handed
    obtain ⟨apart, -, differ⟩ := List.nodup_append.mp handed
    obtain ⟨once, spent⟩ := ih (fun mark member => atOnce mark (List.mem_append_left _ member)) apart
    have still (alive : next.worker ≠ .gone) (task : τ)
        (ran : task ∈ first.current?.toList.map Job.task ++ runs marks) :
        next.Spent (time + delay) task := by
      have notTwice := (history.trans steps).tasks_nodup apart
      refine step.spent alive notTwice (by omega) rfl ?_ (spent step.alive task ran)
      rintro rfl
      exact differ task (history.handed_of_ran steps ran) task List.mem_cons_self rfl
    rw [runs_snoc, ← List.append_assoc]
    cases started : mark.started? with
    | none => simpa using And.intro once still
    | some job =>
      obtain rfl := Mark.eq_of_started? started
      obtain ⟨idle, busy⟩ := step.worker_of_started
      refine ⟨List.nodup_append.mpr ⟨once, List.nodup_singleton _, ?_⟩, fun alive task ran => ?_⟩
      · rintro task ran other isNew rfl
        have asleep := spent (by simp [idle]) task ran
        exact step.started_of_spent asleep (List.mem_singleton.mp isNew).symm
      · rcases List.mem_append.mp ran with old | isNew
        · exact still alive task old
        · exact .inl ⟨job, busy, (List.mem_singleton.mp isNew).symm⟩

theorem current?_ofQueue {ρ : Type} (queue : Queue WakeHeap τ ρ) (fifo : List (Waiting (Job τ))) :
    (ofQueue queue fifo).current? = queue.current? := by
  cases phase : queue.phase <;> simp [current?, ofQueue, workerOf, Queue.current?, phase]

end Lineup

/-! ### Driven at one instant -/

/-- However a worker is driven at one instant, it makes a bounded number of moves for the jobs that
are there and those that are handed in, and runs no task twice. As long as it has not left, it can
make no move exactly when it is at rest, where nothing is left that could be run. -/
theorem History.comes_to_rest (history : History marks now queue)
    (drive : Drive now queue told moves after) :
    moves ≤ 7 * (queue.inbox.length + queue.pending + (submissions told).length) + 6 ∧
    ((submissions (marks ++ told)).Nodup →
      (queue.current?.toList.map Job.task ++ runs told).Nodup) ∧
    (after.exit? = none →
      ((¬ ∃ news next, after.Moves now news next) ↔ after.AtRest now)) := by
  obtain ⟨settings, start, course⟩ := history
  refine ⟨?_, fun distinct => ?_, fun alive => ⟨fun stuck => ?_, fun atRest => ?_⟩⟩
  · have bounds (run : ρ) : 2 < 3 ∧ 3 < 7 := by omega
    have most := drive.moves_le bounds
    have before := effort_le bounds now queue
    omega
  · obtain ⟨same, fifo, lists, steps⟩ := course.steps
    obtain ⟨-, later, -, onward⟩ :=
      (drive.course .rest).steps_from (course.regular (.create settings start)) lists
    rw [same] at onward
    have once := steps.runs_once onward settings.retryDelay_pos drive.atOnce distinct
    rw [Lineup.current?_ofQueue] at once
    exact once.1
  · have regular := (drive.course course).regular (.create settings start)
    exact (regular.rests_or_moves alive).resolve_right stuck
  · rintro ⟨news, next, does, -⟩
    exact atRest.no_move does

/-- Of two tasks that are handed in one is put off. It is not run again at the same instant, but
waits when the worker has come to rest. -/
theorem comes_to_rest_retried :
    ∃ (queue after : Queue WakeHeap String Unit) (marks told : List (Nat × Mark String)),
      History marks 0 queue ∧ Drive 0 queue told 5 after ∧ after.exit? = none ∧
      after.unfinished = ["retried"] ∧ runs told = ["retried", "steady"] ∧ (runs told).Nodup ∧
      5 ≤ 7 * (queue.inbox.length + queue.pending + (submissions told).length) + 6 ∧
      ¬ ∃ news next, after.Moves 0 news next := by
  let settings : Settings := ⟨100, none, by decide, nofun⟩
  let created : Queue WakeHeap String Unit := .create settings
  let handed : Queue WakeHeap String Unit := { created with inbox := ["retried", "steady"] }
  let resting : Queue WakeHeap String Unit := { created with
    phase := .parked
    delayed := ⟨.fork .leaf ⟨100, 0, ⟨"retried", 1⟩⟩ .leaf, 1⟩ }
  have history : History [(0, .submitted "retried"), (0, .submitted "steady")] 0 handed :=
    ⟨settings, 0, (Course.rest.submit rfl).submit rfl⟩
  have begun : Drive 0 handed [] 0 handed := .rest
  have received := (begun.work ⟨.park rfl rfl rfl rfl, fun _ => rfl⟩).work
    ⟨.receive rfl rfl rfl, fun _ => rfl⟩
  have ran := (received.work ⟨.run rfl .retry, fun _ => rfl⟩).work ⟨.run rfl .done, fun _ => rfl⟩
  have drive := ran.work ⟨.park rfl rfl rfl rfl, fun _ => rfl⟩
  change Drive 0 handed _ 5 resting at drive
  obtain ⟨most, once, rests⟩ := history.comes_to_rest drive
  refine ⟨_, _, _, _, history, drive, rfl, rfl, rfl, once (by decide), most, ?_⟩
  exact (rests rfl).mpr ⟨rfl, rfl, rfl, rfl, by decide⟩

end ReplicaSet.Queue
