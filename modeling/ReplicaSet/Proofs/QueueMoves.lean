import ReplicaSet.Proofs.HeapContents
import ReplicaSet.Queue.Basic

/-!
What each move of a queue does to the tasks in it. `Queue.Works` collects all that a worker can
do; whatever it does, it runs nothing that was not there before.
-/
namespace ReplicaSet

/-- The job that a worker had in hand when it came to its end. -/
def Exit.inHand? {τ : Type} : Exit τ → Option (Job τ)
  | .stopped _ job => job
  | .drained => none
  | .crashed job _ => some job

namespace Queue

variable {τ ρ : Type} {now : Nat} {queue next : Queue WakeHeap τ ρ} {job : Job τ}

/-- The tasks that wait to be run, wherever they do. -/
def waiting (queue : Queue WakeHeap τ ρ) : List τ :=
  queue.ready.map Job.task ++ (DelayLine.toList queue.delayed).map Job.task ++ queue.inbox

theorem unfinished_of_exit (ended : queue.exit?.isSome) : queue.unfinished = [] :=
  if_pos ended

theorem unfinished_of_running {run : ρ} (running : queue.phase = .running job run) :
    queue.unfinished = job.task :: queue.waiting := by
  simp [unfinished, waiting, exit?, current?, running]

theorem unfinished_of_awake (awake : queue.phase = .awake) : queue.unfinished = queue.waiting := by
  simp [unfinished, waiting, exit?, current?, awake]

theorem unfinished_of_parked (parked : queue.phase = .parked) :
    queue.unfinished = queue.waiting := by
  simp [unfinished, waiting, exit?, current?, parked]

theorem unfinished_goOn {run : ρ} (running : queue.phase = .running job run) (later : ρ) :
    (queue.runOn job later).unfinished = queue.unfinished := by
  have same : (queue.runOn job later).phase = .running job later := rfl
  rw [unfinished_of_running running, unfinished_of_running same]
  rfl

@[simp]
theorem waiting_runOn (queue : Queue WakeHeap τ ρ) (job : Job τ) (run : ρ) :
    (queue.runOn job run).waiting = queue.waiting := rfl

@[simp]
theorem unfinished_create (settings : Settings) :
    (create settings : Queue WakeHeap τ ρ).unfinished = [] := rfl

/-! ### From outside -/

theorem submit?_eq_none {task : τ} : queue.submit? task = none ↔ queue.exit?.isSome := by
  unfold submit?
  split <;> simp_all

theorem submit?_eq_some {task : τ} :
    queue.submit? task = some next ↔
      queue.exit? = none ∧ next = { queue with inbox := queue.inbox ++ [task] } := by
  unfold submit?
  cases queue.exit? with
  | none => simp only [Option.isSome_none, Bool.false_eq_true, if_false, Option.some.injEq,
      true_and, eq_comm]
  | some => simp

theorem unfinished_submit? {task : τ} (submitted : queue.submit? task = some next) :
    next.unfinished = queue.unfinished ++ [task] := by
  obtain ⟨alive, rfl⟩ := submit?_eq_some.mp submitted
  have same : ({ queue with inbox := queue.inbox ++ [task] } : Queue WakeHeap τ ρ).exit? = none :=
    alive
  simp [unfinished, same, alive, current?]

/-! ### The turns of the worker -/

/-- A job is only started when nobody told the worker to stop. It is the first of those that are
ready or due. -/
theorem turn_start {δ : Type → Type} [DelayLine δ] {queue next : Queue δ τ ρ}
    (started : queue.turn now = .start job next) :
    queue.phase = .awake ∧ queue.stop = none ∧
      queue.ready ++ (DelayLine.takeDue now queue.delayed).1 = job :: next.ready ∧
      next = { queue with
        ready := next.ready, delayed := (DelayLine.takeDue now queue.delayed).2 } := by
  unfold turn at started
  cases phase : queue.phase with
  | awake =>
    simp only [phase, lookAround] at started
    cases runnable : queue.ready ++ (DelayLine.takeDue now queue.delayed).1 with
    | nil =>
      simp only [runnable] at started
      split at started <;> cases started
    | cons first ready =>
      cases stop : queue.stop with
      | none =>
        simp only [runnable, stop] at started
        cases started
        exact ⟨rfl, rfl, rfl, rfl⟩
      | some => simp [runnable, stop] at started
  | parked =>
    simp only [phase, waitAround] at started
    split at started
    · cases started
    · split at started
      · cases started
      · split at started <;> cases started
  | running => simp [phase] at started
  | exited => simp [phase] at started

theorem start_frame (started : queue.turn now = .start job next) :
    next.phase = .awake ∧ next.settings = queue.settings ∧ next.stop = queue.stop ∧
      next.inbox = queue.inbox ∧ next.delayed = (DelayLine.takeDue now queue.delayed).2 := by
  obtain ⟨phase, -, -, shape⟩ := turn_start started
  rw [shape]
  exact ⟨phase, rfl, rfl, rfl, rfl⟩

theorem exit?_start (started : queue.turn now = .start job next) : queue.exit? = none := by
  simp [exit?, (turn_start started).1]

/-- Without running anything a worker parks when there is nothing to run, receives one submission,
or wakes up for what is due. -/
theorem turn_move (moved : queue.turn now = .move next) :
    (queue.phase = .awake ∧ queue.ready = [] ∧ (DelayLine.takeDue now queue.delayed).1 = [] ∧
      next = { queue with
        delayed := (DelayLine.takeDue now queue.delayed).2, phase := .parked }) ∨
    (queue.phase = .parked ∧ ∃ task inbox, queue.inbox = task :: inbox ∧
      next = { queue with
        inbox := inbox, ready := queue.ready ++ [⟨task, 0⟩], phase := .awake }) ∨
    (queue.phase = .parked ∧ (DelayLine.nextWake? queue.delayed).any (· ≤ now) ∧
      next = { queue with phase := .awake }) := by
  unfold turn at moved
  cases phase : queue.phase with
  | awake =>
    simp only [phase, lookAround] at moved
    cases runnable : queue.ready ++ (DelayLine.takeDue now queue.delayed).1 with
    | nil =>
      obtain ⟨noReady, noDue⟩ := List.append_eq_nil_iff.mp runnable
      simp only [runnable] at moved
      split at moved
      · cases moved
      · cases moved
        exact .inl ⟨rfl, noReady, noDue, rfl⟩
    | cons first ready =>
      simp only [runnable] at moved
      split at moved <;> cases moved
  | parked =>
    simp only [phase, waitAround] at moved
    split at moved
    · cases moved
    · split at moved
      · rename_i task inbox submissions
        cases moved
        exact .inr (.inl ⟨rfl, task, inbox, submissions, rfl⟩)
      · split at moved
        · rename_i due
          cases moved
          exact .inr (.inr ⟨rfl, due, rfl⟩)
        · cases moved
  | running => simp [phase] at moved
  | exited => simp [phase] at moved

/-- A worker leaves when it is told to stop, with the first ready job in hand if it has looked for
one, or when nothing is left and nothing can come. -/
theorem turn_leave {exit : Exit τ} (left : queue.turn now = .leave exit next) :
    (queue.phase = .parked ∧ queue.stop.isSome ∧ exit.inHand? = none ∧ next = queue) ∨
    (queue.phase = .awake ∧ (queue.stop.isSome ∨ queue.sealed) ∧
      queue.ready ++ (DelayLine.takeDue now queue.delayed).1 =
        exit.inHand?.toList ++ next.ready ∧
      next = { queue with
        ready := next.ready, delayed := (DelayLine.takeDue now queue.delayed).2 }) := by
  unfold turn at left
  cases phase : queue.phase with
  | awake =>
    simp only [phase, lookAround] at left
    cases runnable : queue.ready ++ (DelayLine.takeDue now queue.delayed).1 with
    | nil =>
      have noReady := (List.append_eq_nil_iff.mp runnable).1
      simp only [runnable] at left
      split at left
      · rename_i drained
        simp only [Bool.and_eq_true] at drained
        cases left
        exact .inr ⟨rfl, .inr drained.1, noReady.symm, rfl⟩
      · cases left
    | cons first ready =>
      cases stop : queue.stop with
      | none => simp [runnable, stop] at left
      | some =>
        simp only [runnable, stop] at left
        cases left
        exact .inr ⟨rfl, .inl rfl, rfl, rfl⟩
  | parked =>
    cases stop : queue.stop with
    | none =>
      simp only [phase, waitAround, stop] at left
      split at left
      · cases left
      · split at left <;> cases left
    | some =>
      simp only [phase, waitAround, stop] at left
      cases left
      exact .inl ⟨rfl, rfl, rfl, rfl⟩
  | running => simp [phase] at left
  | exited => simp [phase] at left

/-- A worker that is alive, was not told to stop and runs nothing is at rest only when it is
parked, with nothing to receive and nothing due. -/
theorem turn_rest (rest : queue.turn now = .rest) (alive : queue.exit? = none)
    (idle : ∀ job run, queue.phase ≠ .running job run) :
    queue.phase = .parked ∧ queue.stop = none ∧ queue.inbox = [] ∧
      ∀ wakeAt, DelayLine.nextWake? queue.delayed = some wakeAt → now < wakeAt := by
  unfold turn at rest
  cases phase : queue.phase with
  | awake =>
    simp only [phase, lookAround] at rest
    split at rest
    · split at rest <;> cases rest
    · split at rest <;> cases rest
  | parked =>
    simp only [phase, waitAround] at rest
    split at rest
    · cases rest
    · rename_i going
      split at rest
      · cases rest
      · rename_i empty
        split at rest
        · cases rest
        · rename_i notDue
          refine ⟨rfl, going, empty, fun wakeAt wakes => ?_⟩
          simpa [wakes] using notDue
  | running => exact absurd phase (idle _ _)
  | exited => simp [exit?, phase] at alive

end Queue

end ReplicaSet
