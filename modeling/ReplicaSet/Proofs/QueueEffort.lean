import ReplicaSet.Proofs.QueueWorks

/-!
How much a worker can still do at one instant. Every move lowers it, since what is put off is not
due before the instant is over.
-/
namespace ReplicaSet.Queue

variable {τ ρ : Type} {weight : ρ → Nat} {now : Nat} {queue next : Queue WakeHeap τ ρ} {job : Job τ}

/-- The effort that the phase of the worker stands for, where a run that is under way still costs
its weight. A parked worker that has slept long enough has to wake up once more. -/
def phaseEffort (weight : ρ → Nat) (now : Nat) (queue : Queue WakeHeap τ ρ) : Nat :=
  match queue.phase with
  | .awake => 2
  | .parked => if (DelayLine.nextWake? queue.delayed).any (· ≤ now) then 3 else 1
  | .running _ run => weight run
  | .exited _ => 0

/-- How many delayed jobs can be run at the instant. -/
def dueCount (now : Nat) (queue : Queue WakeHeap τ ρ) : Nat :=
  queue.delayed.entries.countP fun entry => entry.wakeAt ≤ now

/-- How much the worker can still do at the instant. What was submitted has to be received and run,
what is ready or due has to be run. -/
def effort (weight : ρ → Nat) (now : Nat) (queue : Queue WakeHeap τ ρ) : Nat :=
  7 * queue.inbox.length + 5 * queue.ready.length + 5 * dueCount now queue +
    phaseEffort weight now queue

theorem dueCount_takeDue (now : Nat) (delayed : WakeHeap (Job τ)) :
    delayed.entries.countP (fun entry => entry.wakeAt ≤ now) =
      (DelayLine.takeDue now delayed).1.length +
        (DelayLine.takeDue now delayed).2.entries.countP (fun entry => entry.wakeAt ≤ now) := by
  obtain ⟨due, items, ripe, contents⟩ := WakeHeap.takeDue_spec now delayed
  have all : due.countP (fun entry => entry.wakeAt ≤ now) = due.length :=
    List.countP_eq_length.mpr fun entry member => decide_eq_true (ripe entry member)
  rw [← contents.countP_eq, List.countP_append, all, items, List.length_map]

theorem effort_move (moved : queue.turn now = .move next) :
    effort weight now next < effort weight now queue := by
  have counted := dueCount_takeDue now queue.delayed
  rcases turn_move moved with ⟨phase, -, -, rfl⟩ | ⟨phase, task, inbox, submissions, rfl⟩ |
    ⟨phase, due, rfl⟩
  · have later : (DelayLine.nextWake? (DelayLine.takeDue now queue.delayed).2).any (· ≤ now) =
        false := by
      cases wakes : DelayLine.nextWake? (DelayLine.takeDue now queue.delayed).2 with
      | none => rfl
      | some wakeAt => simpa using WakeHeap.nextWake?_takeDue wakes
    simp only [effort, dueCount, phaseEffort, phase, later, Bool.false_eq_true, if_false]
    omega
  · simp only [effort, dueCount, phaseEffort, phase, submissions, List.length_append,
      List.length_cons, List.length_nil]
    split <;> omega
  · simp only [effort, dueCount, phaseEffort, phase, due, if_true]
    omega

theorem effort_start (weight : ρ → Nat) (started : queue.turn now = .start job next) :
    effort weight now next + 5 = effort weight now queue := by
  obtain ⟨phase, -, taken, -⟩ := turn_start started
  obtain ⟨awake, -, -, inbox, delayed⟩ := start_frame started
  have counted := dueCount_takeDue now queue.delayed
  have length := congrArg List.length taken
  simp only [List.length_append, List.length_cons] at length
  simp only [effort, dueCount, phaseEffort, phase, awake, inbox, delayed]
  omega

theorem effort_conclude (weight : ρ → Nat) (queue : Queue WakeHeap τ ρ) (now : Nat) (job : Job τ)
    (outcome : Outcome) :
    effort weight now (queue.conclude now job outcome).2 ≤
      7 * queue.inbox.length + 5 * queue.ready.length + 5 * dueCount now queue + 2 := by
  have dropped : effort weight now (receive { queue with phase := .awake }) =
      5 * queue.inbox.length + 5 * queue.ready.length + 5 * dueCount now queue + 2 := by
    simp only [effort, dueCount, phaseEffort, receive, List.length_append, List.length_map,
      List.length_nil]
    omega
  cases outcome with
  | done =>
    rw [conclude_done, dropped]
    omega
  | retry =>
    cases spent : queue.isSpent (job.attempts + 1) with
    | true =>
      rw [conclude_spent spent, dropped]
      omega
    | false =>
      -- The retry delay is not zero, so that what is put off is not due at this instant again.
      have positive := queue.settings.retryDelay_pos
      have contents := WakeHeap.entries_putOff (now + queue.settings.retryDelay)
        (⟨job.task, job.attempts + 1⟩ : Job τ) queue.delayed
      have counted := contents.countP_eq fun entry => entry.wakeAt ≤ now
      have unripe : ¬ now + queue.settings.retryDelay ≤ now := by omega
      rw [List.countP_cons_of_neg (by simpa only [decide_eq_true_eq] using unripe)] at counted
      rw [conclude_retry spent]
      simp only [effort, dueCount, phaseEffort, receive, List.length_append, List.length_map,
        List.length_nil, counted]
      omega

theorem effort_leave {exit : Exit τ} (left : queue.turn now = .leave exit next) :
    effort weight now (next.exitWith exit) < effort weight now queue := by
  have counted := dueCount_takeDue now queue.delayed
  rcases turn_leave left with ⟨phase, -, -, rfl⟩ | ⟨phase, -, taken, shape⟩
  · simp only [effort, dueCount, phaseEffort, phase, exitWith]
    split <;> omega
  · have inbox := congrArg Queue.inbox shape
    have delayed := congrArg Queue.delayed shape
    have length := congrArg List.length taken
    simp only [List.length_append] at inbox delayed length
    simp only [effort, dueCount, phaseEffort, phase, exitWith, inbox, delayed]
    omega

theorem effort_of_awake (awake : queue.phase = .awake) :
    effort weight now queue =
      7 * queue.inbox.length + 5 * queue.ready.length + 5 * dueCount now queue + 2 := by
  simp only [effort, phaseEffort, awake]

theorem effort_of_running {run : ρ} (running : queue.phase = .running job run) :
    effort weight now queue =
      7 * queue.inbox.length + 5 * queue.ready.length + 5 * dueCount now queue + weight run := by
  simp only [effort, phaseEffort, running]

/-- The effort is bounded by the number of jobs in the queue. -/
theorem effort_le (bounds : ∀ run, 2 < weight run ∧ weight run < 7) (now : Nat)
    (queue : Queue WakeHeap τ ρ) :
    effort weight now queue ≤ 7 * (queue.inbox.length + queue.pending) + 6 := by
  have due : dueCount now queue ≤ queue.delayed.entries.length := List.countP_le_length
  have phase : phaseEffort weight now queue ≤ 6 := by
    unfold phaseEffort
    split
    · omega
    · split <;> omega
    · exact Nat.le_of_lt_succ (bounds _).2
    · omega
  simp only [effort, pending, WakeHeap.toList_eq, List.length_map]
  omega

/-- Each move lowers the effort that is left at the instant, if a run that goes on costs less from
move to move. -/
theorem Works.effort_lt (works : queue.Works now next)
    (bounds : ∀ run, 2 < weight run ∧ weight run < 7)
    (goesOn : ∀ job run later, queue.phase = .running job run → next.phase = .running job later →
      weight later < weight run) : effort weight now next < effort weight now queue := by
  cases works with
  | move moved => exact effort_move moved
  | leave left => exact effort_leave left
  | @run first after started outcome =>
    have taken := effort_start weight started
    have ended := effort_conclude weight after now first outcome
    rw [effort_of_awake (start_frame started).1] at taken
    omega
  | @start first after started run =>
    have taken := effort_start weight started
    have costs := (bounds run).2
    have begun : effort weight now (after.runOn first run) =
        7 * after.inbox.length + 5 * after.ready.length + 5 * dueCount now after + weight run := rfl
    rw [effort_of_awake (start_frame started).1] at taken
    omega
  | @goOn current run running later =>
    have lower := goesOn current run later running rfl
    have stays : effort weight now (queue.runOn current later) =
        7 * queue.inbox.length + 5 * queue.ready.length + 5 * dueCount now queue + weight later := rfl
    rw [effort_of_running running]
    omega
  | @conclude current run running outcome =>
    have ended := effort_conclude weight queue now current outcome
    have costs := (bounds run).1
    rw [effort_of_running running]
    omega
  | @breakOff current run running exit =>
    have costs := (bounds run).1
    have ended : effort weight now (queue.exitWith exit) =
        7 * queue.inbox.length + 5 * queue.ready.length + 5 * dueCount now queue + 0 := rfl
    rw [effort_of_running running]
    omega

end ReplicaSet.Queue
