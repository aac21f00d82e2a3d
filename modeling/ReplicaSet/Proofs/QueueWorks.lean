import ReplicaSet.Proofs.HeapOrder
import ReplicaSet.Proofs.QueueMoves

/-!
All that a worker can do, and what stays true of a queue whatever it does: no task comes from
nowhere, and nothing is put off for longer than the retry delay.
-/
namespace ReplicaSet.Queue

variable {τ ρ : Type} {now : Nat} {queue next : Queue WakeHeap τ ρ} {job : Job τ}
  {outcome : Outcome}

/-! ### The end of a run -/

theorem waiting_receive : queue.receive.waiting.Perm queue.waiting := by
  simp only [waiting, receive, List.map_append, List.map_map, Function.comp_def, List.map_id',
    List.append_nil, List.append_assoc]
  exact List.perm_append_comm.append_left _

theorem conclude_done : (queue.conclude now job .done).2 = { queue with phase := .awake }.receive :=
  rfl

theorem conclude_retry {δ : Type → Type} [DelayLine δ] {queue : Queue δ τ ρ}
    (may : queue.isSpent (job.attempts + 1) = false) :
    (queue.conclude now job .retry).2 =
      receive { queue with
        phase := .awake
        delayed := DelayLine.putOff (now + queue.settings.retryDelay)
          ⟨job.task, job.attempts + 1⟩ queue.delayed } := by
  have may' : isSpent ({ queue with phase := .awake } : Queue δ τ ρ) (job.attempts + 1) = false :=
    may
  simp [conclude, may']

theorem isSpent_of_unbounded (unbounded : queue.settings.maxAttempts = none) (attempts : Nat) :
    queue.isSpent attempts = false := by
  simp [isSpent, unbounded]

theorem conclude_spent {δ : Type → Type} [DelayLine δ] {queue : Queue δ τ ρ}
    (spent : queue.isSpent (job.attempts + 1) = true) :
    (queue.conclude now job .retry).2 = { queue with phase := .awake }.receive := by
  have spent' : isSpent ({ queue with phase := .awake } : Queue δ τ ρ) (job.attempts + 1) = true :=
    spent
  simp [conclude, spent']

/-- After a run the worker is awake, and only the places of tasks have changed. -/
theorem conclude_frame (queue : Queue WakeHeap τ ρ) (now : Nat) (job : Job τ) (outcome : Outcome) :
    (queue.conclude now job outcome).2.phase = .awake ∧
      (queue.conclude now job outcome).2.settings = queue.settings ∧
      (queue.conclude now job outcome).2.stop = queue.stop ∧
      (queue.conclude now job outcome).2.inbox = [] := by
  cases outcome with
  | done => exact ⟨rfl, rfl, rfl, rfl⟩
  | retry =>
    cases spent : queue.isSpent (job.attempts + 1) with
    | false => rw [conclude_retry spent]; exact ⟨rfl, rfl, rfl, rfl⟩
    | true => rw [conclude_spent spent]; exact ⟨rfl, rfl, rfl, rfl⟩

theorem unfinished_conclude :
    (queue.conclude now job outcome).2.unfinished = (queue.conclude now job outcome).2.waiting :=
  unfinished_of_awake (conclude_frame queue now job outcome).1

theorem waiting_conclude_done : (queue.conclude now job .done).2.waiting.Perm queue.waiting :=
  waiting_receive

theorem waiting_conclude_retry (may : queue.isSpent (job.attempts + 1) = false) :
    (queue.conclude now job .retry).2.waiting.Perm (job.task :: queue.waiting) := by
  rw [conclude_retry may]
  refine waiting_receive.trans ?_
  have contents := (WakeHeap.entries_putOff (now + queue.settings.retryDelay)
    (⟨job.task, job.attempts + 1⟩ : Job τ) queue.delayed).map (Job.task ∘ Waiting.item)
  simp only [List.map_cons, Function.comp_apply] at contents
  simp only [waiting, WakeHeap.toList_eq, List.map_map]
  exact ((contents.append_left _).append_right _).trans (List.perm_middle.append_right _)

theorem waiting_conclude :
    (queue.conclude now job outcome).2.waiting.Subperm (job.task :: queue.waiting) := by
  have dropped : ({ queue with phase := .awake } : Queue WakeHeap τ ρ).receive.waiting.Subperm
      queue.waiting := waiting_receive.subperm
  cases outcome with
  | done => exact dropped.trans (List.sublist_cons_self _ _).subperm
  | retry =>
    cases spent : queue.isSpent (job.attempts + 1) with
    | false => exact (waiting_conclude_retry spent).subperm
    | true =>
      rw [conclude_spent spent]
      exact dropped.trans (List.sublist_cons_self _ _).subperm

theorem entries_conclude {entry : Waiting (Job τ)}
    (member : entry ∈ (queue.conclude now job outcome).2.delayed.entries) :
    entry ∈ queue.delayed.entries ∨ outcome = .retry ∧ entry.item.task = job.task := by
  cases outcome with
  | done => exact .inl member
  | retry =>
    cases spent : queue.isSpent (job.attempts + 1) with
    | true =>
      rw [conclude_spent spent] at member
      exact .inl member
    | false =>
      rw [conclude_retry spent] at member
      rcases List.mem_cons.mp ((WakeHeap.entries_putOff _ _ _).mem_iff.mp member) with rfl | old
      · exact .inr ⟨rfl, rfl⟩
      · exact .inl old

/-! ### All that a worker can do -/

/-- A worker that looks for what is due and takes some jobs in hand leaves all others waiting. -/
theorem waiting_looked {inHand ready : List (Job τ)}
    (taken : queue.ready ++ (DelayLine.takeDue now queue.delayed).1 = inHand ++ ready) :
    queue.waiting.Perm (inHand.map Job.task ++ waiting { queue with
      ready := ready, delayed := (DelayLine.takeDue now queue.delayed).2 }) := by
  obtain ⟨due, items, -, contents⟩ := WakeHeap.takeDue_spec now queue.delayed
  have delayed := contents.map (Job.task ∘ Waiting.item)
  have tasks := congrArg (List.map Job.task) taken
  rw [items] at tasks
  simp only [List.map_append, List.map_map] at delayed tasks
  simp only [waiting, WakeHeap.toList_eq, List.map_map]
  rw [← List.append_assoc, ← List.append_assoc, ← tasks]
  simpa only [List.append_assoc] using (delayed.symm.append_left _).append_right queue.inbox

theorem waiting_start (started : queue.turn now = .start job next) :
    queue.waiting.Perm (job.task :: next.waiting) := by
  obtain ⟨-, -, taken, shape⟩ := turn_start started
  have inHand : queue.ready ++ (DelayLine.takeDue now queue.delayed).1 = [job] ++ next.ready := taken
  rw [shape]
  exact waiting_looked inHand

/-- What a worker has in hand when it leaves was waiting. -/
theorem waiting_leave {exit : Exit τ} (left : queue.turn now = .leave exit next) :
    queue.waiting.Perm (exit.inHand?.toList.map Job.task ++ next.waiting) := by
  rcases turn_leave left with ⟨-, -, nothing, rfl⟩ | ⟨-, -, taken, shape⟩
  · rw [nothing]
    exact .refl _
  · rw [shape]
    exact waiting_looked taken

theorem waiting_move (moved : queue.turn now = .move next) :
    next.waiting.Perm queue.waiting := by
  rcases turn_move moved with ⟨-, noReady, noDue, rfl⟩ | ⟨-, task, inbox, submissions, rfl⟩ |
    ⟨-, -, rfl⟩
  · have nothing : queue.ready ++ (DelayLine.takeDue now queue.delayed).1 = [] ++ queue.ready := by
      rw [noDue, List.append_nil, List.nil_append]
    exact (waiting_looked nothing).symm
  · simp only [waiting, submissions, List.map_append, List.map_cons, List.map_nil,
      List.append_assoc]
    exact (List.perm_append_comm_assoc _ _ _).append_left _
  · exact .refl _

theorem exit?_move (moved : queue.turn now = .move next) :
    queue.exit? = none ∧ next.exit? = none := by
  rcases turn_move moved with ⟨phase, -, -, rfl⟩ | ⟨phase, task, inbox, submissions, rfl⟩ |
    ⟨phase, -, rfl⟩ <;> simp [exit?, phase]

theorem unfinished_move (moved : queue.turn now = .move next) :
    next.unfinished.Perm queue.unfinished := by
  have contents := waiting_move moved
  rcases turn_move moved with ⟨phase, -, -, rfl⟩ | ⟨phase, task, inbox, submissions, rfl⟩ |
    ⟨phase, -, rfl⟩
  · rwa [unfinished_of_awake phase, unfinished_of_parked rfl]
  · rwa [unfinished_of_parked phase, unfinished_of_awake rfl]
  · rwa [unfinished_of_parked phase, unfinished_of_awake rfl]

theorem unfinished_start (started : queue.turn now = .start job next) :
    queue.unfinished.Perm (job.task :: next.waiting) := by
  rw [unfinished_of_awake (turn_start started).1]
  exact waiting_start started

/-- What the worker makes of the queue in one move at the instant `now`, whatever a run does. -/
inductive Works (now : Nat) (queue : Queue WakeHeap τ ρ) : Queue WakeHeap τ ρ → Prop
  | move {after : Queue WakeHeap τ ρ} (moved : queue.turn now = .move after) :
      Works now queue after
  | leave {exit : Exit τ} {after : Queue WakeHeap τ ρ} (left : queue.turn now = .leave exit after) :
      Works now queue (after.exitWith exit)
  /-- A run that ends at once. -/
  | run {first : Job τ} {after : Queue WakeHeap τ ρ} (started : queue.turn now = .start first after)
      (result : Outcome) : Works now queue (after.conclude now first result).2
  | start {first : Job τ} {after : Queue WakeHeap τ ρ}
      (started : queue.turn now = .start first after) (run : ρ) :
      Works now queue (after.runOn first run)
  | goOn {current : Job τ} {run : ρ} (running : queue.phase = .running current run) (later : ρ) :
      Works now queue (queue.runOn current later)
  | conclude {current : Job τ} {run : ρ} (running : queue.phase = .running current run)
      (result : Outcome) : Works now queue (queue.conclude now current result).2
  | breakOff {current : Job τ} {run : ρ} (running : queue.phase = .running current run)
      (exit : Exit τ) : Works now queue (queue.exitWith exit)

/-- Whatever the worker does, each task that is not finished afterwards was not before. -/
theorem Works.unfinished_subperm (works : queue.Works now next) :
    next.unfinished.Subperm queue.unfinished := by
  cases works with
  | move moved => exact (unfinished_move moved).subperm
  | leave left => exact List.nil_subperm
  | run started outcome =>
    rw [unfinished_conclude]
    exact waiting_conclude.trans (unfinished_start started).symm.subperm
  | @start job taken started run =>
    have running : (taken.runOn job run).phase = .running job run := rfl
    rw [unfinished_of_running running]
    exact (unfinished_start started).symm.subperm
  | goOn running later => exact (unfinished_goOn running later).symm ▸ List.Subperm.refl _
  | conclude running outcome =>
    rw [unfinished_conclude, unfinished_of_running running]
    exact waiting_conclude
  | breakOff running exit => exact List.nil_subperm

theorem Works.frame (works : queue.Works now next) :
    next.settings = queue.settings ∧ next.stop = queue.stop := by
  cases works with
  | move moved =>
    rcases turn_move moved with ⟨-, -, -, rfl⟩ | ⟨-, _, _, -, rfl⟩ | ⟨-, -, rfl⟩ <;> exact ⟨rfl, rfl⟩
  | leave left =>
    rcases turn_leave left with ⟨-, -, -, rfl⟩ | ⟨-, -, -, shape⟩
    · exact ⟨rfl, rfl⟩
    · have settings := congrArg Queue.settings shape
      have stop := congrArg Queue.stop shape
      exact ⟨settings, stop⟩
  | run started outcome =>
    obtain ⟨-, settings, stop, -⟩ := conclude_frame _ _ _ _
    obtain ⟨-, settingsBefore, stopBefore, -⟩ := start_frame started
    exact ⟨settings.trans settingsBefore, stop.trans stopBefore⟩
  | start started run =>
    obtain ⟨-, settings, stop, -⟩ := start_frame started
    exact ⟨settings, stop⟩
  | goOn running later => exact ⟨rfl, rfl⟩
  | conclude running outcome =>
    obtain ⟨-, settings, stop, -⟩ := conclude_frame _ _ _ _
    exact ⟨settings, stop⟩
  | breakOff running exit => exact ⟨rfl, rfl⟩

theorem Works.alive (works : queue.Works now next) : queue.exit? = none := by
  cases works with
  | move moved => exact (exit?_move moved).1
  | leave left => rcases turn_leave left with ⟨phase, -⟩ | ⟨phase, -⟩ <;> simp [exit?, phase]
  | run started => exact exit?_start started
  | start started => exact exit?_start started
  | goOn running => simp [exit?, running]
  | conclude running => simp [exit?, running]
  | breakOff running => simp [exit?, running]

/-! ### What stays true -/

/-- A queue as it is at the instant `now`: its delayed jobs are in order, none waits for longer
than the retry delay, a parked worker left nothing ready behind, and the worker does not think
that its owner is gone when it is not. -/
structure Regular (now : Nat) (queue : Queue WakeHeap τ ρ) : Prop where
  ordered : queue.delayed.heap.Ordered
  wakeAt_le : ∀ entry ∈ queue.delayed.entries, entry.wakeAt ≤ now + queue.settings.retryDelay
  parked : queue.phase = .parked → queue.ready = []
  owned : queue.sealed = true → queue.stop = some .handleDropped

namespace Regular

theorem create (settings : Settings) (now : Nat) :
    (Queue.create settings : Queue WakeHeap τ ρ).Regular now where
  ordered := trivial
  wakeAt_le := by simp [Queue.create]
  parked := by simp [Queue.create]
  owned := by simp [Queue.create]

theorem later (regular : queue.Regular now) {time : Nat} (later : now ≤ time) :
    queue.Regular time where
  ordered := regular.ordered
  wakeAt_le entry member := by
    have bound := regular.wakeAt_le entry member
    omega
  parked := regular.parked
  owned := regular.owned

theorem submit? (regular : queue.Regular now) {task : τ}
    (submitted : queue.submit? task = some next) : next.Regular now := by
  obtain ⟨-, rfl⟩ := submit?_eq_some.mp submitted
  exact ⟨regular.ordered, regular.wakeAt_le, regular.parked, regular.owned⟩

theorem tellToStop (regular : queue.Regular now) (cause : StopCause) :
    (queue.tellToStop cause).Regular now where
  ordered := regular.ordered
  wakeAt_le := regular.wakeAt_le
  parked := regular.parked
  owned isSealed := by simp [Queue.tellToStop, regular.owned isSealed]

theorem takeDue (regular : queue.Regular now) :
    (DelayLine.takeDue now queue.delayed).2.heap.Ordered ∧
      ∀ entry ∈ (DelayLine.takeDue now queue.delayed).2.entries,
        entry.wakeAt ≤ now + queue.settings.retryDelay := by
  refine ⟨Heap.ordered_takeDue regular.ordered _ _, fun entry stays => ?_⟩
  exact regular.wakeAt_le entry (WakeHeap.mem_of_takeDue stays)

theorem start (regular : queue.Regular now) (started : queue.turn now = .start job next) :
    next.Regular now := by
  obtain ⟨phase, -, -, shape⟩ := turn_start started
  obtain ⟨ordered, bound⟩ := regular.takeDue
  rw [shape]
  exact ⟨ordered, bound, by simp [phase], regular.owned⟩

theorem conclude (regular : queue.Regular now) (outcome : Outcome) :
    (queue.conclude now job outcome).2.Regular now := by
  have owned : (queue.sealed || queue.stop = some .handleDropped) = true →
      queue.stop = some .handleDropped := by
    intro isSealed
    rcases Bool.or_eq_true_iff.mp isSealed with before | told
    · exact regular.owned before
    · exact of_decide_eq_true told
  have dropped : ({ queue with phase := .awake } : Queue WakeHeap τ ρ).receive.Regular now :=
    ⟨regular.ordered, regular.wakeAt_le, by simp [receive], owned⟩
  cases outcome with
  | done => exact dropped
  | retry =>
    cases spent : queue.isSpent (job.attempts + 1) with
    | true => rw [conclude_spent spent]; exact dropped
    | false =>
      rw [conclude_retry spent]
      refine ⟨Heap.ordered_insert regular.ordered _, ?_, by simp [receive], owned⟩
      intro entry member
      rcases List.mem_cons.mp ((WakeHeap.entries_putOff _ _ _).mem_iff.mp member) with rfl | old
      · exact le_rfl
      · exact regular.wakeAt_le entry old

theorem works (regular : queue.Regular now) (works : queue.Works now next) :
    next.Regular now := by
  obtain ⟨ordered, bound⟩ := regular.takeDue
  cases works with
  | move moved =>
    rcases turn_move moved with ⟨-, noReady, -, rfl⟩ | ⟨-, _, _, -, rfl⟩ | ⟨-, -, rfl⟩
    · exact ⟨ordered, bound, fun _ => noReady, regular.owned⟩
    · exact ⟨regular.ordered, regular.wakeAt_le, by simp, regular.owned⟩
    · exact ⟨regular.ordered, regular.wakeAt_le, by simp, regular.owned⟩
  | leave left =>
    rcases turn_leave left with ⟨-, -, -, rfl⟩ | ⟨-, -, -, shape⟩
    · exact ⟨regular.ordered, regular.wakeAt_le, by simp [exitWith], regular.owned⟩
    · rw [shape]
      exact ⟨ordered, bound, by simp [exitWith], regular.owned⟩
  | run started outcome => exact (regular.start started).conclude outcome
  | start started run =>
    have taken := regular.start started
    exact ⟨taken.ordered, taken.wakeAt_le, by simp [runOn], taken.owned⟩
  | goOn => exact ⟨regular.ordered, regular.wakeAt_le, by simp [runOn], regular.owned⟩
  | conclude running outcome => exact regular.conclude outcome
  | breakOff => exact ⟨regular.ordered, regular.wakeAt_le, by simp [exitWith], regular.owned⟩

end Regular

end ReplicaSet.Queue
