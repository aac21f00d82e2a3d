import ReplicaSet.Proofs.QueueWorks

/-!
What happens to a queue in the course of time: which tasks are handed in, received, run and done
with, each at its instant. No move of the worker loses a task or takes one from nowhere
(`Does.held_perm`).
-/
namespace ReplicaSet

namespace Queue

variable {τ ρ : Type} {now start time : Nat} {queue first next later : Queue WakeHeap τ ρ}
  {job : Job τ} {task : τ}

/-! ### Where tasks are -/

/-- If all that came in is held or has come out, then that stays so in a step in which what is held
before and what is new is held afterwards or comes out. -/
theorem balance_next {α : Type} {held left cameOut comesOut cameIn new : List α}
    (balance : (held ++ cameOut).Perm cameIn) (step : (left ++ comesOut).Perm (held ++ new)) :
    (left ++ (cameOut ++ comesOut)).Perm (cameIn ++ new) := by
  have swap (one two three : List α) : (one ++ two ++ three).Perm (one ++ three ++ two) := by
    simpa only [List.append_assoc] using List.perm_append_comm.append_left one
  rw [← List.append_assoc]
  exact (swap left cameOut comesOut).trans ((step.append_right cameOut).trans
    ((swap held new cameOut).trans (balance.append_right new)))

/-- The tasks that are left behind by a worker that has come to its end. -/
def abandoned (queue : Queue WakeHeap τ ρ) : List τ :=
  match queue.exit? with
  | none => []
  | some exit => exit.inHand?.toList.map Job.task ++ queue.waiting

/-- All tasks of a queue, whether its worker is alive or not. -/
def held (queue : Queue WakeHeap τ ρ) : List τ :=
  queue.unfinished ++ queue.abandoned

theorem held_of_alive (alive : queue.exit? = none) : queue.held = queue.unfinished := by
  simp [held, abandoned, alive]

theorem held_of_awake (awake : queue.phase = .awake) : queue.held = queue.waiting := by
  have alive : queue.exit? = none := by simp [exit?, awake]
  rw [held_of_alive alive, unfinished_of_awake awake]

theorem held_of_parked (parked : queue.phase = .parked) : queue.held = queue.waiting := by
  have alive : queue.exit? = none := by simp [exit?, parked]
  rw [held_of_alive alive, unfinished_of_parked parked]

theorem held_of_running {run : ρ} (running : queue.phase = .running job run) :
    queue.held = job.task :: queue.waiting := by
  have alive : queue.exit? = none := by simp [exit?, running]
  rw [held_of_alive alive, unfinished_of_running running]

theorem held_goOn {run : ρ} (running : queue.phase = .running job run) (later : ρ) :
    (queue.runOn job later).held = queue.held := by
  have goesOn : (queue.runOn job later).phase = .running job later := rfl
  rw [held_of_running running, held_of_running goesOn, waiting_runOn]

theorem held_exitWith (queue : Queue WakeHeap τ ρ) (exit : Exit τ) :
    (queue.exitWith exit).held = exit.inHand?.toList.map Job.task ++ queue.waiting := by
  simp [held, abandoned, unfinished, exit?, exitWith, waiting]

@[simp]
theorem held_create (settings : Settings) :
    (create settings : Queue WakeHeap τ ρ).held = [] := rfl

theorem held_submit? (submitted : queue.submit? task = some next) :
    next.held = queue.held ++ [task] := by
  have contents := unfinished_submit? submitted
  obtain ⟨alive, rfl⟩ := submit?_eq_some.mp submitted
  rw [held_of_alive alive, ← contents]
  exact held_of_alive alive

/-- What is started was in the queue. -/
theorem mem_held_of_start (started : queue.turn now = .start job next) : job.task ∈ queue.held := by
  rw [held_of_awake (turn_start started).1]
  exact (waiting_start started).mem_iff.mpr List.mem_cons_self

theorem mem_held_of_running {run : ρ} (running : queue.phase = .running job run) :
    job.task ∈ queue.held := by
  rw [held_of_running running]
  exact List.mem_cons_self

/-! ### What the worker does -/

/-- What is told of a queue. -/
inductive Mark (τ : Type) where
  | submitted (task : τ)
  /-- The worker took the task out of the inbox. -/
  | received (task : τ)
  /-- The worker made ready what was due. -/
  | looked
  | started (job : Job τ)
  | ended (job : Job τ) (verdict : Verdict)
  | left (exit : Exit τ)
deriving DecidableEq, Repr

namespace Mark

def submitted? : Mark τ → Option τ
  | submitted task => some task
  | _ => none

/-- The task that is done with, for better or worse. -/
def finished? : Mark τ → Option τ
  | ended job .completed | ended job .gaveUp => some job.task
  | _ => none

end Mark

/-- What is told of the end of a run, and of the submissions that are received after it. -/
def closing (queue : Queue WakeHeap τ ρ) (now : Nat) (job : Job τ) (outcome : Outcome) :
    List (Mark τ) :=
  .ended job (queue.conclude now job outcome).1 :: queue.inbox.map .received

/-- What the worker does in one move at the instant `now`, and what is told of it. A run takes no
time, or it is gone on with until it comes to its end or the worker to its own. -/
inductive Does (now : Nat) (queue : Queue WakeHeap τ ρ) :
    List (Mark τ) → Queue WakeHeap τ ρ → Prop
  | park (awake : queue.phase = .awake) (noReady : queue.ready = [])
      (noDue : (DelayLine.takeDue now queue.delayed).1 = [])
      (moved : queue.turn now = .move { queue with
        delayed := (DelayLine.takeDue now queue.delayed).2, phase := .parked }) :
      Does now queue [.looked] { queue with
        delayed := (DelayLine.takeDue now queue.delayed).2, phase := .parked }
  | receive {task : τ} {inbox : List τ} (parked : queue.phase = .parked)
      (submissions : queue.inbox = task :: inbox)
      (moved : queue.turn now = .move { queue with
        inbox := inbox, ready := queue.ready ++ [⟨task, 0⟩], phase := .awake }) :
      Does now queue [.received task] { queue with
        inbox := inbox, ready := queue.ready ++ [⟨task, 0⟩], phase := .awake }
  | wake (parked : queue.phase = .parked)
      (moved : queue.turn now = .move { queue with phase := .awake }) :
      Does now queue [] { queue with phase := .awake }
  | leave {exit : Exit τ} {after : Queue WakeHeap τ ρ} (left : queue.turn now = .leave exit after) :
      Does now queue [.left exit] (after.exitWith exit)
  | run {current : Job τ} {after : Queue WakeHeap τ ρ}
      (started : queue.turn now = .start current after) (outcome : Outcome) :
      Does now queue (.looked :: .started current :: after.closing now current outcome)
        (after.conclude now current outcome).2
  | start {current : Job τ} {after : Queue WakeHeap τ ρ}
      (started : queue.turn now = .start current after) (run : ρ) :
      Does now queue [.looked, .started current] (after.runOn current run)
  | goOn {current : Job τ} {run : ρ} (running : queue.phase = .running current run) (later : ρ) :
      Does now queue [] (queue.runOn current later)
  | conclude {current : Job τ} {run : ρ} (running : queue.phase = .running current run)
      (outcome : Outcome) :
      Does now queue (queue.closing now current outcome) (queue.conclude now current outcome).2
  | breakOff {current : Job τ} {run : ρ} (running : queue.phase = .running current run)
      {exit : Exit τ} (inHand : exit.inHand? = some current) :
      Does now queue [.left exit] (queue.exitWith exit)

theorem Does.works {news : List (Mark τ)} (does : queue.Does now news next) :
    queue.Works now next := by
  cases does with
  | park _ _ _ moved | receive _ _ moved | wake _ moved => exact .move moved
  | leave left => exact .leave left
  | run started outcome => exact .run started outcome
  | start started run => exact .start started run
  | goOn running later => exact .goOn running later
  | conclude running outcome => exact .conclude running outcome
  | breakOff running _ => exact .breakOff running _

/-- What is told of a move by which no run begins. -/
def moveMarks {δ : Type → Type} (queue : Queue δ τ ρ) : List (Mark τ) :=
  match queue.phase, queue.inbox with
  | .awake, _ => [.looked]
  | .parked, task :: _ => [.received task]
  | _, _ => []

/-- A worker that wakes up for what is due has nothing to receive. -/
theorem inbox_of_wake (parked : queue.phase = .parked)
    (woken : queue.turn now = .move { queue with phase := .awake }) : queue.inbox = [] := by
  cases inbox : queue.inbox with
  | nil => rfl
  | cons task rest =>
    simp only [turn, parked, waitAround, inbox] at woken
    cases stop : queue.stop with
    | some cause => simp [stop] at woken
    | none => simp [stop] at woken

theorem does_moveMarks (moved : queue.turn now = .move next) :
    queue.Does now queue.moveMarks next := by
  rcases turn_move moved with ⟨awake, noReady, noDue, rfl⟩ |
    ⟨parked, task, inbox, submissions, rfl⟩ | ⟨parked, -, rfl⟩
  · have looked : queue.moveMarks = [.looked] := by simp only [moveMarks, awake]
    exact looked ▸ .park awake noReady noDue moved
  · have received : queue.moveMarks = [.received task] := by
      simp only [moveMarks, parked, submissions]
    exact received ▸ .receive parked submissions moved
  · have silent : queue.moveMarks = [] := by
      simp only [moveMarks, parked, inbox_of_wake parked moved]
    exact silent ▸ .wake parked moved

theorem mem_moveMarks {mark : Mark τ} (told : mark ∈ queue.moveMarks) :
    mark = .looked ∨ ∃ task, mark = .received task := by
  unfold moveMarks at told
  split at told
  · exact .inl (List.mem_singleton.mp told)
  · exact .inr ⟨_, List.mem_singleton.mp told⟩
  · cases told

/-- Each move without a run is one of those that are told apart. -/
theorem does_move (moved : queue.turn now = .move next) :
    ∃ news, queue.Does now news next ∧ ∀ mark ∈ news, mark = .looked ∨ ∃ task, mark = .received task :=
  ⟨_, does_moveMarks moved, fun _ => mem_moveMarks⟩

theorem verdict_spent {δ : Type → Type} [DelayLine δ] {queue : Queue δ τ ρ}
    (spent : queue.isSpent (job.attempts + 1) = true) :
    (queue.conclude now job .retry).1 = .gaveUp := by
  have spent' : isSpent ({ queue with phase := .awake } : Queue δ τ ρ) (job.attempts + 1) = true :=
    spent
  simp [conclude, spent']

theorem verdict_retry {δ : Type → Type} [DelayLine δ] {queue : Queue δ τ ρ}
    (may : queue.isSpent (job.attempts + 1) = false) :
    (queue.conclude now job .retry).1 = .putOff := by
  have may' : isSpent ({ queue with phase := .awake } : Queue δ τ ρ) (job.attempts + 1) = false :=
    may
  simp [conclude, may']

/-- What is done with at the end of a run is its task, if anything is. -/
theorem finished?_closing (queue : Queue WakeHeap τ ρ) (now : Nat) (job : Job τ)
    (outcome : Outcome) :
    (queue.closing now job outcome).filterMap Mark.finished? =
      if (queue.conclude now job outcome).1 = .putOff then [] else [job.task] := by
  have received : (queue.inbox.map Mark.received).filterMap Mark.finished? = [] :=
    List.filterMap_eq_nil_iff.mpr fun mark member => by
      obtain ⟨task, -, rfl⟩ := List.mem_map.mp member
      rfl
  rw [closing, List.filterMap_cons, received]
  cases (queue.conclude now job outcome).1 <;> rfl

/-- A task whose run comes to its end is put off, or it is done with. -/
theorem waiting_closing (queue : Queue WakeHeap τ ρ) (now : Nat) (job : Job τ)
    (outcome : Outcome) :
    ((queue.conclude now job outcome).2.waiting ++
      (queue.closing now job outcome).filterMap Mark.finished?).Perm (job.task :: queue.waiting) := by
  rw [finished?_closing]
  cases outcome with
  | done => exact (waiting_conclude_done.append_right _).trans List.perm_append_comm
  | retry =>
    cases spent : queue.isSpent (job.attempts + 1) with
    | true =>
      rw [verdict_spent spent, conclude_spent spent]
      exact (waiting_receive.append_right _).trans List.perm_append_comm
    | false =>
      rw [verdict_retry spent, if_pos rfl, List.append_nil]
      exact waiting_conclude_retry spent

/-- Whatever the worker does, a task stays in the queue or is done with, and no other is there. -/
theorem Does.held_perm {news : List (Mark τ)} (does : queue.Does now news next) :
    (next.held ++ news.filterMap Mark.finished?).Perm queue.held := by
  cases does with
  | park _ _ _ moved | receive _ _ moved | wake _ moved =>
    obtain ⟨alive, stays⟩ := exit?_move moved
    have contents := unfinished_move moved
    rw [held_of_alive alive, held_of_alive stays]
    simpa only [List.filterMap_cons, Mark.finished?, List.filterMap_nil, List.append_nil] using contents
  | leave left =>
    have contents := (waiting_leave left).symm
    have before : queue.held = queue.waiting := by
      rcases turn_leave left with ⟨parked, -⟩ | ⟨awake, -⟩
      · exact held_of_parked parked
      · exact held_of_awake awake
    rw [held_exitWith, before]
    simpa only [List.filterMap_cons, Mark.finished?, List.filterMap_nil, List.append_nil] using contents
  | @run current after started outcome =>
    have contents := waiting_closing after now current outcome
    have taken := waiting_start started
    rw [held_of_awake (conclude_frame after now current outcome).1,
      held_of_awake (turn_start started).1]
    simp only [List.filterMap_cons, Mark.finished?]
    exact contents.trans taken.symm
  | @start current after started run =>
    have running : (after.runOn current run).phase = .running current run := rfl
    have taken := waiting_start started
    rw [held_of_running running, held_of_awake (turn_start started).1]
    simpa only [List.filterMap_cons, Mark.finished?, List.filterMap_nil, List.append_nil,
      waiting_runOn] using taken.symm
  | goOn running later =>
    rw [held_goOn running]
    exact .of_eq (List.append_nil _)
  | @conclude current run running outcome =>
    rw [held_of_awake (conclude_frame queue now current outcome).1, held_of_running running]
    exact waiting_closing queue now current outcome
  | breakOff running inHand =>
    rw [held_exitWith, held_of_running running, inHand]
    simp [List.filterMap_cons, Mark.finished?]

/-! ### The course of time -/

/-- What happens to a queue from one instant on, with what is told of it, oldest first: tasks are
handed in, the worker is told to stop, time passes, and the worker makes one move at a time. -/
inductive Course (start : Nat) (first : Queue WakeHeap τ ρ) :
    List (Nat × Mark τ) → Nat → Queue WakeHeap τ ρ → Prop
  | rest : Course start first [] start first
  | submit {marks : List (Nat × Mark τ)} {now : Nat} {queue next : Queue WakeHeap τ ρ} {task : τ}
      (course : Course start first marks now queue) (submitted : queue.submit? task = some next) :
      Course start first (marks ++ [(now, .submitted task)]) now next
  | tell {marks : List (Nat × Mark τ)} {now : Nat} {queue : Queue WakeHeap τ ρ}
      (course : Course start first marks now queue) (cause : StopCause) :
      Course start first marks now (queue.tellToStop cause)
  | wait {marks : List (Nat × Mark τ)} {now : Nat} {queue : Queue WakeHeap τ ρ}
      (course : Course start first marks now queue) (span : Nat) :
      Course start first marks (now + span) queue
  | work {marks : List (Nat × Mark τ)} {now : Nat} {queue next : Queue WakeHeap τ ρ}
      {news : List (Mark τ)} (course : Course start first marks now queue)
      (does : queue.Does now news next) :
      Course start first (marks ++ news.map fun mark => (now, mark)) now next

/-- What has happened to a queue since it was created. -/
def History (marks : List (Nat × Mark τ)) (now : Nat) (queue : Queue WakeHeap τ ρ) : Prop :=
  ∃ settings start, Course start (create settings) marks now queue

/-- The tasks that were handed in. -/
def submissions (marks : List (Nat × Mark τ)) : List τ :=
  marks.filterMap fun mark => mark.2.submitted?

variable {marks earlier : List (Nat × Mark τ)}

@[simp]
theorem submissions_append (one two : List (Nat × Mark τ)) :
    submissions (one ++ two) = submissions one ++ submissions two :=
  List.filterMap_append

theorem submissions_closing (queue : Queue WakeHeap τ ρ) (now : Nat) (job : Job τ)
    (outcome : Outcome) : (queue.closing now job outcome).filterMap Mark.submitted? = [] := by
  simp [closing, List.filterMap_cons, Mark.submitted?, List.filterMap_eq_nil_iff]

/-- The worker hands in nothing. -/
theorem Does.submissions_eq {news : List (Mark τ)} (does : queue.Does now news next) (time : Nat) :
    submissions (news.map fun mark => (time, mark)) = [] := by
  have silent : news.filterMap Mark.submitted? = [] := by
    cases does with
    | run => simpa [List.filterMap_cons, Mark.submitted?] using submissions_closing _ _ _ _
    | conclude => exact submissions_closing _ _ _ _
    | _ => rfl
  simpa [submissions, List.filterMap_map, Function.comp_def] using silent

theorem Course.regular (course : Course start first marks now queue)
    (regular : first.Regular start) : queue.Regular now := by
  induction course with
  | rest => exact regular
  | submit _ submitted ih => exact ih.submit? submitted
  | tell _ cause ih => exact ih.tellToStop cause
  | wait _ span ih => exact ih.later (Nat.le_add_right _ _)
  | work _ does ih => exact ih.works does.works

end Queue

end ReplicaSet
