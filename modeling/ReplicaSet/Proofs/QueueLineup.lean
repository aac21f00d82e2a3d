import ReplicaSet.Proofs.HeapFifo
import ReplicaSet.Proofs.QueueHistory

/-!
The tasks of a queue as plain lists that change with each thing that is told of it. Whatever is
told of a queue in the course of time, the lists change in the same way, so that the order in
which tasks are run can be read off the lists.
-/
namespace ReplicaSet.Queue

/-- What a worker is at, as far as it matters for the order of tasks. -/
inductive Worker (τ : Type) where
  | idle
  | busy (job : Job τ)
  | gone

/-- The tasks of a queue, those that are put off in the order in which they were. -/
structure Lineup (τ : Type) where
  inbox : List τ
  worker : Worker τ
  ready : List (Job τ)
  delayed : List (Waiting (Job τ))

namespace Lineup

variable {τ : Type} {delay time : Nat} {lineup first mid next last : Lineup τ} {job : Job τ}
  {mark : Mark τ}

def empty : Lineup τ := ⟨[], .idle, [], []⟩

/-- What one thing that is told makes of the lists, where tasks are put off by the delay. -/
inductive Step (delay time : Nat) (lineup : Lineup τ) : Mark τ → Lineup τ → Prop
  | submitted (task : τ) (alive : lineup.worker ≠ .gone) :
      Step delay time lineup (.submitted task) { lineup with inbox := lineup.inbox ++ [task] }
  | received {task : τ} {inbox : List τ} (idle : lineup.worker = .idle)
      (oldest : lineup.inbox = task :: inbox) :
      Step delay time lineup (.received task)
        { lineup with inbox := inbox, ready := lineup.ready ++ [⟨task, 0⟩] }
  | looked (idle : lineup.worker = .idle) :
      Step delay time lineup .looked
        { lineup with
          ready := lineup.ready ++
            (lineup.delayed.filter fun entry => entry.wakeAt ≤ time).map Waiting.item
          delayed := lineup.delayed.filter fun entry => time < entry.wakeAt }
  | started {job : Job τ} {ready : List (Job τ)} (idle : lineup.worker = .idle)
      (foremost : lineup.ready = job :: ready) :
      Step delay time lineup (.started job) { lineup with worker := .busy job, ready := ready }
  | finished {job : Job τ} {verdict : Verdict} (busy : lineup.worker = .busy job)
      (settled : verdict ≠ .putOff) :
      Step delay time lineup (.ended job verdict) { lineup with worker := .idle }
  | putOff {job : Job τ} (serial : Nat) (busy : lineup.worker = .busy job) :
      Step delay time lineup (.ended job .putOff)
        { lineup with
          worker := .idle
          delayed := lineup.delayed ++ [⟨time + delay, serial, ⟨job.task, job.attempts + 1⟩⟩] }
  | left (exit : Exit τ) {after : Lineup τ} (alive : lineup.worker ≠ .gone)
      (gone : after.worker = .gone) : Step delay time lineup (.left exit) after

/-- What the things that are told, oldest first, make of the lists. -/
inductive Steps (delay : Nat) (first : Lineup τ) : List (Nat × Mark τ) → Lineup τ → Prop
  | rest : Steps delay first [] first
  | next {marks : List (Nat × Mark τ)} {time : Nat} {mark : Mark τ} {lineup next : Lineup τ}
      (steps : Steps delay first marks lineup) (step : Step delay time lineup mark next) :
      Steps delay first (marks ++ [(time, mark)]) next

theorem Steps.trans {one two : List (Nat × Mark τ)} (earlier : Steps delay first one mid)
    (later : Steps delay mid two last) : Steps delay first (one ++ two) last := by
  induction later with
  | rest => exact (List.append_nil one).symm ▸ earlier
  | next _ step ih => exact List.append_assoc .. ▸ ih.next step

theorem Steps.split {one two : List (Nat × Mark τ)}
    (steps : Steps delay first (one ++ two) last) :
    ∃ mid, Steps delay first one mid ∧ Steps delay mid two last := by
  generalize whole : one ++ two = marks at steps
  induction steps generalizing two with
  | rest =>
    obtain ⟨rfl, rfl⟩ := List.append_eq_nil_iff.mp whole
    exact ⟨first, .rest, .rest⟩
  | @next marks time mark lineup next steps step ih =>
    rcases List.eq_nil_or_concat two with rfl | ⟨init, final, rfl⟩
    · rw [List.append_nil] at whole
      exact ⟨next, whole ▸ steps.next step, .rest⟩
    · rw [List.concat_eq_append, ← List.append_assoc] at whole
      obtain ⟨before, isMark⟩ := List.append_inj' whole rfl
      obtain ⟨mid, earlier, later⟩ := ih before
      obtain rfl := List.singleton_inj.mp isMark
      exact ⟨mid, earlier, List.concat_eq_append ▸ later.next step⟩

theorem Steps.single (step : Step delay time lineup mark next) :
    Steps delay lineup [(time, mark)] next :=
  Steps.rest.next step

theorem Steps.of_single (steps : Steps delay lineup [(time, mark)] next) :
    Step delay time lineup mark next := by
  generalize whole : [(time, mark)] = marks at steps
  cases steps with
  | rest => cases whole
  | @next marks time' mark' lineup' _ steps step =>
    have snoc : [] ++ [(time, mark)] = marks ++ [(time', mark')] := whole
    obtain ⟨before, isMark⟩ := List.append_inj' snoc rfl
    cases isMark
    generalize marks = earlier at steps before
    cases steps with
    | rest => exact step
    | next => simp at before

/-- What is told first makes the first step. -/
theorem Steps.uncons {marks : List (Nat × Mark τ)}
    (steps : Steps delay first ((time, mark) :: marks) last) :
    ∃ next, Step delay time first mark next ∧ Steps delay next marks last := by
  have whole : Steps delay first ([(time, mark)] ++ marks) last := steps
  obtain ⟨next, one, others⟩ := whole.split
  exact ⟨next, one.of_single, others⟩

theorem Step.alive (step : Step delay time lineup mark next) : lineup.worker ≠ .gone := by
  cases step with
  | submitted _ alive | left _ alive => exact alive
  | received idle | looked idle | started idle => simp [idle]
  | finished busy | putOff _ busy => simp [busy]

/-! ### The tasks in the lists -/

/-- The tasks that wait to be run, wherever they do. -/
def waiting (lineup : Lineup τ) : List τ :=
  lineup.ready.map Job.task ++ (lineup.delayed.map fun entry => entry.item.task) ++ lineup.inbox

/-- The tasks that a worker that is alive may still run, the one that it runs among them. -/
def tasks (lineup : Lineup τ) : List τ :=
  match lineup.worker with
  | .idle => lineup.waiting
  | .busy job => job.task :: lineup.waiting
  | .gone => []

theorem tasks_of_idle (idle : lineup.worker = .idle) : lineup.tasks = lineup.waiting := by
  rw [tasks, idle]

theorem tasks_of_busy (busy : lineup.worker = .busy job) :
    lineup.tasks = job.task :: lineup.waiting := by
  rw [tasks, busy]

/-- Making ready what is due moves tasks from one list to the other. -/
theorem delayed_perm (time : Nat) (delayed : List (Waiting (Job τ))) :
    (((delayed.filter fun entry => entry.wakeAt ≤ time).map Waiting.item).map Job.task ++
      (delayed.filter fun entry => time < entry.wakeAt).map fun entry => entry.item.task).Perm
      (delayed.map fun entry => entry.item.task) := by
  have parts := List.filter_append_perm (fun entry : Waiting (Job τ) => entry.wakeAt ≤ time) delayed
  have tasks := parts.map fun entry => entry.item.task
  simpa only [List.map_append, List.map_map, Function.comp_def, ← not_le, decide_not] using tasks

/-- No task comes from nowhere. -/
theorem Step.tasks_subperm (step : Step delay time lineup mark next) :
    next.tasks.Subperm (lineup.tasks ++ mark.submitted?.toList) := by
  cases step with
  | submitted task alive =>
    refine List.Perm.subperm (.of_eq ?_)
    cases worker : lineup.worker with
    | gone => exact absurd worker alive
    | idle | busy => simp [tasks, worker, waiting, Mark.submitted?]
  | @received task inbox idle oldest =>
    have moved : (lineup.ready.map Job.task ++ [task] ++
        (lineup.delayed.map fun entry => entry.item.task) ++ inbox).Perm
        (lineup.ready.map Job.task ++ (lineup.delayed.map fun entry => entry.item.task) ++
          task :: inbox) := by
      simp only [List.append_assoc]
      exact (List.perm_append_comm_assoc _ _ _).append_left _
    simpa [tasks, idle, waiting, oldest, Mark.submitted?] using moved.subperm
  | looked idle =>
    have moved := ((delayed_perm time lineup.delayed).append_left
      (lineup.ready.map Job.task)).append_right lineup.inbox
    simp only [tasks_of_idle idle, Mark.submitted?, Option.toList_none, List.append_nil]
    rw [tasks_of_idle (by exact idle)]
    simpa only [waiting, List.map_append, List.append_assoc] using moved.subperm
  | @started job ready idle foremost =>
    have same : lineup.tasks = job.task :: Lineup.waiting { lineup with ready := ready } := by
      simp [tasks, idle, waiting, foremost]
    rw [same]
    exact (List.sublist_append_left _ _).subperm
  | finished busy settled =>
    simp only [tasks, busy, waiting, Mark.submitted?, Option.toList_none, List.append_nil]
    exact (List.sublist_cons_self _ _).subperm
  | @putOff job serial busy =>
    have moved : (lineup.ready.map Job.task ++ ((lineup.delayed.map fun entry => entry.item.task) ++
        [job.task]) ++ lineup.inbox).Perm (job.task :: lineup.waiting) := by
      simp only [waiting, List.append_assoc, List.singleton_append]
      rw [← List.append_assoc, ← List.append_assoc]
      exact List.perm_middle
    simpa [tasks, busy, waiting, Mark.submitted?] using moved.subperm
  | left exit alive gone =>
    simp only [tasks, gone]
    exact List.nil_subperm

/-- The tasks in the lists were handed in. -/
theorem Steps.tasks_subperm {marks : List (Nat × Mark τ)} (steps : Steps delay .empty marks lineup) :
    lineup.tasks.Subperm (submissions marks) := by
  induction steps with
  | rest => exact List.Subperm.refl _
  | @next marks time mark lineup next steps step ih =>
    have handed : submissions [(time, mark)] = mark.submitted?.toList := by
      cases mark <;> rfl
    rw [submissions_append, handed]
    exact step.tasks_subperm.trans ((List.subperm_append_right _).mpr ih)

/-! ### The lists of a queue -/

variable {ρ : Type} {now : Nat} {queue after : Queue WakeHeap τ ρ} {fifo : List (Waiting (Job τ))}

/-- What the worker of a queue is at. -/
def workerOf : Phase τ ρ → Worker τ
  | .awake | .parked => .idle
  | .running job _ => .busy job
  | .exited _ => .gone

/-- The tasks of a queue in which `fifo` is what is put off. -/
def ofQueue (queue : Queue WakeHeap τ ρ) (fifo : List (Waiting (Job τ))) : Lineup τ where
  inbox := queue.inbox
  worker := workerOf queue.phase
  ready := queue.ready
  delayed := fifo

theorem ofQueue_awake (awake : queue.phase = .awake) :
    ofQueue queue fifo = ⟨queue.inbox, .idle, queue.ready, fifo⟩ := by
  rw [ofQueue, awake, workerOf]

theorem ofQueue_parked (parked : queue.phase = .parked) :
    ofQueue queue fifo = ⟨queue.inbox, .idle, queue.ready, fifo⟩ := by
  rw [ofQueue, parked, workerOf]

theorem ofQueue_running {run : ρ} (running : queue.phase = .running job run) :
    ofQueue queue fifo = ⟨queue.inbox, .busy job, queue.ready, fifo⟩ := by
  rw [ofQueue, running, workerOf]

theorem workerOf_ne_gone (alive : queue.exit? = none) : workerOf queue.phase ≠ .gone := by
  cases phase : queue.phase with
  | exited => simp [exit?, phase] at alive
  | _ => simp [workerOf]

/-- All that is waiting to be received can be received at once. -/
theorem steps_receive (tasks : List τ) (ready : List (Job τ)) (delayed : List (Waiting (Job τ))) :
    Steps delay ⟨tasks, .idle, ready, delayed⟩
      ((tasks.map Mark.received).map fun mark => (time, mark))
      ⟨[], .idle, ready ++ tasks.map (⟨·, 0⟩), delayed⟩ := by
  induction tasks generalizing ready with
  | nil => simpa using Steps.rest
  | cons task tasks ih =>
    have one : Step delay time ⟨task :: tasks, .idle, ready, delayed⟩ (.received task)
        ⟨tasks, .idle, ready ++ [⟨task, 0⟩], delayed⟩ := .received rfl rfl
    have others := ih (ready ++ [⟨task, 0⟩])
    rw [List.append_assoc] at others
    exact (Steps.single one).trans others

/-- The end of a run, and all that is received after it. -/
theorem steps_closing (job : Job τ) (lists : queue.delayed.Lists fifo)
    (latest : ∀ entry ∈ queue.delayed.entries, entry.wakeAt ≤ now + queue.settings.retryDelay)
    (outcome : Outcome) :
    ∃ later, (queue.conclude now job outcome).2.delayed.Lists later ∧
      Steps queue.settings.retryDelay ⟨queue.inbox, .busy job, queue.ready, fifo⟩
        ((queue.closing now job outcome).map fun mark => (now, mark))
        (ofQueue (queue.conclude now job outcome).2 later) := by
  have closes (verdict : Verdict) (settled : verdict ≠ .putOff) :
      Steps queue.settings.retryDelay ⟨queue.inbox, .busy job, queue.ready, fifo⟩
        ((.ended job verdict :: queue.inbox.map Mark.received).map fun mark => (now, mark))
        ⟨[], .idle, queue.ready ++ queue.inbox.map (⟨·, 0⟩), fifo⟩ :=
    (Steps.single (.finished rfl settled)).trans (steps_receive _ _ _)
  cases outcome with
  | done => exact ⟨fifo, lists, closes .completed (by decide)⟩
  | retry =>
    cases spent : queue.isSpent (job.attempts + 1) with
    | true =>
      rw [closing, verdict_spent spent, conclude_spent spent]
      exact ⟨fifo, lists, closes .gaveUp (by decide)⟩
    | false =>
      rw [closing, verdict_retry spent, conclude_retry spent]
      refine ⟨_, lists.putOff latest _, ?_⟩
      exact (Steps.single (.putOff queue.delayed.nextSerial rfl)).trans (steps_receive _ _ _)

/-- The worker looks for what is due, and starts the first job that is ready then. -/
theorem steps_start (started : queue.turn now = .start job after) (lists : queue.delayed.Lists fifo) :
    ∃ later, after.delayed.Lists later ∧
      Steps queue.settings.retryDelay (ofQueue queue fifo)
        [(now, .looked), (now, .started job)] ⟨after.inbox, .busy job, after.ready, later⟩ := by
  obtain ⟨items, stays⟩ := lists.takeDue now
  obtain ⟨awake, -, taken, -⟩ := turn_start started
  obtain ⟨-, -, -, inbox, delayed⟩ := start_frame started
  refine ⟨_, delayed ▸ stays, ?_⟩
  rw [ofQueue_awake awake, inbox]
  exact (Steps.single (.looked rfl)).next (.started rfl (items ▸ taken))

/-- Whatever a worker does, the lists change with what is told of it. -/
theorem steps_of_does {news : List (Mark τ)} (does : queue.Does now news after)
    (regular : queue.Regular now) (lists : queue.delayed.Lists fifo) :
    ∃ later, after.delayed.Lists later ∧
      Steps queue.settings.retryDelay (ofQueue queue fifo) (news.map fun mark => (now, mark))
        (ofQueue after later) := by
  have alive := workerOf_ne_gone does.works.alive
  cases does with
  | park awake noReady noDue moved =>
    obtain ⟨items, stays⟩ := lists.takeDue now
    have looked : Steps queue.settings.retryDelay ⟨queue.inbox, .idle, queue.ready, fifo⟩
        [(now, .looked)] _ := Steps.single (.looked rfl)
    simp only [← items, noDue, List.append_nil] at looked
    rw [ofQueue_awake awake]
    exact ⟨_, stays, looked⟩
  | receive parked submissions moved =>
    rw [ofQueue_parked parked]
    exact ⟨fifo, lists, Steps.single (.received rfl submissions)⟩
  | wake parked moved =>
    rw [ofQueue_parked parked]
    exact ⟨fifo, lists, .rest⟩
  | @leave exit after left =>
    have same : after.delayed = queue.delayed ∨
        after.delayed = (DelayLine.takeDue now queue.delayed).2 := by
      rcases turn_leave left with ⟨-, -, -, rfl⟩ | ⟨-, -, -, shape⟩
      · exact .inl rfl
      · exact .inr (congrArg Queue.delayed shape)
    have leaves (later : List (Waiting (Job τ))) :
        Steps queue.settings.retryDelay (ofQueue queue fifo) [(now, .left exit)]
          (ofQueue (after.exitWith exit) later) :=
      Steps.single (.left exit alive rfl)
    rcases same with same | same
    · exact ⟨fifo, same ▸ lists, leaves fifo⟩
    · exact ⟨_, same ▸ (lists.takeDue now).2, leaves _⟩
  | @run current after started outcome =>
    obtain ⟨later, taken, starts⟩ := steps_start started lists
    obtain ⟨-, settings, -⟩ := start_frame started
    have latest := (regular.start started).wakeAt_le
    obtain ⟨last, rest, ends⟩ := steps_closing current taken latest outcome
    rw [settings] at ends
    exact ⟨last, rest, starts.trans ends⟩
  | start started run =>
    obtain ⟨later, taken, starts⟩ := steps_start started lists
    exact ⟨later, taken, starts⟩
  | goOn running later =>
    rw [ofQueue_running running]
    exact ⟨fifo, lists, .rest⟩
  | conclude running outcome =>
    rw [ofQueue_running running]
    exact steps_closing _ lists regular.wakeAt_le outcome
  | @breakOff current run running exit inHand =>
    exact ⟨fifo, lists, Steps.single (.left exit alive rfl)⟩

end Lineup

variable {τ ρ : Type} {settings : Settings} {start now : Nat} {marks : List (Nat × Mark τ)}
  {first queue : Queue WakeHeap τ ρ} {fifo : List (Waiting (Job τ))}

/-- Whatever is told of a queue, its lists change in the same way. -/
theorem Course.steps_from (course : Course start first marks now queue)
    (regular : first.Regular start) (lists : first.delayed.Lists fifo) :
    queue.settings = first.settings ∧ ∃ later, queue.delayed.Lists later ∧
      Lineup.Steps first.settings.retryDelay (.ofQueue first fifo) marks (.ofQueue queue later) := by
  induction course with
  | rest => exact ⟨rfl, fifo, lists, .rest⟩
  | @submit marks now queue next task course submitted ih =>
    obtain ⟨same, fifo, lists, steps⟩ := ih
    obtain ⟨alive, rfl⟩ := submit?_eq_some.mp submitted
    exact ⟨same, fifo, lists, steps.next (.submitted task (Lineup.workerOf_ne_gone alive))⟩
  | tell course cause ih => exact ih
  | wait course span ih => exact ih
  | @work marks now queue next news course does ih =>
    obtain ⟨same, fifo, lists, steps⟩ := ih
    obtain ⟨later, rest, further⟩ := Lineup.steps_of_does does (course.regular regular) lists
    rw [same] at further
    exact ⟨does.works.frame.1.trans same, later, rest, steps.trans further⟩

theorem Course.steps (course : Course start (create settings) marks now queue) :
    queue.settings = settings ∧ ∃ fifo, queue.delayed.Lists fifo ∧
      Lineup.Steps settings.retryDelay .empty marks (.ofQueue queue fifo) :=
  course.steps_from (.create settings start) .empty

end ReplicaSet.Queue
