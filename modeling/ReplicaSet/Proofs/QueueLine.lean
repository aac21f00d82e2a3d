import ReplicaSet.Proofs.QueueOrder

/-!
The tasks that a worker has received stand in one line, with those that are put off behind those
that are ready. New tasks come in between, and nobody overtakes in it. So tasks are first run in
the order in which they were handed in, and are run again in the order in which they were put off.
-/
namespace ReplicaSet.Queue

variable {τ ρ : Type} {start now : Nat} {first queue : Queue WakeHeap τ ρ}
  {marks : List (Nat × Mark τ)}

/-! ### Runs -/

/-- The job of which a run begins. -/
def Mark.started? : Mark τ → Option (Job τ)
  | started job => some job
  | _ => none

theorem Mark.eq_of_started? {mark : Mark τ} {job : Job τ} (isStart : mark.started? = some job) :
    mark = .started job := by
  cases mark <;> cases isStart
  rfl

/-- The jobs of which a run began, in the order in which they did. -/
def starts (marks : List (Nat × Mark τ)) : List (Job τ) :=
  marks.filterMap fun mark => mark.2.started?

/-- The tasks of all runs, in the order in which they began. -/
def runs (marks : List (Nat × Mark τ)) : List τ :=
  (starts marks).map Job.task

/-- The tasks of all first runs, in the order in which they began. -/
def firstRuns (marks : List (Nat × Mark τ)) : List τ :=
  ((starts marks).filter fun job => job.attempts = 0).map Job.task

@[simp]
theorem starts_append (one two : List (Nat × Mark τ)) :
    starts (one ++ two) = starts one ++ starts two :=
  List.filterMap_append

@[simp]
theorem runs_append (one two : List (Nat × Mark τ)) : runs (one ++ two) = runs one ++ runs two := by
  simp [runs]

@[simp]
theorem firstRuns_append (one two : List (Nat × Mark τ)) :
    firstRuns (one ++ two) = firstRuns one ++ firstRuns two := by
  simp [firstRuns]

theorem starts_snoc (marks : List (Nat × Mark τ)) (time : Nat) (mark : Mark τ) :
    starts (marks ++ [(time, mark)]) = starts marks ++ mark.started?.toList := by
  rw [starts_append]
  cases mark <;> rfl

theorem firstRuns_snoc (marks : List (Nat × Mark τ)) (time : Nat) (mark : Mark τ) :
    firstRuns (marks ++ [(time, mark)]) = firstRuns marks ++
      (mark.started?.toList.filter fun job => job.attempts = 0).map Job.task := by
  rw [firstRuns, starts_snoc, List.filter_append, List.map_append, firstRuns]

theorem submissions_snoc (marks : List (Nat × Mark τ)) (time : Nat) (mark : Mark τ) :
    submissions (marks ++ [(time, mark)]) = submissions marks ++ mark.submitted?.toList := by
  rw [submissions_append]
  cases mark <;> rfl

theorem mem_starts {job : Job τ} : job ∈ starts marks ↔ ∃ time, (time, .started job) ∈ marks := by
  rw [starts, List.mem_filterMap]
  constructor
  · rintro ⟨⟨time, mark⟩, member, isStart⟩
    exact ⟨time, Mark.eq_of_started? isStart ▸ member⟩
  · rintro ⟨time, member⟩
    exact ⟨_, member, rfl⟩

theorem mem_runs {task : τ} :
    task ∈ runs marks ↔ ∃ time job, (time, .started job) ∈ marks ∧ job.task = task := by
  simp only [runs, List.mem_map, mem_starts]
  constructor
  · rintro ⟨job, ⟨time, member⟩, same⟩
    exact ⟨time, job, member, same⟩
  · rintro ⟨time, job, member, same⟩
    exact ⟨job, ⟨time, member⟩, same⟩

theorem runs_of_firstRuns {task : τ} (ran : task ∈ firstRuns marks) : task ∈ runs marks :=
  (List.filter_sublist.map Job.task).subset ran

/-! ### Time -/

/-- Nothing is told before what happened earlier. -/
def Chronological (marks : List (Nat × Mark τ)) : Prop :=
  marks.Pairwise fun one two => one.1 ≤ two.1

theorem Chronological.of_append {one two : List (Nat × Mark τ)} (inTime : Chronological (one ++ two)) :
    Chronological one ∧ Chronological two ∧ ∀ a ∈ one, ∀ b ∈ two, a.1 ≤ b.1 :=
  List.pairwise_append.mp inTime

/-- Things are told in the order in which they happen, and none before it does. -/
theorem Course.chronological (course : Course start first marks now queue) :
    Chronological marks ∧ ∀ mark ∈ marks, mark.1 ≤ now := by
  induction course with
  | rest => exact ⟨.nil, nofun⟩
  | submit course submitted ih => exact InTime.append_now ih.1 ih.2 (by simp)
  | tell course cause ih => exact ih
  | wait course span ih =>
    exact ⟨ih.1, fun mark member => (ih.2 mark member).trans (Nat.le_add_right _ _)⟩
  | work course does ih => exact InTime.append_now ih.1 ih.2 (by simp)

namespace Lineup

variable {delay time : Nat} {lineup next last : Lineup τ} {mark : Mark τ} {job : Job τ}
  {tasks : List τ}

/-- What is put off wakes in the order in which it was put off, and nothing later than what is put
off next. -/
structure Timely (delay now : Nat) (lineup : Lineup τ) : Prop where
  inOrder : lineup.delayed.Pairwise fun one two => one.wakeAt ≤ two.wakeAt
  latest : ∀ entry ∈ lineup.delayed, entry.wakeAt ≤ now + delay

theorem Step.timely (step : Step delay time lineup mark next) (alive : next.worker ≠ .gone)
    (timely : lineup.Timely delay now) (later : now ≤ time) : next.Timely delay time := by
  obtain ⟨inOrder, latest⟩ := timely
  have stillLatest : ∀ entry ∈ lineup.delayed, entry.wakeAt ≤ time + delay := fun entry member =>
    (latest entry member).trans (Nat.add_le_add_right later delay)
  cases step with
  | submitted | received | started | finished => exact ⟨inOrder, stillLatest⟩
  | looked =>
    exact ⟨inOrder.sublist List.filter_sublist, fun entry member =>
      stillLatest entry (List.mem_filter.mp member).1⟩
  | putOff serial busy =>
    refine ⟨List.pairwise_append.mpr ⟨inOrder, List.pairwise_singleton _ _, ?_⟩, ?_⟩
    · intro entry member last isLast
      obtain rfl := List.mem_singleton.mp isLast
      exact stillLatest entry member
    · intro entry member
      rcases List.mem_append.mp member with old | isNew
      · exact stillLatest entry old
      · obtain rfl := List.mem_singleton.mp isNew
        exact le_rfl
  | left exit _ gone => exact absurd gone alive

/-- After what is told in time the lists are in order of time. -/
theorem Steps.timely (steps : Steps delay .empty marks lineup) (alive : lineup.worker ≠ .gone)
    (inTime : Chronological marks) (past : ∀ mark ∈ marks, mark.1 ≤ time) :
    lineup.Timely delay time := by
  induction steps generalizing time with
  | rest => exact ⟨.nil, nofun⟩
  | @next marks moment mark lineup next steps step ih =>
    obtain ⟨before, -, ordered⟩ := inTime.of_append
    have earlier := ih step.alive before fun mark member =>
      ordered mark member _ List.mem_cons_self
    obtain ⟨inOrder, latest⟩ := step.timely alive earlier le_rfl
    have notLater : moment ≤ time := past _ (List.mem_append_right _ List.mem_cons_self)
    exact ⟨inOrder, fun entry member => (latest entry member).trans (by omega)⟩

/-- What is due was put off before what is not. -/
theorem due_append_later (time : Nat) {delayed : List (Waiting (Job τ))}
    (inOrder : delayed.Pairwise fun one two => one.wakeAt ≤ two.wakeAt) :
    (delayed.filter fun entry => entry.wakeAt ≤ time) ++
      (delayed.filter fun entry => time < entry.wakeAt) = delayed := by
  rw [filter_due_eq_takeWhile time inOrder, filter_later_eq_dropWhile time inOrder]
  exact List.takeWhile_append_dropWhile

/-! ### The line -/

/-- The jobs that are ready, and behind them those that are put off. -/
def line (lineup : Lineup τ) : List (Job τ) :=
  lineup.ready ++ lineup.delayed.map Waiting.item

theorem line_looked (time : Nat)
    (inOrder : lineup.delayed.Pairwise fun one two => one.wakeAt ≤ two.wakeAt) :
    line { lineup with
      ready := lineup.ready ++
        (lineup.delayed.filter fun entry => entry.wakeAt ≤ time).map Waiting.item
      delayed := lineup.delayed.filter fun entry => time < entry.wakeAt } = lineup.line := by
  rw [line, line, List.append_assoc, ← List.map_append, due_append_later time inOrder]

theorem line_nodup (distinct : lineup.tasks.Nodup) (alive : lineup.worker ≠ .gone) :
    (lineup.line.map Job.task).Nodup := by
  have within : (lineup.line.map Job.task).Sublist lineup.waiting := by
    simp [line, waiting, Function.comp_def]
  cases worker : lineup.worker with
  | idle => exact (tasks_of_idle worker ▸ distinct).sublist within
  | busy => exact (List.nodup_cons.mp (tasks_of_busy worker ▸ distinct)).2.sublist within
  | gone => exact absurd worker alive

theorem Step.line_putOff (step : Step delay time lineup (.ended job .putOff) next) :
    next.line = lineup.line ++ [⟨job.task, job.attempts + 1⟩] := by
  cases step with
  | finished busy settled => exact absurd rfl settled
  | putOff serial busy => simp [line]

theorem Step.line_started (step : Step delay time lineup (.started job) next) :
    lineup.line = job :: next.line := by
  cases step with
  | started idle foremost => simp [line, foremost]

/-- Whoever stands in the line in some order goes on standing so, until the first of them is
started. -/
theorem Step.line_keeps (step : Step delay time lineup mark next) (alive : next.worker ≠ .gone)
    (timely : lineup.Timely delay now) {foremost : τ} {others : List τ}
    (stands : (foremost :: others).Sublist (lineup.line.map Job.task))
    (waits : ∀ job, mark = .started job → job.task ≠ foremost) :
    (foremost :: others).Sublist (next.line.map Job.task) := by
  cases step with
  | submitted | finished => exact stands
  | received idle oldest =>
    refine stands.trans (List.Sublist.map _ ?_)
    simp [line]
  | looked idle => exact (line_looked time timely.inOrder).symm ▸ stands
  | @started job ready idle isFirst =>
    have begins : Step delay time lineup (.started job) _ := .started idle isFirst
    rw [begins.line_started] at stands
    exact List.Sublist.of_cons_of_ne (waits job rfl).symm stands
  | putOff serial busy =>
    refine stands.trans (List.Sublist.map _ ?_)
    simp [line]
  | left exit _ gone => exact absurd gone alive

theorem Steps.line_keeps {earlier : List (Nat × Mark τ)} (history : Steps delay .empty earlier lineup)
    (steps : Steps delay lineup marks last) (alive : last.worker ≠ .gone)
    (inTime : Chronological (earlier ++ marks)) {foremost : τ} {others : List τ}
    (stands : (foremost :: others).Sublist (lineup.line.map Job.task))
    (waits : ∀ time job, (time, .started job) ∈ marks → job.task ≠ foremost) :
    (foremost :: others).Sublist (last.line.map Job.task) := by
  induction steps with
  | rest => exact stands
  | @next marks time mark lineup next steps step ih =>
    rw [← List.append_assoc] at inTime
    obtain ⟨before, -, ordered⟩ := inTime.of_append
    have timely := (history.trans steps).timely step.alive before fun mark member =>
      ordered mark member _ List.mem_cons_self
    refine step.line_keeps alive timely (ih step.alive before fun time job member => ?_)
      fun job isStart => ?_
    · exact waits time job (List.mem_append_left _ member)
    · exact waits time job (isStart ▸ List.mem_append_right _ List.mem_cons_self)

/-! ### First runs -/

/-- The tasks that are ready and have not run yet. -/
def newcomers (lineup : Lineup τ) : List τ :=
  (lineup.ready.filter fun job => job.attempts = 0).map Job.task

/-- What was handed in has run for the first time, in the same order, or it is ready or in the
inbox. What is to run again has run before. -/
structure Admits (marks : List (Nat × Mark τ)) (lineup : Lineup τ) : Prop where
  inOrder : firstRuns marks ++ lineup.newcomers ++ lineup.inbox = submissions marks
  ready : ∀ job ∈ lineup.ready, 0 < job.attempts → job.task ∈ firstRuns marks
  delayed : ∀ entry ∈ lineup.delayed,
    0 < entry.item.attempts ∧ entry.item.task ∈ firstRuns marks
  busy : ∀ job, lineup.worker = .busy job → job.task ∈ firstRuns marks

theorem Step.admits (step : Step delay time lineup mark next) (alive : next.worker ≠ .gone)
    (admits : lineup.Admits marks) : next.Admits (marks ++ [(time, mark)]) := by
  obtain ⟨inOrder, ready, delayed, busy⟩ := admits
  have grows {task : τ} (before : task ∈ firstRuns marks) :
      task ∈ firstRuns (marks ++ [(time, mark)]) := by
    rw [firstRuns_append]
    exact List.mem_append_left _ before
  have readyStill (job : Job τ) (isReady : job ∈ lineup.ready) (again : 0 < job.attempts) :=
    grows (ready job isReady again)
  have delayedStill (entry : Waiting (Job τ)) (putOff : entry ∈ lineup.delayed) :=
    (delayed entry putOff).imp_right grows
  have busyStill (job : Job τ) (runs : lineup.worker = .busy job) := grows (busy job runs)
  -- Only the beginning of a run and a new task change what has to be compared.
  have compare (same : mark.started? = none) (moved : next.newcomers ++ next.inbox =
      lineup.newcomers ++ lineup.inbox ++ mark.submitted?.toList) :
      firstRuns (marks ++ [(time, mark)]) ++ next.newcomers ++ next.inbox =
        submissions (marks ++ [(time, mark)]) := by
    rw [firstRuns_snoc, submissions_snoc, same, ← inOrder, List.append_assoc, moved]
    simp
  cases step with
  | submitted task =>
    exact ⟨compare rfl (by simp [newcomers, Mark.submitted?]), readyStill, delayedStill, busyStill⟩
  | @received task inbox idle oldest =>
    refine ⟨compare rfl (by simp [newcomers, Mark.submitted?, oldest]), fun job isReady again => ?_,
      delayedStill, busyStill⟩
    rcases List.mem_append.mp isReady with old | isNew
    · exact readyStill job old again
    · obtain rfl := List.mem_singleton.mp isNew
      exact absurd again (Nat.lt_irrefl 0)
  | looked idle =>
    have unfresh : ((lineup.delayed.filter fun entry => entry.wakeAt ≤ time).map
        Waiting.item).filter (fun job => job.attempts = 0) = [] := by
      refine List.filter_eq_nil_iff.mpr fun job member => ?_
      obtain ⟨entry, due, rfl⟩ := List.mem_map.mp member
      have again := (delayed entry (List.mem_filter.mp due).1).1
      simp only [decide_eq_true_eq]
      omega
    refine ⟨compare rfl (by simp [newcomers, Mark.submitted?, unfresh]),
      fun job isReady again => ?_, fun entry member => ?_, busyStill⟩
    · rcases List.mem_append.mp isReady with old | isDue
      · exact readyStill job old again
      · obtain ⟨entry, due, rfl⟩ := List.mem_map.mp isDue
        exact (delayedStill entry (List.mem_filter.mp due).1).2
    · exact delayedStill entry (List.mem_filter.mp member).1
  | @started job rest idle foremost =>
    have restStill (other : Job τ) (isReady : other ∈ rest) :=
      readyStill other (foremost ▸ List.mem_cons_of_mem _ isReady)
    by_cases new : job.attempts = 0
    · have told : firstRuns (marks ++ [(time, .started job)]) = firstRuns marks ++ [job.task] := by
        rw [firstRuns_snoc]
        simp [Mark.started?, new]
      refine ⟨?_, restStill, delayedStill, fun other runs => ?_⟩
      · rw [told, submissions_snoc, ← inOrder]
        simp [newcomers, foremost, new, Mark.submitted?]
      · cases runs
        rw [told]
        exact List.mem_append_right _ List.mem_cons_self
    · have told : firstRuns (marks ++ [(time, .started job)]) = firstRuns marks := by
        rw [firstRuns_snoc]
        simp [Mark.started?, new]
      refine ⟨?_, restStill, delayedStill, fun other runs => ?_⟩
      · rw [told, submissions_snoc, ← inOrder]
        simp [newcomers, foremost, new, Mark.submitted?]
      · cases runs
        exact readyStill job (foremost ▸ List.mem_cons_self) (Nat.pos_of_ne_zero new)
  | finished =>
    exact ⟨compare rfl (by simp [newcomers, Mark.submitted?]), readyStill, delayedStill, by simp⟩
  | @putOff job serial runs =>
    refine ⟨compare rfl (by simp [newcomers, Mark.submitted?]), readyStill, fun entry member => ?_,
      by simp⟩
    rcases List.mem_append.mp member with old | isNew
    · exact delayedStill entry old
    · obtain rfl := List.mem_singleton.mp isNew
      exact ⟨Nat.succ_pos _, busyStill job runs⟩
  | left exit _ gone => exact absurd gone alive

theorem Steps.admits (steps : Steps delay .empty marks lineup) (alive : lineup.worker ≠ .gone) :
    lineup.Admits marks := by
  induction steps with
  | rest => exact ⟨rfl, nofun, nofun, nofun⟩
  | next steps step ih => exact step.admits alive (ih step.alive)

/-- A worker is gone when it has just left. -/
theorem Step.left_of_gone (step : Step delay time lineup mark next) (gone : next.worker = .gone) :
    ∃ exit, mark = .left exit := by
  cases step with
  | submitted _ alive => exact absurd gone alive
  | received idle | looked idle => cases idle.symm.trans gone
  | started | finished | putOff => cases gone
  | left exit => exact ⟨exit, rfl⟩

/-- First runs come in the order in which the tasks were handed in, and none is left out. -/
theorem Steps.firstRuns_within (steps : Steps delay .empty marks lineup) :
    firstRuns marks <+: submissions marks := by
  have ofAlive {marks : List (Nat × Mark τ)} {lineup : Lineup τ}
      (steps : Steps delay .empty marks lineup) (alive : lineup.worker ≠ .gone) :
      firstRuns marks <+: submissions marks :=
    ⟨lineup.newcomers ++ lineup.inbox, by
      rw [← (steps.admits alive).inOrder, List.append_assoc]⟩
  cases steps with
  | rest => exact List.prefix_rfl
  | @next marks time mark before _ steps step =>
    by_cases gone : lineup.worker = .gone
    · -- A worker that leaves begins no run by it.
      obtain ⟨exit, rfl⟩ := step.left_of_gone gone
      rw [firstRuns_snoc, submissions_snoc]
      simpa [Mark.started?, Mark.submitted?] using ofAlive steps step.alive
    · exact ofAlive (steps.next step) gone

/-- What is run has run for the first time, now or before. -/
theorem Steps.firstRuns_of_runs (steps : Steps delay .empty marks lineup) {task : τ}
    (ran : task ∈ runs marks) : task ∈ firstRuns marks := by
  induction steps with
  | rest => cases ran
  | @next marks time mark lineup next steps step ih =>
    rw [firstRuns_append]
    rw [runs_append] at ran
    rcases List.mem_append.mp ran with before | isNew
    · exact List.mem_append_left _ (ih before)
    · cases step with
      | started idle foremost =>
        obtain rfl := List.mem_singleton.mp isNew
        rw [← firstRuns_append]
        exact ((steps.next (.started idle foremost)).admits (by simp)).busy _ rfl
      | _ => cases isNew

end Lineup

/-! ### Who runs first -/

namespace Leads

variable {one two : τ} {line some : List τ}

/-- Whoever is led comes in no part of the line without who leads. -/
theorem mem_of_within (leads : Leads one two line) (differ : one ≠ two)
    (part : some ++ [two] <+: line) : one ∈ some := by
  obtain ⟨before, after, rfl, behind⟩ := leads
  obtain ⟨rest, whole⟩ := part
  rw [List.append_assoc, List.singleton_append] at whole
  rcases List.append_eq_append_iff.mp whole with ⟨more, rfl, split⟩ | ⟨more, rfl, split⟩
  · cases more with
    | nil => exact absurd (List.cons.inj split).1.symm differ
    | cons first more =>
      obtain rfl := (List.cons.inj split).1
      exact absurd (List.mem_append_right _ List.mem_cons_self) behind
  · cases more with
    | nil => exact absurd (List.cons.inj split).1 differ
    | cons first more =>
      obtain rfl := (List.cons.inj split).1
      exact List.mem_append_right _ List.mem_cons_self

theorem self {task : τ} (member : task ∈ line) : Leads task task line := by
  obtain ⟨before, after, rfl, absent⟩ := List.eq_append_cons_of_mem member
  exact ⟨before, after, rfl, absent⟩

end Leads

/-- Of two tasks the one that was handed in first is run first. -/
theorem Lineup.Steps.runs_lead {delay : Nat} {lineup : Lineup τ} {one two : τ} {handed : List τ}
    (steps : Lineup.Steps delay .empty marks lineup) (differ : one ≠ two)
    (ahead : Leads one two handed) (part : submissions marks <+: handed)
    (ran : two ∈ runs marks) : Leads one two (runs marks) := by
  induction steps with
  | rest => cases ran
  | @next marks time mark lineup next steps step ih =>
    have fewer : submissions marks <+: handed := by
      rw [submissions_append] at part
      exact (List.prefix_append _ _).trans part
    have ranFirst := (steps.next step).firstRuns_of_runs ran
    have inOrder := (steps.next step).firstRuns_within.trans part
    rw [runs_append] at ran ⊢
    by_cases earlier : two ∈ runs marks
    · exact (ih fewer earlier).append _
    · have isNew := (List.mem_append.mp ran).resolve_left earlier
      cases step with
      | @started job rest idle foremost =>
        obtain rfl := List.mem_singleton.mp isNew
        -- It runs for the first time now, and so whoever leads has run already.
        have first : firstRuns (marks ++ [(time, .started job)]) = firstRuns marks ++ [job.task] := by
          rw [firstRuns_snoc] at ranFirst ⊢
          have now := (List.mem_append.mp ranFirst).resolve_left (mt runs_of_firstRuns earlier)
          by_cases new : job.attempts = 0
          · simp [Mark.started?, new]
          · simp [Mark.started?, new] at now
        have ran := ahead.mem_of_within differ (first ▸ inOrder)
        exact (Leads.of_mem (runs_of_firstRuns ran) earlier).append _
      | _ => cases isNew

/-- Tasks are first run in the order in which they were handed in, whatever is run again in
between. What is handed in later makes no difference. -/
theorem History.runs_lead (history : History marks now queue) {one two : τ} {handed : List τ}
    (ahead : Leads one two handed) (part : submissions marks <+: handed) (ran : two ∈ runs marks) :
    Leads one two (runs marks) := by
  obtain ⟨settings, start, course⟩ := history
  obtain ⟨-, fifo, -, steps⟩ := course.steps
  by_cases differ : one = two
  · subst differ
    exact .self ran
  · exact steps.runs_lead differ ahead part ran

/-- What runs was handed in. -/
theorem History.submitted_of_ran (history : History marks now queue) {task : τ}
    (ran : task ∈ runs marks) : task ∈ submissions marks := by
  obtain ⟨settings, start, course⟩ := history
  obtain ⟨-, fifo, -, steps⟩ := course.steps
  exact steps.firstRuns_within.subset (steps.firstRuns_of_runs ran)

/-! ### Who runs again first -/

/-- Of two tasks that were put off the one that was put off first is run again first, however long
the worker was busy in between. -/
theorem History.retries_in_order {put later begun : Nat}
    {before between since after : List (Nat × Mark τ)} {one two next : Job τ}
    (history : History (before ++ (put, .ended one .putOff) :: between ++
      (later, .ended two .putOff) :: since ++ (begun, .started next) :: after) now queue)
    (distinct : (submissions (before ++ (put, .ended one .putOff) :: between ++
      (later, .ended two .putOff) :: since ++ (begun, .started next) :: after)).Nodup)
    (oneWaits : ∀ time job, (time, .started job) ∈ between ++ since → job.task ≠ one.task)
    (either : next.task = one.task ∨ next.task = two.task) : next.task = one.task := by
  refine either.elim id fun isTwo => ?_
  by_contra differ
  obtain ⟨settings, start, course⟩ := history
  have inTime := course.chronological.1
  obtain ⟨-, fifo, -, steps⟩ := course.steps
  -- The lists when each of the two is put off, and when the second one is started.
  obtain ⟨last, toLast, fromLast⟩ := steps.split
  obtain ⟨final, begins, -⟩ := fromLast.uncons
  rw [List.append_cons (before ++ _)] at toLast inTime distinct
  obtain ⟨both, toBoth, toEnd⟩ := toLast.split
  obtain ⟨middle, toMiddle, endsTwo⟩ := toBoth.split
  rw [List.append_cons before] at toMiddle toBoth inTime distinct
  obtain ⟨alone, toAlone, onward⟩ := toMiddle.split
  obtain ⟨first, -, endsOne⟩ := toAlone.split
  have inTimeLast := (inTime.of_append).1
  have inTimeMiddle := (inTimeLast.of_append.1).of_append.1
  have standsAlone : [one.task].Sublist (alone.line.map Job.task) := by
    rw [endsOne.of_single.line_putOff]
    simp
  have standsMiddle := toAlone.line_keeps onward endsTwo.of_single.alive inTimeMiddle standsAlone
    fun time job member => oneWaits time job (List.mem_append_left _ member)
  have standsBoth : [one.task, two.task].Sublist (both.line.map Job.task) := by
    rw [endsTwo.of_single.line_putOff]
    simpa using standsMiddle.append_right [two.task]
  have standsLast := toBoth.line_keeps toEnd begins.alive inTimeLast standsBoth
    fun time job member => oneWaits time job (List.mem_append_right _ member)
  -- If the second one were the foremost in the line, it would stand there twice.
  have handed : (submissions (before ++ [(put, .ended one .putOff)] ++ between ++
      [(later, .ended two .putOff)] ++ since)).Nodup := by
    rw [submissions_append] at distinct
    exact (List.nodup_append.mp distinct).1
  have apart := Lineup.line_nodup ((toBoth.trans toEnd).tasks_nodup handed) begins.alive
  rw [begins.line_started, List.map_cons] at standsLast apart
  have behind := List.Sublist.of_cons_of_ne (Ne.symm differ) standsLast
  have twice : next.task ∈ final.line.map Job.task := isTwo ▸ behind.subset (by simp)
  exact (List.nodup_cons.mp apart).1 twice

/-- The runs that are told of keep the order. New tasks are run as they were handed in, none left
out, and of two tasks the one that was handed in first is run first. Of two tasks that were put off,
the one that was put off first is run again first, if it did not run again before. -/
structure InOrder (marks : List (Nat × Mark τ)) : Prop where
  complete : firstRuns marks <+: submissions marks
  firstRuns : ∀ one two, Leads one two (submissions marks) → two ∈ runs marks →
    Leads one two (runs marks)
  retries : ∀ before put one between later two since begun next after,
    marks = before ++ (put, .ended one .putOff) :: between ++ (later, .ended two .putOff) :: since ++
      (begun, .started next) :: after →
    (∀ time job, (time, .started job) ∈ between ++ since → job.task ≠ one.task) →
    next.task = one.task ∨ next.task = two.task → next.task = one.task

theorem History.inOrder (history : History marks now queue) (distinct : (submissions marks).Nodup) :
    InOrder marks := by
  refine ⟨?_, fun one two ahead ran => history.runs_lead ahead List.prefix_rfl ran, ?_⟩
  · obtain ⟨settings, start, course⟩ := history
    obtain ⟨-, fifo, -, steps⟩ := course.steps
    exact steps.firstRuns_within
  · rintro before put one between later two since begun next after rfl waits either
    exact history.retries_in_order distinct waits either

end ReplicaSet.Queue
