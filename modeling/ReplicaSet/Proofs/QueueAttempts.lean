import ReplicaSet.Proofs.QueueLine

/-!
How often the worker runs a task, and when it runs it again. Each job carries the number of its
runs with it wherever it waits, and what was put off rests for the whole delay.
-/
namespace ReplicaSet.Queue

/-- What a run had answered when this became of its job. -/
def Verdict.answer : Verdict → Outcome
  | completed => .done
  | gaveUp | putOff => .retry

namespace Mark

variable {τ : Type}

/-- The task whose run came to its end. -/
def ended? : Mark τ → Option τ
  | ended job _ => some job.task
  | _ => none

theorem eq_of_ended? {mark : Mark τ} {task : τ} (isEnd : mark.ended? = some task) :
    ∃ job verdict, mark = .ended job verdict := by
  cases mark with
  | ended job verdict => exact ⟨job, verdict, rfl⟩
  | _ => cases isEnd

/-- The task of which a run begins or ends. -/
def run? : Mark τ → Option τ
  | started job | ended job _ => some job.task
  | _ => none

end Mark

variable {τ ρ : Type} {start now : Nat} {first queue : Queue WakeHeap τ ρ}
  {marks : List (Nat × Mark τ)} {settings : Settings}

/-- The tasks of all runs that came to their end, in the order in which they did. -/
def endings (marks : List (Nat × Mark τ)) : List τ :=
  marks.filterMap fun mark => mark.2.ended?

@[simp]
theorem endings_append (one two : List (Nat × Mark τ)) :
    endings (one ++ two) = endings one ++ endings two :=
  List.filterMap_append

theorem endings_snoc (marks : List (Nat × Mark τ)) (time : Nat) (mark : Mark τ) :
    endings (marks ++ [(time, mark)]) = endings marks ++ mark.ended?.toList := by
  rw [endings_append]
  cases mark <;> rfl

theorem runs_snoc (marks : List (Nat × Mark τ)) (time : Nat) (mark : Mark τ) :
    runs (marks ++ [(time, mark)]) = runs marks ++ mark.started?.toList.map Job.task := by
  rw [runs, starts_snoc, List.map_append, runs]

/-! ### Verdicts -/

theorem answer_conclude (queue : Queue WakeHeap τ ρ) (now : Nat) (job : Job τ) (outcome : Outcome) :
    (queue.conclude now job outcome).1.answer = outcome := by
  cases outcome with
  | done => rfl
  | retry =>
    cases spent : queue.isSpent (job.attempts + 1) with
    | true => rw [verdict_spent spent, Verdict.answer]
    | false => rw [verdict_retry spent, Verdict.answer]

/-- A job is given up on exactly if it has to run again and has run as often as it may. -/
def Judged (settings : Settings) (job : Job τ) (verdict : Verdict) : Prop :=
  verdict = .gaveUp ↔
    verdict.answer = .retry ∧ settings.maxAttempts.any (· ≤ job.attempts + 1) = true

theorem judged_conclude (queue : Queue WakeHeap τ ρ) (now : Nat) (job : Job τ) (outcome : Outcome) :
    Judged queue.settings job (queue.conclude now job outcome).1 := by
  rw [Judged, answer_conclude]
  cases outcome with
  | done => simp [conclude]
  | retry =>
    cases spent : queue.isSpent (job.attempts + 1) with
    | true =>
      rw [verdict_spent spent]
      exact iff_of_true rfl ⟨rfl, spent⟩
    | false =>
      rw [verdict_retry spent]
      refine iff_of_false (by decide) fun told => ?_
      exact absurd told.2 (by simpa [isSpent] using spent)

/-- Whatever is told to have become of a job was decided by the settings. -/
theorem Does.judged {next : Queue WakeHeap τ ρ} {news : List (Mark τ)} (does : queue.Does now news next)
    {job : Job τ} {verdict : Verdict} (told : .ended job verdict ∈ news) :
    Judged queue.settings job verdict := by
  have closes {queue : Queue WakeHeap τ ρ} {current : Job τ} {outcome : Outcome}
      (told : .ended job verdict ∈ queue.closing now current outcome) :
      Judged queue.settings job verdict := by
    have isFirst : Mark.ended job verdict = .ended current (queue.conclude now current outcome).1 := by
      simpa [closing] using told
    cases isFirst
    exact judged_conclude queue now job outcome
  cases does with
  | run started outcome =>
    rw [← (start_frame started).2.1]
    exact closes (by simpa using told)
  | conclude running outcome => exact closes told
  | _ => simp at told

theorem Course.judged (course : Course start (create settings) marks now queue) {time : Nat}
    {job : Job τ} {verdict : Verdict} (told : (time, .ended job verdict) ∈ marks) :
    Judged settings job verdict := by
  induction course with
  | rest => cases told
  | submit course submitted ih => exact ih (by simpa using told)
  | tell course cause ih => exact ih told
  | wait course span ih => exact ih told
  | work course does ih =>
    rcases List.mem_append.mp told with old | isNew
    · exact ih old
    · obtain ⟨mark, member, same⟩ := List.mem_map.mp isNew
      cases same
      exact course.steps.1 ▸ does.judged member

namespace Lineup

variable {delay time due : Nat} {lineup next last : Lineup τ} {mark : Mark τ} {job : Job τ} {task : τ}

/-! ### Rest -/

/-- The task is not run before the instant: if it is there at all, it is put off for as long. -/
structure Asleep (due : Nat) (task : τ) (lineup : Lineup τ) : Prop where
  notReady : task ∉ lineup.ready.map Job.task
  notHanded : task ∉ lineup.inbox
  notRun : ∀ job, lineup.worker = .busy job → job.task ≠ task
  wakeAt : ∀ entry ∈ lineup.delayed, entry.item.task = task → due ≤ entry.wakeAt

theorem Step.asleep (step : Step delay time lineup mark next) (alive : next.worker ≠ .gone)
    (asleep : lineup.Asleep due task) (early : time < due) (notAgain : mark ≠ .submitted task) :
    next.Asleep due task := by
  obtain ⟨notReady, notHanded, notRun, wakeAt⟩ := asleep
  cases step with
  | submitted handed =>
    have differ : task ≠ handed := fun same => notAgain (same ▸ rfl)
    exact ⟨notReady, by simp [notHanded, differ], notRun, wakeAt⟩
  | received idle oldest =>
    rw [oldest, List.mem_cons, not_or] at notHanded
    exact ⟨by simp [List.map_append, notReady, notHanded.1], notHanded.2, notRun, wakeAt⟩
  | looked idle =>
    refine ⟨?_, notHanded, notRun, fun entry member =>
      wakeAt entry (List.mem_filter.mp member).1⟩
    rw [List.map_append, List.mem_append, not_or]
    refine ⟨notReady, fun woken => ?_⟩
    obtain ⟨job, isDue, same⟩ := List.mem_map.mp woken
    obtain ⟨entry, member, rfl⟩ := List.mem_map.mp isDue
    obtain ⟨putOff, ripe⟩ := List.mem_filter.mp member
    have late := wakeAt entry putOff same
    have ripe := of_decide_eq_true ripe
    omega
  | started idle foremost =>
    rw [foremost, List.map_cons, List.mem_cons, not_or] at notReady
    refine ⟨notReady.2, notHanded, fun job busy => ?_, wakeAt⟩
    cases busy
    exact Ne.symm notReady.1
  | finished => exact ⟨notReady, notHanded, nofun, wakeAt⟩
  | @putOff job serial busy =>
    refine ⟨notReady, notHanded, nofun, fun entry member same => ?_⟩
    rcases List.mem_append.mp member with old | isNew
    · exact wakeAt entry old same
    · obtain rfl := List.mem_singleton.mp isNew
      exact absurd same (notRun job busy)
  | left exit _ gone => exact absurd gone alive

theorem Steps.asleep (steps : Steps delay lineup marks last) (alive : last.worker ≠ .gone)
    (asleep : lineup.Asleep due task) (early : ∀ mark ∈ marks, mark.1 < due)
    (notAgain : task ∉ submissions marks) : last.Asleep due task := by
  induction steps with
  | rest => exact asleep
  | @next marks time mark lineup next steps step ih =>
    rw [submissions_snoc, List.mem_append, not_or] at notAgain
    refine step.asleep alive (ih step.alive (fun mark member => ?_) notAgain.1) ?_ fun same => ?_
    · exact early mark (List.mem_append_left _ member)
    · exact early _ (List.mem_append_right _ List.mem_cons_self)
    · exact notAgain.2 (same ▸ List.mem_cons_self)

/-- Nobody runs what is asleep. -/
theorem Step.run?_ne (step : Step delay time lineup mark next) (asleep : lineup.Asleep due task) :
    mark.run? ≠ some task := by
  cases step with
  | started idle foremost =>
    have notReady := asleep.notReady
    rw [foremost, List.map_cons, List.mem_cons, not_or] at notReady
    exact fun same => notReady.1 (Option.some.inj same).symm
  | finished busy | putOff _ busy => exact fun same => asleep.notRun _ busy (Option.some.inj same)
  | _ => nofun

/-- No run of a task that is asleep begins or ends before the instant. -/
theorem Steps.run?_ne (steps : Steps delay lineup marks last) (asleep : lineup.Asleep due task)
    (inTime : Chronological marks) (notAgain : task ∉ submissions marks)
    (told : (time, mark) ∈ marks) (early : time < due) : mark.run? ≠ some task := by
  obtain ⟨before, after, rfl⟩ := List.append_of_mem told
  obtain ⟨middle, toMiddle, onward⟩ := steps.split
  obtain ⟨next, step, -⟩ := onward.uncons
  rw [submissions_append, List.mem_append, not_or] at notAgain
  have past := inTime.of_append.2.2
  exact step.run?_ne (toMiddle.asleep step.alive asleep
    (fun mark member => (past mark member _ List.mem_cons_self).trans_lt early) notAgain.1)

/-- What is in no list is not run at any time. -/
theorem asleep_of_absent (absent : task ∉ lineup.tasks) (alive : lineup.worker ≠ .gone) (due : Nat) :
    lineup.Asleep due task := by
  obtain ⟨notRun, notWaiting⟩ :
      (∀ job, lineup.worker = .busy job → job.task ≠ task) ∧ task ∉ lineup.waiting := by
    cases worker : lineup.worker with
    | idle => exact ⟨nofun, tasks_of_idle worker ▸ absent⟩
    | busy job =>
      rw [tasks_of_busy worker, List.mem_cons, not_or] at absent
      exact ⟨fun _ same => Worker.busy.inj same ▸ Ne.symm absent.1, absent.2⟩
    | gone => exact absurd worker alive
  rw [waiting, List.mem_append, List.mem_append, not_or, not_or] at notWaiting
  exact ⟨notWaiting.1.1, notWaiting.2, notRun, fun entry putOff same =>
    absurd (same ▸ List.mem_map_of_mem putOff) notWaiting.1.2⟩

/-- What is done with is in no list any more. -/
theorem Step.absent_of_settled {verdict : Verdict} (distinct : lineup.tasks.Nodup)
    (step : Step delay time lineup (.ended job verdict) next) (settled : verdict ≠ .putOff) :
    job.task ∉ next.tasks := by
  cases step with
  | finished busy => exact (List.nodup_cons.mp (tasks_of_busy busy ▸ distinct)).1
  | putOff => exact absurd rfl settled

theorem Step.busy_of_ended {verdict : Verdict}
    (step : Step delay time lineup (.ended job verdict) next) : lineup.worker = .busy job := by
  cases step with
  | finished busy | putOff _ busy => exact busy

theorem Step.idle_of_ended {verdict : Verdict}
    (step : Step delay time lineup (.ended job verdict) next) : next.worker = .idle := by
  cases step <;> rfl

/-- The lists before and after the end of a run. Its task is not handed in again. -/
theorem Steps.at_end {before after : List (Nat × Mark τ)} {verdict : Verdict}
    (steps : Steps delay .empty (before ++ (time, .ended job verdict) :: after) last)
    (distinct : (submissions (before ++ (time, .ended job verdict) :: after)).Nodup) :
    ∃ middle next, Steps delay .empty before middle ∧
      Step delay time middle (.ended job verdict) next ∧ Steps delay next after last ∧
      (submissions before).Nodup ∧ job.task ∉ submissions after := by
  obtain ⟨middle, toMiddle, onward⟩ := steps.split
  obtain ⟨next, step, later⟩ := onward.uncons
  have handed : job.task ∈ submissions before := by
    refine toMiddle.tasks_subperm.subset ?_
    rw [tasks_of_busy step.busy_of_ended]
    exact List.mem_cons_self
  have silent : (Mark.ended job verdict).submitted? = none := rfl
  rw [List.append_cons, submissions_append, submissions_snoc, silent, Option.toList_none,
    List.append_nil] at distinct
  obtain ⟨apart, -, differ⟩ := List.nodup_append.mp distinct
  exact ⟨middle, next, toMiddle, step, later, apart, fun again => differ _ handed _ again rfl⟩

/-- A task whose run has come to its end rests for the whole delay. -/
theorem Step.asleep_of_ended {verdict : Verdict} (distinct : lineup.tasks.Nodup)
    (step : Step delay time lineup (.ended job verdict) next) :
    next.Asleep (time + delay) job.task := by
  cases step with
  | finished busy settled =>
    have ends : Step delay time lineup (.ended job verdict) _ := .finished busy settled
    exact asleep_of_absent (ends.absent_of_settled distinct settled) (by simp) _
  | putOff serial busy =>
    have absent := (List.nodup_cons.mp (tasks_of_busy busy ▸ distinct)).1
    have idle : Asleep (time + delay) job.task { lineup with worker := .idle } :=
      asleep_of_absent absent (by simp) _
    refine ⟨idle.notReady, idle.notHanded, nofun, fun entry member same => ?_⟩
    rcases List.mem_append.mp member with old | isNew
    · exact idle.wakeAt entry old same
    · obtain rfl := List.mem_singleton.mp isNew
      exact le_rfl

/-! ### Counting -/

/-- The job that is being run. -/
def current? (lineup : Lineup τ) : Option (Job τ) :=
  match lineup.worker with
  | .busy job => some job
  | _ => none

/-- All jobs, those among them that were not received yet. -/
def jobs (lineup : Lineup τ) : List (Job τ) :=
  lineup.current?.toList ++ lineup.line ++ lineup.inbox.map (⟨·, 0⟩)

theorem map_task_jobs (alive : lineup.worker ≠ .gone) : lineup.jobs.map Job.task = lineup.tasks := by
  cases worker : lineup.worker with
  | idle => simp [jobs, current?, worker, tasks, waiting, line, Function.comp_def]
  | busy => simp [jobs, current?, worker, tasks, waiting, line, Function.comp_def]
  | gone => exact absurd worker alive

/-- All that began has come to its end but for the run that is under way. -/
theorem Steps.runs_eq (steps : Steps delay .empty marks lineup) (alive : lineup.worker ≠ .gone) :
    runs marks = endings marks ++ lineup.current?.toList.map Job.task := by
  induction steps with
  | rest => rfl
  | @next marks time mark lineup next steps step ih =>
    rw [runs_snoc, endings_snoc, ih step.alive]
    cases step with
    | submitted | received idle | looked idle => simp [Mark.started?, Mark.ended?, current?]
    | started idle foremost => simp [Mark.started?, Mark.ended?, current?, idle]
    | finished busy | putOff _ busy => simp [Mark.started?, Mark.ended?, current?, busy]
    | left exit _ gone => exact absurd gone alive

theorem mem_current? : job ∈ lineup.current?.toList ↔ lineup.worker = .busy job := by
  unfold current?
  split
  · rename_i busy
    simp [busy, eq_comm]
  · rename_i idle
    simpa using idle job

theorem mem_jobs :
    job ∈ lineup.jobs ↔ lineup.worker = .busy job ∨ job ∈ lineup.ready ∨
      (∃ entry ∈ lineup.delayed, entry.item = job) ∨ job.attempts = 0 ∧ job.task ∈ lineup.inbox := by
  have handed : job ∈ lineup.inbox.map (⟨·, 0⟩) ↔ job.attempts = 0 ∧ job.task ∈ lineup.inbox := by
    rw [List.mem_map]
    constructor
    · rintro ⟨task, member, rfl⟩
      exact ⟨rfl, member⟩
    · rintro ⟨new, member⟩
      exact ⟨job.task, member, new ▸ rfl⟩
  rw [jobs, line, List.mem_append, List.mem_append, List.mem_append, mem_current?, handed,
    List.mem_map, or_assoc, or_assoc]

/-- As long as no run comes to its end, each job that is not new was there before. -/
theorem Step.jobs_cases (step : Step delay time lineup mark next) (alive : next.worker ≠ .gone)
    (goesOn : mark.ended? = none) (member : job ∈ next.jobs) :
    job ∈ lineup.jobs ∨ mark = .submitted job.task ∧ job.attempts = 0 := by
  rw [mem_jobs] at member ⊢
  cases step with
  | submitted | received | looked | started => grind
  | finished | putOff => cases goesOn
  | left exit _ gone => exact absurd gone alive

/-- A job whose run has come to its end is there once more if it was put off, and else not. -/
theorem Step.jobs_ended {old : Job τ} {verdict : Verdict}
    (step : Step delay time lineup (.ended old verdict) next) :
    ∃ others, lineup.jobs = old :: others ∧
      ∀ job ∈ next.jobs, job ∈ others ∨ verdict = .putOff ∧ job = ⟨old.task, old.attempts + 1⟩ := by
  cases step with
  | finished busy settled =>
    refine ⟨lineup.line ++ lineup.inbox.map (⟨·, 0⟩), by simp [jobs, current?, busy], ?_⟩
    exact fun job member => .inl (by simpa [jobs, current?, line] using member)
  | putOff serial busy =>
    refine ⟨lineup.line ++ lineup.inbox.map (⟨·, 0⟩), by simp [jobs, current?, busy], ?_⟩
    intro job member
    simp only [jobs, current?, line, List.mem_append, List.map_append, List.mem_map,
      List.mem_singleton] at member ⊢
    grind

theorem Steps.endings_within (steps : Steps delay .empty marks lineup) :
    endings marks <+: runs marks := by
  cases steps with
  | rest => exact List.prefix_rfl
  | @next marks time mark before _ steps step =>
    by_cases gone : lineup.worker = .gone
    · obtain ⟨exit, rfl⟩ := step.left_of_gone gone
      rw [endings_snoc, runs_snoc, steps.runs_eq step.alive]
      simp [Mark.ended?, Mark.started?]
    · exact ((steps.next step).runs_eq gone).symm ▸ List.prefix_append _ _

/-- What is put off has not run as often as it may. -/
theorem Steps.attempts_lt {bound : Nat} (steps : Steps delay .empty marks lineup)
    (alive : lineup.worker ≠ .gone) (bounded : settings.maxAttempts = some bound)
    (judged : ∀ time job verdict, (time, .ended job verdict) ∈ marks → Judged settings job verdict) :
    ∀ job ∈ lineup.jobs, job.attempts < bound := by
  induction steps with
  | rest => nofun
  | @next marks time mark lineup next steps step ih =>
    have before := ih step.alive fun time job verdict member =>
      judged time job verdict (List.mem_append_left _ member)
    intro job member
    cases ended : mark.ended? with
    | none =>
      rcases step.jobs_cases alive ended member with old | ⟨-, new⟩
      · exact before job old
      · exact new ▸ settings.maxAttempts_pos bound bounded
    | some task =>
      obtain ⟨old, verdict, rfl⟩ := Mark.eq_of_ended? ended
      obtain ⟨others, whole, remain⟩ := step.jobs_ended
      rcases remain job member with stays | ⟨rfl, rfl⟩
      · exact before job (whole ▸ List.mem_cons_of_mem _ stays)
      · have decided := judged time old _ (List.mem_append_right _ List.mem_cons_self)
        have may : ¬ bound ≤ old.attempts + 1 := fun spent =>
          nomatch decided.mpr ⟨rfl, by simp [bounded, spent]⟩
        show old.attempts + 1 < bound
        omega

variable [DecidableEq τ]

/-- Each job carries the number of its runs with it. -/
theorem Step.attempts_eq (step : Step delay time lineup mark next) (alive : next.worker ≠ .gone)
    (distinct : lineup.tasks.Nodup)
    (new : ∀ task, mark = .submitted task → task ∉ endings marks)
    (counted : ∀ job ∈ lineup.jobs, job.attempts = (endings marks).count job.task) :
    ∀ job ∈ next.jobs, job.attempts = (endings (marks ++ [(time, mark)])).count job.task := by
  intro job member
  cases ended : mark.ended? with
  | none =>
    rw [endings_snoc, ended, Option.toList_none, List.append_nil]
    rcases step.jobs_cases alive ended member with old | ⟨handed, unrun⟩
    · exact counted job old
    · rw [unrun, List.count_eq_zero.mpr (new _ handed)]
  | some task =>
    obtain ⟨old, verdict, rfl⟩ := Mark.eq_of_ended? ended
    obtain ⟨others, whole, remain⟩ := step.jobs_ended
    have apart : (old.task :: others.map Job.task).Nodup := by
      rw [← List.map_cons, ← whole, map_task_jobs step.alive]
      exact distinct
    have runs := counted old (whole ▸ List.mem_cons_self)
    have one : (endings (marks ++ [(time, .ended old verdict)])).count job.task =
        (endings marks).count job.task + [old.task].count job.task := by
      rw [endings_snoc, List.count_append]
      rfl
    rw [one]
    rcases remain job member with stays | ⟨-, rfl⟩
    · have differ : job.task ∉ [old.task] := fun same =>
        (List.nodup_cons.mp apart).1 (List.mem_singleton.mp same ▸ List.mem_map_of_mem stays)
      rw [List.count_eq_zero.mpr differ]
      exact counted job (whole ▸ List.mem_cons_of_mem _ stays)
    · simpa using runs

theorem Steps.attempts_eq (steps : Steps delay .empty marks lineup) (alive : lineup.worker ≠ .gone)
    (distinct : (submissions marks).Nodup) :
    ∀ job ∈ lineup.jobs, job.attempts = (endings marks).count job.task := by
  induction steps with
  | rest => nofun
  | @next marks time mark lineup next steps step ih =>
    have handed := distinct
    rw [submissions_snoc] at handed
    have apart := (List.nodup_append.mp handed).1
    refine step.attempts_eq alive (steps.tasks_nodup apart) ?_ (ih step.alive apart)
    rintro task rfl ended
    have before : task ∈ submissions marks :=
      steps.firstRuns_within.subset (steps.firstRuns_of_runs (steps.endings_within.subset ended))
    exact (List.nodup_append.mp handed).2.2 task before task List.mem_cons_self rfl

/-- Among all runs there are no more of a task than the bound allows. -/
theorem Steps.count_runs_le {bound : Nat} (steps : Steps delay .empty marks lineup)
    (distinct : (submissions marks).Nodup) (bounded : settings.maxAttempts = some bound)
    (judged : ∀ time job verdict, (time, .ended job verdict) ∈ marks → Judged settings job verdict)
    (task : τ) : (runs marks).count task ≤ bound := by
  induction steps with
  | rest => exact Nat.zero_le _
  | @next marks time mark lineup next steps step ih =>
    rw [submissions_append] at distinct
    have apart := (List.nodup_append.mp distinct).1
    have judgedBefore := fun time job verdict member =>
      judged time job verdict (List.mem_append_left _ member)
    have before := ih apart judgedBefore
    rw [runs_snoc]
    cases step with
    | @started job ready idle foremost =>
      have isThere : job ∈ lineup.jobs := mem_jobs.mpr (.inr (.inl (foremost ▸ List.mem_cons_self)))
      have counted := steps.attempts_eq (by simp [idle]) apart job isThere
      have may := steps.attempts_lt (by simp [idle]) bounded judgedBefore job isThere
      have ended : runs marks = endings marks := by
        rw [steps.runs_eq (by simp [idle])]
        simp [current?, idle]
      by_cases same : job.task = task
      · subst same
        rw [ended, List.count_append, ← counted]
        simp [Mark.started?]
        omega
      · simpa [Mark.started?, List.count_append, same] using before
    | _ => simpa [Mark.started?] using before

end Lineup

/-! ### Runs that keep to the settings -/

/-- The runs that are told of keep to the settings. No task runs more often than the bound allows.
Whenever a run ends, its job carries the number of runs of its task, it is given up on exactly if
the last run that the bound allows has to be repeated, and what is not put off is never run again.
What is run again has rested for the whole delay. -/
structure Obeys [DecidableEq τ] (settings : Settings) (marks : List (Nat × Mark τ)) : Prop where
  ended : ∀ task, (endings marks).count task ≤ (runs marks).count task
  bounded : ∀ bound, settings.maxAttempts = some bound → ∀ task, (runs marks).count task ≤ bound
  counted : ∀ before time job verdict after, marks = before ++ (time, .ended job verdict) :: after →
    job.attempts + 1 = (runs before).count job.task
  exhausted : ∀ before time job verdict after, marks = before ++ (time, .ended job verdict) :: after →
    (verdict = .gaveUp ↔
      verdict.answer = .retry ∧ settings.maxAttempts = some ((runs before).count job.task))
  settled : ∀ before time job verdict after, marks = before ++ (time, .ended job verdict) :: after →
    verdict ≠ .putOff → ∀ mark ∈ after, mark.2.run? ≠ some job.task
  rested : ∀ before time job verdict after, marks = before ++ (time, .ended job verdict) :: after →
    ∀ later next, (later, .started next) ∈ after → next.task = job.task →
      time + settings.retryDelay ≤ later

/-- The job of a run that is the last one of its task carries the number of all its runs. -/
theorem Obeys.count_eq [DecidableEq τ] {before after : List (Nat × Mark τ)} {time : Nat}
    {job : Job τ} {verdict : Verdict}
    (obeys : Obeys settings (before ++ (time, .ended job verdict) :: after))
    (settled : verdict ≠ .putOff) :
    (runs (before ++ (time, .ended job verdict) :: after)).count job.task = job.attempts + 1 := by
  have never : job.task ∉ runs ((time, .ended job verdict) :: after) := by
    rw [mem_runs]
    rintro ⟨later, next, member, same⟩
    have inAfter : (later, .started next) ∈ after := by simpa using member
    exact obeys.settled before time job verdict after rfl settled _ inAfter (congrArg some same)
  rw [runs_append, List.count_append, List.count_eq_zero.mpr never, Nat.add_zero]
  exact (obeys.counted before time job verdict after rfl).symm

theorem History.obeys [DecidableEq τ] (history : History marks now queue)
    (distinct : (submissions marks).Nodup) : Obeys queue.settings marks := by
  obtain ⟨settings, start, course⟩ := history
  obtain ⟨inTime, -⟩ := course.chronological
  obtain ⟨same, fifo, -, steps⟩ := course.steps
  rw [same]
  have judged := fun time job verdict (told : (time, Mark.ended job verdict) ∈ marks) =>
    course.judged told
  have counted : ∀ before time job verdict after,
      marks = before ++ (time, .ended job verdict) :: after →
        job.attempts + 1 = (runs before).count job.task := by
    rintro before time job verdict after rfl
    obtain ⟨middle, next, toMiddle, ends, -, apart, -⟩ := steps.at_end distinct
    have busy := ends.busy_of_ended
    have attempts := toMiddle.attempts_eq ends.alive apart job (Lineup.mem_jobs.mpr (.inl busy))
    rw [toMiddle.runs_eq ends.alive, List.count_append, ← attempts]
    simp [Lineup.current?, busy]
  refine ⟨fun task => ?_, fun bound bounded task => ?_, counted, ?_, ?_, ?_⟩
  · exact steps.endings_within.sublist.count_le task
  · exact steps.count_runs_le distinct bounded judged task
  · rintro before time job verdict after rfl
    obtain ⟨middle, next, toMiddle, ends, -⟩ := steps.at_end distinct
    have may (bound : Nat) (bounded : settings.maxAttempts = some bound) : job.attempts < bound :=
      toMiddle.attempts_lt ends.alive bounded
        (fun time job verdict member => judged time job verdict (List.mem_append_left _ member)) job
        (Lineup.mem_jobs.mpr (.inl ends.busy_of_ended))
    have decided := judged time job verdict (by simp)
    rw [← counted before time job verdict after rfl]
    refine decided.trans (and_congr_right fun _ => ?_)
    cases bounded : settings.maxAttempts with
    | none => simp
    | some bound =>
      have fewer := may bound bounded
      simp only [Option.any_some, decide_eq_true_eq, Option.some.injEq]
      omega
  · rintro before time job verdict after rfl settled ⟨moment, mark⟩ told
    obtain ⟨middle, next, toMiddle, ends, onward, apart, notAgain⟩ := steps.at_end distinct
    have absent := ends.absent_of_settled (toMiddle.tasks_nodup apart) settled
    have asleep := Lineup.asleep_of_absent absent (by simp [ends.idle_of_ended]) (moment + 1)
    exact onward.run?_ne asleep inTime.of_append.2.1.of_cons notAgain told (Nat.lt_succ_self moment)
  · rintro before time job verdict after rfl later next told again
    obtain ⟨middle, next', toMiddle, ends, onward, apart, notAgain⟩ := steps.at_end distinct
    have asleep := ends.asleep_of_ended (toMiddle.tasks_nodup apart)
    by_contra early
    have never := onward.run?_ne asleep inTime.of_append.2.1.of_cons notAgain told (by omega)
    exact never (again ▸ rfl)

end ReplicaSet.Queue
