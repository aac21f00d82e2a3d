import ReplicaSet.Proofs.BenchRuns

/-!
Tasks that share a queue and do not notice each other. A bench on which some of the tasks were never
handed in goes through the same states as the other one, as far as the remaining tasks go. What
differs in between are only the timers at which the worker has nothing to run.
-/
namespace ReplicaSet.Simulation

variable {τ : Type}

/-- Whether the cue is not a submission of another task. -/
def Cue.concerns (keep : τ → Prop) [DecidablePred keep] : Cue τ → Bool
  | .submit task => keep task
  | _ => true

namespace Bench

variable {keep : τ → Prop} [DecidablePred keep] {bench next whole part : Bench τ} {task : τ}
  {time target count fewer : Nat}

/-- The second bench is the first one with some of the tasks. -/
structure Mirrors (keep : τ → Prop) [DecidablePred keep] (whole part : Bench τ) : Prop where
  wholeWorking : whole.Working
  partWorking : part.Working
  now : part.now = whole.now
  terms : part.terms = whole.terms
  tableau : part.tableau = whole.tableau.select keep

namespace Mirrors

theorem atInstant (mirrors : Mirrors keep whole part) (onward : whole.now ≤ time) :
    Mirrors keep { whole with now := time } { part with now := time } where
  wholeWorking := mirrors.wholeWorking.later onward
  partWorking := mirrors.partWorking.later (mirrors.now.trans_le onward)
  now := rfl
  terms := mirrors.terms
  tableau := mirrors.tableau

theorem settle (mirrors : Mirrors keep whole part) :
    Mirrors keep (Clockwork.settle whole) (Clockwork.settle part) := by
  obtain ⟨wholeRests, wholeSettled⟩ := mirrors.wholeWorking.settle
  obtain ⟨partRests, partSettled⟩ := mirrors.partWorking.settle
  obtain ⟨wholeNow, wholeTerms⟩ := whole.settle_frame
  obtain ⟨partNow, partTerms⟩ := part.settle_frame
  refine ⟨wholeRests.toWorking, partRests.toWorking, ?_, ?_, ?_⟩
  · rw [wholeNow, partNow, mirrors.now]
  · rw [wholeTerms, partTerms, mirrors.terms]
  · rw [wholeSettled, partSettled, settled, settled, mirrors.tableau, mirrors.terms, mirrors.now,
      Queue.Tableau.select_settle]

/-- What waits on the part waits on the whole. -/
theorem asleep_subset (mirrors : Mirrors keep whole part) {entry : Nat × Job τ}
    (waits : entry ∈ part.queue.asleep) : entry ∈ whole.queue.asleep := by
  have same : part.queue.asleep = whole.queue.asleep.filter (keep ·.2.task) :=
    congrArg Queue.Tableau.asleep mirrors.tableau
  rw [same] at waits
  exact Multiset.mem_of_mem_filter waits

end Mirrors

/-- It makes no difference whether a bench is looked at once more before its next timer. -/
theorem hop_skip
    (skipped : Resting { Clockwork.settle part with now := time }) :
    Clockwork.hop target (count + 1) { Clockwork.settle part with now := time } =
      Clockwork.hop target (count + 1) part := by
  have same : Clockwork.settle { Clockwork.settle part with now := time } =
      { Clockwork.settle part with now := time } := skipped.settle_eq
  unfold Clockwork.hop
  rw [same]
  rfl

/-- On a part that rests nothing is due when the first timer of the whole fires, unless it has the
same timer itself. -/
theorem Mirrors.idle (mirrors : Mirrors keep whole part) (rests : part.Resting)
    {first : Nat × Job τ} (earliest : ∀ entry ∈ whole.queue.asleep, first.1 ≤ entry.1)
    (other : part.alarm? ≠ some (Time.tick first.1)) :
    ∀ entry ∈ part.queue.asleep, Time.tick first.1 < entry.1 := by
  intro entry waits
  by_contra due
  rcases rests.alarm?_cases with ⟨-, nothing⟩ | ⟨next, alsoWaits, isNext, before⟩
  · simp [nothing] at waits
  · have late := Time.tick_le_tick (earliest next (mirrors.asleep_subset alsoWaits))
    have early := Time.tick_le_of_le_tick ((before entry waits).trans (Nat.le_of_not_lt due))
    exact other (isNext.trans (congrArg some (early.antisymm late)))

/-- The timers of the part are timers of the whole. At the others nothing happens on the part. -/
theorem Mirrors.hop (mirrors : Mirrors keep whole part) (onward : whole.now ≤ target)
    (enough : target - whole.now < count) (fewerEnough : target - whole.now < fewer) :
    Mirrors keep (Clockwork.hop target count whole) (Clockwork.hop target fewer part) := by
  induction count generalizing whole part fewer with
  | zero => omega
  | succ count ih =>
    obtain ⟨fewer, rfl⟩ : ∃ less, fewer = less + 1 := ⟨fewer - 1, by omega⟩
    have settled := mirrors.settle
    have wholeRests := mirrors.wholeWorking.settle.1
    have partRests := mirrors.partWorking.settle.1
    have sameNow : (Clockwork.settle whole).now = whole.now := whole.settle_frame.1
    have stops (late : ∀ entry ∈ (Clockwork.settle whole).queue.asleep,
          target < Time.tick entry.1) :
        Mirrors keep (Clockwork.hop target (count + 1) whole)
          (Clockwork.hop target (fewer + 1) part) := by
      rw [Clockwork.hop_end (wholeRests.alarm?_late late),
        Clockwork.hop_end (partRests.alarm?_late fun entry waits =>
          late entry (settled.asleep_subset waits))]
      exact (settled.atInstant (sameNow.trans_le onward)).settle
    rcases wholeRests.alarm?_cases with ⟨-, nothing⟩ | ⟨first, waits, isFirst, earliest⟩
    · exact stops (by simp [nothing])
    · by_cases inTime : Time.tick first.1 ≤ target
      · have before : whole.now < Time.tick first.1 :=
          sameNow ▸ (wholeRests.later first waits).trans_le (Time.le_tick _)
        have fires : Mirrors keep { Clockwork.settle whole with now := Time.tick first.1 }
            { Clockwork.settle part with now := Time.tick first.1 } :=
          settled.atInstant (sameNow.trans_le before.le)
        have less : target - Time.tick first.1 < count := by omega
        rw [Clockwork.hop_next isFirst inTime]
        by_cases same : (Clockwork.settle part).alarm? = some (Time.tick first.1)
        · have alsoLess : target - Time.tick first.1 < fewer := by omega
          rw [Clockwork.hop_next same inTime]
          exact ih fires inTime less alsoLess
        · have skipped : Resting { Clockwork.settle part with now := Time.tick first.1 } :=
            partRests.onward ((settled.now.trans sameNow).trans_le before.le)
              (settled.idle partRests earliest same)
          have alsoLess : target - Time.tick first.1 < fewer + 1 := by omega
          rw [← hop_skip skipped]
          exact ih fires inTime less alsoLess
      · exact stops fun entry alsoWaits =>
          (Nat.lt_of_not_le inTime).trans_le (Time.tick_le_tick (earliest entry alsoWaits))

namespace Mirrors

theorem submit (mirrors : Mirrors keep whole part) (kept : keep task) :
    Mirrors keep (whole.play (.submit task)) (part.play (.submit task)) := by
  obtain ⟨wholeNow, wholeTerms⟩ := mirrors.wholeWorking.submit_frame task
  obtain ⟨partNow, partTerms⟩ := mirrors.partWorking.submit_frame task
  obtain ⟨fresh, asleep, attempts⟩ := Queue.Tableau.mk.inj mirrors.tableau
  refine ⟨mirrors.wholeWorking.submit task, mirrors.partWorking.submit task, ?_, ?_, ?_⟩
  · rw [wholeNow, partNow, mirrors.now]
  · rw [wholeTerms, partTerms, mirrors.terms]
  · rw [mirrors.wholeWorking.tableau_submit, mirrors.partWorking.tableau_submit, fresh, asleep,
      attempts]
    simp only [Queue.Tableau.select, Multiset.filter_cons, kept, if_true, Multiset.singleton_add]
    rfl

theorem pass (mirrors : Mirrors keep whole part) (dropped : ¬ keep task) :
    Mirrors keep (whole.play (.submit task)) part := by
  obtain ⟨now, terms⟩ := mirrors.wholeWorking.submit_frame task
  refine ⟨mirrors.wholeWorking.submit task, mirrors.partWorking, mirrors.now.trans now.symm,
    mirrors.terms.trans terms.symm, mirrors.tableau.trans ?_⟩
  rw [mirrors.wholeWorking.tableau_submit]
  simp only [Queue.Tableau.select, Multiset.filter_cons, dropped, if_false, zero_add]
  rfl

theorem play (mirrors : Mirrors keep whole part) {cue : Cue τ}
    (other : ∀ task, cue ≠ .submit task) : Mirrors keep (whole.play cue) (part.play cue) := by
  cases cue with
  | submit task => exact absurd rfl (other task)
  | settle => exact mirrors.settle
  | jump millis =>
    change Mirrors keep (Clockwork.settle { whole with now := whole.now + Time.ofMillis millis })
      (Clockwork.settle { part with now := part.now + Time.ofMillis millis })
    rw [mirrors.now]
    exact (mirrors.atInstant (Nat.le_add_right _ _)).settle
  | advance millis =>
    change Mirrors keep
      (Clockwork.hop (whole.now + Time.ofMillis millis) (Time.ofMillis millis + 1) whole)
      (Clockwork.hop (part.now + Time.ofMillis millis) (Time.ofMillis millis + 1) part)
    have enough : whole.now + Time.ofMillis millis - whole.now < Time.ofMillis millis + 1 := by omega
    rw [mirrors.now]
    exact mirrors.hop (Nat.le_add_right _ _) enough enough

/-- What concerns the part is done with both. -/
theorem playAll (mirrors : Mirrors keep whole part) (script : List (Cue τ)) :
    Mirrors keep (whole.playAll script) (part.playAll (script.filter (Cue.concerns keep))) := by
  induction script generalizing whole part with
  | nil => exact mirrors
  | cons cue script ih =>
    cases concerns : cue.concerns keep with
    | true =>
      have played : Mirrors keep (whole.play cue) (part.play cue) := by
        cases cue with
        | submit task => exact mirrors.submit (of_decide_eq_true concerns)
        | settle | advance | jump => exact mirrors.play (by simp)
      rw [List.filter_cons_of_pos concerns]
      exact ih played
    | false =>
      rw [List.filter_cons_of_neg (by simp [concerns])]
      cases cue with
      | submit task => exact ih (mirrors.pass (of_decide_eq_false concerns))
      | settle | advance | jump => cases concerns

theorem create (keep : τ → Prop) [DecidablePred keep] (settings : Settings)
    (answer : τ → Nat → Outcome) :
    Mirrors keep (Bench.create settings answer) (Bench.create settings answer) where
  wholeWorking := create_working settings answer
  partWorking := create_working settings answer
  now := rfl
  terms := rfl
  tableau := rfl

end Mirrors

/-! ### The runs of one task -/

/-- The runs of a task are numbered without gaps, and there is at most one job of it, which knows
how many they are. -/
structure InTurn (task : τ) (attempts : List (Queue.Attempt τ)) (jobs : Multiset (Job τ)) :
    Prop where
  numbered : attempts.map (·.job.attempts) = List.range attempts.length
  single : jobs ≤ {⟨task, attempts.length⟩}

namespace InTurn

variable {attempts other : List (Queue.Attempt τ)} {jobs otherJobs : Multiset (Job τ)}

theorem ran {terms : Queue.Terms τ} {now : Nat} {job : Job τ} {rest : Multiset (Job τ)}
    (inTurn : InTurn task attempts (job ::ₘ rest)) :
    InTurn task (attempts ++ [terms.attempt now job])
      ((terms.again now job).map Prod.snd + rest) := by
  have single := inTurn.single
  rw [Multiset.le_singleton] at single
  obtain ⟨isJob, none⟩ := (Multiset.singleton_eq_cons_iff _).mp
    (single.resolve_left Multiset.cons_ne_zero).symm
  refine ⟨?_, ?_⟩
  · rw [List.map_append, inTurn.numbered, List.length_append, List.length_singleton,
      List.range_succ, ← isJob]
    rfl
  · rw [none, add_zero, List.length_append, List.length_singleton, ← isJob]
    unfold Queue.Terms.again
    split
    · exact le_rfl
    · exact Multiset.zero_le _

/-- Runs that are numbered have an order of their own. -/
theorem eq_of_perm (inTurn : InTurn task attempts jobs) (alsoInTurn : InTurn task other otherJobs)
    (same : attempts.Perm other) : attempts = other := by
  have ordered {attempts : List (Queue.Attempt τ)} {jobs : Multiset (Job τ)}
      (inTurn : InTurn task attempts jobs) :
      attempts.Pairwise fun one two => one.job.attempts < two.job.attempts := by
    have increasing := List.pairwise_lt_range (n := attempts.length)
    rw [← inTurn.numbered, List.pairwise_map] at increasing
    exact increasing
  exact same.eq_of_pairwise (fun one two _ _ before after => absurd before after.asymm)
    (ordered inTurn) (ordered alsoInTurn)

end InTurn

variable [DecidableEq τ]

/-- The runs of the task, oldest first. -/
def attemptsOf (bench : Bench τ) (task : τ) : List (Queue.Attempt τ) :=
  bench.attempts.filter (·.job.task = task)

def jobsOf (bench : Bench τ) (task : τ) : Multiset (Job τ) :=
  bench.tableau.jobs.filter (·.task = task)

/-- A move leaves the jobs of the task and its runs as they are, or it runs one of the jobs. -/
theorem Working.work?_of_task (working : bench.Working) (worked : bench.work? = some next)
    (task : τ) :
    next.jobsOf task = bench.jobsOf task ∧ next.attemptsOf task = bench.attemptsOf task ∨
      ∃ job rest, job.task = task ∧ bench.jobsOf task = job ::ₘ rest ∧
        next.jobsOf task = (bench.terms.again bench.now job).map Prod.snd + rest ∧
        next.attemptsOf task = bench.attemptsOf task ++ [bench.terms.attempt bench.now job] := by
  rcases (working.work? worked).2 with ⟨same, attempts⟩ |
    ⟨job, due, fresh, later, asleep, -, taken, ran, attempts⟩
  · exact .inl ⟨by rw [jobsOf, same, jobsOf], by rw [attemptsOf, attempts, attemptsOf]⟩
  · have before : bench.tableau.jobs = job ::ₘ (fresh + later.map Prod.snd) := by
      rw [Queue.Tableau.jobs, tableau, asleep, Multiset.map_add, ← add_assoc, taken,
        Multiset.cons_add]
    have after : next.tableau.jobs =
        (bench.terms.again bench.now job).map Prod.snd + (fresh + later.map Prod.snd) := by
      rw [ran, Queue.Tableau.jobs, Queue.Tableau.run, Multiset.map_add]
      exact add_left_comm _ _ _
    have again : ((bench.terms.again bench.now job).map Prod.snd).filter (·.task = task) =
        if job.task = task then (bench.terms.again bench.now job).map Prod.snd else 0 :=
      Queue.Tableau.filter_map_again (· = task) job
    by_cases same : job.task = task
    · refine .inr ⟨job, (fresh + later.map Prod.snd).filter (·.task = task), same, ?_, ?_, ?_⟩
      · simp [jobsOf, before, same]
      · rw [jobsOf, after, Multiset.filter_add, again, if_pos same]
      · simp [attemptsOf, attempts, Queue.Terms.attempt, same]
    · refine .inl ⟨?_, ?_⟩
      · rw [jobsOf, jobsOf, after, before, Multiset.filter_add, again, if_neg same]
        simp [same]
      · simp [attemptsOf, attempts, Queue.Terms.attempt, same]

theorem Working.jobsOf_submit (working : bench.Working) (other task : τ) :
    (bench.play (.submit other)).jobsOf task =
      (if other = task then {⟨other, 0⟩} else 0) + bench.jobsOf task := by
  have jobs : (bench.play (.submit other)).tableau.jobs = ⟨other, 0⟩ ::ₘ bench.tableau.jobs := by
    rw [working.tableau_submit, Queue.Tableau.jobs, Multiset.cons_add]
    rfl
  rw [jobsOf, jobs, Multiset.filter_cons, jobsOf]

/-- What holds of the runs and the jobs of a task, and also after another run, holds until the task
is handed in again. -/
theorem Working.play_other (kept : List (Queue.Attempt τ) → Multiset (Job τ) → Prop)
    (ran : ∀ {terms : Queue.Terms τ} {now : Nat} {attempts : List (Queue.Attempt τ)} {job : Job τ}
      {rest : Multiset (Job τ)}, job.task = task → kept attempts (job ::ₘ rest) →
        kept (attempts ++ [terms.attempt now job]) ((terms.again now job).map Prod.snd + rest))
    (working : bench.Working) (holds : kept (bench.attemptsOf task) (bench.jobsOf task))
    {cue : Cue τ} (other : cue ≠ .submit task) :
    kept ((bench.play cue).attemptsOf task) ((bench.play cue).jobsOf task) := by
  cases cue with
  | submit task' =>
    have different : task' ≠ task := fun same => other (congrArg _ same)
    rw [working.jobsOf_submit, if_neg different, zero_add]
    exact holds
  | settle | advance | jump =>
    refine (working.play_induction (fun bench => kept (bench.attemptsOf task) (bench.jobsOf task))
      (fun working holds worked => ?_) (fun holds _ => holds) holds (by simp)).2
    rcases working.work?_of_task worked task with ⟨jobs, attempts⟩ |
      ⟨job, rest, isTask, taken, left, attempts⟩
    · rwa [jobs, attempts]
    · rw [taken] at holds
      rw [left, attempts]
      exact ran isTask holds

theorem InTurn.playAll (inTurn : InTurn task (bench.attemptsOf task) (bench.jobsOf task))
    (working : bench.Working) {script : List (Cue τ)} (absent : .submit task ∉ script) :
    InTurn task ((bench.playAll script).attemptsOf task) ((bench.playAll script).jobsOf task) := by
  induction script generalizing bench with
  | nil => exact inTurn
  | cons cue script ih =>
    rw [List.mem_cons, not_or] at absent
    obtain ⟨other, absent⟩ := absent
    exact ih (working.play_other (InTurn task) (fun _ => InTurn.ran) inTurn (Ne.symm other))
      (working.play cue) absent

/-- The runs of a task that is handed in once at most are numbered. -/
theorem Working.playAll_inTurn (working : bench.Working)
    (unseen : bench.attemptsOf task = [] ∧ bench.jobsOf task = 0) {script : List (Cue τ)}
    (once : script.count (.submit task) ≤ 1) :
    InTurn task ((bench.playAll script).attemptsOf task) ((bench.playAll script).jobsOf task) := by
  induction script generalizing bench with
  | nil =>
    change InTurn task (bench.attemptsOf task) (bench.jobsOf task)
    rw [unseen.1, unseen.2]
    exact ⟨rfl, Multiset.zero_le _⟩
  | cons cue script ih =>
    by_cases same : cue = .submit task
    · subst same
      rw [List.count_cons_self] at once
      have absent : .submit task ∉ script := List.count_eq_zero.mp (by omega)
      have none : (bench.play (.submit task)).attemptsOf task = [] := unseen.1
      have first : InTurn task ((bench.play (.submit task)).attemptsOf task)
          ((bench.play (.submit task)).jobsOf task) := by
        rw [working.jobsOf_submit, if_pos rfl, none, unseen.2]
        exact ⟨rfl, le_rfl⟩
      exact first.playAll (working.submit task) absent
    · rw [List.count_cons_of_ne same] at once
      have still := working.play_other (fun attempts jobs => attempts = [] ∧ jobs = 0)
        (fun _ nothing => absurd nothing.2 Multiset.cons_ne_zero) unseen same
      exact ih (working.play cue) still once

/-! ### Removing a task -/

/-- What a task can have come to. -/
inductive Fate where
  | completed
  | gaveUp
  | pending
deriving DecidableEq, Repr

/-- Whether the task came to that. A task that was handed in more than once can have come to
several. -/
def Meets (bench : Bench τ) (task : τ) : Fate → Prop
  | .completed => ∃ attempt ∈ bench.attemptsOf task, attempt.verdict = .completed
  | .gaveUp => ∃ attempt ∈ bench.attemptsOf task, attempt.verdict = .gaveUp
  | .pending => task ∈ bench.queue.unfinished

theorem Working.count_unfinished (working : bench.Working) (task : τ) :
    bench.queue.unfinished.count task = (bench.jobsOf task).card := by
  have waiting : bench.queue.unfinished = bench.queue.waiting := by
    rcases working.idle with awake | parked
    · exact Queue.unfinished_of_awake awake
    · exact Queue.unfinished_of_parked parked
  have tasks : (bench.queue.waiting : Multiset τ) = bench.tableau.jobs.map Job.task :=
    Queue.coe_waiting bench.queue
  rw [waiting, ← Multiset.coe_count, tasks, Multiset.count_map, jobsOf]
  simp only [eq_comm]

namespace Mirrors

theorem jobsOf (mirrors : Mirrors keep whole part) (kept : keep task) :
    whole.jobsOf task = part.jobsOf task := by
  have jobs : part.tableau.jobs = whole.tableau.jobs.filter (keep ·.task) := by
    rw [mirrors.tableau]
    simp [Queue.Tableau.jobs, Queue.Tableau.select, Multiset.filter_add, Multiset.filter_map]
  rw [Bench.jobsOf, Bench.jobsOf, jobs, Multiset.filter_filter]
  refine Multiset.filter_congr fun job _ => ⟨fun same => ⟨same, same ▸ kept⟩, And.left⟩

theorem attemptsOf (mirrors : Mirrors keep whole part) (kept : keep task) :
    (whole.attemptsOf task).Perm (part.attemptsOf task) := by
  have attempts : (part.attempts : Multiset (Queue.Attempt τ)) =
      (whole.attempts : Multiset (Queue.Attempt τ)).filter (keep ·.job.task) :=
    congrArg Queue.Tableau.attempts mirrors.tableau
  refine Multiset.coe_eq_coe.mp ?_
  rw [Bench.attemptsOf, Bench.attemptsOf, ← Multiset.filter_coe, ← Multiset.filter_coe, attempts,
    Multiset.filter_filter]
  refine Multiset.filter_congr fun attempt _ => ⟨fun same => ⟨same, same ▸ kept⟩, And.left⟩

theorem count_unfinished (mirrors : Mirrors keep whole part) (kept : keep task) :
    whole.queue.unfinished.count task = part.queue.unfinished.count task := by
  rw [mirrors.wholeWorking.count_unfinished, mirrors.partWorking.count_unfinished,
    mirrors.jobsOf kept]

theorem meets_iff (mirrors : Mirrors keep whole part) (kept : keep task) (fate : Fate) :
    whole.Meets task fate ↔ part.Meets task fate := by
  have attempts (verdict : Queue.Verdict) :
      (∃ attempt ∈ whole.attemptsOf task, attempt.verdict = verdict) ↔
        ∃ attempt ∈ part.attemptsOf task, attempt.verdict = verdict :=
    exists_congr fun attempt => and_congr_left' (mirrors.attemptsOf kept).mem_iff
  cases fate with
  | completed => exact attempts .completed
  | gaveUp => exact attempts .gaveUp
  | pending =>
    change task ∈ whole.queue.unfinished ↔ task ∈ part.queue.unfinished
    rw [← List.count_pos_iff, ← List.count_pos_iff, mirrors.count_unfinished kept]

end Mirrors

/-- The instants of the same runs are the same one after the other. -/
theorem Told.times_eq (told : whole.Told) (alsoTold : part.Told)
    (same : (whole.attemptsOf task).Perm (part.attemptsOf task)) :
    (whole.attemptsOf task).map Queue.Attempt.time =
      (part.attemptsOf task).map Queue.Attempt.time := by
  have inOrder {bench : Bench τ} (told : bench.Told) :
      ((bench.attemptsOf task).map Queue.Attempt.time).Pairwise (· ≤ ·) :=
    List.pairwise_map.mpr (told.chronological.sublist List.filter_sublist)
  exact (same.map _).eq_of_pairwise (fun _ _ _ _ => le_antisymm) (inOrder told) (inOrder alsoTold)

/-- If a task is not handed in, then every other one is run at the same instants, with the same
numbers of attempts and the same verdicts, and comes to the same. If it is handed in once at most,
then its runs are the same one after the other. -/
theorem removal_unnoticed (settings : Settings) (answer : τ → Nat → Outcome)
    (script : List (Cue τ)) (task : τ) :
    let whole := (create settings answer).playAll script
    let rest := (create settings answer).playAll (script.filter (· ≠ .submit task))
    rest.now = whole.now ∧
      ∀ other, other ≠ task →
        (whole.attemptsOf other).Perm (rest.attemptsOf other) ∧
        (whole.attemptsOf other).map Queue.Attempt.time =
          (rest.attemptsOf other).map Queue.Attempt.time ∧
        (script.count (.submit other) ≤ 1 → whole.attemptsOf other = rest.attemptsOf other) ∧
        whole.queue.unfinished.count other = rest.queue.unfinished.count other ∧
        ∀ fate, whole.Meets other fate ↔ rest.Meets other fate := by
  intro whole rest
  have working := create_working settings answer
  have mirrors : Mirrors (· ≠ task) whole rest := by
    have concerns : script.filter (Cue.concerns (· ≠ task)) = script.filter (· ≠ .submit task) :=
      List.filter_congr fun cue _ => by cases cue <;> simp [Cue.concerns]
    have played := (Mirrors.create (· ≠ task) settings answer).playAll script
    rwa [concerns] at played
  refine ⟨mirrors.now, fun other different => ?_⟩
  have same := mirrors.attemptsOf different
  refine ⟨same, (playAll_told settings answer _).times_eq (playAll_told settings answer _) same,
    fun once => ?_, mirrors.count_unfinished different, mirrors.meets_iff different⟩
  have alsoOnce : (script.filter (· ≠ .submit task)).count (.submit other) ≤ 1 :=
    (List.filter_sublist.count_le _).trans once
  exact (working.playAll_inTurn ⟨rfl, rfl⟩ once).eq_of_perm
    (working.playAll_inTurn ⟨rfl, rfl⟩ alsoOnce) same

/-- One task that is never done, and one that is done when it is run again. -/
def unlike (task : String) (before : Nat) : Outcome :=
  if task = "steady" && before = 1 then .done else .retry

def fourTimes : Settings where
  retryDelay := Time.ofMillis 50
  maxAttempts := some 4
  retryDelay_pos := by decide
  maxAttempts_pos := fun _ isBound => Option.some.inj isBound ▸ by decide

def together : List (Cue String) :=
  [.submit "retried", .settle, .advance 10, .submit "steady", .settle, .advance 95, .jump 100]

/-- The second run of the one task begins as late as it would without the four runs of the other. -/
theorem removal_unnoticed_retried :
    let whole := (create fourTimes unlike).playAll together
    let rest := (create fourTimes unlike).playAll (together.filter (· ≠ .submit "retried"))
    "steady" ≠ "retried" ∧ together.count (.submit "steady") ≤ 1 ∧
      (whole.attemptsOf "retried").length = 4 ∧
      rest.attemptsOf "retried" = [] ∧
      whole.attemptsOf "steady" = rest.attemptsOf "steady" ∧
      (rest.attemptsOf "steady").map Queue.Attempt.time = [Time.ofMillis 10, Time.ofMillis 60] ∧
      whole.Meets "steady" .completed := by
  intro whole rest
  have different : "steady" ≠ "retried" := by decide
  have once : together.count (.submit "steady") ≤ 1 := by decide
  obtain ⟨-, unnoticed⟩ := removal_unnoticed fourTimes unlike together "retried"
  obtain ⟨-, -, same, -, fates⟩ := unnoticed "steady" different
  have completed : rest.Meets "steady" .completed :=
    ⟨⟨Time.ofMillis 60, ⟨"steady", 1⟩, .completed⟩, by decide +kernel, rfl⟩
  refine ⟨different, once, by decide +kernel, by decide +kernel, same once, by decide +kernel, ?_⟩
  exact (fates .completed).mpr completed

end Bench

end ReplicaSet.Simulation
