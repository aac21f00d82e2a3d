import ReplicaSet.Proofs.ClockRuns
import ReplicaSet.Proofs.QueueEffort
import ReplicaSet.Proofs.QueueLine
import ReplicaSet.Proofs.Tableaux

/-!
A queue with a clock whose runs take no time and end as it is laid down. Tasks are handed in, and
time passes in one of the ways in which it passes for a cluster. At each instant all that can be run
is run once (`Working.settle`), and between two timers nothing happens. What is run is what a history
of the queue tells of (`playAll_told`).
-/
namespace ReplicaSet

namespace Time

theorem tick_le_tick {time other : Nat} (early : time ≤ other) : tick time ≤ tick other := by
  unfold tick millisecond
  omega

/-- Between an instant and the timer set for it no other timer fires. -/
theorem tick_le_of_le_tick {time other : Nat} (early : time ≤ tick other) :
    tick time ≤ tick other := by
  unfold tick millisecond at early ⊢
  omega

end Time

/-- Something waits for the instant at which the first wait is over. -/
theorem Queue.WakeHeap.exists_of_nextWake? {α : Type} {line : WakeHeap α} {wakeAt : Nat}
    (next : DelayLine.nextWake? line = some wakeAt) :
    ∃ entry ∈ line.entries, entry.wakeAt = wakeAt := by
  obtain ⟨heap, serial⟩ := line
  cases heap with
  | leaf => cases next
  | fork left top right =>
    refine ⟨top, ?_, Option.some.inj next⟩
    simp [entries, Heap.toList]

namespace Simulation

structure Bench (τ : Type) where
  now : Nat
  queue : Queue Queue.WakeHeap τ Unit
  /-- How a run of a task ends after so many runs before it. -/
  answer : τ → Nat → Outcome
  /-- All runs so far, oldest first. -/
  attempts : List (Queue.Attempt τ)

/-- What can be done with a bench. -/
inductive Cue (τ : Type) where
  | submit (task : τ)
  | settle
  | advance (millis : Nat)
  | jump (millis : Nat)
deriving DecidableEq, Repr

namespace Bench

variable {τ : Type} {bench next : Bench τ} {job : Job τ} {time wakeAt : Nat}

def create (settings : Settings) (answer : τ → Nat → Outcome) : Bench τ where
  now := 0
  queue := .create settings
  answer := answer
  attempts := []

/-- The bench after a run of the job, which was taken out of the queue for it. -/
def run (bench : Bench τ) (job : Job τ) (queue : Queue Queue.WakeHeap τ Unit) : Bench τ :=
  let result := queue.conclude bench.now job (bench.answer job.task job.attempts)
  { bench with
    queue := result.2
    attempts := bench.attempts ++ [⟨bench.now, job, result.1⟩] }

/-- The next move of the worker. A run begins and ends in one. -/
def work? (bench : Bench τ) : Option (Bench τ) :=
  match bench.queue.turn bench.now with
  | .rest => none
  | .move queue => some { bench with queue := queue }
  | .leave exit queue => some { bench with queue := queue.exitWith exit }
  | .start job queue => some (bench.run job queue)

/-- When the timer fires that the worker waits for, if it waits for one. -/
def alarm? (bench : Bench τ) : Option Nat :=
  match bench.queue.phase with
  | .parked => (Queue.DelayLine.nextWake? bench.queue.delayed).map Time.tick
  | _ => none

instance : Clockwork (Bench τ) where
  now := Bench.now
  atInstant bench time := { bench with now := time }
  work? := Bench.work?
  alarm? := Bench.alarm?
  workload bench := 7 * (bench.queue.inbox.length + bench.queue.pending) + 6

def play (bench : Bench τ) : Cue τ → Bench τ
  | .submit task => { bench with queue := (bench.queue.submit? task).getD bench.queue }
  | .settle => Clockwork.settle bench
  | .advance millis => Clockwork.advance (Time.ofMillis millis) bench
  | .jump millis => Clockwork.jump (Time.ofMillis millis) bench

def playAll (bench : Bench τ) (script : List (Cue τ)) : Bench τ :=
  script.foldl play bench

/-! ### Moves -/

/-- The worker was not told to stop. -/
structure Working (bench : Bench τ) : Prop where
  regular : bench.queue.Regular bench.now
  untold : bench.queue.stop = none
  idle : bench.queue.phase = .awake ∨ bench.queue.phase = .parked

def terms (bench : Bench τ) : Queue.Terms τ := ⟨bench.queue.settings, bench.answer⟩

def tableau (bench : Bench τ) : Queue.Tableau τ :=
  ⟨bench.queue.fresh, bench.queue.asleep, bench.attempts⟩

theorem work?_works (worked : bench.work? = some next) :
    bench.queue.Works bench.now next.queue ∧ next.now = bench.now ∧ next.answer = bench.answer := by
  unfold work? at worked
  split at worked
  · cases worked
  · rename_i queue moved
    cases worked
    exact ⟨.move moved, rfl, rfl⟩
  · rename_i exit queue left
    cases worked
    exact ⟨.leave left, rfl, rfl⟩
  · rename_i job queue started
    cases worked
    exact ⟨.run started _, rfl, rfl⟩

theorem work?_terms (worked : bench.work? = some next) : next.terms = bench.terms := by
  obtain ⟨works, -, answer⟩ := work?_works worked
  rw [terms, terms, works.frame.1, answer]

/-- At each instant the worker makes all the moves there are. -/
theorem work?_settle (bench : Bench τ) : (Clockwork.settle bench).work? = none := by
  have bounds (run : Unit) : 2 < 3 ∧ 3 < 7 := by omega
  refine Clockwork.work?_run (fun bench : Bench τ => bench.queue.effort (fun _ => 3) bench.now)
    (fun {bench next} worked => ?_) (Queue.effort_le bounds bench.now bench.queue)
  obtain ⟨works, now, -⟩ := work?_works worked
  rw [now]
  refine works.effort_lt bounds fun job run later running => ?_
  have stuck : bench.queue.turn bench.now = .rest := by rw [Queue.turn, running]
  have none : bench.work? = none := by rw [work?, stuck]
  cases none.symm.trans worked

theorem attempts_run (bench : Bench τ) (job : Job τ) {queue : Queue Queue.WakeHeap τ Unit}
    (settings : queue.settings = bench.queue.settings) :
    (bench.run job queue).attempts = bench.attempts ++ [bench.terms.attempt bench.now job] := by
  simp only [run, Queue.conclude_verdict, settings, Queue.Terms.attempt, Queue.Terms.outcome, terms]

theorem tableau_run (bench : Bench τ) (job : Job τ) {queue : Queue Queue.WakeHeap τ Unit}
    (settings : queue.settings = bench.queue.settings) :
    (bench.run job queue).tableau =
      (Queue.Tableau.mk queue.fresh queue.asleep bench.attempts).run bench.terms bench.now job := by
  have fresh : (bench.run job queue).queue.fresh = queue.fresh := Queue.fresh_conclude _ _ _ _
  have asleep : (bench.run job queue).queue.asleep =
      bench.terms.again bench.now job + queue.asleep :=
    (Queue.asleep_conclude queue bench.answer bench.now job).trans (by rw [settings]; rfl)
  have attempts : ((bench.run job queue).attempts : Multiset (Queue.Attempt τ)) =
      bench.terms.attempt bench.now job ::ₘ bench.attempts := by
    rw [attempts_run bench job settings, ← Multiset.coe_add, Multiset.coe_singleton, add_comm,
      Multiset.singleton_add]
  ext1
  · exact fresh
  · exact asleep
  · exact attempts

/-- A worker that was not told to stop leaves all jobs in their places, or it runs one of those that
can be run. -/
theorem Working.work? (working : bench.Working) (worked : bench.work? = some next) :
    next.Working ∧
      (next.tableau = bench.tableau ∧ next.attempts = bench.attempts ∨
        ∃ job due fresh later, bench.queue.asleep = due + later ∧
          (∀ entry ∈ due, entry.1 ≤ bench.now) ∧
          bench.queue.fresh + due.map Prod.snd = job ::ₘ fresh ∧
          next.tableau = (Queue.Tableau.mk fresh later bench.attempts).run bench.terms bench.now job ∧
          next.attempts = bench.attempts ++ [bench.terms.attempt bench.now job]) := by
  obtain ⟨works, now, -⟩ := work?_works worked
  have regular := working.regular.works works
  have untold := works.frame.2.trans working.untold
  rw [← now] at regular
  unfold Bench.work? at worked
  split at worked
  · cases worked
  · rename_i queue moved
    cases worked
    obtain ⟨fresh, asleep⟩ := Queue.jobs_move moved
    refine ⟨⟨regular, untold, ?_⟩, .inl ⟨?_, rfl⟩⟩
    · rcases Queue.turn_move moved with ⟨-, -, -, rfl⟩ | ⟨-, _, _, -, rfl⟩ | ⟨-, -, rfl⟩ <;> simp
    · simp only [tableau, fresh, asleep]
  · rename_i exit queue left
    -- It does not leave unless it is told to, since it does not think that its owner is gone.
    have owned : bench.queue.sealed = false := by
      by_contra isSealed
      cases working.untold.symm.trans (working.regular.owned (by simpa using isSealed))
    rcases Queue.turn_leave left with ⟨-, told, -⟩ | ⟨-, told | gone, -⟩
    · simp [working.untold] at told
    · simp [working.untold] at told
    · cases owned.symm.trans gone
  · rename_i job queue started
    obtain rfl := Option.some.inj worked
    obtain ⟨due, asleep, ripe, fresh⟩ := Queue.jobs_start started
    obtain ⟨-, settings, -⟩ := Queue.start_frame started
    refine ⟨⟨regular, untold, .inl (Queue.conclude_frame _ _ _ _).1⟩, .inr ?_⟩
    exact ⟨job, due, queue.fresh, queue.asleep, asleep, ripe, fresh, tableau_run bench job settings,
      attempts_run bench job settings⟩

/-! ### One instant -/

/-- What becomes of the jobs when all that can be run at the instant is run once. -/
def settled (bench : Bench τ) : Queue.Tableau τ :=
  bench.tableau.settle bench.terms bench.now

/-- No move makes a difference to what becomes of the jobs at the instant. -/
theorem Working.settled_work? (working : bench.Working) (worked : bench.work? = some next) :
    next.settled = bench.settled := by
  obtain ⟨-, now, -⟩ := work?_works worked
  rw [settled, settled, now, work?_terms worked]
  rcases (working.work? worked).2 with ⟨same, -⟩ |
    ⟨job, due, fresh, later, asleep, ripe, taken, ran, -⟩
  · rw [same]
  · rw [ran, Queue.Tableau.settle_run, ← taken, tableau, asleep, Queue.Tableau.settle_promote _ _ ripe]

/-- A bench whose worker waits, and that nothing can be run on before the instant is over. -/
structure Resting (bench : Bench τ) : Prop extends Working bench where
  parked : bench.queue.phase = .parked
  empty : bench.queue.fresh = 0
  later : ∀ entry ∈ bench.queue.asleep, bench.now < entry.1

theorem Working.resting (working : bench.Working) (stuck : bench.work? = none) :
    bench.Resting := by
  have rest : bench.queue.turn bench.now = .rest := by
    unfold Bench.work? at stuck
    split at stuck
    · assumption
    all_goals cases stuck
  have alive : bench.queue.exit? = none := by
    rcases working.idle with phase | phase <;> simp [Queue.exit?, phase]
  have idle (job : Job τ) (run : Unit) : bench.queue.phase ≠ .running job run := by
    rcases working.idle with phase | phase <;> simp [phase]
  obtain ⟨parked, -, received, later⟩ := Queue.turn_rest rest alive idle
  refine ⟨working, parked, ?_, fun entry member => ?_⟩
  · simp [Queue.fresh, received, working.regular.parked parked]
  · obtain ⟨source, waits, rfl⟩ := List.mem_map.mp (Multiset.mem_coe.mp member)
    obtain ⟨wakeAt, next, first⟩ := Queue.WakeHeap.nextWake?_le working.regular.ordered waits
    exact (later wakeAt next).trans_le first

namespace Resting

theorem settled_eq (resting : bench.Resting) : bench.settled = bench.tableau := by
  refine Queue.Tableau.settle_idle ?_
  have none : bench.queue.asleep.filter (·.1 ≤ bench.now) = 0 :=
    Multiset.filter_eq_nil.mpr fun entry member => Nat.not_le_of_lt (resting.later entry member)
  simp [Queue.Tableau.atHand, tableau, resting.empty, none]

/-- No timer runs when nothing was put off, and else the one for the job that wakes first. -/
theorem alarm?_cases (resting : bench.Resting) :
    bench.alarm? = none ∧ bench.queue.asleep = 0 ∨
      ∃ first ∈ bench.queue.asleep, bench.alarm? = some (Time.tick first.1) ∧
        ∀ entry ∈ bench.queue.asleep, first.1 ≤ entry.1 := by
  cases next : Queue.DelayLine.nextWake? bench.queue.delayed with
  | none =>
    have nothing := (Queue.WakeHeap.nextWake?_eq_none_iff _).mp next
    exact .inl ⟨by simp [alarm?, resting.parked, next], by simp [Queue.asleep, nothing]⟩
  | some wakeAt =>
    obtain ⟨entry, waits, rfl⟩ := Queue.WakeHeap.exists_of_nextWake? next
    refine .inr ⟨(entry.wakeAt, entry.item), Multiset.mem_coe.mpr (List.mem_map_of_mem waits),
      by simp [alarm?, resting.parked, next], fun other member => ?_⟩
    obtain ⟨source, alsoWaits, rfl⟩ := List.mem_map.mp (Multiset.mem_coe.mp member)
    obtain ⟨wakeAt, isNext, first⟩ :=
      Queue.WakeHeap.nextWake?_le resting.regular.ordered alsoWaits
    obtain rfl := Option.some.inj (next.symm.trans isNext)
    exact first

theorem work?_eq_none (resting : bench.Resting) : bench.work? = none := by
  have received : bench.queue.inbox = [] := by
    have empty := resting.empty
    simp only [Queue.fresh, Multiset.coe_add, Multiset.coe_eq_zero, List.append_eq_nil_iff,
      List.map_eq_nil_iff] at empty
    exact empty.2
  have notDue : (Queue.DelayLine.nextWake? bench.queue.delayed).any (· ≤ bench.now) = false := by
    cases next : Queue.DelayLine.nextWake? bench.queue.delayed with
    | none => rfl
    | some wakeAt =>
      obtain ⟨entry, waits, rfl⟩ := Queue.WakeHeap.exists_of_nextWake? next
      have later := resting.later _ (Multiset.mem_coe.mpr (List.mem_map_of_mem waits))
      simpa using later
  simp [Bench.work?, Queue.turn, resting.parked, Queue.waitAround, resting.untold, received, notDue]

/-- It stays as it is until the first job wakes. -/
theorem onward (resting : bench.Resting) (onward : bench.now ≤ time)
    (later : ∀ entry ∈ bench.queue.asleep, time < entry.1) :
    Resting { bench with now := time } where
  regular := resting.regular.later onward
  untold := resting.untold
  idle := resting.idle
  parked := resting.parked
  empty := resting.empty
  later := later

/-- Nothing happens to it at the instant. -/
theorem settle_eq (resting : bench.Resting) : Clockwork.settle bench = bench :=
  Clockwork.run_of_work?_eq_none resting.work?_eq_none _

end Resting

theorem settle_frame (bench : Bench τ) :
    (Clockwork.settle bench).now = bench.now ∧ (Clockwork.settle bench).terms = bench.terms := by
  refine Clockwork.run_induction (fun later : Bench τ =>
    later.now = bench.now ∧ later.terms = bench.terms) (fun same worked => ?_) _ ⟨rfl, rfl⟩
  exact ⟨(work?_works worked).2.1.trans same.1, (work?_terms worked).trans same.2⟩

/-- At each instant all that can be run is run once, and nothing else happens. -/
theorem Working.settle (working : bench.Working) :
    (Clockwork.settle bench).Resting ∧ (Clockwork.settle bench).tableau = bench.settled := by
  obtain ⟨still, same⟩ := Clockwork.run_induction
    (fun later : Bench τ => later.Working ∧ later.settled = bench.settled)
    (fun {later next} holds worked => ⟨(holds.1.work? worked).1,
      (holds.1.settled_work? worked).trans holds.2⟩) (Clockwork.workload bench) ⟨working, rfl⟩
  have resting := still.resting (work?_settle bench)
  exact ⟨resting, resting.settled_eq.symm.trans same⟩

/-! ### The passage of time -/

theorem create_working (settings : Settings) (answer : τ → Nat → Outcome) :
    (create settings answer).Working where
  regular := .create settings 0
  untold := rfl
  idle := .inl rfl

theorem Working.later (working : bench.Working) (onward : bench.now ≤ time) :
    Working { bench with now := time } where
  regular := working.regular.later onward
  untold := working.untold
  idle := working.idle

theorem Working.submit? (working : bench.Working) (task : τ) :
    bench.queue.submit? task = some { bench.queue with inbox := bench.queue.inbox ++ [task] } := by
  have alive : bench.queue.exit? = none := by
    rcases working.idle with phase | phase <;> simp [Queue.exit?, phase]
  exact Queue.submit?_eq_some.mpr ⟨alive, rfl⟩

theorem Working.submit (working : bench.Working) (task : τ) :
    (bench.play (.submit task)).Working := by
  rw [play, working.submit? task, Option.getD_some]
  exact ⟨working.regular.submit? (working.submit? task), working.untold, working.idle⟩

theorem Working.submit_frame (working : bench.Working) (task : τ) :
    (bench.play (.submit task)).now = bench.now ∧
      (bench.play (.submit task)).terms = bench.terms := by
  rw [play, working.submit? task]
  exact ⟨rfl, rfl⟩

theorem Working.tableau_submit (working : bench.Working) (task : τ) :
    (bench.play (.submit task)).tableau =
      ⟨⟨task, 0⟩ ::ₘ bench.queue.fresh, bench.queue.asleep, bench.attempts⟩ := by
  rw [play, working.submit? task, Option.getD_some]
  ext1
  · simp [tableau, Queue.fresh, ← Multiset.coe_add, ← Multiset.cons_coe, add_comm]
  · rfl
  · rfl

theorem Resting.alarm?_late {target : Nat} (resting : bench.Resting)
    (late : ∀ entry ∈ bench.queue.asleep, target < Time.tick entry.1) :
    ∀ time, bench.alarm? = some time → target < time := by
  intro time alarm
  rcases resting.alarm?_cases with ⟨none, -⟩ | ⟨first, waits, isFirst, -⟩
  · cases none.symm.trans alarm
  · obtain rfl := Option.some.inj (isFirst.symm.trans alarm)
    exact late first waits

theorem Resting.now_lt_alarm (resting : bench.Resting) (alarm : bench.alarm? = some time) :
    bench.now < time :=
  resting.alarm?_late (fun entry waits => (resting.later entry waits).trans_le (Time.le_tick _))
    time alarm

/-- What the moves of a working worker keep and the passage of time does not touch holds after all
that is done with a bench without handing in a task. -/
theorem Working.play_induction (kept : Bench τ → Prop)
    (worked : ∀ {bench next : Bench τ}, bench.Working → kept bench → bench.work? = some next →
      kept next)
    (passes : ∀ {bench : Bench τ} {time : Nat}, kept bench → bench.now ≤ time →
      kept { bench with now := time })
    (working : bench.Working) (holds : kept bench) {cue : Cue τ}
    (other : ∀ task, cue ≠ .submit task) :
    (bench.play cue).Working ∧ kept (bench.play cue) := by
  have moves {bench next : Bench τ} (before : bench.Working ∧ kept bench)
      (moved : bench.work? = some next) : next.Working ∧ kept next :=
    ⟨(before.1.work? moved).1, worked before.1 before.2 moved⟩
  cases cue with
  | submit task => exact absurd rfl (other task)
  | settle =>
    exact Clockwork.run_induction (fun bench : Bench τ => bench.Working ∧ kept bench) moves _
      ⟨working, holds⟩
  | jump millis =>
    exact Clockwork.run_induction (fun bench : Bench τ => bench.Working ∧ kept bench) moves _
      ⟨working.later (Nat.le_add_right _ _), passes holds (Nat.le_add_right _ _)⟩
  | advance millis =>
    have target := Clockwork.hop_induction (fun later : Bench τ =>
        (later.Working ∧ kept later) ∧ later.now ≤ bench.now + Time.ofMillis millis)
      (fun before moved => ⟨moves before.1 moved, (work?_works moved).2.1.trans_le before.2⟩)
      work?_settle (bench.now + Time.ofMillis millis)
      (fun before stuck alarm inTime =>
        have onward := ((before.1.1.resting stuck).now_lt_alarm alarm).le
        ⟨⟨before.1.1.later onward, passes before.1.2 onward⟩, inTime⟩)
      (fun before => ⟨⟨before.1.1.later before.2, passes before.1.2 before.2⟩, le_rfl⟩)
      (Time.ofMillis millis + 1) ⟨⟨working, holds⟩, Nat.le_add_right _ _⟩
    exact target.1

theorem Working.play (working : bench.Working) (cue : Cue τ) : (bench.play cue).Working := by
  cases cue with
  | submit task => exact working.submit task
  | settle | advance | jump =>
    exact (working.play_induction (fun _ => True) (fun _ _ _ => trivial) (fun _ _ => trivial) trivial
      (by simp)).1

/-! ### What is told of a bench -/

/-- The run that came to its end with the mark. -/
def attempt? (mark : Nat × Queue.Mark τ) : Option (Queue.Attempt τ) :=
  match mark.2 with
  | .ended job verdict => some ⟨mark.1, job, verdict⟩
  | _ => none

/-- The runs on the bench are those that a history of its queue tells of. -/
def Told (bench : Bench τ) : Prop :=
  ∃ marks, Queue.History marks bench.now bench.queue ∧ bench.attempts = marks.filterMap attempt?

namespace Told

theorem create (settings : Settings) (answer : τ → Nat → Outcome) :
    (Bench.create settings answer).Told :=
  ⟨[], ⟨settings, 0, .rest⟩, rfl⟩

theorem works (told : bench.Told) {news : List (Queue.Mark τ)}
    {queue : Queue Queue.WakeHeap τ Unit} (does : bench.queue.Does bench.now news queue)
    {attempts : List (Queue.Attempt τ)}
    (ended : (news.map fun mark => (bench.now, mark)).filterMap attempt? = attempts) :
    Told { bench with queue := queue, attempts := bench.attempts ++ attempts } := by
  obtain ⟨marks, ⟨settings, start, course⟩, same⟩ := told
  refine ⟨_, ⟨settings, start, course.work does⟩, ?_⟩
  rw [List.filterMap_append, ← same, ended]

theorem work? (told : bench.Told) (worked : bench.work? = some next) : next.Told := by
  unfold Bench.work? at worked
  split at worked
  · cases worked
  · rename_i queue moved
    cases worked
    obtain ⟨news, does, noRun⟩ := Queue.does_move moved
    have ended : (news.map fun mark => (bench.now, mark)).filterMap attempt? = [] := by
      rw [List.filterMap_eq_nil_iff]
      intro mark member
      obtain ⟨source, isNew, rfl⟩ := List.mem_map.mp member
      rcases noRun source isNew with rfl | ⟨task, rfl⟩ <;> rfl
    simpa using told.works does ended
  · rename_i exit queue left
    cases worked
    simpa [List.filterMap_cons, attempt?] using told.works (.leave left) rfl
  · rename_i job queue started
    cases worked
    refine told.works (.run started (bench.answer job.task job.attempts)) ?_
    simp [Queue.closing, List.filterMap_cons, attempt?, Function.comp_def]

theorem later (told : bench.Told) (onward : bench.now ≤ time) :
    Told { bench with now := time } := by
  obtain ⟨marks, ⟨settings, start, course⟩, same⟩ := told
  have waited := course.wait (time - bench.now)
  rw [Nat.add_sub_cancel' onward] at waited
  exact ⟨marks, ⟨settings, start, waited⟩, same⟩

theorem play (told : bench.Told) (working : bench.Working) (cue : Cue τ) :
    (bench.play cue).Told := by
  cases cue with
  | submit task =>
    obtain ⟨marks, ⟨settings, start, course⟩, same⟩ := told
    rw [Bench.play, working.submit? task]
    refine ⟨_, ⟨settings, start, course.submit (working.submit? task)⟩, ?_⟩
    simpa [List.filterMap_cons, attempt?] using same
  | settle | advance | jump =>
    exact (working.play_induction Told (fun _ told => told.work?) Told.later told (by simp)).2

theorem playAll (told : bench.Told) (working : bench.Working) (script : List (Cue τ)) :
    (bench.playAll script).Told := by
  induction script generalizing bench with
  | nil => exact told
  | cons cue script ih => exact ih (told.play working cue) (working.play cue)

theorem chronological (told : bench.Told) :
    bench.attempts.Pairwise fun one two => one.time ≤ two.time := by
  have time {mark : Nat × Queue.Mark τ} {attempt : Queue.Attempt τ}
      (isEnd : attempt? mark = some attempt) : attempt.time = mark.1 := by
    unfold attempt? at isEnd
    split at isEnd <;> cases isEnd
    rfl
  obtain ⟨marks, ⟨settings, start, course⟩, same⟩ := told
  rw [same, List.pairwise_filterMap]
  refine course.chronological.1.imp fun inOrder one isOne two isTwo => ?_
  rw [time isOne, time isTwo]
  exact inOrder

end Told

/-- Whatever is done with a bench, its runs are those of a history of its queue. -/
theorem playAll_told (settings : Settings) (answer : τ → Nat → Outcome) (script : List (Cue τ)) :
    ((create settings answer).playAll script).Told :=
  (Told.create settings answer).playAll (create_working settings answer) script

end Bench

end Simulation

end ReplicaSet
