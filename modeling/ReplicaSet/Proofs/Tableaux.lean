import Mathlib.Data.Multiset.Bind
import Mathlib.Data.Multiset.Filter
import ReplicaSet.Proofs.QueueWorks

/-!
The jobs of a queue without their order. When all that can be run at an instant takes no time, then
what becomes of it does not depend on the order in which it is run, and each job comes to what it
would have come to without the others.
-/
namespace ReplicaSet.Queue

/-- A run of a job that came to its end. -/
structure Attempt (τ : Type) where
  time : Nat
  job : Job τ
  verdict : Verdict
deriving DecidableEq, Repr

/-- What comes of a run with this outcome, when there have been so many before it. -/
def ruling (settings : Settings) (outcome : Outcome) (before : Nat) : Verdict :=
  match outcome with
  | .done => .completed
  | .retry => if settings.maxAttempts.any (· ≤ before + 1) then .gaveUp else .putOff

/-- What goes for all jobs of a queue: the settings, and how a run of a task ends after so many
runs before it. -/
structure Terms (τ : Type) where
  settings : Settings
  answer : τ → Nat → Outcome

namespace Terms

variable {τ : Type} (terms : Terms τ) (now : Nat) (job : Job τ)

def outcome : Outcome := terms.answer job.task job.attempts

/-- A run of the job at the instant. -/
def attempt : Attempt τ := ⟨now, job, ruling terms.settings (terms.outcome job) job.attempts⟩

/-- What waits after a run of the job that has to be repeated. -/
def postponed : Nat × Job τ := (now + terms.settings.retryDelay, ⟨job.task, job.attempts + 1⟩)

/-- What waits after a run of the job, if anything does. -/
def again : Multiset (Nat × Job τ) :=
  if (terms.attempt now job).verdict = .putOff then {terms.postponed now job} else 0

end Terms

/-- The jobs of a queue that can be run, those that wait for an instant, and all runs so far. -/
@[ext]
structure Tableau (τ : Type) where
  fresh : Multiset (Job τ)
  asleep : Multiset (Nat × Job τ)
  attempts : Multiset (Attempt τ)

namespace Tableau

variable {τ : Type} (terms : Terms τ) (now : Nat) (tableau : Tableau τ) {job : Job τ}
  {due later : Multiset (Nat × Job τ)}

/-- All jobs. -/
def jobs : Multiset (Job τ) := tableau.fresh + tableau.asleep.map Prod.snd

/-- The jobs that can be run at the instant. -/
def atHand : Multiset (Job τ) :=
  tableau.fresh + (tableau.asleep.filter (·.1 ≤ now)).map Prod.snd

/-- What becomes of the jobs when all that can be run at the instant is run once. -/
def settle : Tableau τ where
  fresh := 0
  asleep := tableau.asleep.filter (now < ·.1) + (tableau.atHand now).bind (terms.again now)
  attempts := tableau.attempts + (tableau.atHand now).map (terms.attempt now)

/-- What becomes of the jobs when another one is run. -/
def run (job : Job τ) : Tableau τ where
  fresh := tableau.fresh
  asleep := terms.again now job + tableau.asleep
  attempts := terms.attempt now job ::ₘ tableau.attempts

/-- The jobs and runs of some tasks. -/
def select (keep : τ → Prop) [DecidablePred keep] : Tableau τ where
  fresh := tableau.fresh.filter (keep ·.task)
  asleep := tableau.asleep.filter (keep ·.2.task)
  attempts := tableau.attempts.filter (keep ·.job.task)

variable {terms now tableau}

/-- What is put off is not due at the same instant. -/
theorem again_later {entry : Nat × Job τ} (put : entry ∈ terms.again now job) : now < entry.1 := by
  have positive := terms.settings.retryDelay_pos
  unfold Terms.again at put
  split at put
  · rw [Multiset.mem_singleton.mp put, Terms.postponed]
    omega
  · exact absurd put (Multiset.notMem_zero _)

theorem filter_due_again (job : Job τ) : (terms.again now job).filter (·.1 ≤ now) = 0 :=
  Multiset.filter_eq_nil.mpr fun _ put => Nat.not_le_of_lt (again_later put)

theorem filter_later_again (job : Job τ) :
    (terms.again now job).filter (now < ·.1) = terms.again now job :=
  Multiset.filter_eq_self.mpr fun _ put => again_later put

/-- What is due may as well be ready. -/
theorem settle_promote (fresh : Multiset (Job τ)) (attempts : Multiset (Attempt τ))
    (ripe : ∀ entry ∈ due, entry.1 ≤ now) :
    settle terms now ⟨fresh, due + later, attempts⟩ =
      settle terms now ⟨fresh + due.map Prod.snd, later, attempts⟩ := by
  have none : due.filter (now < ·.1) = 0 :=
    Multiset.filter_eq_nil.mpr fun entry member => Nat.not_lt_of_le (ripe entry member)
  have all : due.filter (·.1 ≤ now) = due := Multiset.filter_eq_self.mpr ripe
  simp [settle, atHand, Multiset.filter_add, none, all, add_assoc]

/-- A job that can be run may as well be run first. -/
theorem settle_run (tableau : Tableau τ) (job : Job τ) :
    (tableau.run terms now job).settle terms now =
      settle terms now ⟨job ::ₘ tableau.fresh, tableau.asleep, tableau.attempts⟩ := by
  simp only [settle, run, atHand, Multiset.filter_add, filter_due_again, filter_later_again,
    zero_add, Multiset.cons_add, Multiset.cons_bind, Multiset.map_cons, Multiset.add_cons]
  congr 1
  exact (add_assoc _ _ _).trans (add_left_comm _ _ _)

theorem settle_idle (nothing : tableau.atHand now = 0) : tableau.settle terms now = tableau := by
  have noFresh : tableau.fresh ≤ tableau.atHand now := Multiset.le_add_right _ _
  have noDue : _ ≤ tableau.atHand now := Multiset.le_add_left _ _
  rw [nothing, Multiset.le_zero] at noFresh noDue
  have later : ∀ entry ∈ tableau.asleep, now < entry.1 := by
    intro entry member
    have unripe := Multiset.filter_eq_nil.mp (Multiset.map_eq_zero.mp noDue) entry member
    exact Nat.lt_of_not_le unripe
  ext1
  · exact noFresh.symm
  · simp [settle, nothing, Multiset.filter_eq_self.mpr later]
  · simp [settle, nothing]

theorem filter_again (keep : τ → Prop) [DecidablePred keep] (job : Job τ) :
    (terms.again now job).filter (keep ·.2.task) =
      if keep job.task then terms.again now job else 0 := by
  have same : ∀ entry ∈ terms.again now job, entry.2.task = job.task := by
    intro entry put
    unfold Terms.again at put
    split at put
    · rw [Multiset.mem_singleton.mp put, Terms.postponed]
    · exact absurd put (Multiset.notMem_zero _)
  split
  · rename_i kept
    exact Multiset.filter_eq_self.mpr fun entry put => (same entry put).symm ▸ kept
  · rename_i dropped
    exact Multiset.filter_eq_nil.mpr fun entry put => (same entry put).symm ▸ dropped

theorem filter_map_again (keep : τ → Prop) [DecidablePred keep] (job : Job τ) :
    ((terms.again now job).map Prod.snd).filter (keep ·.task) =
      if keep job.task then (terms.again now job).map Prod.snd else 0 := by
  rw [Multiset.filter_map]
  refine (congrArg (Multiset.map Prod.snd) (filter_again keep job)).trans ?_
  split <;> rfl

theorem filter_bind_again (keep : τ → Prop) [DecidablePred keep] (jobs : Multiset (Job τ)) :
    (jobs.bind (terms.again now)).filter (keep ·.2.task) =
      (jobs.filter (keep ·.task)).bind (terms.again now) := by
  induction jobs using Multiset.induction_on with
  | empty => rfl
  | cons job jobs ih =>
    rw [Multiset.cons_bind, Multiset.filter_add, filter_again, ih, Multiset.filter_cons]
    by_cases kept : keep job.task <;> simp [kept]

/-- What becomes of some of the tasks does not depend on the others. -/
theorem select_settle (keep : τ → Prop) [DecidablePred keep] (tableau : Tableau τ) :
    (tableau.settle terms now).select keep = (tableau.select keep).settle terms now := by
  have atHand : (tableau.select keep).atHand now = (tableau.atHand now).filter (keep ·.task) := by
    simp only [Tableau.atHand, select, Multiset.filter_add, Multiset.filter_map,
      Multiset.filter_filter, Function.comp_def, and_comm]
  rw [settle, settle, atHand]
  ext1
  · rfl
  · simp only [select, Multiset.filter_add, filter_bind_again, Multiset.filter_filter, and_comm]
  · simp only [select, Multiset.filter_add, Multiset.filter_map, Function.comp_def, Terms.attempt]
    rfl

end Tableau

/-! ### The jobs of a queue -/

variable {τ ρ : Type} {now : Nat} {queue next : Queue WakeHeap τ ρ} {job : Job τ}

/-- The jobs that can be run, received or not. -/
def fresh (queue : Queue WakeHeap τ ρ) : Multiset (Job τ) :=
  (queue.ready : Multiset (Job τ)) + (queue.inbox.map fun task => (⟨task, 0⟩ : Job τ))

/-- The jobs that were put off, with the instants for which they wait. -/
def asleep (queue : Queue WakeHeap τ ρ) : Multiset (Nat × Job τ) :=
  queue.delayed.entries.map fun entry => (entry.wakeAt, entry.item)

theorem coe_waiting (queue : Queue WakeHeap τ ρ) :
    (queue.waiting : Multiset τ) = (queue.fresh + queue.asleep.map Prod.snd).map Job.task := by
  have delayed : DelayLine.toList queue.delayed = queue.delayed.entries.map Waiting.item := rfl
  simp only [waiting, fresh, asleep, delayed, ← Multiset.coe_add, Multiset.map_add,
    Multiset.map_coe, List.map_map]
  rw [add_right_comm]
  simp [Function.comp_def]

theorem conclude_verdict (queue : Queue WakeHeap τ ρ) (now : Nat) (job : Job τ)
    (outcome : Outcome) :
    (queue.conclude now job outcome).1 = ruling queue.settings outcome job.attempts := by
  cases outcome with
  | done => rfl
  | retry =>
    unfold conclude ruling isSpent
    dsimp only
    split <;> rfl

theorem fresh_receive (queue : Queue WakeHeap τ ρ) : queue.receive.fresh = queue.fresh := by
  simp [fresh, receive, ← Multiset.coe_add]

theorem fresh_conclude (queue : Queue WakeHeap τ ρ) (now : Nat) (job : Job τ)
    (outcome : Outcome) : (queue.conclude now job outcome).2.fresh = queue.fresh := by
  cases outcome with
  | done => exact fresh_receive _
  | retry =>
    cases spent : queue.isSpent (job.attempts + 1) with
    | true =>
      rw [conclude_spent spent]
      exact fresh_receive _
    | false =>
      rw [conclude_retry spent]
      exact fresh_receive _

theorem asleep_conclude (queue : Queue WakeHeap τ ρ) (answer : τ → Nat → Outcome) (now : Nat)
    (job : Job τ) :
    (queue.conclude now job (answer job.task job.attempts)).2.asleep =
      Terms.again ⟨queue.settings, answer⟩ now job + queue.asleep := by
  cases outcome : answer job.task job.attempts with
  | done =>
    have none : Terms.again ⟨queue.settings, answer⟩ now job = 0 := by
      simp [Terms.again, Terms.attempt, Terms.outcome, outcome, ruling]
    rw [none, zero_add]
    rfl
  | retry =>
    cases spent : queue.isSpent (job.attempts + 1) with
    | true =>
      have none : Terms.again ⟨queue.settings, answer⟩ now job = 0 := by
        rw [isSpent] at spent
        simp [Terms.again, Terms.attempt, Terms.outcome, outcome, ruling, spent]
      rw [conclude_spent spent, none, zero_add]
      rfl
    | false =>
      have one : Terms.again ⟨queue.settings, answer⟩ now job =
          {(now + queue.settings.retryDelay, ⟨job.task, job.attempts + 1⟩)} := by
        rw [isSpent] at spent
        simp [Terms.again, Terms.attempt, Terms.outcome, outcome, ruling, spent, Terms.postponed]
      have contents := (WakeHeap.entries_putOff (now + queue.settings.retryDelay)
        (⟨job.task, job.attempts + 1⟩ : Job τ) queue.delayed).map
          fun entry => (entry.wakeAt, entry.item)
      rw [conclude_retry spent, one, Multiset.singleton_add]
      exact Multiset.coe_eq_coe.mpr contents

/-- Without a run all jobs stay. -/
theorem jobs_move (moved : queue.turn now = .move next) :
    next.fresh = queue.fresh ∧ next.asleep = queue.asleep := by
  rcases turn_move moved with ⟨-, -, noDue, rfl⟩ | ⟨-, task, inbox, submissions, rfl⟩ | ⟨-, -, rfl⟩
  · obtain ⟨due, items, -, contents⟩ := WakeHeap.takeDue_spec now queue.delayed
    rw [noDue, eq_comm, List.map_eq_nil_iff] at items
    rw [items, List.nil_append] at contents
    exact ⟨rfl, Multiset.coe_eq_coe.mpr (contents.map _)⟩
  · refine ⟨?_, rfl⟩
    simp [fresh, submissions, ← Multiset.coe_add, ← Multiset.cons_coe, add_assoc]
  · exact ⟨rfl, rfl⟩

/-- A job that is started could be run. -/
theorem jobs_start (started : queue.turn now = .start job next) :
    ∃ due, queue.asleep = due + next.asleep ∧ (∀ entry ∈ due, entry.1 ≤ now) ∧
      queue.fresh + due.map Prod.snd = job ::ₘ next.fresh := by
  obtain ⟨due, items, ripe, contents⟩ := WakeHeap.takeDue_spec now queue.delayed
  obtain ⟨-, -, taken, -⟩ := turn_start started
  obtain ⟨-, -, -, inbox, delayed⟩ := start_frame started
  refine ⟨↑(due.map fun entry => (entry.wakeAt, entry.item)), ?_, ?_, ?_⟩
  · rw [asleep, asleep, delayed, Multiset.coe_add, ← List.map_append]
    exact (Multiset.coe_eq_coe.mpr (contents.map _)).symm
  · intro entry member
    obtain ⟨source, isDue, rfl⟩ := List.mem_map.mp (Multiset.mem_coe.mp member)
    exact ripe source isDue
  · have ready : (queue.ready : Multiset (Job τ)) + (due.map Waiting.item) =
        job ::ₘ (next.ready : Multiset (Job τ)) := by
      rw [Multiset.coe_add, ← items, taken, Multiset.cons_coe]
    have items : (due.map fun entry => (entry.wakeAt, entry.item)).map Prod.snd =
        due.map Waiting.item := by simp
    rw [fresh, fresh, inbox, Multiset.map_coe, items, add_right_comm, ready, Multiset.cons_add]

end ReplicaSet.Queue
