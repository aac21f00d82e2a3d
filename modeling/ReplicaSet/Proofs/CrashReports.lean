import ReplicaSet.Proofs.Lifecycle
import ReplicaSet.Proofs.QueueRecords

/-!
When a crash of the worker is reported. Nobody is told of it before a shutdown returns, and only the
first shutdown to return tells of it.
-/
namespace ReplicaSet

/-- The message with which the worker crashed, if it did. -/
def Queue.crash? {τ ρ : Type} (queue : Queue WakeHeap τ ρ) : Option String :=
  match queue.exit? with
  | some (.crashed _ message) => some message
  | _ => none

namespace Controller

variable {ρ : Type} (controller : Controller ρ)

/-- The first shutdown to return reports a crash, if there was one. -/
theorem crash_endShutdown :
    controller.endShutdown.1.filterMap Notice.crash? =
      if controller.bulletin.latest.stage = .stopped then [] else controller.queue.crash?.toList := by
  unfold endShutdown Queue.crash?
  rcases controller.queue.exit? with none | ⟨stopped | drained | ⟨job, message⟩⟩
  · simp [Notice.crash?]
  · simp [Notice.crash?]
  · simp [Notice.crash?]
  · by_cases stopped : controller.bulletin.latest.stage = .stopped <;> simp [stopped, Notice.crash?]

end Controller

namespace Simulation

def Event.crash? : Event → Option String
  | .noted _ notice => notice.crash?
  | _ => none

namespace Cluster

variable {cluster after next : Cluster} {deed : Deed} {deeds : List Deed} {job : Job Change}

/-- The messages of the crashes that were reported, in the order in which they were. -/
def crashReports (cluster : Cluster) : List String :=
  cluster.readings Event.crash?

/-- Only a shutdown that returns reports a crash. -/
theorem Step.crashReports (step : Step cluster deed after) (other : deed ≠ .endShutdown) :
    after.crashReports = cluster.crashReports := by
  refine Only.unread (step.only.mono fun event brings => ?_)
  cases brings with
  | noted name notice calm => exact calm
  | report => exact absurd rfl other
  | _ => rfl

theorem crashReports_endShutdown (cluster : Cluster) :
    cluster.endShutdown.crashReports = cluster.crashReports ++
      if cluster.controller.bulletin.latest.stage = .stopped then []
      else cluster.controller.queue.crash?.toList := by
  have told : cluster.controller.endShutdown.1.filterMap (fun notice =>
      (Event.noted cluster.controller.endShutdown.2.name notice).crash?) = _ :=
    cluster.controller.crash_endShutdown
  rw [crashReports, endShutdown, readings_adopt, told]
  rfl

/-! ### After the end of the worker -/

theorem Outside.exit_eq {queue later : Queue Queue.WakeHeap Change Call} {tasks : List Change}
    {records : List Notice} (outside : Outside queue tasks later records) {exit : Exit Change}
    (ended : queue.exit? = some exit) : later.exit? = some exit := by
  cases outside with
  | keep | dropped | told => exact ended
  | handed alive => cases alive.symm.trans ended
  | goOn running => simp [Queue.exit?, running] at ended

/-- The worker does nothing any more when it has exited, and how it did is settled. -/
theorem Step.exit_eq (step : Step cluster deed after) {exit : Exit Change}
    (ended : cluster.controller.queue.exit? = some exit) :
    deed ≠ .work ∧ after.controller.queue.exit? = some exit := by
  have isOutside : deed ≠ .work := by
    rintro rfl
    cases step with
    | work worked => cases (work?_works worked).alive.symm.trans ended
  obtain ⟨records, outside, -⟩ := step.outside isOutside
  exact ⟨isOutside, outside.exit_eq ended⟩

theorem Run.exit_of_endShutdown (run : Run deeds cluster) (returned : .endShutdown ∈ deeds) :
    ∃ exit, cluster.controller.queue.exit? = some exit := by
  have kept {before : Cluster} {deed : Deed} {after : Cluster} :
      (∃ exit, before.controller.queue.exit? = some exit) → Step before deed after →
        ∃ exit, after.controller.queue.exit? = some exit := by
    rintro ⟨exit, ended⟩ step
    exact ⟨exit, (step.exit_eq ended).2⟩
  refine run.since (fun _ step => ?_) kept returned
  cases step with
  | endShutdown held begun ended =>
    obtain ⟨exit, isExit⟩ := Option.isSome_iff_exists.mp ended
    exact ⟨exit, ((Step.endShutdown held begun ended).exit_eq isExit).2⟩

theorem Run.over_of_endShutdown (run : Run deeds cluster) (returned : .endShutdown ∈ deeds) :
    ∃ cause, cluster.Over cause := by
  have kept {before : Cluster} {deed : Deed} {after : Cluster} :
      (∃ cause, before.Over cause) → Step before deed after → ∃ cause, after.Over cause := by
    rintro ⟨cause, ended⟩ step
    exact ⟨cause, (ended.step step).1⟩
  exact run.since (fun earlier step => earlier.over_of_returns (.ended step)) kept returned

/-! ### What a run reports -/

theorem Run.posts (run : Run deeds cluster) (step : Step cluster deed after) :
    ∃ published, cluster.Posts deed after published :=
  (Happens.step step).posts run.life.lived.blank

theorem Run.stopped_iff (run : Run deeds cluster) :
    cluster.controller.bulletin.latest.stage = .stopped ↔ .endShutdown ∈ deeds := by
  refine ⟨?_, fun returned => ?_⟩
  · induction run with
    | start fresh =>
      obtain ⟨name, settings, same⟩ := fresh.controller_eq
      rw [same]
      exact fun blank => by cases blank
    | @next deeds cluster deed after run step ih =>
      obtain ⟨published, posts⟩ := run.posts step
      intro stopped
      rw [List.mem_append, List.mem_singleton]
      cases posts with
      | nothing _ _ _ bulletin => exact .inl (ih (bulletin ▸ stopped))
      | founder _ _ _ _ bulletin =>
        rw [bulletin] at stopped
        cases stopped
      | @answer founder request answer after hears =>
        rw [Bulletin.latest_of_history _ hears.history] at stopped
        cases answer <;> cases stopped
      | stopped => exact .inr rfl
  · obtain ⟨cause, ended⟩ := run.over_of_endShutdown returned
    rw [ended.stopped]

/-- A crash is reported when the first shutdown returns, once, and never else. -/
theorem Run.crashReports_eq (run : Run deeds cluster) :
    (.endShutdown ∉ deeds → cluster.crashReports = []) ∧
      (.endShutdown ∈ deeds → cluster.crashReports = cluster.controller.queue.crash?.toList) := by
  induction run with
  | start fresh => simp [crashReports, fresh.readings]
  | @next deeds cluster deed after run step ih =>
    obtain ⟨none, one⟩ := ih
    by_cases last : deed = .endShutdown
    · subst last
      refine ⟨by simp, fun _ => ?_⟩
      have queue : cluster.endShutdown.controller.queue = cluster.controller.queue := by
        rw [Cluster.endShutdown, adopt_controller]
        rfl
      cases step with
      | endShutdown =>
        rw [crashReports_endShutdown, queue]
        by_cases before : .endShutdown ∈ deeds
        · rw [if_pos (run.stopped_iff.mpr before), List.append_nil, one before]
        · rw [if_neg (mt run.stopped_iff.mp before), none before, List.nil_append]
    · simp only [List.mem_append, List.mem_singleton, Ne.symm last, or_false]
      rw [step.crashReports last]
      refine ⟨none, fun before => ?_⟩
      obtain ⟨exit, ended⟩ := run.exit_of_endShutdown before
      rw [one before, Queue.crash?, Queue.crash?, ended, (step.exit_eq ended).2]

end Cluster

end Simulation

end ReplicaSet
