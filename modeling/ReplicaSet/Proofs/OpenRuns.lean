import ReplicaSet.Proofs.NodeRuns
import ReplicaSet.Proofs.StoreRuns

/-!
Runs of one controller next to a store that others use as well. Anybody may start and stop nodes,
hold elections and make requests of the store, and some of the members may be no nodes at all.
-/
namespace ReplicaSet.Simulation.Cluster

variable {cluster after next : Cluster} {deed : Deed} {job : Job Change}

/-! ### What a deed makes of the store -/

theorem call_store (cluster : Cluster) (job : Job Change) (via : Member) (request : Request) :
    (cluster.call job via request).site.store = cluster.site.store ∨
      (cluster.call job via request).site.store = (cluster.site.store.serve via.key request).2 := by
  cases origin : via.handle.origin with
  | node =>
    right
    rw [call_node origin, answered_site]
    rfl
  | standIn index =>
    left
    simp only [call, origin, Site.takeBehaviour, record, withQueue]
    split <;> rfl

theorem Starts.store (starts : cluster.Starts job next) :
    next.site.store = cluster.site.store ∨
      ∃ via request, next.site.store = (cluster.site.store.serve via request).2 := by
  cases starts with
  | outdated => exact .inl (by rw [conclude_site]; rfl)
  | waits current asks =>
    left
    rw [conclude_site, ← asks.frame.2.1]
    rfl
  | @calls available asked via request current asks =>
    rw [← asks.frame.2.1]
    exact (asked.call_store job via request).imp_right fun served => ⟨via.key, request, served⟩

theorem work?_store (worked : cluster.work? = some next) :
    next.site.store = cluster.site.store ∨
      ∃ via request, next.site.store = (cluster.site.store.serve via request).2 := by
  rcases work?_cases worked with ⟨job, call, -, wentOn⟩ | ⟨queue, -, rfl⟩ |
    ⟨job, queue, -, starts⟩ | ⟨exit, queue, -, rfl⟩
  · rcases goOn?_cases wentOn with ⟨answer, rfl⟩ | ⟨exit, rfl⟩ | ⟨stage, -, rfl⟩
    · exact .inl (by rw [answered_site])
    · exact .inl (by rw [leave_site])
    · exact .inl rfl
  · exact .inl rfl
  · exact starts.store
  · exact .inl (by rw [leave_site]; rfl)

/-- The controller does nothing to the store but make requests of it. -/
theorem Step.store (step : Step cluster deed after)
    (inside : ∀ site, deed = .surround site → site.store = cluster.site.store) :
    after.site.store = cluster.site.store ∨
      ∃ via request, after.site.store = (cluster.site.store.serve via request).2 := by
  cases step with
  | up | down | signal | endShutdown => exact .inl (congrArg Site.store (adopt_site _ _))
  | peek | beginShutdown | letGo | wait => exact .inl rfl
  | surround site => exact .inl (inside site rfl)
  | release =>
    rcases cluster.release_cases with same | ⟨job, call, later, -, same⟩ <;> rw [same] <;>
      exact .inl rfl
  | resize held desired => exact .inl (cluster.resize_frame desired).2.1
  | survey => exact .inl cluster.survey_frame.2.1
  | work worked => exact work?_store worked
  | interject interjected =>
    obtain ⟨job, call, later, -, rfl⟩ := interjection?_cases interjected
    exact .inl rfl

/-! ### The runs -/

/-- What can become of a new controller and a new store that is open to everybody. -/
inductive OpenReach : Cluster → Prop
  | start {new : Cluster} (fresh : new.Fresh) (blank : new.site.store = {}) : OpenReach new
  | operate {before : Cluster} (reach : OpenReach before) (operation : Store.Operation) :
      OpenReach (before.withStore (before.site.store.perform operation))
  | next {before later : Cluster} {deed : Deed} (reach : OpenReach before)
      (step : Step before deed later)
      (inside : ∀ site, deed = .surround site → site.store = before.site.store) : OpenReach later

theorem OpenReach.run (reach : OpenReach cluster) : ∃ deeds, Run deeds cluster := by
  induction reach with
  | start fresh => exact ⟨_, .start fresh⟩
  | operate _ _ ih =>
    obtain ⟨deeds, run⟩ := ih
    exact ⟨_, run.next (.surround _)⟩
  | next _ step _ ih =>
    obtain ⟨deeds, run⟩ := ih
    exact ⟨_, run.next step⟩

theorem OpenReach.store (reach : OpenReach cluster) : cluster.site.store.Reached := by
  induction reach with
  | start _ blank => exact blank ▸ ⟨[], rfl⟩
  | operate _ operation ih => exact ih.perform operation
  | next _ step inside ih =>
    rcases step.store inside with same | ⟨via, request, served⟩
    · rw [same]
      exact ih
    · rw [served]
      exact ih.perform (.request via request)

theorem NodeReach.isOpen (reach : NodeReach cluster) : OpenReach cluster := by
  induction reach with
  | start fresh blank => exact .start fresh blank
  | startNode _ key endpoint ih => exact ih.operate (.startNode key endpoint)
  | setAvailable _ key available ih => exact ih.operate (.setAvailable key available)
  | elect _ key ih => exact ih.operate (.elect key)
  | next _ step inside _ ih => exact ih.next step inside

end ReplicaSet.Simulation.Cluster
