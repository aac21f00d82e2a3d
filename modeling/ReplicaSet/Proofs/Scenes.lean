import ReplicaSet.Proofs.NodeRuns
import ReplicaSet.Proofs.StoreShape

/-!
A set and its store, without the worker: what each step of a run over the nodes of a store makes of
the roster, the store and the tasks that are not finished. What stays true of them in every step
holds throughout a run (`NodeReach.holds`).
-/
namespace ReplicaSet

/-- What changes to the structure of a set go by. -/
structure Scene where
  roster : Roster := {}
  bulletin : Bulletin := .blank
  store : Store := {}

/-- What a run of a change makes of a scene, and whether the change is done with. -/
inductive Scene.Runs (scene : Scene) : Change → Outcome → Scene → Prop
  | founded {founder : Member} {setName : String}
      (accepted : scene.store.objection? founder.key (.found setName founder.id) = none) :
      Runs scene (.found founder) .done
        { roster := (scene.roster.follow founder.key).2
          bulletin := scene.bulletin.publish .stable true
          store := scene.store.carryOut founder.key (.found setName founder.id) }
  | foundingFailed {founder : Member} :
      Runs scene (.found founder) .done
        { scene with bulletin := scene.bulletin.publish .degraded false }
  | joinStale {candidate : Member} (stale : scene.roster.isCurrent candidate = false) :
      Runs scene (.join candidate) .done scene
  | joinWaits {candidate : Member} (current : scene.roster.isCurrent candidate = true)
      (waits : scene.roster.primary? = none ∨ scene.store.isAvailable candidate.key = false) :
      Runs scene (.join candidate) .retry scene
  | joined {candidate via : Member} (current : scene.roster.isCurrent candidate = true)
      (primary : scene.roster.primary? = some via)
      (accepted : scene.store.objection? via.key (.add candidate.key candidate.id) = none) :
      Runs scene (.join candidate) .done
        { scene with store := scene.store.carryOut via.key (.add candidate.key candidate.id) }
  | joinRefused {candidate via : Member} {cause : StoreError}
      (current : scene.roster.isCurrent candidate = true)
      (primary : scene.roster.primary? = some via)
      (refused : scene.store.objection? via.key (.add candidate.key candidate.id) = some cause) :
      Runs scene (.join candidate) .retry scene
  | leaveStale {departed : Member} (tracked : scene.roster.tracks departed.key = true) :
      Runs scene (.leave departed) .done scene
  | leaveWaits {departed : Member} (untracked : scene.roster.tracks departed.key = false)
      (waits : scene.roster.primary? = none ∨ scene.store.isAvailable departed.key = true) :
      Runs scene (.leave departed) .retry scene
  | departed {departed via : Member} (untracked : scene.roster.tracks departed.key = false)
      (primary : scene.roster.primary? = some via)
      (accepted : scene.store.objection? via.key (.remove departed.key) = none) :
      Runs scene (.leave departed) .done
        { scene with store := scene.store.carryOut via.key (.remove departed.key) }
  | leaveRefused {departed via : Member} {cause : StoreError}
      (untracked : scene.roster.tracks departed.key = false)
      (primary : scene.roster.primary? = some via)
      (refused : scene.store.objection? via.key (.remove departed.key) = some cause) :
      Runs scene (.leave departed) .retry scene

/-- The tasks that are not finished after a run of one of them. -/
def Outcome.left (outcome : Outcome) (task : Change) (rest : List Change) : List Change :=
  match outcome with
  | .done => rest
  | .retry => task :: rest

/-- What a step of a run makes of a scene and the tasks that are not finished. -/
inductive Alters (scene : Scene) (tasks : List Change) : Scene → List Change → Prop
  | rest {later : List Change} (same : later.Perm tasks) : Alters scene tasks scene later
  | startNode (key endpoint : String) :
      Alters scene tasks { scene with store := scene.store.startNode key endpoint } tasks
  | setAvailable (key : String) (available : Bool) :
      Alters scene tasks { scene with store := scene.store.setAvailable key available } tasks
  | elect (key : String) : Alters scene tasks { scene with store := (scene.store.elect key).2 } tasks
  | follow (key : String) :
      Alters scene tasks { scene with roster := (scene.roster.follow key).2 } tasks
  | close : Alters scene tasks { scene with roster := scene.roster.close } tasks
  | enrol {handle : Handle} {bulletin : Bulletin} (new : scene.roster.tracks handle.key = false)
      (told : bulletin = scene.bulletin ∨ bulletin = scene.bulletin.publish .bootstrapping false) :
      Alters scene tasks
        { scene with roster := (scene.roster.enrol handle).2, bulletin := bulletin }
        (tasks ++ [Controller.entrance scene.roster handle])
  | dismiss {key : String} {member : Member} {wasPrimary : Bool} {left : Roster}
      (dismissed : scene.roster.dismiss? key = some (member, wasPrimary, left)) :
      Alters scene tasks { scene with roster := left } (tasks ++ [.leave member])
  /-- A change is run. As long as the set is not founded, that is the founding. -/
  | run {task : Change} {rest later : List Change} {outcome : Outcome} {after : Scene}
      (taken : tasks.Perm (task :: rest)) (first : ∀ founder, .found founder ∉ rest)
      (runs : scene.Runs task outcome after) (left : later.Perm (outcome.left task rest)) :
      Alters scene tasks after later

namespace Simulation.Cluster

variable {cluster after next : Cluster} {job : Job Change}

def scene (cluster : Cluster) : Scene :=
  ⟨cluster.controller.roster, cluster.controller.bulletin, cluster.site.store⟩

theorem look_node {site : Site} {handle : Handle} (node : handle.origin = .node) :
    (site.look handle).available = site.store.isAvailable handle.key := by
  simp [Site.look, node, Store.face]

theorem scene_answered (cluster : Cluster) (job : Job Change) (via : Member)
    (answer : StoreAnswer) :
    (cluster.answered job via answer).scene =
      ⟨(cluster.controller.answered job.task via answer).2.2.roster,
        (cluster.controller.answered job.task via answer).2.2.bulletin, cluster.site.store⟩ := by
  simp [scene, answered_controller]

theorem scene_conclude (cluster : Cluster) (job : Job Change) (outcome : Outcome) :
    (cluster.conclude job outcome).scene = cluster.scene := by
  simp [scene]

theorem call_accepted (cluster : Cluster) (job : Job Change) {via : Member} {request : Request}
    (node : via.handle.origin = .node)
    (accepted : cluster.site.store.objection? via.key request = none) :
    (cluster.call job via request).scene =
        ⟨(cluster.controller.answered job.task via (.ok ())).2.2.roster,
          (cluster.controller.answered job.task via (.ok ())).2.2.bulletin,
          cluster.site.store.carryOut via.key request⟩ ∧
      (cluster.call job via request).controller.queue =
        (cluster.controller.queue.conclude cluster.now job
          (cluster.controller.answered job.task via (.ok ())).1).2 := by
  rw [call_node node, Store.serve_accepted accepted, scene_answered, answered_controller]
  exact ⟨rfl, rfl⟩

theorem call_refused (cluster : Cluster) (job : Job Change) {via : Member} {request : Request}
    {cause : StoreError} (node : via.handle.origin = .node)
    (refused : cluster.site.store.objection? via.key request = some cause) :
    (cluster.call job via request).scene =
        ⟨(cluster.controller.answered job.task via (.error cause)).2.2.roster,
          (cluster.controller.answered job.task via (.error cause)).2.2.bulletin,
          cluster.site.store⟩ ∧
      (cluster.call job via request).controller.queue =
        (cluster.controller.queue.conclude cluster.now job
          (cluster.controller.answered job.task via (.error cause)).1).2 := by
  rw [call_node node, Store.serve_refused refused, scene_answered, answered_controller]
  exact ⟨rfl, rfl⟩

theorem runs_of_outdated {change : Change} {notice : Notice}
    (outdated : cluster.controller.outdated? change = some notice) :
    cluster.scene.Runs change .done cluster.scene := by
  cases change with
  | found founder => cases outdated
  | join candidate =>
    refine .joinStale (Bool.eq_false_iff.mpr fun current => ?_)
    simp only [scene] at current
    simp [Controller.outdated?, current] at outdated
  | leave departed =>
    obtain ⟨id, tracked, -⟩ := Option.map_eq_some_iff.mp outdated
    refine .leaveStale ?_
    rw [← Roster.idOf?_isSome]
    exact Option.isSome_of_eq_some tracked

theorem runs_of_waits {change : Change} {available : Bool} {notice : Notice}
    (current : cluster.controller.outdated? change = none)
    (seen : (∀ founder, change ≠ .found founder) →
      available = cluster.site.store.isAvailable change.member.key)
    (waits : cluster.controller.order available change = .error notice) :
    cluster.scene.Runs change .retry cluster.scene := by
  cases change with
  | found founder => cases waits
  | join candidate =>
    rw [seen (by simp)] at waits
    exact .joinWaits (Controller.current_of_outdated? current) (Controller.order_join_waits waits)
  | leave departed =>
    rw [seen (by simp)] at waits
    exact .leaveWaits (Controller.untracked_of_outdated? current)
      (Controller.order_leave_waits waits)

theorem runs_of_accepted {change : Change} {available : Bool} {via : Member} {request : Request}
    (current : cluster.controller.outdated? change = none)
    (ordered : cluster.controller.order available change = .ok (via, request))
    (accepted : cluster.site.store.objection? via.key request = none) :
    cluster.scene.Runs change (cluster.controller.answered change via (.ok ())).1
      ⟨(cluster.controller.answered change via (.ok ())).2.2.roster,
        (cluster.controller.answered change via (.ok ())).2.2.bulletin,
        cluster.site.store.carryOut via.key request⟩ := by
  cases change with
  | found founder =>
    obtain ⟨rfl, rfl⟩ := Prod.mk.inj (Except.ok.inj ordered)
    exact .founded accepted
  | join candidate =>
    obtain ⟨primary, -, rfl⟩ := Controller.order_join ordered
    exact .joined (Controller.current_of_outdated? current) primary accepted
  | leave departed =>
    obtain ⟨primary, -, rfl⟩ := Controller.order_leave ordered
    exact .departed (Controller.untracked_of_outdated? current) primary accepted

theorem runs_of_refused {change : Change} {available : Bool} {via : Member} {request : Request}
    {cause : StoreError} (current : cluster.controller.outdated? change = none)
    (ordered : cluster.controller.order available change = .ok (via, request))
    (refused : cluster.site.store.objection? via.key request = some cause) :
    cluster.scene.Runs change (cluster.controller.answered change via (.error cause)).1
      ⟨(cluster.controller.answered change via (.error cause)).2.2.roster,
        (cluster.controller.answered change via (.error cause)).2.2.bulletin,
        cluster.site.store⟩ := by
  cases change with
  | found founder => exact .foundingFailed
  | join candidate =>
    obtain ⟨primary, -, rfl⟩ := Controller.order_join ordered
    exact .joinRefused (Controller.current_of_outdated? current) primary refused
  | leave departed =>
    obtain ⟨primary, -, rfl⟩ := Controller.order_leave ordered
    exact .leaveRefused (Controller.untracked_of_outdated? current) primary refused

/-- The beginning of a run whose request is made of a node is a run of the change. -/
theorem Starts.runs (starts : cluster.Starts job next)
    (node : job.task.member.handle.origin = .node)
    (nodes : ∀ member ∈ cluster.controller.roster.members, member.handle.origin = .node) :
    ∃ outcome, cluster.scene.Runs job.task outcome next.scene ∧
      next.controller.queue = (cluster.controller.queue.conclude cluster.now job outcome).2 := by
  cases starts with
  | @outdated notice outdated =>
    have same : ((cluster.note notice).conclude job .done).scene = cluster.scene :=
      scene_conclude _ _ _
    rw [same]
    exact ⟨.done, runs_of_outdated outdated, by simp [note, record]⟩
  | @waits available asked notice current asks waits =>
    obtain ⟨controller, site, now, -⟩ := asks.frame
    have same : ((asked.note notice).conclude job .retry).scene = cluster.scene := by
      rw [scene_conclude]
      simp only [scene, note, record, controller, site]
    rw [same]
    refine ⟨.retry, runs_of_waits current (fun question => ?_) waits, ?_⟩
    · exact (asks.answer question).trans (look_node node)
    · simp [note, record, controller, now]
  | @calls available asked via request current asks ordered =>
    obtain ⟨controller, site, now, -⟩ := asks.frame
    have viaNode : via.handle.origin = .node := by
      rcases Controller.order_via ordered with rfl | tracked
      · exact node
      · exact nodes via tracked
    have same : asked.scene = cluster.scene := by simp only [scene, controller, site]
    rw [← controller, ← now, ← same]
    rw [← controller] at current ordered
    cases objection : asked.site.store.objection? via.key request with
    | none =>
      obtain ⟨scene, queue⟩ := call_accepted asked job viaNode objection
      rw [scene]
      exact ⟨_, runs_of_accepted current ordered objection, queue⟩
    | some cause =>
      obtain ⟨scene, queue⟩ := call_refused asked job viaNode objection
      rw [scene]
      exact ⟨_, runs_of_refused current ordered objection, queue⟩

theorem Nodal.runs (nodal : cluster.Nodal) {queue : Queue Queue.WakeHeap Change Call}
    (started : cluster.controller.queue.turn cluster.now = .start job queue)
    (starts : (cluster.withQueue queue).Starts job next) :
    ∃ outcome, cluster.scene.Runs job.task outcome next.scene ∧
      next.controller.queue = (queue.conclude cluster.now job outcome).2 := by
  have waits : job.task ∈ cluster.controller.queue.unfinished :=
    (Queue.unfinished_start started).mem_iff.mpr List.mem_cons_self
  have nodes : ∀ member ∈ cluster.controller.roster.members, member.handle.origin = .node :=
    fun member tracked => nodal.nodes member (mem_admissions.mpr (.inl tracked))
  exact starts.runs (nodal.nodes _ (mem_admissions_of_task waits)) nodes

theorem work?_alters {first? : Option Handle} (worked : cluster.work? = some next)
    (nodal : cluster.Nodal) (founding : Founding first? cluster)
    (unbounded : cluster.controller.queue.settings.maxAttempts = none)
    (alive : next.controller.queue.exit? = none) :
    Alters cluster.scene cluster.controller.queue.unfinished next.scene
      next.controller.queue.unfinished := by
  rcases work?_cases worked with ⟨job, call, running, -⟩ | ⟨queue, moved, rfl⟩ |
    ⟨job, queue, started, starts⟩ | ⟨exit, queue, -, rfl⟩
  · exact absurd running (nodal.idle _ _)
  · exact .rest (Queue.unfinished_move moved)
  · obtain ⟨outcome, runs, ended⟩ := nodal.runs started starts
    refine .run (Queue.unfinished_start started) (founding.first started) runs ?_
    rw [ended, Queue.unfinished_conclude]
    cases outcome with
    | done => exact Queue.waiting_conclude_done
    | retry =>
      have settings := (Queue.start_frame started).2.1
      exact Queue.waiting_conclude_retry (Queue.isSpent_of_unbounded (settings ▸ unbounded) _)
  · simp [Queue.exitWith, Queue.exit?] at alive

theorem alters_of_same (controller : after.controller = cluster.controller)
    (site : after.site.store = cluster.site.store) :
    Alters cluster.scene cluster.controller.queue.unfinished after.scene
      after.controller.queue.unfinished := by
  have same : after.scene = cluster.scene := by simp only [scene, controller, site]
  rw [same, controller]
  exact .rest (.refl _)

theorem memberUp_alters (alive : cluster.controller.queue.exit? = none) (handle : Handle) :
    Alters cluster.scene cluster.controller.queue.unfinished (cluster.memberUp handle).scene
      (cluster.memberUp handle).controller.queue.unfinished := by
  have told : (cluster.memberUp handle).controller = (cluster.controller.memberUp handle).2 :=
    adopt_controller _ _
  have site : (cluster.memberUp handle).site = cluster.site := adopt_site _ _
  rcases cluster.controller.memberUp_cases handle with same | ⟨isOpen, new⟩
  · exact alters_of_same (told.trans same) (by rw [site])
  · obtain ⟨roster, queue, -, bulletin⟩ := Controller.memberUp_new isOpen new
    have scene : (cluster.memberUp handle).scene =
        { cluster.scene with
          roster := (cluster.scene.roster.enrol handle).2
          bulletin := (cluster.controller.memberUp handle).2.bulletin } := by
      simp only [Cluster.scene, told, site, roster]
    rw [scene, told, queue, Queue.unfinished_offer alive]
    exact .enrol new bulletin

theorem memberDown_alters (alive : cluster.controller.queue.exit? = none) (handle : Handle) :
    Alters cluster.scene cluster.controller.queue.unfinished (cluster.memberDown handle).scene
      (cluster.memberDown handle).controller.queue.unfinished := by
  have told : (cluster.memberDown handle).controller =
      (cluster.controller.memberDown handle.key).2 := adopt_controller _ _
  have site : (cluster.memberDown handle).site = cluster.site := adopt_site _ _
  rcases cluster.controller.memberDown_cases handle.key with
    same | ⟨member, wasPrimary, left, dismissed, same⟩
  · exact alters_of_same (told.trans same) (by rw [site])
  · have shape := told.trans same
    have scene : (cluster.memberDown handle).scene = { cluster.scene with roster := left } := by
      simp only [Cluster.scene, shape, site]
    rw [scene, shape, Queue.unfinished_offer alive]
    exact .dismiss dismissed

/-- What any deed in a run over nodes makes of the scene, as long as the worker is there. -/
theorem Step.alters {first? : Option Handle} {deed : Deed} (step : Step cluster deed after)
    (inside : ∀ site, deed = .surround site → site.store = cluster.site.store)
    (nodal : cluster.Nodal) (founding : Founding first? cluster)
    (unbounded : cluster.controller.queue.settings.maxAttempts = none)
    (alive : after.controller.queue.exit? = none) :
    Alters cluster.scene cluster.controller.queue.unfinished after.scene
      after.controller.queue.unfinished := by
  have before := step.shift.alive alive
  cases step with
  | up held handle => exact memberUp_alters before handle
  | down held handle => exact memberDown_alters before handle
  | signal held handle isPrimary =>
    have told : (cluster.primarySignal handle isPrimary).controller =
        (cluster.controller.primarySignal handle.key isPrimary).2 := adopt_controller _ _
    have site : (cluster.primarySignal handle isPrimary).site = cluster.site := adopt_site _ _
    rcases cluster.controller.primarySignal_frame handle.key isPrimary with same | followed
    · exact alters_of_same (told.trans same) (by rw [site])
    · have scene : (cluster.primarySignal handle isPrimary).scene =
          { cluster.scene with roster := (cluster.scene.roster.follow handle.key).2 } := by
        simp only [Cluster.scene, told, followed, site]
      rw [scene, told, followed]
      exact .follow handle.key
  | peek | wait | letGo => exact .rest (.refl _)
  | surround site => exact alters_of_same rfl (inside site rfl)
  | release =>
    rcases cluster.release_cases with same | ⟨job, call, later, running, -⟩
    · rw [same]
      exact .rest (.refl _)
    · exact absurd running (nodal.idle _ _)
  | resize held desired =>
    obtain ⟨controller, store, -⟩ := cluster.resize_frame desired
    exact alters_of_same controller store
  | survey =>
    obtain ⟨controller, store, -⟩ := cluster.survey_frame
    exact alters_of_same controller store
  | beginShutdown => exact .close
  | endShutdown held begun ended => simp [before] at ended
  | work worked => exact work?_alters worked nodal founding unbounded alive
  | interject interjected =>
    obtain ⟨job, call, later, running, -⟩ := interjection?_cases interjected
    exact absurd running (nodal.idle _ _)

/-- What holds of a new scene and is kept by every step holds throughout a run over nodes, as long
as the worker is there and every change is tried again until it is done. -/
theorem NodeReach.holds {holds : Scene → List Change → Prop} (new : holds {} [])
    (kept : ∀ {scene later : Scene} {tasks left : List Change}, Accounted scene.roster tasks →
      holds scene tasks → Alters scene tasks later left → holds later left)
    (reach : NodeReach cluster) (unbounded : cluster.controller.queue.settings.maxAttempts = none)
    (alive : cluster.controller.queue.exit? = none) :
    holds cluster.scene cluster.controller.queue.unfinished := by
  induction reach with
  | start fresh blank =>
    obtain ⟨name, settings, same⟩ := fresh.controller_eq
    rw [scene, same, blank]
    exact new
  | startNode reach key endpoint ih =>
    obtain ⟨deeds, run⟩ := reach.run
    exact kept run.accounted (ih unbounded alive) (.startNode key endpoint)
  | setAvailable reach key available ih =>
    obtain ⟨deeds, run⟩ := reach.run
    exact kept run.accounted (ih unbounded alive) (.setAvailable key available)
  | elect reach key ih =>
    obtain ⟨deeds, run⟩ := reach.run
    exact kept run.accounted (ih unbounded alive) (.elect key)
  | next reach step inside node ih =>
    obtain ⟨deeds, run⟩ := reach.run
    rw [step.shift.settings] at unbounded
    exact kept run.accounted (ih unbounded (step.shift.alive alive))
      (step.alters inside reach.nodal run.founding unbounded alive)

end Simulation.Cluster

end ReplicaSet
