import ReplicaSet.Proofs.ClusterClock
import ReplicaSet.Proofs.Founding

/-!
Runs of one controller whose members are the nodes of one store. Besides the changes of the
controller only the start and the stop of nodes and elections touch the store. Nodes answer at once,
so that a run of a change is over in the move in which it begins.
-/
namespace ReplicaSet

namespace Queue

variable {τ ρ : Type} {queue next : Queue WakeHeap τ ρ}

theorem offered_frame (queue : Queue WakeHeap τ ρ) (task : τ) :
    ((queue.submit? task).getD queue).phase = queue.phase ∧
      ((queue.submit? task).getD queue).settings = queue.settings ∧
      ((queue.submit? task).getD queue).stop = queue.stop := by
  cases submitted : queue.submit? task with
  | none => exact ⟨rfl, rfl, rfl⟩
  | some next =>
    obtain ⟨-, rfl⟩ := submit?_eq_some.mp submitted
    exact ⟨rfl, rfl, rfl⟩

theorem exit?_congr (same : next.phase = queue.phase) : next.exit? = queue.exit? := by
  simp only [exit?, same]

theorem unfinished_offer (alive : queue.exit? = none) (task : τ) :
    ((queue.submit? task).getD queue).unfinished = queue.unfinished ++ [task] := by
  have submitted : queue.submit? task = some { queue with inbox := queue.inbox ++ [task] } :=
    submit?_eq_some.mpr ⟨alive, rfl⟩
  rw [submitted, Option.getD_some, unfinished_submit? submitted]

end Queue

namespace Simulation.Cluster

variable {cluster after next : Cluster} {deed : Deed} {job : Job Change} {now : Nat}
  {roster roster' : Roster} {queue queue' : Queue Queue.WakeHeap Change Call} {member : Member}

/-! ### What a deed leaves as it is -/

theorem Shift.alive (shift : Shift now deed roster queue roster' queue')
    (alive : queue'.exit? = none) : queue.exit? = none := by
  cases shift with
  | keep | follow | close | letGo => exact alive
  | enrol => exact (Queue.exit?_congr (queue.offered_frame _).1).symm.trans alive
  | dismiss => exact (Queue.exit?_congr (queue.offered_frame _).1).symm.trans alive
  | goOn running => simp [Queue.exit?, running]
  | work _ works => exact works.alive

theorem Shift.settings (shift : Shift now deed roster queue roster' queue') :
    queue'.settings = queue.settings := by
  cases shift with
  | keep | follow | close | letGo | goOn => rfl
  | enrol => exact (queue.offered_frame _).2.1
  | dismiss => exact (queue.offered_frame _).2.1
  | work _ works => exact works.frame.1

theorem Shift.idle (shift : Shift now deed roster queue roster' queue') (outside : deed ≠ .work)
    (idle : ∀ job call, queue.phase ≠ .running job call) :
    ∀ job call, queue'.phase ≠ .running job call := by
  cases shift with
  | keep | follow | close | letGo => exact idle
  | enrol => rwa [(queue.offered_frame _).1]
  | dismiss => rwa [(queue.offered_frame _).1]
  | goOn running => exact absurd running (idle _ _)
  | work isWork => exact absurd isWork outside

theorem Shift.admissions (shift : Shift now deed roster queue roster' queue')
    (known : member ∈ admissions roster' queue'.unfinished) :
    member ∈ admissions roster queue.unfinished ∨
      ∃ handle, deed = .up handle ∧ member = ⟨roster.nextId, handle⟩ := by
  have offered {task : Change} (old : ∃ other ∈ ((queue.submit? task).getD queue).unfinished,
      other.member = member) :
      (∃ other ∈ queue.unfinished, other.member = member) ∨ task.member = member := by
    obtain ⟨other, waiting, same⟩ := old
    rcases List.mem_append.mp ((queue.unfinished_offered task).subset waiting) with before | new
    · exact .inl ⟨other, before, same⟩
    · exact .inr (List.mem_singleton.mp new ▸ same)
  cases shift with
  | keep | close | letGo => exact .inl known
  | follow key =>
    rw [mem_admissions, (roster.follow_frame key).1] at known
    exact .inl (mem_admissions.mpr known)
  | @enrol handle told new =>
    rcases mem_admissions.mp known with tracked | task
    · rcases (Roster.mem_enrol new).mp tracked with old | isNew
      · exact .inl (mem_admissions.mpr (.inl old))
      · exact .inr ⟨handle, told, isNew⟩
    · rcases offered task with old | isNew
      · exact .inl (mem_admissions.mpr (.inr old))
      · exact .inr ⟨handle, told, isNew.symm.trans (Controller.entrance_member roster handle)⟩
  | dismiss dismissed =>
    obtain ⟨tracked, -, -, -, -, fewer, -⟩ := Roster.dismiss?_frame dismissed
    rcases mem_admissions.mp known with stays | task
    · exact .inl (mem_admissions.mpr (.inl (fewer.subset stays)))
    · rcases offered task with old | isLeaver
      · exact .inl (mem_admissions.mpr (.inr old))
      · exact .inl (mem_admissions.mpr (.inl (isLeaver ▸ tracked)))
  | goOn running later =>
    rw [Queue.unfinished_goOn running later] at known
    exact .inl known
  | work _ works same =>
    have members : roster'.members = roster.members := by
      rcases same with rfl | ⟨key, rfl⟩
      · rfl
      · exact (roster.follow_frame key).1
    rw [mem_admissions, members] at known
    rcases known with tracked | ⟨task, waiting, isMember⟩
    · exact .inl (mem_admissions.mpr (.inl tracked))
    · have before := works.unfinished_subperm.subset waiting
      exact .inl (mem_admissions.mpr (.inr ⟨task, before, isMember⟩))

/-! ### The runs -/

def withStore (cluster : Cluster) (store : Store) : Cluster :=
  { cluster with site := { cluster.site with store := store } }

/-- What can become of a new controller and a new store. Nodes are started, stopped and elected at
any time, all members that come up are nodes, and nothing else touches the store but the changes of
the controller. -/
inductive NodeReach : Cluster → Prop
  | start {new : Cluster} (fresh : new.Fresh) (blank : new.site.store = {}) : NodeReach new
  | startNode {before : Cluster} (reach : NodeReach before) (key endpoint : String) :
      NodeReach (before.withStore (before.site.store.startNode key endpoint))
  | setAvailable {before : Cluster} (reach : NodeReach before) (key : String) (available : Bool) :
      NodeReach (before.withStore (before.site.store.setAvailable key available))
  | elect {before : Cluster} (reach : NodeReach before) (key : String) :
      NodeReach (before.withStore (before.site.store.elect key).2)
  | next {before later : Cluster} {deed : Deed} (reach : NodeReach before)
      (step : Step before deed later)
      (inside : ∀ site, deed = .surround site → site.store = before.site.store)
      (node : ∀ handle, deed = .up handle → handle.origin = .node) : NodeReach later

theorem NodeReach.run (reach : NodeReach cluster) : ∃ deeds, Run deeds cluster := by
  induction reach with
  | start fresh => exact ⟨_, .start fresh⟩
  | startNode _ _ _ ih | setAvailable _ _ _ ih | elect _ _ ih =>
    obtain ⟨deeds, run⟩ := ih
    exact ⟨_, run.next (.surround _)⟩
  | next _ step _ _ ih =>
    obtain ⟨deeds, run⟩ := ih
    exact ⟨_, run.next step⟩

theorem NodeReach.settle (reach : NodeReach cluster) : NodeReach (Clockwork.settle cluster) :=
  Clockwork.run_induction NodeReach
    (fun before worked => before.next (.work worked) (by simp) (by simp)) _ reach

/-- Two nodes. A set was founded on the one, and the other one was added. -/
def pair : Cluster :=
  let nodes : Store := (({} : Store).startNode "a" "a:1").startNode "b" "b:1"
  let new := (create "rs" tireless { scaler := ⟨1, none⟩ }).withStore nodes
  Clockwork.settle
    ((Clockwork.settle (new.memberUp ⟨"a", .node⟩)).memberUp ⟨"b", .node⟩)

theorem pair_reach : NodeReach pair := by
  have named : Text.isBlank "rs" = false := by decide
  have new := NodeReach.start (fresh_create named tireless { scaler := ⟨1, none⟩ }) rfl
  have nodes := (new.startNode "a" "a:1").startNode "b" "b:1"
  have founded := (nodes.next (.up rfl ⟨"a", .node⟩) (by simp) (by simp)).settle
  exact (founded.next (.up (by decide) ⟨"b", .node⟩) (by simp) (by simp)).settle

/-- All members that are known are nodes, and no request takes time. -/
structure Nodal (cluster : Cluster) : Prop where
  nodes : ∀ member ∈ admissions cluster.controller.roster cluster.controller.queue.unfinished,
    member.handle.origin = .node
  idle : ∀ job call, cluster.controller.queue.phase ≠ .running job call

/-- What a node answers is heard in the move in which it was asked. -/
theorem call_node {via : Member} {request : Request} (node : via.handle.origin = .node) :
    cluster.call job via request =
      (((cluster.record (.called via.handle request)).withStore
        (cluster.site.store.serve via.key request).2).answered job via
          (cluster.site.store.serve via.key request).1) := by
  unfold call
  split
  · rfl
  · rename_i standIn
    cases node.symm.trans standIn

theorem Nodal.via_node (nodal : cluster.Nodal) {queue : Queue Queue.WakeHeap Change Call}
    (started : cluster.controller.queue.turn cluster.now = .start job queue) {available : Bool}
    {via : Member} {request : Request}
    (ordered : cluster.controller.order available job.task = .ok (via, request)) :
    via.handle.origin = .node := by
  refine nodal.nodes via (mem_admissions.mpr ?_)
  rcases Controller.order_via ordered with same | tracked
  · have waits := (Queue.unfinished_start started).mem_iff.mpr List.mem_cons_self
    exact .inr ⟨job.task, waits, same.symm⟩
  · exact .inl tracked

theorem Nodal.idle_work (nodal : cluster.Nodal) (worked : cluster.work? = some next) :
    ∀ job call, next.controller.queue.phase ≠ .running job call := by
  rcases work?_cases worked with ⟨job, call, running, -⟩ | ⟨queue, moved, rfl⟩ |
    ⟨job, queue, started, starts⟩ | ⟨exit, queue, -, rfl⟩
  · exact absurd running (nodal.idle _ _)
  · rcases Queue.turn_move moved with ⟨-, -, -, rfl⟩ | ⟨-, _, _, -, rfl⟩ | ⟨-, -, rfl⟩ <;>
      simp [withQueue]
  · cases starts with
    | outdated => simp [(Queue.conclude_frame _ _ _ _).1]
    | waits => simp [(Queue.conclude_frame _ _ _ _).1]
    | calls current asks ordered =>
      rw [call_node (nodal.via_node started ordered), answered_controller]
      simp [(Queue.conclude_frame _ _ _ _).1]
  · simp [Queue.exitWith]

theorem NodeReach.nodal (reach : NodeReach cluster) : cluster.Nodal := by
  induction reach with
  | start fresh =>
    obtain ⟨name, settings, same⟩ := fresh.controller_eq
    refine ⟨?_, ?_⟩
    · simp [same, admissions]
    · simp [same, Queue.create]
  | startNode _ _ _ ih | setAvailable _ _ _ ih | elect _ _ ih => exact ⟨ih.nodes, ih.idle⟩
  | @next _ _ deed _ step _ node ih =>
    constructor
    · intro member known
      rcases step.shift.admissions known with old | ⟨handle, told, rfl⟩
      · exact ih.nodes member old
      · exact node handle told
    · by_cases outside : deed = .work
      · subst outside
        cases step with
        | work worked => exact ih.idle_work worked
      · exact step.shift.idle outside ih.idle

end Simulation.Cluster

end ReplicaSet
