import ReplicaSet.Proofs.QueueWorks
import ReplicaSet.Proofs.RosterShape
import ReplicaSet.Proofs.Traces

/-!
What the operations of a cluster touch, and what a move of its worker can be.
-/
namespace ReplicaSet

namespace Controller

variable {ρ : Type}

theorem answered_frame (controller : Controller ρ) (change : Change) (via : Member)
    (answer : StoreAnswer) :
    (controller.answered change via answer).2.2.queue = controller.queue ∧
      (controller.answered change via answer).2.2.name = controller.name ∧
      (controller.answered change via answer).2.2.held = controller.held ∧
      ((controller.answered change via answer).2.2.roster = controller.roster ∨
        ∃ key, (controller.answered change via answer).2.2.roster =
          (controller.roster.follow key).2) := by
  cases change with
  | found member =>
    cases answer with
    | ok => exact ⟨rfl, rfl, rfl, .inr ⟨member.key, rfl⟩⟩
    | error => exact ⟨rfl, rfl, rfl, .inl rfl⟩
  | join => cases answer <;> exact ⟨rfl, rfl, rfl, .inl rfl⟩
  | leave => cases answer <;> exact ⟨rfl, rfl, rfl, .inl rfl⟩

theorem schedule_frame (controller : Controller ρ) (change : Change) :
    (controller.schedule change).2 =
      { controller with queue := (controller.queue.submit? change).getD controller.queue } := by
  unfold schedule
  cases controller.queue.submit? change <;> rfl

/-- What the first change for a member is. -/
def entrance (roster : Roster) (handle : Handle) : Change :=
  if roster.founded then .join ⟨roster.nextId, handle⟩ else .found ⟨roster.nextId, handle⟩

theorem entrance_member (roster : Roster) (handle : Handle) :
    (entrance roster handle).member = ⟨roster.nextId, handle⟩ := by
  unfold entrance
  split <;> rfl

/-- Word of a member that is there already, or of any after a shutdown, changes nothing. -/
theorem memberUp_cases (controller : Controller ρ) (handle : Handle) :
    (controller.memberUp handle).2 = controller ∨
      controller.roster.closed = false ∧ controller.roster.tracks handle.key = false := by
  cases closed : controller.roster.closed with
  | true => exact .inl (by simp [memberUp, closed])
  | false =>
    cases tracked : controller.roster.tracks handle.key with
    | true => exact .inl (by simp [memberUp, closed, Roster.enrol_tracked tracked])
    | false => exact .inr ⟨rfl, rfl⟩

theorem memberUp_new {controller : Controller ρ} {handle : Handle}
    (isOpen : controller.roster.closed = false)
    (new : controller.roster.tracks handle.key = false) :
    (controller.memberUp handle).2.roster = (controller.roster.enrol handle).2 ∧
      (controller.memberUp handle).2.queue =
        (controller.queue.submit? (entrance controller.roster handle)).getD controller.queue ∧
      (controller.memberUp handle).2.name = controller.name ∧
      ((controller.memberUp handle).2.bulletin = controller.bulletin ∨
        (controller.memberUp handle).2.bulletin =
          controller.bulletin.publish .bootstrapping false) := by
  cases founded : controller.roster.founded with
  | true => simp [memberUp, isOpen, Roster.enrol_new new, founded, schedule_frame, entrance]
  | false =>
    by_cases empty : controller.bulletin.latest.stage = .empty
    · simp [memberUp, isOpen, Roster.enrol_new new, founded, schedule_frame, entrance, publish, empty]
    · simp [memberUp, isOpen, Roster.enrol_new new, founded, schedule_frame, entrance, empty]

/-- A member that was tracked is dismissed, and its removal is scheduled. -/
theorem memberDown_cases (controller : Controller ρ) (key : String) :
    (controller.memberDown key).2 = controller ∨
      ∃ member wasPrimary left,
        controller.roster.dismiss? key = some (member, wasPrimary, left) ∧
        (controller.memberDown key).2 =
          { controller with
            roster := left
            queue := (controller.queue.submit? (.leave member)).getD controller.queue } := by
  cases closed : controller.roster.closed with
  | true => exact .inl (by simp [memberDown, closed])
  | false =>
    cases dismissed : controller.roster.dismiss? key with
    | none => exact .inl (by simp [memberDown, closed, dismissed])
    | some dismissal =>
      obtain ⟨member, wasPrimary, left⟩ := dismissal
      refine .inr ⟨member, wasPrimary, left, rfl, ?_⟩
      simp [memberDown, closed, dismissed, schedule_frame]

theorem primarySignal_frame (controller : Controller ρ) (key : String) (isPrimary : Bool) :
    (controller.primarySignal key isPrimary).2 = controller ∨
      (controller.primarySignal key isPrimary).2 =
        { controller with roster := (controller.roster.follow key).2 } := by
  unfold primarySignal
  split
  · exact .inl rfl
  · cases controller.roster.follow key with
    | mk update roster =>
      cases update with
      | changed => exact .inr rfl
      | unchanged => exact .inl rfl
      | unknownMember => exact .inl rfl

/-- A member is only added when it is available, and through the primary. -/
theorem order_join {controller : Controller ρ} {available : Bool} {member via : Member}
    {request : Request} (ordered : controller.order available (.join member) = .ok (via, request)) :
    controller.roster.primary? = some via ∧ available = true ∧
      request = .add member.key member.id := by
  unfold order at ordered
  cases primary : controller.roster.primary? <;> cases available <;> simp [primary] at ordered
  obtain ⟨rfl, rfl⟩ := ordered
  exact ⟨rfl, rfl, rfl⟩

/-- A member is only removed when it is not available, and through the primary. -/
theorem order_leave {controller : Controller ρ} {available : Bool} {member via : Member}
    {request : Request} (ordered : controller.order available (.leave member) = .ok (via, request)) :
    controller.roster.primary? = some via ∧ available = false ∧ request = .remove member.key := by
  unfold order at ordered
  cases primary : controller.roster.primary? <;> cases available <;> simp [primary] at ordered
  obtain ⟨rfl, rfl⟩ := ordered
  exact ⟨rfl, rfl, rfl⟩

theorem order_found {controller : Controller ρ} {available : Bool} {change : Change} {via : Member}
    {setName : String} {id : Nat}
    (ordered : controller.order available change = .ok (via, .found setName id)) :
    change = .found via ∧ setName = controller.name ∧ id = via.id := by
  cases change with
  | found member =>
    obtain ⟨rfl, request⟩ := Prod.mk.inj (Except.ok.inj ordered)
    obtain ⟨rfl, rfl⟩ := Request.found.inj request
    exact ⟨rfl, rfl, rfl⟩
  | join member => cases (order_join ordered).2.2
  | leave member => cases (order_leave ordered).2.2

theorem order_add {controller : Controller ρ} {available : Bool} {change : Change} {via : Member}
    {key : String} {id : Nat}
    (ordered : controller.order available change = .ok (via, .add key id)) :
    ∃ candidate, change = .join candidate ∧ candidate.key = key ∧ candidate.id = id ∧
      available = true ∧ controller.roster.primary? = some via := by
  cases change with
  | found member => cases ordered
  | join candidate =>
    obtain ⟨primary, runs, request⟩ := order_join ordered
    obtain ⟨rfl, rfl⟩ := Request.add.inj request
    exact ⟨candidate, rfl, rfl, rfl, runs, primary⟩
  | leave member => cases (order_leave ordered).2.2

theorem order_remove {controller : Controller ρ} {available : Bool} {change : Change}
    {via : Member} {key : String}
    (ordered : controller.order available change = .ok (via, .remove key)) :
    ∃ departed, change = .leave departed ∧ departed.key = key ∧ available = false ∧
      controller.roster.primary? = some via := by
  cases change with
  | found member => cases ordered
  | join member => cases (order_join ordered).2.2
  | leave departed =>
    obtain ⟨primary, stopped, request⟩ := order_leave ordered
    cases request
    exact ⟨departed, rfl, rfl, stopped, primary⟩

theorem current_of_outdated? {controller : Controller ρ} {candidate : Member}
    (current : controller.outdated? (.join candidate) = none) :
    controller.roster.isCurrent candidate = true := by
  by_contra stale
  simp [outdated?, stale] at current

theorem untracked_of_outdated? {controller : Controller ρ} {departed : Member}
    (current : controller.outdated? (.leave departed) = none) :
    controller.roster.tracks departed.key = false := by
  have nobody := Option.map_eq_none_iff.mp current
  rw [← Roster.idOf?_isSome, nobody]
  rfl

theorem order_via {available : Bool} {change : Change} {via : Member} {request : Request}
    {controller : Controller ρ} (ordered : controller.order available change = .ok (via, request)) :
    via = change.member ∨ via ∈ controller.roster.members := by
  cases change with
  | found member => exact .inl (Prod.mk.inj (Except.ok.inj ordered)).1.symm
  | join member => exact .inr (Roster.mem_of_primary? (order_join ordered).1).1
  | leave member => exact .inr (Roster.mem_of_primary? (order_leave ordered).1).1

/-- What is said when nothing is left to do for a change. -/
theorem outdated?_notice {controller : Controller ρ} {change : Change} {notice : Notice}
    (outdated : controller.outdated? change = some notice) :
    (∃ member, notice = .joinStale member) ∨ ∃ member id, notice = .leaveStale member id := by
  cases change with
  | found => cases outdated
  | join member =>
    simp only [outdated?] at outdated
    split at outdated <;> cases outdated
    exact .inl ⟨member, rfl⟩
  | leave member =>
    obtain ⟨id, -, rfl⟩ := Option.map_eq_some_iff.mp outdated
    exact .inr ⟨member, id, rfl⟩

/-- What is said when a change waits for something. -/
theorem order_notice {controller : Controller ρ} {available : Bool} {change : Change}
    {notice : Notice} (waits : controller.order available change = .error notice) :
    (∃ member available primary, notice = .joinWaits member available primary) ∨
      ∃ member available primary, notice = .leaveWaits member available primary := by
  unfold order at waits
  cases change with
  | found => cases waits
  | join member =>
    dsimp only at waits
    split at waits <;> cases waits
    exact .inl ⟨_, _, _, rfl⟩
  | leave member =>
    dsimp only at waits
    split at waits <;> cases waits
    exact .inr ⟨_, _, _, rfl⟩

theorem order_join_waits {controller : Controller ρ} {available : Bool} {candidate : Member}
    {notice : Notice} (waits : controller.order available (.join candidate) = .error notice) :
    controller.roster.primary? = none ∨ available = false := by
  unfold order at waits
  cases primary : controller.roster.primary? <;> cases available <;> simp [primary] at waits <;> simp

theorem order_leave_waits {controller : Controller ρ} {available : Bool} {departed : Member}
    {notice : Notice} (waits : controller.order available (.leave departed) = .error notice) :
    controller.roster.primary? = none ∨ available = true := by
  unfold order at waits
  cases primary : controller.roster.primary? <;> cases available <;> simp [primary] at waits <;> simp

theorem outdated?_crash {controller : Controller ρ} {change : Change} {notice : Notice}
    (outdated : controller.outdated? change = some notice) : notice.crash? = none := by
  rcases outdated?_notice outdated with ⟨_, rfl⟩ | ⟨_, _, rfl⟩ <;> rfl

theorem order_crash {controller : Controller ρ} {available : Bool} {change : Change}
    {notice : Notice} (waits : controller.order available change = .error notice) : notice.crash? = none := by
  rcases order_notice waits with ⟨_, _, _, rfl⟩ | ⟨_, _, _, rfl⟩ <;> rfl

end Controller

namespace Simulation.Cluster

variable {allowed : Event → Prop} {cluster next : Cluster} {job : Job Change}

/-! ### What operations touch -/

@[simp]
theorem adopt_controller (cluster : Cluster) (result : List Notice × Controller Call) :
    (cluster.adopt result).controller = result.2 := by
  simp [adopt, noteAll_eq]

@[simp]
theorem adopt_site (cluster : Cluster) (result : List Notice × Controller Call) :
    (cluster.adopt result).site = cluster.site := by
  simp [adopt, noteAll_eq]

@[simp]
theorem adopt_now (cluster : Cluster) (result : List Notice × Controller Call) :
    (cluster.adopt result).now = cluster.now := by
  simp [adopt, noteAll_eq]

@[simp]
theorem conclude_controller (cluster : Cluster) (job : Job Change) (outcome : Outcome) :
    (cluster.conclude job outcome).controller =
      { cluster.controller with
        queue := (cluster.controller.queue.conclude cluster.now job outcome).2 } := by
  simp [conclude, Controller.conclude]

@[simp]
theorem conclude_site (cluster : Cluster) (job : Job Change) (outcome : Outcome) :
    (cluster.conclude job outcome).site = cluster.site :=
  adopt_site cluster _

@[simp]
theorem conclude_now (cluster : Cluster) (job : Job Change) (outcome : Outcome) :
    (cluster.conclude job outcome).now = cluster.now :=
  adopt_now cluster _

theorem answered_controller (cluster : Cluster) (job : Job Change) (via : Member)
    (answer : StoreAnswer) :
    (cluster.answered job via answer).controller =
      { (cluster.controller.answered job.task via answer).2.2 with
        queue := (cluster.controller.queue.conclude cluster.now job
          (cluster.controller.answered job.task via answer).1).2 } := by
  simp [answered, (cluster.controller.answered_frame job.task via answer).1]

@[simp]
theorem answered_site (cluster : Cluster) (job : Job Change) (via : Member)
    (answer : StoreAnswer) : (cluster.answered job via answer).site = cluster.site := by
  simp [answered]

@[simp]
theorem answered_now (cluster : Cluster) (job : Job Change) (via : Member)
    (answer : StoreAnswer) : (cluster.answered job via answer).now = cluster.now := by
  simp [answered]

@[simp]
theorem leave_controller (cluster : Cluster) (exit : Exit Change) :
    (cluster.leave exit).controller =
      { cluster.controller with queue := cluster.controller.queue.exitWith exit } := by
  simp [leave, noteAll_eq, withQueue]

@[simp]
theorem leave_site (cluster : Cluster) (exit : Exit Change) :
    (cluster.leave exit).site = cluster.site := by
  simp [leave, noteAll_eq, withQueue]

@[simp]
theorem leave_now (cluster : Cluster) (exit : Exit Change) :
    (cluster.leave exit).now = cluster.now := by
  simp [leave, noteAll_eq, withQueue]

theorem resize_only (cluster : Cluster) (desired : Nat)
    (refused : ∀ name error, allowed (.noted name (.resizeRefused error)))
    (resizing : ∀ name current, allowed (.noted name (.resizing current desired)))
    (scaled : allowed (.scaled desired)) : cluster.Only allowed (cluster.resize desired).2 := by
  unfold resize
  dsimp only
  split
  · exact only_record cluster (refused _ _)
  · exact (only_record cluster (resizing _ _)).trans (only_record _ scaled)

theorem resize_frame (cluster : Cluster) (desired : Nat) :
    (cluster.resize desired).2.controller = cluster.controller ∧
      (cluster.resize desired).2.site.store = cluster.site.store ∧
      (cluster.resize desired).2.now = cluster.now := by
  unfold resize
  dsimp only
  split <;> exact ⟨rfl, rfl, rfl⟩

theorem survey_only (cluster : Cluster)
    (disagree : ∀ name reports, allowed (.noted name (.primariesDisagree reports))) :
    cluster.Only allowed cluster.survey.2 := by
  refine only_noteAll cluster fun notice told => ?_
  obtain ⟨reports, -, rfl⟩ := List.mem_map.mp told
  exact disagree _ reports

theorem survey_frame (cluster : Cluster) :
    cluster.survey.2.controller = cluster.controller ∧
      cluster.survey.2.site.store = cluster.site.store ∧ cluster.survey.2.now = cluster.now := by
  simp [survey, noteAll_eq]

theorem release_cases (cluster : Cluster) :
    cluster.release = cluster ∨
      ∃ job call later, cluster.controller.queue.phase = .running job call ∧
        cluster.release = cluster.withQueue (cluster.controller.queue.runOn job later) := by
  unfold release
  split
  · rename_i job call running
    exact .inr ⟨job, call, _, running, rfl⟩
  · exact .inl rfl

/-- What a stand-in does of its own accord changes the request that is under way. -/
theorem interjection?_cases {actions : List Action}
    (interjected : cluster.interjection? = some (actions, next)) :
    ∃ job call later, cluster.controller.queue.phase = .running job call ∧
      next = cluster.withQueue (cluster.controller.queue.runOn job later) := by
  unfold interjection? at interjected
  split at interjected
  · rename_i job call running
    split at interjected
    · cases interjected
      exact ⟨job, call, _, running, rfl⟩
    · cases interjected
  · cases interjected

end Simulation.Cluster

end ReplicaSet
