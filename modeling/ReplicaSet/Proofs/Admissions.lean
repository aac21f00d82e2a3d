import ReplicaSet.Proofs.ClusterWork

/-!
The admissions that a roster and the tasks of its queue go back to. A number belongs to one
admission for good, and each admission has at most one task to bring its member in.
-/
namespace ReplicaSet

/-- The member that a change brings in. -/
def Change.entrant? : Change → Option Member
  | .found member | .join member => some member
  | .leave _ => none

/-- The admissions that can still be told: of the members that are tracked, and of those that tasks
are about. -/
def admissions (roster : Roster) (tasks : List Change) : List Member :=
  roster.members ++ tasks.map Change.member

theorem mem_admissions {roster : Roster} {tasks : List Change} {member : Member} :
    member ∈ admissions roster tasks ↔
      member ∈ roster.members ∨ ∃ task ∈ tasks, task.member = member := by
  simp [admissions]

theorem mem_admissions_of_task {roster : Roster} {tasks : List Change} {task : Change}
    (waiting : task ∈ tasks) : task.member ∈ admissions roster tasks :=
  mem_admissions.mpr (.inr ⟨task, waiting, rfl⟩)

structure Accounted (roster : Roster) (tasks : List Change) : Prop where
  sound : roster.Sound
  id_lt : ∀ task ∈ tasks, task.member.id < roster.nextId
  agree : ∀ one ∈ admissions roster tasks, ∀ two ∈ admissions roster tasks,
    one.id = two.id → one = two
  entrants_nodup : ((tasks.filterMap Change.entrant?).map Member.id).Nodup

namespace Accounted

variable {roster after : Roster} {tasks fewer : List Change} {member : Member}

theorem admission_id_lt (accounted : Accounted roster tasks)
    (known : member ∈ admissions roster tasks) : member.id < roster.nextId := by
  rcases mem_admissions.mp known with tracked | ⟨task, waiting, rfl⟩
  · exact accounted.sound.id_lt member tracked
  · exact accounted.id_lt task waiting

theorem new : Accounted {} [] where
  sound := Roster.sound_new
  id_lt := by simp
  agree := by simp [admissions]
  entrants_nodup := .nil

theorem mono (accounted : Accounted roster tasks) (subperm : fewer.Subperm tasks) :
    Accounted roster fewer := by
  have known : ∀ member ∈ admissions roster fewer, member ∈ admissions roster tasks := by
    intro member old
    rcases mem_admissions.mp old with tracked | ⟨task, waiting, same⟩
    · exact mem_admissions.mpr (.inl tracked)
    · exact mem_admissions.mpr (.inr ⟨task, subperm.subset waiting, same⟩)
  obtain ⟨middle, perm, sublist⟩ := subperm
  refine ⟨accounted.sound, fun task waiting => accounted.id_lt task ?_, ?_, ?_⟩
  · exact sublist.subset (perm.mem_iff.mpr waiting)
  · intro one oneKnown two twoKnown
    exact accounted.agree one (known one oneKnown) two (known two twoKnown)
  · have distinct := accounted.entrants_nodup.sublist ((sublist.filterMap Change.entrant?).map _)
    exact ((perm.filterMap Change.entrant?).map _).nodup_iff.mp distinct

theorem follow (accounted : Accounted roster tasks) (key : String) :
    Accounted (roster.follow key).2 tasks := by
  obtain ⟨members, nextId, -, -⟩ := roster.follow_frame key
  refine ⟨accounted.sound.follow key, ?_, ?_, accounted.entrants_nodup⟩
  · rw [nextId]
    exact accounted.id_lt
  · simp only [admissions, members]
    exact accounted.agree

theorem close (accounted : Accounted roster tasks) : Accounted roster.close tasks :=
  ⟨accounted.sound.close, accounted.id_lt, accounted.agree, accounted.entrants_nodup⟩

/-- A new admission has a number that no other has. -/
theorem enrol (accounted : Accounted roster tasks) {handle : Handle}
    (new : roster.tracks handle.key = false) :
    Accounted (roster.enrol handle).2 (tasks ++ [Controller.entrance roster handle]) := by
  have entrant : (Controller.entrance roster handle).entrant? = some ⟨roster.nextId, handle⟩ := by
    unfold Controller.entrance
    split <;> rfl
  have about := Controller.entrance_member roster handle
  have known : ∀ member,
      member ∈ admissions (roster.enrol handle).2 (tasks ++ [Controller.entrance roster handle]) ↔
        member ∈ admissions roster tasks ∨ member = ⟨roster.nextId, handle⟩ := by
    intro member
    simp only [mem_admissions, Roster.mem_enrol new, List.mem_append, List.mem_singleton]
    constructor
    · rintro ((tracked | isNew) | ⟨task, waiting | rfl, rfl⟩)
      · exact .inl (.inl tracked)
      · exact .inr isNew
      · exact .inl (.inr ⟨task, waiting, rfl⟩)
      · exact .inr about
    · rintro ((tracked | ⟨task, waiting, rfl⟩) | isNew)
      · exact .inl (.inl tracked)
      · exact .inr ⟨task, .inl waiting, rfl⟩
      · exact .inl (.inr isNew)
  refine ⟨accounted.sound.enrol new, ?_, ?_, ?_⟩
  · intro task waiting
    rw [Roster.enrol_new new]
    rcases List.mem_append.mp waiting with old | new
    · exact Nat.lt_succ_of_lt (accounted.id_lt task old)
    · rw [List.mem_singleton.mp new, about]
      exact Nat.lt_succ_self _
  · intro one oneKnown two twoKnown same
    rcases (known one).mp oneKnown with oneOld | rfl <;>
      rcases (known two).mp twoKnown with twoOld | rfl
    · exact accounted.agree one oneOld two twoOld same
    · have below := accounted.admission_id_lt oneOld
      simp only at same
      omega
    · have below := accounted.admission_id_lt twoOld
      simp only at same
      omega
    · rfl
  · simp only [List.filterMap_append, List.filterMap_cons, List.filterMap_nil, entrant,
      List.map_append, List.map_cons, List.map_nil]
    refine List.nodup_append.mpr ⟨accounted.entrants_nodup, by simp, ?_⟩
    intro id old other isNew same
    obtain ⟨member, entering, rfl⟩ := List.mem_map.mp old
    obtain ⟨task, waiting, isEntrant⟩ := List.mem_filterMap.mp entering
    have below := accounted.id_lt task waiting
    have sameMember : task.member = member := by
      cases task <;> simp_all [Change.entrant?, Change.member]
    rw [List.mem_singleton] at isNew
    rw [sameMember] at below
    omega

theorem dismiss (accounted : Accounted roster tasks) {key : String} {wasPrimary : Bool}
    (dismissed : roster.dismiss? key = some (member, wasPrimary, after)) :
    Accounted after (tasks ++ [.leave member]) := by
  obtain ⟨tracked, -, nextId, -, -, fewer, -⟩ := Roster.dismiss?_frame dismissed
  have known : ∀ other ∈ admissions after (tasks ++ [.leave member]),
      other ∈ admissions roster tasks := by
    intro other old
    rcases mem_admissions.mp old with stays | ⟨task, waiting, rfl⟩
    · exact mem_admissions.mpr (.inl (fewer.subset stays))
    · rcases List.mem_append.mp waiting with before | new
      · exact mem_admissions_of_task before
      · rw [List.mem_singleton.mp new]
        exact mem_admissions.mpr (.inl tracked)
  refine ⟨accounted.sound.dismiss dismissed, ?_, ?_, ?_⟩
  · intro task waiting
    rw [nextId]
    exact accounted.admission_id_lt (known _ (mem_admissions_of_task waiting))
  · intro one oneKnown two twoKnown
    exact accounted.agree one (known one oneKnown) two (known two twoKnown)
  · have entrants : (tasks ++ [Change.leave member]).filterMap Change.entrant? =
        tasks.filterMap Change.entrant? := by
      rw [List.filterMap_append]
      exact List.append_nil _
    rw [entrants]
    exact accounted.entrants_nodup

theorem eq_of_current (accounted : Accounted roster tasks) {task : Change} (waiting : task ∈ tasks)
    (current : roster.isCurrent task.member = true) : task.member ∈ roster.members := by
  obtain ⟨other, tracked, -, sameId⟩ := accounted.sound.isCurrent_iff.mp current
  have same := accounted.agree other (mem_admissions.mpr (.inl tracked)) task.member
    (mem_admissions_of_task waiting) sameId
  exact same ▸ tracked

end Accounted

namespace Queue

variable {τ ρ : Type} {queue : Queue WakeHeap τ ρ}

theorem unfinished_offered (queue : Queue WakeHeap τ ρ) (task : τ) :
    ((queue.submit? task).getD queue).unfinished.Subperm (queue.unfinished ++ [task]) := by
  cases submitted : queue.submit? task with
  | none => exact (List.sublist_append_left _ _).subperm
  | some next =>
    rw [Option.getD_some, unfinished_submit? submitted]

end Queue

namespace Simulation.Cluster

theorem Shift.accounted {now : Nat} {deed : Deed} {roster roster' : Roster}
    {queue queue' : Queue Queue.WakeHeap Change Call}
    (shift : Shift now deed roster queue roster' queue')
    (accounted : Accounted roster queue.unfinished) : Accounted roster' queue'.unfinished := by
  cases shift with
  | keep => exact accounted
  | follow key => exact accounted.follow key
  | close shut => exact accounted.close
  | letGo => exact accounted
  | enrol told new => exact (accounted.enrol new).mono (queue.unfinished_offered _)
  | dismiss dismissed => exact (accounted.dismiss dismissed).mono (queue.unfinished_offered _)
  | goOn running later =>
    rw [Queue.unfinished_goOn running later]
    exact accounted
  | work _ works same =>
    rcases same with rfl | ⟨key, rfl⟩
    · exact accounted.mono works.unfinished_subperm
    · exact (accounted.follow key).mono works.unfinished_subperm

theorem Fresh.controller_eq {cluster : Cluster} (fresh : cluster.Fresh) :
    ∃ name settings, cluster.controller =
      { name := name, roster := {}, bulletin := .blank, queue := .create settings,
        held := true } := by
  obtain ⟨name, options, created⟩ := fresh.created
  unfold Controller.create at created
  split at created
  · cases created
  · rename_i settings _
    exact ⟨name, settings, (Except.ok.inj created).symm⟩

theorem Run.accounted {deeds : List Deed} {cluster : Cluster} (run : Run deeds cluster) :
    Accounted cluster.controller.roster cluster.controller.queue.unfinished := by
  induction run with
  | start fresh =>
    obtain ⟨name, settings, same⟩ := fresh.controller_eq
    rw [same]
    exact .new
  | next _ step ih => exact step.shift.accounted ih

theorem Step.regular {cluster after : Cluster} {deed : Deed} (step : Step cluster deed after)
    (regular : cluster.controller.queue.Regular cluster.now) :
    after.controller.queue.Regular cluster.now := by
  have offered (task : Change) :
      ((cluster.controller.queue.submit? task).getD
        cluster.controller.queue).Regular cluster.now := by
    cases submitted : cluster.controller.queue.submit? task with
    | none => exact regular
    | some next => exact regular.submit? submitted
  have shift := step.shift
  generalize after.controller.roster = roster, after.controller.queue = queue at shift ⊢
  cases shift with
  | keep => exact regular
  | follow => exact regular
  | close => exact regular.tellToStop _
  | letGo => exact regular.tellToStop _
  | enrol => exact offered _
  | dismiss => exact offered _
  | goOn running later => exact regular.works (.goOn running later)
  | work _ works => exact regular.works works

theorem Run.regular {deeds : List Deed} {cluster : Cluster} (run : Run deeds cluster) :
    cluster.controller.queue.Regular cluster.now := by
  induction run with
  | start fresh =>
    obtain ⟨name, settings, same⟩ := fresh.controller_eq
    rw [same]
    exact .create settings _
  | next _ step ih => exact (step.regular ih).later step.now_le

end Simulation.Cluster

end ReplicaSet
