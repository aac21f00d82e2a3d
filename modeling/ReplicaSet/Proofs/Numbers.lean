import ReplicaSet.Proofs.Announcements

/-!
The numbers in the configuration of a store. Each goes back to an admission, none is above the one
its key is tracked under, and a number that is still to join is free.
-/
namespace ReplicaSet

structure Numbered (scene : Scene) (tasks : List Change) : Prop where
  store : scene.store.Sound
  id_lt : ∀ id key, (id, key) ∈ scene.store.configuration → id < scene.roster.nextId
  id_le : ∀ id key, (id, key) ∈ scene.store.configuration → ∀ member ∈ scene.roster.members,
    member.key = key → id ≤ member.id
  free : ∀ candidate, .join candidate ∈ tasks →
    ∀ key, (candidate.id, key) ∉ scene.store.configuration

namespace Numbered

variable {scene after : Scene} {tasks later rest : List Change} {task : Change} {outcome : Outcome}

theorem new : Numbered {} [] where
  store := ⟨.nil, .nil, by simp, by simp⟩
  id_lt := by simp
  id_le := by simp
  free := by simp

/-- Numbers stay in order as long as no member and no entry of the configuration is new. -/
theorem of_fewer (numbered : Numbered scene tasks) (store : after.store.Sound)
    (entries : ∀ entry ∈ after.store.configuration, entry ∈ scene.store.configuration)
    (nextId : after.roster.nextId = scene.roster.nextId)
    (members : ∀ member ∈ after.roster.members, member ∈ scene.roster.members)
    (joins : ∀ candidate, .join candidate ∈ later → .join candidate ∈ tasks) :
    Numbered after later where
  store := store
  id_lt id key configured := nextId ▸ numbered.id_lt id key (entries _ configured)
  id_le id key configured member tracked :=
    numbered.id_le id key (entries _ configured) member (members member tracked)
  free candidate waits key configured :=
    numbered.free candidate (joins candidate waits) key (entries _ configured)

theorem enrol (numbered : Numbered scene tasks) {handle : Handle} {bulletin : Bulletin}
    (new : scene.roster.tracks handle.key = false) :
    Numbered { scene with roster := (scene.roster.enrol handle).2, bulletin := bulletin }
      (tasks ++ [Controller.entrance scene.roster handle]) where
  store := numbered.store
  id_lt id key configured := by
    have below := numbered.id_lt id key configured
    simp only [Roster.enrol_new new]
    omega
  id_le id key configured member tracked atKey := by
    rcases (Roster.mem_enrol new).mp tracked with old | rfl
    · exact numbered.id_le id key configured member old atKey
    · exact (numbered.id_lt id key configured).le
  free candidate waits key configured := by
    rcases List.mem_append.mp waits with old | isNew
    · exact numbered.free candidate old key configured
    · have same : candidate = ⟨scene.roster.nextId, handle⟩ :=
        (congrArg Change.member (List.mem_singleton.mp isNew)).trans
          (Controller.entrance_member scene.roster handle)
      have below := numbered.id_lt candidate.id key configured
      simp [same] at below

/-- Two tasks that bring in members are about different numbers. -/
theorem entrants_differ {roster : Roster} (accounted : Accounted roster tasks)
    (taken : tasks.Perm (task :: rest)) {entrant candidate : Member}
    (enters : task.entrant? = some entrant) (waits : .join candidate ∈ rest) :
    candidate.id ≠ entrant.id := by
  have distinct := ((taken.filterMap Change.entrant?).map Member.id).nodup_iff.mp
    accounted.entrants_nodup
  simp only [List.filterMap_cons, enters, List.map_cons, List.nodup_cons] at distinct
  intro same
  refine distinct.1 (same ▸ List.mem_map.mpr ⟨candidate, ?_, rfl⟩)
  exact List.mem_filterMap.mpr ⟨_, waits, rfl⟩

theorem run (numbered : Numbered scene tasks) (accounted : Accounted scene.roster tasks)
    (announced : Announced scene tasks) (taken : tasks.Perm (task :: rest))
    (runs : scene.Runs task outcome after) : Numbered after (outcome.left task rest) := by
  have member : task ∈ tasks := taken.mem_iff.mpr List.mem_cons_self
  have kept : ∀ candidate, .join candidate ∈ outcome.left task rest → .join candidate ∈ tasks :=
    fun candidate waits => taken.mem_iff.mpr (Outcome.mem_left waits)
  cases runs with
  | @founded founder setName accepted =>
    have only := numbered.store.configuration_found accepted
    obtain ⟨members, nextId, -⟩ := scene.roster.follow_frame founder.key
    refine ⟨numbered.store.carryOut accepted, ?_, ?_, ?_⟩
    · intro id key configured
      simp only [only, List.mem_singleton, Prod.mk.injEq] at configured
      simp only [configured.1, nextId]
      exact accounted.id_lt _ member
    · intro id key configured other tracked atKey
      simp only [only, List.mem_singleton, Prod.mk.injEq] at configured
      rw [configured.1, announced.founder_id founder member]
      exact Nat.zero_le _
    · intro candidate waits key configured
      simp only [only, List.mem_singleton, Prod.mk.injEq] at configured
      exact entrants_differ accounted taken rfl waits configured.1
  | @joined candidate via current primary accepted =>
    have added {entry : Nat × String} :
        entry ∈ (scene.store.carryOut via.key (.add candidate.key candidate.id)).configuration ↔
          entry = (candidate.id, candidate.key) ∨ entry ∈ scene.store.configuration :=
      numbered.store.mem_add accepted
    refine ⟨numbered.store.carryOut accepted, ?_, ?_, ?_⟩
    · intro id key configured
      rcases added.mp configured with same | old
      · cases same
        exact accounted.id_lt _ member
      · exact numbered.id_lt id key old
    · intro id key configured other tracked atKey
      rcases added.mp configured with same | old
      · cases same
        obtain ⟨admitted, isTracked, sameKey, sameId⟩ := accounted.sound.isCurrent_iff.mp current
        have same := accounted.sound.eq_of_key isTracked tracked (sameKey.trans atKey.symm)
        rw [← sameId, same]
      · exact numbered.id_le id key old other tracked atKey
    · intro other waits key configured
      rcases added.mp configured with same | old
      · exact entrants_differ accounted taken rfl waits (Prod.mk.inj same).1
      · exact numbered.free other (kept other waits) key old
  | @departed departed via untracked primary accepted =>
    exact numbered.of_fewer (numbered.store.carryOut accepted)
      (fun entry there => ((Store.mem_remove via.key).mp there).1) rfl (fun _ => id) kept
  | foundingFailed | joinStale | joinWaits | joinRefused | leaveStale | leaveWaits | leaveRefused =>
    exact numbered.of_fewer numbered.store (fun _ => id) rfl (fun _ => id) kept

theorem alters (numbered : Numbered scene tasks) (accounted : Accounted scene.roster tasks)
    (announced : Announced scene tasks) (alters : Alters scene tasks after later) :
    Numbered after later := by
  cases alters with
  | rest same =>
    exact numbered.of_fewer numbered.store (fun _ => id) rfl (fun _ => id)
      fun candidate => same.mem_iff.mp
  | startNode key endpoint =>
    exact numbered.of_fewer (numbered.store.startNode key endpoint) (fun _ => id) rfl
      (fun _ => id) fun _ => id
  | setAvailable key available =>
    exact numbered.of_fewer (numbered.store.setAvailable key available) (fun _ => id) rfl
      (fun _ => id) fun _ => id
  | elect key =>
    refine numbered.of_fewer (numbered.store.elect key) ?_ rfl (fun _ => id) fun _ => id
    simp [(scene.store.elect_frame key).1]
  | follow key =>
    obtain ⟨members, nextId, -⟩ := scene.roster.follow_frame key
    refine numbered.of_fewer numbered.store (fun _ => id) nextId ?_ fun _ => id
    simp [members]
  | close => exact numbered.of_fewer numbered.store (fun _ => id) rfl (fun _ => id) fun _ => id
  | enrol new => exact numbered.enrol new
  | dismiss dismissed =>
    obtain ⟨-, -, nextId, -, -, fewer, -⟩ := Roster.dismiss?_frame dismissed
    refine numbered.of_fewer numbered.store (fun _ => id) nextId fewer.subset fun candidate => ?_
    simp
  | run taken first runs left =>
    have ran := numbered.run accounted announced taken runs
    exact ran.of_fewer ran.store (fun _ => id) rfl (fun _ => id) fun _ => left.mem_iff.mp

end Numbered

end ReplicaSet
