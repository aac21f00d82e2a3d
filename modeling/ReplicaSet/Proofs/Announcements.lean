import ReplicaSet.Proofs.Scenes

/-!
What is published about the founding of a set: nothing before the founding task was run, and then
once that it succeeded or that it failed.
-/
namespace ReplicaSet

namespace Bulletin

variable {bulletin : Bulletin} {stage other : Stage}

/-- Whether the stage was ever published. -/
def Told (bulletin : Bulletin) (stage : Stage) : Prop :=
  ∃ status ∈ bulletin.history, status.stage = stage

theorem told_blank : blank.Told stage ↔ stage = .empty := by
  simp [Told, history, blank, eq_comm]

theorem history_publish {serviceUp : Bool} :
    (bulletin.publish stage serviceUp).history = bulletin.history ++ [⟨stage, serviceUp⟩] := by
  simp [history, publish]

theorem told_publish {serviceUp : Bool} :
    (bulletin.publish stage serviceUp).Told other ↔ other = stage ∨ bulletin.Told other := by
  simp only [Told, history_publish, List.mem_append, List.mem_singleton]
  constructor
  · rintro ⟨status, old | rfl, same⟩
    · exact .inr ⟨status, old, same⟩
    · exact .inl same.symm
  · rintro (rfl | ⟨status, old, same⟩)
    · exact ⟨_, .inr rfl, rfl⟩
    · exact ⟨status, .inl old, same⟩

theorem told_latest : bulletin.Told bulletin.latest.stage :=
  ⟨bulletin.latest, by simp [history], rfl⟩

end Bulletin

theorem Outcome.mem_left {outcome : Outcome} {task other : Change} {rest : List Change}
    (left : other ∈ outcome.left task rest) : other ∈ task :: rest := by
  cases outcome with
  | done => exact List.mem_cons_of_mem _ left
  | retry => exact left

/-- The founding task is of the first admission. Until it was run the store is not founded, and
nothing is told of its founding; after it was run, one thing is. -/
structure Announced (scene : Scene) (tasks : List Change) : Prop where
  founder_id : ∀ founder, .found founder ∈ tasks → founder.id = 0
  early : (scene.roster.founded = false ∨ ∃ founder, .found founder ∈ tasks) →
    scene.store.setName = none ∧ ¬scene.bulletin.Told .stable ∧ ¬scene.bulletin.Told .degraded
  once : ¬(scene.bulletin.Told .stable ∧ scene.bulletin.Told .degraded)

namespace Announced

variable {scene after : Scene} {tasks later rest : List Change} {task : Change} {outcome : Outcome}

theorem new : Announced {} [] where
  founder_id := by simp
  early := by simp [Bulletin.told_blank]
  once := by simp [Bulletin.told_blank]

theorem of_same (announced : Announced scene tasks)
    (founded : after.roster.founded = scene.roster.founded)
    (setName : after.store.setName = scene.store.setName)
    (bulletin : after.bulletin = scene.bulletin)
    (fewer : ∀ founder, .found founder ∈ later → .found founder ∈ tasks) :
    Announced after later := by
  refine ⟨fun founder waits => announced.founder_id founder (fewer founder waits), ?_, ?_⟩
  · rw [founded, setName, bulletin]
    exact fun before => announced.early (before.imp_right fun ⟨founder, waits⟩ =>
      ⟨founder, fewer founder waits⟩)
  · rw [bulletin]
    exact announced.once

theorem enrol (announced : Announced scene tasks) (sound : scene.roster.Sound) {handle : Handle}
    {bulletin : Bulletin} (new : scene.roster.tracks handle.key = false)
    (told : bulletin = scene.bulletin ∨ bulletin = scene.bulletin.publish .bootstrapping false) :
    Announced { scene with roster := (scene.roster.enrol handle).2, bulletin := bulletin }
      (tasks ++ [Controller.entrance scene.roster handle]) := by
  have same : ∀ stage, stage ≠ .bootstrapping →
      (bulletin.Told stage ↔ scene.bulletin.Told stage) := by
    intro stage other
    rcases told with rfl | rfl
    · rfl
    · simp [Bulletin.told_publish, other]
  have entrance : ∀ founder, .found founder = Controller.entrance scene.roster handle →
      scene.roster.founded = false ∧ founder.id = scene.roster.nextId := by
    intro founder isEntrance
    cases founded : scene.roster.founded with
    | true => simp [Controller.entrance, founded] at isEntrance
    | false =>
      simp only [Controller.entrance, founded, Bool.false_eq_true, if_false,
        Change.found.injEq] at isEntrance
      simp [isEntrance]
  refine ⟨?_, ?_, ?_⟩
  · intro founder waits
    rcases List.mem_append.mp waits with old | isNew
    · exact announced.founder_id founder old
    · obtain ⟨unfounded, id⟩ := entrance founder (List.mem_singleton.mp isNew)
      exact id.trans (sound.new_of_unfounded unfounded handle.key).1
  · intro before
    simp only [same .stable (by simp), same .degraded (by simp)]
    refine announced.early ?_
    rcases before with unfounded | ⟨founder, waits⟩
    · simp [Roster.enrol_new new] at unfounded
    · rcases List.mem_append.mp waits with old | isNew
      · exact .inr ⟨founder, old⟩
      · exact .inl (entrance founder (List.mem_singleton.mp isNew)).1
  · simp only [same .stable (by simp), same .degraded (by simp)]
    exact announced.once

theorem run (announced : Announced scene tasks) (accounted : Accounted scene.roster tasks)
    (taken : tasks.Perm (task :: rest)) (first : ∀ founder, .found founder ∉ rest)
    (runs : scene.Runs task outcome after) : Announced after (outcome.left task rest) := by
  have member : task ∈ tasks := taken.mem_iff.mpr List.mem_cons_self
  have kept : ∀ founder, .found founder ∈ outcome.left task rest → .found founder ∈ tasks :=
    fun founder waits => taken.mem_iff.mpr (Outcome.mem_left waits)
  have founding : ∀ founder, task = .found founder → scene.roster.founded = true := by
    rintro founder rfl
    exact accounted.sound.founded_iff.mpr (Nat.zero_lt_of_lt (accounted.id_lt _ member))
  cases runs with
  | @founded founder setName accepted =>
    obtain ⟨-, -, undegraded⟩ := announced.early (.inr ⟨founder, member⟩)
    refine ⟨fun other waits => absurd waits (first other), ?_, ?_⟩
    · rintro (unfounded | ⟨other, waits⟩)
      · simp [(Roster.follow_frame _ _).2.2.1, founding founder rfl] at unfounded
      · exact absurd waits (first other)
    · simp [Bulletin.told_publish, undegraded]
  | @foundingFailed founder =>
    obtain ⟨-, unstable, -⟩ := announced.early (.inr ⟨founder, member⟩)
    refine ⟨fun other waits => absurd waits (first other), ?_, ?_⟩
    · rintro (unfounded | ⟨other, waits⟩)
      · simp [founding founder rfl] at unfounded
      · exact absurd waits (first other)
    · simp [Bulletin.told_publish, unstable]
  | joinStale | joinWaits | joinRefused | joined
  | leaveStale | leaveWaits | leaveRefused | departed =>
    exact announced.of_same rfl rfl rfl kept

theorem alters (announced : Announced scene tasks) (accounted : Accounted scene.roster tasks)
    (alters : Alters scene tasks after later) : Announced after later := by
  cases alters with
  | rest same => exact announced.of_same rfl rfl rfl fun founder => same.mem_iff.mp
  | startNode | setAvailable | close => exact announced.of_same rfl rfl rfl fun _ => id
  | elect key => exact announced.of_same rfl (scene.store.elect_frame key).2.1 rfl fun _ => id
  | follow key => exact announced.of_same (Roster.follow_frame _ key).2.2.1 rfl rfl fun _ => id
  | enrol new told => exact announced.enrol accounted.sound new told
  | dismiss dismissed =>
    refine announced.of_same (Roster.dismiss?_frame dismissed).2.2.2.1 rfl rfl fun founder => ?_
    simp
  | run taken first runs left =>
    exact (announced.run accounted taken first runs).of_same rfl rfl rfl fun _ => left.mem_iff.mp

end Announced

end ReplicaSet
