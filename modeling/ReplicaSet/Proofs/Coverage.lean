import ReplicaSet.Proofs.Numbers

/-!
Every difference between the members that are tracked and the configuration of the store is covered
by a change that is not finished.
-/
namespace ReplicaSet

variable {scene after : Scene} {roster left : Roster} {tasks later rest : List Change}
  {task : Change} {outcome : Outcome} {key : String}

/-- The key is tracked, or its removal is not finished. -/
def Attended (roster : Roster) (tasks : List Change) (key : String) : Prop :=
  roster.tracks key = true ∨ ∃ departed, .leave departed ∈ tasks ∧ departed.key = key

namespace Attended

theorem mono (attended : Attended roster tasks key)
    (members : ∀ member ∈ roster.members, member ∈ left.members)
    (leaves : ∀ departed, .leave departed ∈ tasks → .leave departed ∈ later) :
    Attended left later key := by
  refine attended.imp (fun tracked => ?_) fun ⟨departed, waits, atKey⟩ =>
    ⟨departed, leaves departed waits, atKey⟩
  obtain ⟨member, inside, atKey⟩ := Roster.tracks_iff.mp tracked
  exact Roster.tracks_iff.mpr ⟨member, members member inside, atKey⟩

theorem dismiss {dismissedKey : String} {departed : Member} {wasPrimary : Bool}
    (attended : Attended roster tasks key) (sound : roster.Sound)
    (dismissed : roster.dismiss? dismissedKey = some (departed, wasPrimary, left)) :
    Attended left (tasks ++ [.leave departed]) key := by
  obtain ⟨-, departedKey, -⟩ := Roster.dismiss?_frame dismissed
  rcases attended with tracked | ⟨other, waits, atKey⟩
  · obtain ⟨member, inside, atKey⟩ := Roster.tracks_iff.mp tracked
    by_cases same : key = dismissedKey
    · exact .inr ⟨departed, by simp, departedKey.trans same.symm⟩
    · refine .inl (Roster.tracks_iff.mpr ⟨member, ?_, atKey⟩)
      exact (sound.mem_dismiss dismissed).mpr ⟨inside, atKey ▸ same⟩
  · exact .inr ⟨other, List.mem_append_left _ waits, atKey⟩

/-- Only a run of the removal of the key ends it. -/
theorem run (attended : Attended roster tasks key) (taken : tasks.Perm (task :: rest))
    (other : ∀ departed, task = .leave departed → departed.key ≠ key) :
    Attended roster rest key := by
  refine attended.imp_right fun ⟨departed, waits, atKey⟩ => ⟨departed, ?_, atKey⟩
  rcases List.mem_cons.mp (taken.mem_iff.mp waits) with same | waitsStill
  · exact absurd atKey (other departed same.symm)
  · exact waitsStill

end Attended

/-- Whoever is tracked is configured under the number of the admission or has the task that brings
it in unfinished, the first admission apart when founding failed. Every configured key, and that of
the member to be founded on, is attended to. -/
structure Covered (scene : Scene) (tasks : List Change) : Prop where
  tracked : ∀ member ∈ scene.roster.members,
    (member.id, member.key) ∈ scene.store.configuration ∨ .found member ∈ tasks ∨
      .join member ∈ tasks ∨ member.id = 0 ∧ scene.bulletin.Told .degraded
  configured : ∀ id key, (id, key) ∈ scene.store.configuration → Attended scene.roster tasks key
  founder : ∀ founder, .found founder ∈ tasks → Attended scene.roster tasks founder.key

namespace Covered

theorem new : Covered {} [] where
  tracked := by simp
  configured := by simp
  founder := by simp

theorem of_same (covered : Covered scene tasks)
    (members : after.roster.members = scene.roster.members)
    (configuration : after.store.configuration = scene.store.configuration)
    (bulletin : after.bulletin = scene.bulletin) (same : ∀ task, task ∈ later ↔ task ∈ tasks) :
    Covered after later where
  tracked := by
    simp only [members, configuration, bulletin, same]
    exact covered.tracked
  configured id key there := by
    rw [configuration] at there
    exact (covered.configured id key there).mono (by simp [members]) fun departed => (same _).mpr
  founder founder waits :=
    (covered.founder founder ((same _).mp waits)).mono (by simp [members])
      fun departed => (same _).mpr

theorem enrol (covered : Covered scene tasks) {handle : Handle} {bulletin : Bulletin}
    (new : scene.roster.tracks handle.key = false)
    (told : bulletin = scene.bulletin ∨ bulletin = scene.bulletin.publish .bootstrapping false) :
    Covered { scene with roster := (scene.roster.enrol handle).2, bulletin := bulletin }
      (tasks ++ [Controller.entrance scene.roster handle]) := by
  have degraded : scene.bulletin.Told .degraded → bulletin.Told .degraded := by
    rcases told with rfl | rfl
    · exact id
    · exact fun before => Bulletin.told_publish.mpr (.inr before)
  have grown : ∀ key, Attended scene.roster tasks key →
      Attended (scene.roster.enrol handle).2 (tasks ++ [Controller.entrance scene.roster handle])
        key := by
    intro key attended
    refine attended.mono ?_ ?_
    · exact fun member inside => (Roster.mem_enrol new).mpr (.inl inside)
    · exact fun departed waits => List.mem_append_left _ waits
  refine ⟨?_, fun id key there => grown key (covered.configured id key there), ?_⟩
  · intro member inside
    rcases (Roster.mem_enrol new).mp inside with old | rfl
    · rcases covered.tracked member old with there | founds | joins | ⟨first, failed⟩
      · exact .inl there
      · exact .inr (.inl (List.mem_append_left _ founds))
      · exact .inr (.inr (.inl (List.mem_append_left _ joins)))
      · exact .inr (.inr (.inr ⟨first, degraded failed⟩))
    · unfold Controller.entrance
      split <;> simp
  · intro founder waits
    rcases List.mem_append.mp waits with old | isNew
    · exact grown founder.key (covered.founder founder old)
    · have same : founder = ⟨scene.roster.nextId, handle⟩ :=
        (congrArg Change.member (List.mem_singleton.mp isNew)).trans
          (Controller.entrance_member scene.roster handle)
      exact .inl (same ▸ scene.roster.tracks_enrol handle)

theorem dismiss (covered : Covered scene tasks) (sound : scene.roster.Sound)
    {dismissedKey : String} {departed : Member} {wasPrimary : Bool}
    (dismissed : scene.roster.dismiss? dismissedKey = some (departed, wasPrimary, left)) :
    Covered { scene with roster := left } (tasks ++ [.leave departed]) := by
  obtain ⟨-, -, -, -, -, fewer, -⟩ := Roster.dismiss?_frame dismissed
  refine ⟨?_, fun id key there => (covered.configured id key there).dismiss sound dismissed, ?_⟩
  · intro member inside
    rcases covered.tracked member (fewer.subset inside) with there | founds | joins | failed
    · exact .inl there
    · exact .inr (.inl (List.mem_append_left _ founds))
    · exact .inr (.inr (.inl (List.mem_append_left _ joins)))
    · exact .inr (.inr (.inr failed))
  · intro founder waits
    have before : .found founder ∈ tasks := by simpa using waits
    exact (covered.founder founder before).dismiss sound dismissed

/-- The set is founded on a member that is attended to. -/
theorem run_founded (covered : Covered scene tasks) (sound : scene.store.Sound) {founder : Member}
    {setName : String} (taken : tasks.Perm (.found founder :: rest))
    (first : ∀ founder, .found founder ∉ rest)
    (accepted : scene.store.objection? founder.key (.found setName founder.id) = none) :
    Covered
      { roster := (scene.roster.follow founder.key).2
        bulletin := scene.bulletin.publish .stable true
        store := scene.store.carryOut founder.key (.found setName founder.id) } rest := by
  have only := sound.configuration_found accepted
  have nobody : scene.store.configuration = [] :=
    sound.unnamed_iff.mp (Store.accepts_found.mp accepted).2
  obtain ⟨members, -⟩ := scene.roster.follow_frame founder.key
  refine ⟨?_, ?_, fun other waits => absurd waits (first other)⟩
  · intro member inside
    rw [members] at inside
    rcases covered.tracked member inside with there | founds | joins | ⟨zero, failed⟩
    · simp [nobody] at there
    · rcases List.mem_cons.mp (taken.mem_iff.mp founds) with same | waits
      · cases same
        exact .inl (only ▸ List.mem_singleton_self _)
      · exact absurd waits (first member)
    · refine .inr (.inr (.inl ?_))
      simpa using taken.mem_iff.mp joins
    · exact .inr (.inr (.inr ⟨zero, Bulletin.told_publish.mpr (.inr failed)⟩))
  · intro id key there
    simp only [only, List.mem_singleton, Prod.mk.injEq] at there
    rw [there.2]
    have attended := covered.founder founder (taken.mem_iff.mpr List.mem_cons_self)
    exact (attended.run taken (by simp)).mono (by simp [members]) fun _ waits => waits

theorem run_joined (covered : Covered scene tasks) (sound : scene.store.Sound)
    (rosterSound : scene.roster.Sound) {candidate via : Member}
    (taken : tasks.Perm (.join candidate :: rest)) (first : ∀ founder, .found founder ∉ rest)
    (current : scene.roster.isCurrent candidate = true)
    (accepted : scene.store.objection? via.key (.add candidate.key candidate.id) = none) :
    Covered
      { scene with store := scene.store.carryOut via.key (.add candidate.key candidate.id) }
      rest := by
  have added {entry : Nat × String} :
      entry ∈ (scene.store.carryOut via.key (.add candidate.key candidate.id)).configuration ↔
        entry = (candidate.id, candidate.key) ∨ entry ∈ scene.store.configuration :=
    sound.mem_add accepted
  refine ⟨?_, ?_, fun other waits => absurd waits (first other)⟩
  · intro member inside
    rcases covered.tracked member inside with there | founds | joins | failed
    · exact .inl (added.mpr (.inr there))
    · refine absurd ?_ (first member)
      simpa using taken.mem_iff.mp founds
    · rcases List.mem_cons.mp (taken.mem_iff.mp joins) with same | waits
      · cases same
        exact .inl (added.mpr (.inl rfl))
      · exact .inr (.inr (.inl waits))
    · exact .inr (.inr (.inr failed))
  · intro id key there
    rcases added.mp there with same | old
    · cases same
      obtain ⟨member, inside, atKey, -⟩ := rosterSound.isCurrent_iff.mp current
      exact .inl (Roster.tracks_iff.mpr ⟨member, inside, atKey⟩)
    · exact (covered.configured id key old).run taken (by simp)

theorem run_departed (covered : Covered scene tasks) {departed via : Member}
    (taken : tasks.Perm (.leave departed :: rest)) (first : ∀ founder, .found founder ∉ rest)
    (untracked : scene.roster.tracks departed.key = false) :
    Covered { scene with store := scene.store.carryOut via.key (.remove departed.key) } rest := by
  have other := Roster.tracks_eq_false_iff.mp untracked
  refine ⟨?_, ?_, fun founder waits => absurd waits (first founder)⟩
  · intro member inside
    rcases covered.tracked member inside with there | founds | joins | failed
    · exact .inl ((Store.mem_remove via.key).mpr ⟨there, other member inside⟩)
    · refine absurd ?_ (first member)
      simpa using taken.mem_iff.mp founds
    · refine .inr (.inr (.inl ?_))
      simpa using taken.mem_iff.mp joins
    · exact .inr (.inr (.inr failed))
  · intro id key there
    obtain ⟨old, differs⟩ := (Store.mem_remove via.key).mp there
    refine (covered.configured id key old).run taken fun leaver same => ?_
    cases same
    exact differs.symm

/-- A task that leaves the scene as it is can only go away when it covers nothing. -/
theorem run_dropped (covered : Covered scene tasks) (taken : tasks.Perm (task :: rest))
    (first : ∀ founder, .found founder ∉ rest) (other : ∀ founder, task ≠ .found founder)
    (joins : ∀ candidate ∈ scene.roster.members, task ≠ .join candidate)
    (leaves : ∀ departed, task = .leave departed → scene.roster.tracks departed.key = true) :
    Covered scene rest := by
  refine ⟨?_, ?_, fun founder waits => absurd waits (first founder)⟩
  · intro member inside
    rcases covered.tracked member inside with there | founds | waits | failed
    · exact .inl there
    · rcases List.mem_cons.mp (taken.mem_iff.mp founds) with same | still
      · exact absurd same.symm (other member)
      · exact absurd still (first member)
    · rcases List.mem_cons.mp (taken.mem_iff.mp waits) with same | still
      · exact absurd same.symm (joins member inside)
      · exact .inr (.inr (.inl still))
    · exact .inr (.inr (.inr failed))
  · intro id key there
    by_cases tracked : scene.roster.tracks key = true
    · exact .inl tracked
    · refine (covered.configured id key there).run taken fun departed same atKey => ?_
      exact tracked (atKey ▸ leaves departed same)

theorem run (covered : Covered scene tasks) (accounted : Accounted scene.roster tasks)
    (announced : Announced scene tasks) (numbered : Numbered scene tasks)
    (taken : tasks.Perm (task :: rest)) (first : ∀ founder, .found founder ∉ rest)
    (runs : scene.Runs task outcome after) : Covered after (outcome.left task rest) := by
  have again : Covered scene (Outcome.retry.left task rest) :=
    covered.of_same rfl rfl rfl fun other => taken.mem_iff.symm
  cases runs with
  | founded accepted => exact covered.run_founded numbered.store taken first accepted
  | @foundingFailed founder =>
    refine ⟨?_, ?_, fun other waits => absurd waits (first other)⟩
    · intro member inside
      rcases covered.tracked member inside with there | founds | joins | ⟨zero, failed⟩
      · exact .inl there
      · refine .inr (.inr (.inr ⟨announced.founder_id member founds, ?_⟩))
        exact Bulletin.told_publish.mpr (.inl rfl)
      · have waits : .join member ∈ rest := by simpa using taken.mem_iff.mp joins
        exact .inr (.inr (.inl waits))
      · exact .inr (.inr (.inr ⟨zero, Bulletin.told_publish.mpr (.inr failed)⟩))
    · exact fun id key there => (covered.configured id key there).run taken (by simp)
  -- A join is dropped only when another admission of the key is current, or none is.
  | @joinStale candidate stale =>
    refine covered.run_dropped taken first (by simp) ?_ (by simp)
    rintro member inside same
    cases same
    simp [accounted.sound.isCurrent_of_mem inside] at stale
  | joined current primary accepted =>
    exact covered.run_joined numbered.store accounted.sound taken first current accepted
  -- A removal is dropped only when its key is tracked again, which covers the entry from then on.
  | @leaveStale departed tracked =>
    refine covered.run_dropped taken first (by simp) (by simp) ?_
    rintro other same
    cases same
    exact tracked
  | departed untracked => exact covered.run_departed taken first untracked
  | joinWaits | joinRefused | leaveWaits | leaveRefused => exact again

theorem alters (covered : Covered scene tasks) (accounted : Accounted scene.roster tasks)
    (announced : Announced scene tasks) (numbered : Numbered scene tasks)
    (alters : Alters scene tasks after later) : Covered after later := by
  cases alters with
  | rest same => exact covered.of_same rfl rfl rfl fun task => same.mem_iff
  | startNode | setAvailable | close => exact covered.of_same rfl rfl rfl fun _ => .rfl
  | elect key => exact covered.of_same rfl (scene.store.elect_frame key).1 rfl fun _ => .rfl
  | follow key => exact covered.of_same (Roster.follow_frame _ key).1 rfl rfl fun _ => .rfl
  | enrol new told => exact covered.enrol new told
  | dismiss dismissed => exact covered.dismiss accounted.sound dismissed
  | run taken first runs left =>
    exact (covered.run accounted announced numbered taken first runs).of_same rfl rfl rfl
      fun task => left.mem_iff

end Covered

/-! ### Throughout a run -/

/-- What holds of a set that is driven over the nodes of a store. -/
structure Tended (scene : Scene) (tasks : List Change) : Prop where
  announced : Announced scene tasks
  numbered : Numbered scene tasks
  covered : Covered scene tasks

theorem Tended.alters (tended : Tended scene tasks) (accounted : Accounted scene.roster tasks)
    (alters : Alters scene tasks after later) : Tended after later where
  announced := tended.announced.alters accounted alters
  numbered := tended.numbered.alters accounted tended.announced alters
  covered := tended.covered.alters accounted tended.announced tended.numbered alters

/-- Members and entries of a configuration come in the order of their numbers. -/
theorem configuration_eq {store : Store} (storeSound : store.Sound) (rosterSound : roster.Sound)
    (same : ∀ id key, (id, key) ∈ store.configuration ↔
      ∃ member ∈ roster.members, member.id = id ∧ member.key = key) :
    store.configuration = roster.members.map fun member => (member.id, member.key) := by
  have increase : (roster.members.map fun member => (member.id, member.key)).Pairwise
      fun earlier later => earlier.1 < later.1 := List.pairwise_map.mpr rosterSound.ids_increase
  have distinct {entries : List (Nat × String)}
      (ordered : entries.Pairwise fun earlier later => earlier.1 < later.1) : entries.Nodup :=
    ordered.imp fun below => ne_of_apply_ne Prod.fst below.ne
  -- Both lists are in the strict order of numbers, so that it is enough to compare their entries.
  refine List.Perm.eq_of_pairwise (fun one two _ _ below above => ?_) storeSound.ids_increase
    increase ?_
  · exact absurd (Nat.lt_trans below above) (Nat.lt_irrefl _)
  · refine (List.perm_ext_iff_of_nodup (distinct storeSound.ids_increase)
      (distinct increase)).mpr fun entry => ?_
    simp only [List.mem_map, Prod.ext_iff]
    exact same entry.1 entry.2

/-- A number that is configured for a tracked key is its own, or one of an earlier admission whose
successor is still to join. -/
theorem Tended.entry (tended : Tended scene tasks) {id : Nat} {member : Member}
    (there : (id, member.key) ∈ scene.store.configuration) (inside : member ∈ scene.roster.members) :
    id = member.id ∨ id < member.id ∧ .join member ∈ tasks := by
  have store := tended.numbered.store
  have least := tended.numbered.id_le id member.key there member inside rfl
  rcases tended.covered.tracked member inside with own | founds | joins | ⟨zero, -⟩
  · exact .inl (store.id_unique there own)
  · have unnamed := (tended.announced.early (.inr ⟨member, founds⟩)).1
    simp [store.unnamed_iff.mp unnamed] at there
  · rcases Nat.lt_or_eq_of_le least with below | same
    · exact .inr ⟨below, joins⟩
    · exact .inl same
  · exact .inl (by omega)

namespace Simulation.Cluster

variable {cluster : Cluster}

theorem NodeReach.tended (reach : NodeReach cluster)
    (unbounded : cluster.controller.queue.settings.maxAttempts = none)
    (alive : cluster.controller.queue.exit? = none) :
    Tended cluster.scene cluster.controller.queue.unfinished :=
  reach.holds ⟨.new, .new, .new⟩ (fun accounted tended alters => tended.alters accounted alters)
    unbounded alive

/-- As long as the worker is there, each tracked member is configured under exactly the number of
its admission or is about to be founded on or to join, member zero of a set that could not be
founded apart; and each entry of the configuration is a current admission, is about to be removed,
or gives way to a later admission that is about to join. Once nothing is left to do and the set was
founded, members and configuration agree. -/
theorem NodeReach.configuration_covered (reach : NodeReach cluster)
    (unbounded : cluster.controller.queue.settings.maxAttempts = none)
    (alive : cluster.controller.queue.exit? = none) :
    (∀ member ∈ cluster.controller.roster.members,
      ((member.id, member.key) ∈ cluster.site.store.configuration ∧
        ∀ id, (id, member.key) ∈ cluster.site.store.configuration → id = member.id) ∨
      .found member ∈ cluster.controller.queue.unfinished ∨
      .join member ∈ cluster.controller.queue.unfinished ∨
      member.id = 0 ∧ ∃ status ∈ cluster.controller.bulletin.history, status.stage = .degraded) ∧
    (∀ id key, (id, key) ∈ cluster.site.store.configuration →
      cluster.controller.roster.idOf? key = some id ∨
      (∃ departed, .leave departed ∈ cluster.controller.queue.unfinished ∧ departed.key = key) ∨
      ∃ member ∈ cluster.controller.roster.members, member.key = key ∧ id < member.id ∧
        .join member ∈ cluster.controller.queue.unfinished) ∧
    (cluster.controller.queue.unfinished = [] →
      (∃ status ∈ cluster.controller.bulletin.history, status.stage = .stable) →
      cluster.site.store.configuration =
        cluster.controller.roster.members.map fun member => (member.id, member.key)) := by
  have tended := reach.tended unbounded alive
  obtain ⟨deeds, run⟩ := reach.run
  have sound := run.accounted.sound
  have tracked : ∀ member ∈ cluster.controller.roster.members, _ := tended.covered.tracked
  have configured : ∀ id key, (id, key) ∈ cluster.site.store.configuration →
      cluster.controller.roster.idOf? key = some id ∨
      (∃ departed, .leave departed ∈ cluster.controller.queue.unfinished ∧ departed.key = key) ∨
      ∃ member ∈ cluster.controller.roster.members, member.key = key ∧ id < member.id ∧
        .join member ∈ cluster.controller.queue.unfinished := by
    intro id key there
    rcases tended.covered.configured id key there with isTracked | leaves
    · obtain ⟨member, inside, rfl⟩ := Roster.tracks_iff.mp isTracked
      rcases tended.entry there inside with rfl | ⟨below, joins⟩
      · exact .inl (sound.idOf?_eq_some_iff.mpr ⟨member, inside, rfl, rfl⟩)
      · exact .inr (.inr ⟨member, inside, rfl, below, joins⟩)
    · exact .inr (.inl leaves)
  refine ⟨fun member inside => ?_, configured, fun nothing stable => ?_⟩
  · rcases tracked member inside with own | pending
    · exact .inl ⟨own, fun id there => tended.numbered.store.id_unique there own⟩
    · exact .inr pending
  · refine configuration_eq tended.numbered.store sound fun id key => ⟨fun there => ?_, ?_⟩
    · rcases configured id key there with current | ⟨departed, leaves, -⟩ | ⟨member, -, -, -, joins⟩
      · obtain ⟨member, inside, atKey, same⟩ := sound.idOf?_eq_some_iff.mp current
        exact ⟨member, inside, same, atKey⟩
      · simp [nothing] at leaves
      · simp [nothing] at joins
    · rintro ⟨member, inside, rfl, rfl⟩
      rcases tracked member inside with own | founds | joins | ⟨-, degraded⟩
      · exact own
      · simp [nothing] at founds
      · simp [nothing] at joins
      · exact absurd ⟨stable, degraded⟩ tended.announced.once

/-- The second node was reported gone and back again, before its removal was tried. -/
def readmitted : Cluster :=
  (pair.memberDown ⟨"b", .node⟩).memberUp ⟨"b", .node⟩

theorem readmitted_reach : NodeReach readmitted :=
  (pair_reach.next (.down (by decide) ⟨"b", .node⟩) (by simp) (by simp)).next
    (.up (by decide) ⟨"b", .node⟩) (by simp) (by simp)

theorem configuration_covered_readmitted :
    readmitted.controller.queue.settings.maxAttempts = none ∧
      readmitted.controller.queue.exit? = none ∧
      readmitted.site.store.configuration = [(0, "a"), (1, "b")] ∧
      (readmitted.controller.roster.idOf? "b" = some 1 ∨
        (∃ departed, .leave departed ∈ readmitted.controller.queue.unfinished ∧
          departed.key = "b") ∨
        ∃ member ∈ readmitted.controller.roster.members, member.key = "b" ∧ 1 < member.id ∧
          .join member ∈ readmitted.controller.queue.unfinished) := by
  have unbounded : readmitted.controller.queue.settings.maxAttempts = none := rfl
  have alive : readmitted.controller.queue.exit? = none := by decide
  obtain ⟨-, configured, -⟩ := readmitted_reach.configuration_covered unbounded alive
  exact ⟨unbounded, alive, by decide, configured 1 "b" (by decide)⟩

end Simulation.Cluster

end ReplicaSet
