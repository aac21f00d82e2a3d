import ReplicaSet.Proofs.Coverage

/-!
What comes of a run that is to add a member. With a member that is available and a primary that the
store has as well, the one thing that can still be in the way is an earlier admission of the same
key that was never removed from the configuration.
-/
namespace ReplicaSet

variable {scene : Scene} {tasks : List Change} {candidate primary : Member}

/-- The store has one objection left to an addition through its primary: that the key is in the
configuration already. -/
theorem Numbered.add_objection (numbered : Numbered scene tasks) (waits : .join candidate ∈ tasks)
    (available : scene.store.isAvailable candidate.key = true)
    (isPrimary : scene.store.primaryKey = some primary.key) :
    scene.store.objection? primary.key (.add candidate.key candidate.id) =
      if scene.store.isConfigured candidate.key then
        some (.rejected (.alreadyMember candidate.key))
      else none := by
  have reachable : scene.store.objectionTo? primary.key = none :=
    Store.objectionTo?_eq_none.mpr ⟨(numbered.store.primary_runs _ isPrimary).1, isPrimary⟩
  have free : scene.store.holder? candidate.id = none :=
    Store.holder?_eq_none_iff.mpr (numbered.free candidate waits)
  simp [Store.objection?, reachable, available, free]

/-- A number under which the key of a current candidate is configured is that of an admission
before it. -/
theorem Numbered.configured_lt (numbered : Numbered scene tasks) (sound : scene.roster.Sound)
    (waits : .join candidate ∈ tasks) (current : scene.roster.isCurrent candidate = true) {id : Nat}
    (there : (id, candidate.key) ∈ scene.store.configuration) : id < candidate.id := by
  obtain ⟨member, inside, atKey, sameId⟩ := sound.isCurrent_iff.mp current
  have least := numbered.id_le id candidate.key there member inside atKey
  rcases Nat.lt_or_eq_of_le least with below | equal
  · exact sameId ▸ below
  · rw [equal, sameId] at there
    exact absurd there (numbered.free candidate waits candidate.key)

namespace Simulation.Cluster

variable {cluster next : Cluster} {job : Job Change} {queue : Queue Queue.WakeHeap Change Call}

/-- Who is current and available and has a primary to be added through is added at once. -/
theorem Starts.join (starts : cluster.Starts job next) (task : job.task = .join candidate)
    (current : cluster.controller.roster.isCurrent candidate = true)
    (available : (cluster.site.look candidate.handle).available = true)
    (isPrimary : cluster.controller.roster.primary? = some primary) :
    next = (cluster.ask candidate.handle).2.call job primary (.add candidate.key candidate.id) := by
  cases starts with
  | outdated outdated => simp [task, Controller.outdated?, current] at outdated
  | waits _ asks waits =>
    rw [task] at asks waits
    have seen := (asks.answer (by simp)).trans available
    rw [seen] at waits
    simp [Controller.order, isPrimary] at waits
  | calls _ asks ordered =>
    rw [task] at asks ordered
    obtain ⟨same, -, rfl⟩ := Controller.order_join ordered
    cases asks
    cases isPrimary.symm.trans same
    rfl

theorem work?_join (started : cluster.controller.queue.turn cluster.now = .start job queue)
    (task : job.task = .join candidate)
    (current : cluster.controller.roster.isCurrent candidate = true)
    (available : (cluster.site.look candidate.handle).available = true)
    (isPrimary : cluster.controller.roster.primary? = some primary) :
    cluster.work? = some (((cluster.withQueue queue).ask candidate.handle).2.call job primary
      (.add candidate.key candidate.id)) := by
  have worked : cluster.work? = some ((cluster.withQueue queue).start job) := by
    simp [work?, (Queue.turn_start started).1, started]
  rw [worked, (starts_start (cluster.withQueue queue) job).join task current available isPrimary]

theorem join_accepted (cluster : Cluster) (task : job.task = .join candidate)
    (node : primary.handle.origin = .node)
    (available : (cluster.site.look candidate.handle).available = true)
    (accepted : cluster.site.store.objection? primary.key (.add candidate.key candidate.id) = none) :
    ((cluster.ask candidate.handle).2.call job primary (.add candidate.key candidate.id)).trace =
      [⟨cluster.now, .noted cluster.controller.name
          (.completed (.join candidate) (job.attempts + 1))⟩,
        ⟨cluster.now, .noted cluster.controller.name (.joined candidate)⟩,
        ⟨cluster.now, .called primary.handle (.add candidate.key candidate.id)⟩,
        ⟨cluster.now, .asked candidate.handle true⟩] ++ cluster.trace := by
  have served : (cluster.ask candidate.handle).2.site.store.serve primary.key
      (.add candidate.key candidate.id) = (.ok (), _) := Store.serve_accepted accepted
  rw [call_node node, served]
  simp [answered, task, Controller.answered, adopt, noteAll_eq, conclude, Controller.conclude,
    Queue.conclude, withStore, record, ask, available]

theorem join_refused (cluster : Cluster) (task : job.task = .join candidate)
    (node : primary.handle.origin = .node)
    (available : (cluster.site.look candidate.handle).available = true)
    (unbounded : cluster.controller.queue.settings.maxAttempts = none) {cause : StoreError}
    (refused : cluster.site.store.objection? primary.key (.add candidate.key candidate.id) =
      some cause) :
    ((cluster.ask candidate.handle).2.call job primary (.add candidate.key candidate.id)).trace =
      [⟨cluster.now, .noted cluster.controller.name (.joinFailed candidate primary cause)⟩,
        ⟨cluster.now, .called primary.handle (.add candidate.key candidate.id)⟩,
        ⟨cluster.now, .asked candidate.handle true⟩] ++ cluster.trace := by
  have served : (cluster.ask candidate.handle).2.site.store.serve primary.key
      (.add candidate.key candidate.id) = (.error cause, _) := Store.serve_refused refused
  rw [call_node node, served]
  simp [answered, task, Controller.answered, adopt, noteAll_eq, conclude, Controller.conclude,
    Queue.conclude, Queue.isSpent, unbounded, withStore, record, ask, available]

/-- A run that is to add a current and available member through the primary of the store succeeds
exactly when no earlier admission of the key is left in the configuration. Else it is refused as a
member already, put off and so tried again, and the configuration keeps the earlier number. -/
theorem NodeReach.join_succeeds_iff (reach : NodeReach cluster)
    (unbounded : cluster.controller.queue.settings.maxAttempts = none)
    (started : cluster.controller.queue.turn cluster.now = .start job queue)
    (task : job.task = .join candidate)
    (current : cluster.controller.roster.isCurrent candidate = true)
    (available : cluster.site.store.isAvailable candidate.key = true)
    (isPrimary : cluster.controller.roster.primary? = some primary)
    (same : cluster.site.store.primaryKey = some primary.key) :
    ∃ next, cluster.work? = some next ∧
      (cluster.site.store.isConfigured candidate.key = false →
        (cluster.site.store.serve primary.key (.add candidate.key candidate.id)).1 = .ok () ∧
        cluster.news next =
          [⟨cluster.now, .asked candidate.handle true⟩,
            ⟨cluster.now, .called primary.handle (.add candidate.key candidate.id)⟩,
            ⟨cluster.now, .noted cluster.controller.name (.joined candidate)⟩,
            ⟨cluster.now, .noted cluster.controller.name
              (.completed (.join candidate) (job.attempts + 1))⟩] ∧
        (candidate.id, candidate.key) ∈ next.site.store.configuration ∧
        .join candidate ∉ next.controller.queue.unfinished) ∧
      (cluster.site.store.isConfigured candidate.key = true →
        cluster.news next =
          [⟨cluster.now, .asked candidate.handle true⟩,
            ⟨cluster.now, .called primary.handle (.add candidate.key candidate.id)⟩,
            ⟨cluster.now, .noted cluster.controller.name
              (.joinFailed candidate primary (.rejected (.alreadyMember candidate.key)))⟩] ∧
        next.site.store = cluster.site.store ∧
        .join candidate ∈ next.controller.queue.unfinished ∧
        ∃ earlier, earlier < candidate.id ∧
          (earlier, candidate.key) ∈ cluster.site.store.configuration) := by
  have tended := reach.tended unbounded (Queue.exit?_start started)
  obtain ⟨deeds, run⟩ := reach.run
  have taken := Queue.unfinished_start started
  have waits : .join candidate ∈ cluster.controller.queue.unfinished :=
    taken.mem_iff.mpr (task ▸ List.mem_cons_self)
  have node : candidate.handle.origin = .node :=
    reach.nodal.nodes _ (mem_admissions_of_task waits)
  have primaryNode : primary.handle.origin = .node :=
    reach.nodal.nodes _ (mem_admissions.mpr (.inl (Roster.mem_of_primary? isPrimary).1))
  have seen : (cluster.site.look candidate.handle).available = true :=
    (look_node node).trans available
  have objection := tended.numbered.add_objection waits available same
  have tireless : queue.settings.maxAttempts = none :=
    (Queue.start_frame started).2.1.symm ▸ unbounded
  refine ⟨_, work?_join started task current seen isPrimary, fun absent => ?_, fun there => ?_⟩
  · have accepted : cluster.site.store.objection? primary.key (.add candidate.key candidate.id) =
        none := objection.trans (by simp [scene, absent])
    obtain ⟨later, ended⟩ := call_accepted ((cluster.withQueue queue).ask candidate.handle).2 job
      primaryNode accepted
    have store : (((cluster.withQueue queue).ask candidate.handle).2.call job primary
        (.add candidate.key candidate.id)).site.store =
          cluster.site.store.carryOut primary.key (.add candidate.key candidate.id) :=
      congrArg Scene.store later
    refine ⟨congrArg Prod.fst (Store.serve_accepted accepted), ?_, ?_, ?_⟩
    · exact news_eq _ (join_accepted (cluster.withQueue queue) task primaryNode seen accepted)
    · rw [store]
      exact (tended.numbered.store.mem_add accepted).mpr (.inl rfl)
    · rw [ended, task, Queue.unfinished_conclude]
      intro again
      have still : .join candidate ∈ queue.waiting :=
        Queue.waiting_conclude_done.mem_iff.mp again
      exact Numbered.entrants_differ run.accounted (task ▸ taken) rfl still rfl
  · have refused : cluster.site.store.objection? primary.key (.add candidate.key candidate.id) =
        some (.rejected (.alreadyMember candidate.key)) := objection.trans (by simp [scene, there])
    obtain ⟨later, ended⟩ := call_refused ((cluster.withQueue queue).ask candidate.handle).2 job
      primaryNode refused
    refine ⟨?_, congrArg Scene.store later, ?_, ?_⟩
    · exact news_eq _
        (join_refused (cluster.withQueue queue) task primaryNode seen tireless refused)
    · rw [ended, task, Queue.unfinished_conclude]
      have may := Queue.isSpent_of_unbounded tireless (job.attempts + 1)
      exact (Queue.waiting_conclude_retry may).mem_iff.mpr (task ▸ List.mem_cons_self)
    · obtain ⟨earlier, configured⟩ := Store.isConfigured_iff.mp there
      have below := tended.numbered.configured_lt run.accounted.sound waits current configured
      exact ⟨earlier, below, configured⟩

/-- The member that was reported back is about to be added, and its removal was dropped. -/
def rejoining : Cluster := Clockwork.run 2 readmitted

theorem rejoining_reach : NodeReach rejoining :=
  Clockwork.run_induction NodeReach
    (fun before worked => before.next (.work worked) (by simp) (by simp)) 2 readmitted_reach

theorem rejoining_turn :
    rejoining.controller.queue.turn rejoining.now =
      .start ⟨.join ⟨2, ⟨"b", .node⟩⟩, 0⟩ { rejoining.controller.queue with ready := [] } :=
  rfl

theorem join_succeeds_iff_rejoining :
    ∃ next, rejoining.work? = some next ∧
      .join ⟨2, ⟨"b", .node⟩⟩ ∈ next.controller.queue.unfinished ∧
      ∃ earlier, earlier < 2 ∧ (earlier, "b") ∈ rejoining.site.store.configuration := by
  have isPrimary : rejoining.controller.roster.primary? = some ⟨0, ⟨"a", .node⟩⟩ := by decide
  obtain ⟨next, worked, -, refused⟩ := rejoining_reach.join_succeeds_iff rfl rejoining_turn rfl
    (by decide) (by decide) isPrimary (by decide)
  obtain ⟨-, -, again, earlier⟩ := refused (by decide)
  exact ⟨next, worked, again, earlier⟩

/-- A member that is current and available is not added, although the primary that is taken for it
is the primary of the store. -/
theorem rejoining_refused :
    NodeReach rejoining ∧ rejoining.controller.queue.settings.maxAttempts = none ∧
      (∃ queue, rejoining.controller.queue.turn rejoining.now =
        .start ⟨.join ⟨2, ⟨"b", .node⟩⟩, 0⟩ queue) ∧
      rejoining.controller.roster.isCurrent ⟨2, ⟨"b", .node⟩⟩ = true ∧
      rejoining.site.store.isAvailable "b" = true ∧
      rejoining.controller.roster.primary?.map Member.key = some "a" ∧
      rejoining.site.store.primaryKey = some "a" ∧
      ∃ next, rejoining.work? = some next ∧ (2, "b") ∉ next.site.store.configuration := by
  refine ⟨rejoining_reach, rfl, ⟨_, rejoining_turn⟩, by decide, by decide, by decide, by decide, ?_⟩
  exact ⟨rejoining.work?.get (by decide), (Option.some_get _).symm, by decide⟩

end Simulation.Cluster

end ReplicaSet
