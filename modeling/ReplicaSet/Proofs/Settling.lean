import ReplicaSet.Proofs.JoinRuns

/-!
How a set settles that is left to itself. When every member that is tracked runs and none that was
removed does, each change that still matters is done at its next run, and no change waits for longer
than the retry delay.
-/
namespace ReplicaSet

variable {scene after : Scene} {tasks later rest : List Change} {task : Change} {outcome : Outcome}

/-- Nothing is in the way of any change that still matters: the primary is the one of the store,
whoever is tracked runs, whoever is configured and not tracked does not, and no earlier admission of
a tracked member is configured. -/
structure Poised (scene : Scene) : Prop where
  stable : scene.bulletin.Told .stable
  primary : ∃ primary, scene.roster.primary? = some primary ∧
    scene.store.primaryKey = some primary.key
  available : ∀ member ∈ scene.roster.members, scene.store.isAvailable member.key = true
  stopped : ∀ id key, (id, key) ∈ scene.store.configuration → scene.roster.tracks key = false →
    scene.store.isAvailable key = false
  agree : ∀ id key, (id, key) ∈ scene.store.configuration → ∀ member ∈ scene.roster.members,
    member.key = key → member.id = id

/-- Whether members and configuration differ because the change is not done yet. -/
def Urgent (scene : Scene) : Change → Prop
  | .found _ => False
  | .join _ => True
  | .leave departed =>
    scene.store.isConfigured departed.key = true ∧ scene.roster.tracks departed.key = false

namespace Poised

theorem unfounded (poised : Poised scene) (announced : Announced scene tasks) (founder : Member) :
    .found founder ∉ tasks :=
  fun waits => (announced.early (.inr ⟨founder, waits⟩)).2.1 poised.stable

/-- Every change that matters is done when it is run. -/
theorem done (poised : Poised scene) (accounted : Accounted scene.roster tasks)
    (numbered : Numbered scene tasks) (waits : task ∈ tasks) (urgent : Urgent scene task)
    (runs : scene.Runs task outcome after) : outcome = .done := by
  obtain ⟨primary, isPrimary, same⟩ := poised.primary
  have isAvailable {candidate : Member} (current : scene.roster.isCurrent candidate = true) :
      scene.store.isAvailable candidate.key = true := by
    obtain ⟨member, inside, atKey, -⟩ := accounted.sound.isCurrent_iff.mp current
    exact atKey ▸ poised.available member inside
  have hasStopped {departed : Member} (matters : Urgent scene (.leave departed)) :
      scene.store.isAvailable departed.key = false := by
    obtain ⟨id, there⟩ := Store.isConfigured_iff.mp matters.1
    exact poised.stopped id departed.key there matters.2
  cases runs with
  | founded | foundingFailed | joinStale | joined | leaveStale | departed => rfl
  | joinWaits current nobody =>
    rcases nobody with none | down
    · cases none.symm.trans isPrimary
    · cases down.symm.trans (isAvailable current)
  | @joinRefused candidate via cause current isVia refused =>
    cases isPrimary.symm.trans isVia
    rw [numbered.add_objection waits (isAvailable current) same] at refused
    split at refused
    · rename_i configured
      obtain ⟨id, there⟩ := Store.isConfigured_iff.mp configured
      obtain ⟨member, inside, atKey, sameId⟩ := accounted.sound.isCurrent_iff.mp current
      have number := poised.agree id candidate.key there member inside atKey
      have below := numbered.configured_lt accounted.sound waits current there
      omega
    · cases refused
  | leaveWaits untracked nobody =>
    rcases nobody with none | runs
    · cases none.symm.trans isPrimary
    · cases runs.symm.trans (hasStopped urgent)
  | @leaveRefused departed via cause untracked isVia refused =>
    cases isPrimary.symm.trans isVia
    have accepted := Store.accepts_remove.mpr
      ⟨⟨(numbered.store.primary_runs _ same).1, same⟩, hasStopped urgent⟩
    cases refused.symm.trans accepted

theorem run_joined (poised : Poised scene) (sound : scene.roster.Sound)
    (store : scene.store.Sound) {candidate via : Member}
    (current : scene.roster.isCurrent candidate = true)
    (accepted : scene.store.objection? via.key (.add candidate.key candidate.id) = none) :
    let after := { scene with
      store := scene.store.carryOut via.key (.add candidate.key candidate.id) }
    Poised after ∧ ∀ change, Urgent after change → Urgent scene change := by
  obtain ⟨admitted, inside, atKey, sameId⟩ := sound.isCurrent_iff.mp current
  have tracked := Roster.tracks_iff.mpr ⟨admitted, inside, atKey⟩
  have added {entry : Nat × String} :
      entry ∈ (scene.store.carryOut via.key (.add candidate.key candidate.id)).configuration ↔
        entry = (candidate.id, candidate.key) ∨ entry ∈ scene.store.configuration :=
    store.mem_add accepted
  refine ⟨⟨poised.stable, poised.primary, poised.available, ?_, ?_⟩, ?_⟩
  · intro id key there untracked
    rcases added.mp there with same | old
    · cases same
      cases tracked.symm.trans untracked
    · exact poised.stopped id key old untracked
  · intro id key there member isMember memberKey
    rcases added.mp there with same | old
    · cases same
      rw [sound.eq_of_key isMember inside (memberKey.trans atKey.symm), sameId]
    · exact poised.agree id key old member isMember memberKey
  · intro change urgent
    cases change with
    | found => exact urgent
    | join => exact urgent
    | leave departed =>
      obtain ⟨configured, untracked⟩ := urgent
      obtain ⟨id, there⟩ := Store.isConfigured_iff.mp configured
      rcases added.mp there with same | old
      · rw [(Prod.mk.inj same).2, tracked] at untracked
        cases untracked
      · exact ⟨Store.isConfigured_iff.mpr ⟨id, old⟩, untracked⟩

theorem run_departed (poised : Poised scene) {departed via : Member} :
    let after := { scene with store := scene.store.carryOut via.key (.remove departed.key) }
    Poised after ∧ ∀ change, Urgent after change → Urgent scene change := by
  have fewer : ∀ entry ∈ (scene.store.carryOut via.key (.remove departed.key)).configuration,
      entry ∈ scene.store.configuration :=
    fun entry there => ((Store.mem_remove via.key).mp there).1
  refine ⟨⟨poised.stable, poised.primary, poised.available, ?_, ?_⟩, ?_⟩
  · exact fun id key there => poised.stopped id key (fewer _ there)
  · exact fun id key there => poised.agree id key (fewer _ there)
  · intro change urgent
    cases change with
    | found => exact urgent
    | join => exact urgent
    | leave other =>
      obtain ⟨id, there⟩ := Store.isConfigured_iff.mp urgent.1
      exact ⟨Store.isConfigured_iff.mpr ⟨id, fewer _ there⟩, urgent.2⟩

/-- A run of a change leaves it so, and makes nothing matter that did not before. -/
theorem run (poised : Poised scene) (sound : scene.roster.Sound) (store : scene.store.Sound)
    (other : ∀ founder, task ≠ .found founder) (runs : scene.Runs task outcome after) :
    Poised after ∧ after.roster = scene.roster ∧
      ∀ change, Urgent after change → Urgent scene change := by
  cases runs with
  | founded | foundingFailed => exact absurd rfl (other _)
  | joined current _ accepted =>
    obtain ⟨stays, urgent⟩ := poised.run_joined sound store current accepted
    exact ⟨stays, rfl, urgent⟩
  | departed =>
    obtain ⟨stays, urgent⟩ := poised.run_departed
    exact ⟨stays, rfl, urgent⟩
  | joinStale | joinWaits | joinRefused | leaveStale | leaveWaits | leaveRefused =>
    exact ⟨poised, rfl, fun _ => id⟩

end Poised

namespace Simulation.Cluster

variable {cluster next : Cluster} {target span : Nat} {roster : Roster}

/-- A worker over nodes that has made all its moves waits for a submission or a timer ahead. -/
theorem NodeReach.at_rest (reach : NodeReach cluster) (alive : cluster.controller.queue.exit? = none)
    (rests : cluster.work? = none) :
    cluster.controller.queue.phase = .parked ∧ cluster.controller.queue.stop = none ∧
      cluster.controller.queue.inbox = [] ∧
      ∀ wakeAt, Queue.DelayLine.nextWake? cluster.controller.queue.delayed = some wakeAt →
        cluster.now < wakeAt := by
  have idle := reach.nodal.idle
  refine Queue.turn_rest ?_ alive idle
  unfold work? at rests
  split at rests
  · rename_i job call running
    exact absurd running (idle _ _)
  · split at rests
    · assumption
    · cases rests
    · cases rests
    · cases rests

/-- A set that settles with these members until the target. Each delayed job that matters wakes up
by then. -/
structure Settling (target : Nat) (roster : Roster) (cluster : Cluster) : Prop where
  reach : NodeReach cluster
  unbounded : cluster.controller.queue.settings.maxAttempts = none
  alive : cluster.controller.queue.exit? = none
  going : cluster.controller.queue.stop = none
  now_le : cluster.now ≤ target
  same : cluster.controller.roster = roster
  poised : Poised cluster.scene
  due : ∀ entry ∈ cluster.controller.queue.delayed.entries,
    Urgent cluster.scene entry.item.task → entry.wakeAt ≤ target

namespace Settling

theorem wait (settling : Settling target roster cluster) {time : Nat} (later : cluster.now ≤ time)
    (inTime : time ≤ target) : Settling target roster { cluster with now := time } := by
  have step : Step cluster (.wait (time - cluster.now)) { cluster with now := time } := by
    have waited : Step cluster (.wait (time - cluster.now))
      { cluster with now := cluster.now + (time - cluster.now) } := .wait _
    rwa [Nat.add_sub_cancel' later] at waited
  exact ⟨settling.reach.next step (by simp) (by simp), settling.unbounded, settling.alive,
    settling.going, inTime, settling.same, settling.poised, settling.due⟩

theorem stays (settling : Settling target roster cluster) {exit : Exit Change}
    {queue : Queue Queue.WakeHeap Change Call} :
    cluster.controller.queue.turn cluster.now ≠ .leave exit queue := by
  intro left
  obtain ⟨deeds, run⟩ := settling.reach.run
  have going := settling.going
  rcases Queue.turn_leave left with ⟨-, told, -⟩ | ⟨-, told | isSealed, -⟩
  · simp [going] at told
  · simp [going] at told
  · cases (run.regular.owned isSealed).symm.trans going

theorem work (settling : Settling target roster cluster) (worked : cluster.work? = some next) :
    Settling target roster next := by
  obtain ⟨settings, stop⟩ := (work?_works worked).frame
  obtain ⟨deeds, run⟩ := settling.reach.run
  have tended := settling.reach.tended settling.unbounded settling.alive
  have reach : NodeReach next := settling.reach.next (.work worked) (by simp) (by simp)
  have unbounded : next.controller.queue.settings.maxAttempts = none := settings ▸ settling.unbounded
  have going : next.controller.queue.stop = none := stop.trans settling.going
  have now_le : next.now ≤ target := (work?_keeps worked).now ▸ settling.now_le
  rcases work?_cases worked with ⟨job, call, running, -⟩ | ⟨queue, moved, rfl⟩ |
    ⟨job, queue, started, starts⟩ | ⟨exit, queue, left, rfl⟩
  · exact absurd running (settling.reach.nodal.idle _ _)
  · refine ⟨reach, unbounded, (Queue.exit?_move moved).2, going, now_le, settling.same,
      settling.poised, ?_⟩
    rcases Queue.turn_move moved with ⟨-, -, -, rfl⟩ | ⟨-, _, _, -, rfl⟩ | ⟨-, -, rfl⟩
    · exact fun entry stays => settling.due entry (Queue.WakeHeap.mem_of_takeDue stays)
    · exact settling.due
    · exact settling.due
  · have waits : job.task ∈ cluster.controller.queue.unfinished :=
      (Queue.unfinished_start started).mem_iff.mpr List.mem_cons_self
    obtain ⟨outcome, runs, ended⟩ := settling.reach.nodal.runs started starts
    have other : ∀ founder, job.task ≠ .found founder := fun founder same =>
      settling.poised.unfounded tended.announced founder (same ▸ waits)
    obtain ⟨poised, rosterSame, urgent⟩ := settling.poised.run run.accounted.sound
      tended.numbered.store other runs
    have alive : next.controller.queue.exit? = none := by
      rw [ended]
      simp [Queue.exit?, (Queue.conclude_frame _ _ _ _).1]
    have delayed := (Queue.start_frame started).2.2.2.2
    refine ⟨reach, unbounded, alive, going, now_le, rosterSame.trans settling.same, poised, ?_⟩
    intro entry member matters
    rw [ended] at member
    rcases Queue.entries_conclude member with old | ⟨rfl, same⟩
    · have stays : entry ∈ queue.delayed.entries := old
      rw [delayed] at stays
      exact settling.due entry (Queue.WakeHeap.mem_of_takeDue stays) (urgent _ matters)
    -- What is put off again does not matter, for a change that does is done at its run.
    · have before := urgent _ matters
      rw [same] at before
      cases settling.poised.done run.accounted tended.numbered waits before runs
  · exact absurd left settling.stays

/-- When the worker has made all its moves at the target, nothing that matters is left to do. -/
theorem none_due (settling : Settling target roster cluster) (rests : cluster.work? = none)
    (atTarget : cluster.now = target) :
    ∀ task ∈ cluster.controller.queue.unfinished, ¬Urgent cluster.scene task := by
  obtain ⟨deeds, run⟩ := settling.reach.run
  have regular := run.regular
  obtain ⟨phase, -, inbox, later⟩ := settling.reach.at_rest settling.alive rests
  intro task waits urgent
  -- A parked worker has only delayed jobs left, and its timer is that of the first of them.
  rw [Queue.unfinished_of_parked phase, Queue.waiting, regular.parked phase, inbox,
    Queue.WakeHeap.toList_eq] at waits
  simp only [List.map_nil, List.nil_append, List.append_nil, List.map_map, List.mem_map,
    Function.comp_apply] at waits
  obtain ⟨entry, member, rfl⟩ := waits
  obtain ⟨wakeAt, next, first⟩ := Queue.WakeHeap.nextWake?_le regular.ordered member
  have ahead := later wakeAt next
  have due := settling.due entry member urgent
  omega

theorem now_le_alarm (settling : Settling target roster cluster) (rests : cluster.work? = none)
    {time : Nat} (alarm : cluster.alarm? = some time) : cluster.now ≤ time := by
  obtain ⟨phase, -, -, later⟩ := settling.reach.at_rest settling.alive rests
  simp only [alarm?, phase, Option.map_eq_some_iff] at alarm
  obtain ⟨wakeAt, next, rfl⟩ := alarm
  have ahead := later wakeAt next
  have fires := Time.le_tick wakeAt
  omega

theorem advance (settling : Settling (cluster.now + span) roster cluster) :
    Settling (cluster.now + span) roster (Clockwork.advance span cluster) :=
  Clockwork.hop_induction _ (fun before worked => before.work worked) work?_settle _
    (fun before rests alarm inTime => before.wait (before.now_le_alarm rests alarm) inTime)
    (fun before => before.wait before.now_le le_rfl) _ settling

end Settling

/-- Left to itself a cluster comes to the end of the span, with all the moves made that there are. -/
theorem advance_ends (cluster : Cluster) (span : Nat) :
    (Clockwork.advance span cluster).now = cluster.now + span ∧
      (Clockwork.advance span cluster).work? = none := by
  obtain ⟨before, ends⟩ := Clockwork.hop_settles (cluster.now + span) (span + 1) cluster
  have same : Clockwork.advance span cluster =
      Clockwork.settle { before with now := cluster.now + span } := ends
  rw [same]
  refine ⟨?_, work?_settle _⟩
  exact Clockwork.run_induction (fun later : Cluster => later.now = cluster.now + span)
    (fun here worked => (work?_keeps worked).now.trans here) _ rfl

/-- A set that is stable and has the primary of the store needs one retry delay to come to rest,
when its worker is there and was not told to stop, whoever is tracked runs, whoever is configured
and not tracked does not, and no configured key is tracked under another number. If nothing else
happens in the meantime, the configuration is that of the members then, and nobody is to join. -/
theorem NodeReach.configuration_settles (reach : NodeReach cluster)
    (unbounded : cluster.controller.queue.settings.maxAttempts = none)
    (alive : cluster.controller.queue.exit? = none)
    (going : cluster.controller.queue.stop = none)
    (stable : cluster.controller.bulletin.latest.stage = .stable) {primary : Member}
    (isPrimary : cluster.controller.roster.primary? = some primary)
    (same : cluster.site.store.primaryKey = some primary.key)
    (available : ∀ member ∈ cluster.controller.roster.members,
      cluster.site.store.isAvailable member.key = true)
    (stopped : ∀ id key, (id, key) ∈ cluster.site.store.configuration →
      cluster.controller.roster.tracks key = false → cluster.site.store.isAvailable key = false)
    (agree : ∀ id key, (id, key) ∈ cluster.site.store.configuration →
      ∀ member ∈ cluster.controller.roster.members, member.key = key → member.id = id) :
    let later := Clockwork.advance cluster.controller.queue.settings.retryDelay cluster
    later.now = cluster.now + cluster.controller.queue.settings.retryDelay ∧
      later.work? = none ∧ later.controller.roster = cluster.controller.roster ∧
      later.site.store.configuration =
        later.controller.roster.members.map (fun member => (member.id, member.key)) ∧
      ∀ candidate, .join candidate ∉ later.controller.queue.unfinished := by
  obtain ⟨deeds, run⟩ := reach.run
  have settling : Settling (cluster.now + cluster.controller.queue.settings.retryDelay)
      cluster.controller.roster cluster := by
    refine ⟨reach, unbounded, alive, going, Nat.le_add_right _ _, rfl, ?_, ?_⟩
    · exact ⟨stable ▸ Bulletin.told_latest, ⟨primary, isPrimary, same⟩, available, stopped, agree⟩
    · exact fun entry member _ => run.regular.wakeAt_le entry member
  have settled := settling.advance
  obtain ⟨now, rests⟩ := advance_ends cluster cluster.controller.queue.settings.retryDelay
  have noneDue := settled.none_due rests now
  generalize Clockwork.advance cluster.controller.queue.settings.retryDelay cluster = later
    at settled now rests noneDue ⊢
  have tended := settled.reach.tended settled.unbounded settled.alive
  obtain ⟨moreDeeds, laterRun⟩ := settled.reach.run
  have joins : ∀ candidate, .join candidate ∉ later.controller.queue.unfinished :=
    fun candidate waits => noneDue _ waits trivial
  refine ⟨now, rests, settled.same, ?_, joins⟩
  refine configuration_eq tended.numbered.store laterRun.accounted.sound fun id key => ⟨?_, ?_⟩
  · intro there
    cases tracked : later.controller.roster.tracks key with
    | true =>
      obtain ⟨member, inside, atKey⟩ := Roster.tracks_iff.mp tracked
      exact ⟨member, inside, settled.poised.agree id key there member inside atKey, atKey⟩
    | false =>
      rcases tended.covered.configured id key there with isTracked | ⟨departed, waits, rfl⟩
      · cases tracked.symm.trans isTracked
      · exact absurd ⟨Store.isConfigured_of_mem there, tracked⟩ (noneDue _ waits)
  · rintro ⟨member, inside, rfl, rfl⟩
    rcases tended.covered.tracked member inside with own | founds | joining | ⟨-, failed⟩
    · exact own
    · exact absurd founds (settled.poised.unfounded tended.announced member)
    · exact absurd joining (joins member)
    · exact absurd ⟨settled.poised.stable, failed⟩ tended.announced.once

/-- A third node was told before it ran, and runs now. -/
def awaited : Cluster :=
  let down := (pair.site.store.startNode "c" "c:1").setAvailable "c" false
  let told := Clockwork.settle ((pair.withStore down).memberUp ⟨"c", .node⟩)
  told.withStore (told.site.store.setAvailable "c" true)

theorem awaited_reach : NodeReach awaited := by
  have down := (pair_reach.startNode "c" "c:1").setAvailable "c" false
  have told := (down.next (.up (by decide) ⟨"c", .node⟩) (by simp) (by simp)).settle
  exact told.setAvailable "c" true

theorem configuration_settles_awaited :
    awaited.site.store.configuration = [(0, "a"), (1, "b")] ∧
      (Clockwork.advance (Time.ofMillis 1) awaited).site.store.configuration = [(0, "a"), (1, "b"), (2, "c")] := by
  have entries : awaited.site.store.configuration = [(0, "a"), (1, "b")] := by decide
  have isPrimary : awaited.controller.roster.primary? = some ⟨0, ⟨"a", .node⟩⟩ := by decide
  have stopped : ∀ entry ∈ awaited.site.store.configuration,
      awaited.controller.roster.tracks entry.2 = false →
        awaited.site.store.isAvailable entry.2 = false := by decide
  have agree : ∀ entry ∈ awaited.site.store.configuration,
      ∀ member ∈ awaited.controller.roster.members, member.key = entry.2 → member.id = entry.1 := by
    decide
  obtain ⟨-, -, same, configuration, -⟩ := awaited_reach.configuration_settles rfl (by decide)
    (by decide) (by decide) isPrimary (by decide) (by decide) (fun id key => stopped (id, key))
    (fun id key => agree (id, key))
  have delay : awaited.controller.queue.settings.retryDelay = Time.ofMillis 1 := rfl
  rw [delay] at same configuration
  refine ⟨entries, configuration.trans ?_⟩
  rw [same]
  decide

end Simulation.Cluster

end ReplicaSet
