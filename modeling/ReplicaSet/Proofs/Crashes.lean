import ReplicaSet.Proofs.CrashReports
import ReplicaSet.Proofs.TaskPlaces
import ReplicaSet.Proofs.ViewHistory

/-!
What becomes of a set whose worker has crashed. Its members are heard as before, but nothing is done
in the store any more, and what would be to do is dropped.
-/
namespace ReplicaSet

/-- A worker whose turn it is to leave was told to, or is done with everything. -/
theorem Queue.turn_not_crashed {τ ρ : Type} {now : Nat} {queue next : Queue WakeHeap τ ρ}
    (job : Job τ) (message : String) : queue.turn now ≠ .leave (.crashed job message) next := by
  intro left
  unfold turn at left
  split at left
  · unfold lookAround at left
    dsimp only at left
    split at left <;> split at left <;> cases left
  · unfold waitAround at left
    split at left
    · cases left
    · split at left
      · cases left
      · split at left <;> cases left
  · cases left
  · cases left

namespace Simulation.Cluster

variable {cluster crashed after next : Cluster} {deed : Deed} {deeds more : List Deed}
  {job : Job Change} {message : String} {exit : Exit Change}

/-- A worker crashes when the request that it waited for breaks down. -/
theorem work?_crashed (worked : cluster.work? = some crashed)
    (ended : crashed.controller.queue.exit? = some (.crashed job message)) :
    crashed = cluster.leave (.crashed job message) ∧ ∃ call,
      cluster.controller.queue.phase = .running job call ∧ call.stage = .answering ∧
        call.ending = .crashes message := by
  rcases work?_cases worked with ⟨current, call, running, wentOn⟩ | ⟨queue, moved, rfl⟩ |
    ⟨current, queue, started, starts⟩ | ⟨exit, queue, left, rfl⟩
  · cases goes_goOn? wentOn with
    | hears => simp [Queue.exit?, answered_awake] at ended
    | crashes waited ending =>
      simp only [leave_controller, Queue.exit?, Queue.exitWith] at ended
      cases ended
      exact ⟨rfl, call, running, waited, ending⟩
    | stops =>
      simp only [leave_controller, Queue.exit?, Queue.exitWith] at ended
      cases ended
    | resumes => simp [withQueue, Queue.exit?, Queue.runOn] at ended
  · cases (Queue.exit?_move moved).2.symm.trans ended
  · rcases starts.queue_cases with ⟨outcome, same⟩ | ⟨call, same⟩
    · simp [same, Queue.exit?, (Queue.conclude_frame _ _ _ _).1] at ended
    · simp [same, Queue.exit?, Queue.runOn] at ended
  · simp only [leave_controller, Queue.exit?, Queue.exitWith] at ended
    cases ended
    exact absurd left (Queue.turn_not_crashed job message)

/-- A request is only under way in a set that has had a member. -/
theorem Run.founded_of_running (run : Run deeds cluster) {call : Call}
    (running : cluster.controller.queue.phase = .running job call) :
    cluster.controller.roster.founded = true := by
  cases run.founding with
  | ahead _ nothing => simp [Queue.unfinished_of_running running] at nothing
  | lined _ founded | never founded | made _ founded => exact founded

/-! ### After the end of the worker -/

theorem Onward.exit_eq (onward : Onward cluster more after)
    (ended : cluster.controller.queue.exit? = some exit) :
    .work ∉ more ∧ after.controller.queue.exit? = some exit := by
  induction onward with
  | rest => exact ⟨List.not_mem_nil, ended⟩
  | next _ step ih =>
    obtain ⟨isOutside, still⟩ := step.exit_eq ih.2
    refine ⟨?_, still⟩
    rw [List.mem_append, List.mem_singleton, not_or]
    exact ⟨ih.1, isOutside.symm⟩

theorem Onward.requests_eq (onward : Onward cluster more after)
    (ended : cluster.controller.queue.exit? = some exit) : after.requests = cluster.requests := by
  induction onward with
  | rest => rfl
  | next onward step ih =>
    have isOutside := (step.exit_eq (onward.exit_eq ended).2).1
    exact (step.silent isOutside).requests_eq.trans ih

theorem Outside.dropped_of_exit {queue later : Queue Queue.WakeHeap Change Call}
    {tasks : List Change} {records : List Notice} (outside : Outside queue tasks later records)
    (ended : queue.exit? = some exit) : records = tasks.map .changeDropped := by
  cases outside with
  | keep | told | dropped => rfl
  | handed alive => cases alive.symm.trans ended
  | goOn running => simp [Queue.exit?, running] at ended

/-- All that is created from then on is dropped. -/
theorem Run.onward_dropped (run : Run deeds cluster)
    (ended : cluster.controller.queue.exit? = some exit) (onward : Onward cluster more after) :
    ∃ tasks, created (deeds ++ more) = created deeds ++ tasks ∧
      after.queueRecords = cluster.queueRecords ++ tasks.map .changeDropped := by
  induction onward with
  | rest => exact ⟨[], by simp, by simp⟩
  | @next more middle deed after onward step ih =>
    obtain ⟨tasks, creates, written⟩ := ih
    have still := (onward.exit_eq ended).2
    obtain ⟨records, outside, news⟩ := step.outside (step.exit_eq still).1
    obtain rfl := outside.dropped_of_exit still
    refine ⟨tasks ++ commissions middle.controller.roster deed, ?_, ?_⟩
    · rw [← List.append_assoc, (run.onward onward).created_next, creates, List.append_assoc]
    · rw [news, written, List.map_append, List.append_assoc]

/-- Each of them once, and it was never handed in. -/
theorem Run.dropped_once (run : Run deeds cluster) {tasks : List Change}
    (creates : created (deeds ++ more) = created deeds ++ tasks)
    (written : after.queueRecords = cluster.queueRecords ++ tasks.map .changeDropped)
    {task : Change} (new : task ∈ tasks) : after.queueRecords.count (.changeDropped task) = 1 := by
  have distinct := (chronicled_created (deeds ++ more)).nodup
  rw [creates, List.nodup_append] at distinct
  obtain ⟨-, once, apart⟩ := distinct
  have unheard : .changeDropped task ∉ cluster.queueRecords := by
    intro told
    have rested : (.dropped, task) ∈ cluster.fates := by
      rw [fates_eq]
      exact List.mem_filterMap.mpr ⟨_, told, rfl⟩
    exact apart task (run.created_of_rested rested) task new rfl
  have injective : Function.Injective Notice.changeDropped := fun _ _ => Notice.changeDropped.inj
  rw [written, List.count_append, List.count_eq_zero.mpr unheard,
    List.count_map_of_injective _ _ injective, List.count_eq_one_of_mem once new]

/-- Before a shutdown the roster follows the members alone. -/
theorem Run.onward_roster (run : Run deeds cluster)
    (ended : cluster.controller.queue.exit? = some exit) (onward : Onward cluster more after)
    (isOpen : .beginShutdown ∉ deeds ++ more) :
    after.controller.roster = cluster.controller.roster.performAll
      ((more.filterMap Deed.word?).map Word.operation) := by
  induction onward with
  | rest => rfl
  | @next more middle deed after onward step ih =>
    rw [← List.append_assoc, List.mem_append, not_or, List.mem_singleton] at isOpen
    have middleOpen : middle.controller.roster.closed = false :=
      Bool.eq_false_iff.mpr fun closed => isOpen.1 ((run.onward onward).closed_iff.mp closed)
    have isOutside := (step.exit_eq (onward.exit_eq ended).2).1
    have told : middle.Tells deed after deed.word? := by
      cases said : deed.word? with
      | some word => exact .said said
      | none => exact .nothing said fun isWork => absurd isWork isOutside
    rw [step.tells told middleOpen (Ne.symm isOpen.2), ih isOpen.1, List.filterMap_append,
      List.map_append]
    cases said : deed.word? <;> simp [said, Roster.performAll]

/-- Before a shutdown returns nothing is published. -/
theorem Run.onward_bulletin (run : Run deeds cluster)
    (founded : cluster.controller.roster.founded = true)
    (ended : cluster.controller.queue.exit? = some exit) (onward : Onward cluster more after)
    (unreturned : .endShutdown ∉ more) :
    after.controller.bulletin = cluster.controller.bulletin ∧
      after.controller.roster.founded = true := by
  induction onward with
  | rest => exact ⟨rfl, founded⟩
  | @next more middle deed after onward step ih =>
    rw [List.mem_append, List.mem_singleton, not_or] at unreturned
    obtain ⟨same, stillFounded⟩ := ih unreturned.1
    obtain ⟨published, posts⟩ := (run.onward onward).posts step
    have isOutside := (step.exit_eq (onward.exit_eq ended).2).1
    cases posts with
    | nothing _ _ keeps bulletin => exact ⟨bulletin.trans same, keeps.trans stillFounded⟩
    | founder _ _ unfounded => cases stillFounded.symm.trans unfounded
    | answer => exact absurd rfl isOutside
    | stopped => exact absurd rfl unreturned.2

/-- Nobody has to wait for a shutdown then. -/
theorem Run.shutdown_completes (run : Run deeds cluster)
    (ended : cluster.controller.queue.exit? = some (.crashed job message))
    (held : cluster.controller.held = true) :
    ∃ begun finished, Step cluster .beginShutdown begun ∧ Step begun .endShutdown finished ∧
      finished.controller.bulletin.latest = ⟨.stopped, false⟩ ∧
      finished.crashReports = [message] := by
  have first : Step cluster .beginShutdown cluster.beginShutdown := .beginShutdown held
  have begun := (first.exit_eq ended).2
  have second : Step cluster.beginShutdown .endShutdown cluster.beginShutdown.endShutdown :=
    .endShutdown held rfl (Option.isSome_of_eq_some begun)
  have finished := (second.exit_eq begun).2
  have whole := (run.next first).next second
  obtain ⟨cause, isOver⟩ := whole.over_of_endShutdown (by simp)
  refine ⟨_, _, first, second, isOver.stopped, ?_⟩
  rw [whole.crashReports_eq.2 (by simp), Queue.crash?, finished, Option.toList_some]

/-- When a request breaks down and takes the worker with it, who is on view stays as it is, and no
run begins and no request is made any more. Until a shutdown is begun the members are admitted and
dismissed and the primary is named as before. Each task that is created from then on is dropped,
with one warning. The status stays until a shutdown returns. A shutdown has nobody to wait for, the
set is stopped after it, and the crash is reported by the first one and not again. -/
theorem Run.crash_survived (run : Run deeds cluster) (worked : cluster.work? = some crashed)
    (ended : crashed.controller.queue.exit? = some (.crashed job message)) :
    (∃ call, cluster.controller.queue.phase = .running job call ∧ call.stage = .answering ∧
      call.ending = .crashes message) ∧
    crashed.controller.view = cluster.controller.view ∧
    ∀ more after, Onward crashed more after →
      after.controller.queue.exit? = some (.crashed job message) ∧
      (∀ next, ¬Step after .work next) ∧ after.requests = cluster.requests ∧
      (.beginShutdown ∉ deeds ++ more → after.controller.roster =
        cluster.controller.roster.performAll ((more.filterMap Deed.word?).map Word.operation)) ∧
      (∃ tasks, created (deeds ++ .work :: more) = created deeds ++ tasks ∧
        after.queueRecords = cluster.queueRecords ++ tasks.map .changeDropped ∧
        ∀ task ∈ tasks, after.queueRecords.count (.changeDropped task) = 1 ∧
          (Notice.changeDropped task).level = .warning ∧
          ∀ name, (Notice.changeDropped task).text name =
            "Replica set is shut down. Dropping " ++ task.describe name ++ ".") ∧
      (.endShutdown ∉ more → after.controller.bulletin = cluster.controller.bulletin ∧
        after.crashReports = []) ∧
      (.endShutdown ∈ more → after.crashReports = [message]) ∧
      (after.controller.held = true → ∃ begun finished,
        Step after .beginShutdown begun ∧ Step begun .endShutdown finished ∧
        finished.controller.bulletin.latest = ⟨.stopped, false⟩ ∧
        finished.crashReports = [message]) := by
  have further : Run (deeds ++ [.work]) crashed := run.next (.work worked)
  obtain ⟨left, call, running, waited, ending⟩ := work?_crashed worked ended
  have controller : crashed.controller =
      { cluster.controller with queue := cluster.controller.queue.exitWith (.crashed job message) } :=
    left ▸ leave_controller cluster _
  have roster : crashed.controller.roster = cluster.controller.roster := by rw [controller]
  have bulletin : crashed.controller.bulletin = cluster.controller.bulletin := by rw [controller]
  have requests : crashed.requests = cluster.requests := left ▸ (silent_leave cluster _).requests_eq
  have records : crashed.queueRecords = cluster.queueRecords :=
    left ▸ (queueRecords_leave cluster _).trans (List.append_nil _)
  have creates : created (deeds ++ [.work]) = created deeds :=
    (run.created_next .work).trans (List.append_nil _)
  have founded : crashed.controller.roster.founded = true := roster ▸ run.founded_of_running running
  have unreturned : .endShutdown ∉ deeds := by
    intro returned
    obtain ⟨exit, gone⟩ := run.exit_of_endShutdown returned
    cases (work?_works worked).alive.symm.trans gone
  refine ⟨⟨call, running, waited, ending⟩, by rw [controller]; rfl, fun more after onward => ?_⟩
  have whole := further.onward onward
  obtain ⟨-, still⟩ := onward.exit_eq ended
  have whole_eq : deeds ++ [.work] ++ more = deeds ++ .work :: more := by simp
  refine ⟨still, fun next step => (step.exit_eq still).1 rfl,
    (onward.requests_eq ended).trans requests, ?_, ?_, ?_, ?_, whole.shutdown_completes still⟩
  · intro isOpen
    rw [← roster]
    exact further.onward_roster ended onward (by simpa using isOpen)
  · obtain ⟨tasks, creation, written⟩ := further.onward_dropped ended onward
    refine ⟨tasks, by rw [← whole_eq, creation, creates], records ▸ written, fun task new => ?_⟩
    exact ⟨further.dropped_once creation written new, rfl, fun name => rfl⟩
  · intro stays
    refine ⟨(further.onward_bulletin founded ended onward stays).1.trans bulletin, ?_⟩
    exact whole.crashReports_eq.1 (by simp [stays, unreturned])
  · intro returned
    rw [whole.crashReports_eq.2 (List.mem_append_right _ returned), Queue.crash?, still,
      Option.toList_some]

/-- A set is founded on the first of its members, and the next request breaks down. -/
def frail : Site :=
  { readily with plan := [{}, { ending := .crashes "out of order" }] }

/-- The second member is being added. -/
def doomed : Cluster :=
  let founded := Clockwork.settle ((create "rs" tireless frail).memberUp ⟨"a", .standIn 0⟩)
  Clockwork.run 2 (founded.memberUp ⟨"b", .standIn 1⟩)

theorem doomed_run : ∃ deeds, .beginShutdown ∉ deeds ∧ Run deeds doomed := by
  have named : Text.isBlank "rs" = false := by decide
  have new := Run.start (fresh_create named tireless frail)
  obtain ⟨moves, founded⟩ := (new.next (.up rfl ⟨"a", .standIn 0⟩)).settle
  obtain ⟨more, run⟩ := (founded.next (.up (by decide) ⟨"b", .standIn 1⟩)).work 2
  exact ⟨_, by simp, run⟩

/-- The worker is gone. -/
def bereft : Cluster :=
  doomed.leave (.crashed ⟨.join ⟨1, ⟨"b", .standIn 1⟩⟩, 0⟩ "out of order")

/-- The second member goes down after that, and a shutdown follows. -/
theorem crash_survived_bereft :
    ∃ deeds after begun finished, Run deeds doomed ∧ doomed.work? = some bereft ∧
      bereft.controller.queue.exit? =
        some (.crashed ⟨.join ⟨1, ⟨"b", .standIn 1⟩⟩, 0⟩ "out of order") ∧
      Step bereft (.down ⟨"b", .standIn 1⟩) after ∧
      after.controller.roster.members = [⟨0, ⟨"a", .standIn 0⟩⟩] ∧
      after.queueRecords.count (.changeDropped (.leave ⟨1, ⟨"b", .standIn 1⟩⟩)) = 1 ∧
      Step after .beginShutdown begun ∧ Step begun .endShutdown finished ∧
      finished.crashReports = ["out of order"] := by
  obtain ⟨deeds, isOpen, run⟩ := doomed_run
  have worked : doomed.work? = some bereft := rfl
  have down : Step bereft (.down ⟨"b", .standIn 1⟩) _ := .down (by decide) _
  obtain ⟨-, -, later⟩ := run.crash_survived worked rfl
  obtain ⟨-, -, -, roster, ⟨tasks, -, written, once⟩, -, -, shutdown⟩ := later _ _ (.next .rest down)
  obtain ⟨begun, finished, first, second, -, reports⟩ := shutdown (by decide)
  have told : .changeDropped (.leave ⟨1, ⟨"b", .standIn 1⟩⟩) ∈
      (bereft.memberDown ⟨"b", .standIn 1⟩).queueRecords := by decide
  have untold : .changeDropped (.leave ⟨1, ⟨"b", .standIn 1⟩⟩) ∉ doomed.queueRecords := by decide
  have dropped : .leave ⟨1, ⟨"b", .standIn 1⟩⟩ ∈ tasks := by
    rw [written, List.mem_append] at told
    simpa using told.resolve_left untold
  refine ⟨deeds, _, begun, finished, run, worked, rfl, down, ?_, (once _ dropped).1, first, second,
    reports⟩
  rw [roster (by simp [isOpen])]
  decide

end Simulation.Cluster

end ReplicaSet
