import ReplicaSet.Proofs.CallRuns
import ReplicaSet.Proofs.Requests

/-!
The end of a set. Once the worker is told to stop no run begins any more and no answer is heard any
more, and once a shutdown has returned nothing but its surroundings changes.
-/
namespace ReplicaSet

theorem Roster.close_closed {roster : Roster} (closed : roster.closed = true) :
    roster.close = roster := by
  obtain ⟨members, primaryKey, founded, nextId, shut⟩ := roster
  cases closed
  rfl

namespace Queue

theorem stop_tellToStop {τ ρ : Type} {queue : Queue WakeHeap τ ρ} {told : StopCause}
    (stop : queue.stop = some told) (cause : StopCause) :
    (queue.tellToStop cause).stop = some told := by
  simp [tellToStop, stop]

end Queue

namespace Simulation.Cluster

variable {cluster after next : Cluster} {deed : Deed} {deeds more : List Deed} {job : Job Change}
  {call : Call} {cause : StopCause}

/-! ### A worker that was told to stop -/

/-- Why a worker is to stop does not change. -/
theorem Step.told (step : Step cluster deed after)
    (told : cluster.controller.queue.stop = some cause) :
    after.controller.queue.stop = some cause := by
  have shift := step.shift
  generalize after.controller.roster = roster, after.controller.queue = queue at shift ⊢
  cases shift with
  | keep | follow | goOn => exact told
  | close | letGo => exact Queue.stop_tellToStop told _
  | enrol | dismiss => exact (Queue.offered_frame _ _).2.2.trans told
  | work _ works => exact works.frame.2.trans told

theorem Run.told (run : Run deeds cluster) (ended : .beginShutdown ∈ deeds ∨ .letGo ∈ deeds) :
    ∃ cause, cluster.controller.queue.stop = some cause := by
  have tells (queue : Queue Queue.WakeHeap Change Call) (cause : StopCause) :
      ∃ told, (queue.tellToStop cause).stop = some told := by
    cases stop : queue.stop with
    | none => exact ⟨cause, by simp [Queue.tellToStop, stop]⟩
    | some told => exact ⟨told, Queue.stop_tellToStop stop cause⟩
  have kept {before : Cluster} {deed : Deed} {after : Cluster} :
      (∃ cause, before.controller.queue.stop = some cause) → Step before deed after →
        ∃ cause, after.controller.queue.stop = some cause := by
    rintro ⟨cause, told⟩ step
    exact ⟨cause, step.told told⟩
  rcases ended with shut | letGo
  · refine run.since (fun _ step => ?_) kept shut
    cases step
    exact tells _ _
  · refine run.since (fun _ step => ?_) kept letGo
    cases step
    exact tells _ _

theorem begins_nothing (told : cluster.controller.queue.stop = some cause) (time : Nat)
    (job : Job Change) (queue : Queue Queue.WakeHeap Change Call) :
    cluster.controller.queue.turn time ≠ .start job queue := by
  intro started
  cases (Queue.turn_start started).2.1.symm.trans told

theorem Step.calls_nothing (step : Step cluster deed after)
    (told : cluster.controller.queue.stop = some cause) (time : Nat) (via : Handle)
    (request : Request) : ⟨time, .called via request⟩ ∉ cluster.news after := by
  intro called
  obtain ⟨job, queue, -, -, -, -, started, -⟩ := step.called called
  exact begins_nothing told _ job queue started

/-- A worker that was told to stop, and that is not just hearing an answer. -/
structure Halting (cause : StopCause) (cluster : Cluster) : Prop where
  told : cluster.controller.queue.stop = some cause
  waits : ∀ job call, cluster.controller.queue.phase = .running job call → call.stage ≠ .answering

/-- Such a worker does nothing but move tasks in its queue, or it comes to its end. -/
theorem Halting.work (halting : cluster.Halting cause) (worked : cluster.work? = some next) :
    (∃ queue, next = cluster.withQueue queue ∧ ∀ job call, queue.phase ≠ .running job call) ∨
      ∃ queue exit, next = (cluster.withQueue queue).leave exit := by
  rcases work?_cases worked with ⟨job, call, running, wentOn⟩ | ⟨queue, moved, rfl⟩ |
    ⟨job, queue, started, -⟩ | ⟨exit, queue, left, rfl⟩
  · have waits := halting.waits job call running
    cases goes_goOn? wentOn with
    | hears waited | crashes waited => exact absurd waited waits
    | stops => exact .inr ⟨cluster.controller.queue, _, rfl⟩
    | resumes _ untold => cases untold.symm.trans halting.told
  · refine .inl ⟨queue, rfl, ?_⟩
    rcases Queue.turn_move moved with ⟨-, -, -, rfl⟩ | ⟨-, _, _, -, rfl⟩ | ⟨-, -, rfl⟩ <;> simp
  · exact absurd started (begins_nothing halting.told _ job queue)
  · exact .inr ⟨queue, exit, rfl⟩

theorem Halting.work_frame (halting : cluster.Halting cause) (worked : cluster.work? = some next) :
    next.controller.roster = cluster.controller.roster ∧
      next.controller.bulletin = cluster.controller.bulletin ∧ next.site = cluster.site := by
  rcases halting.work worked with ⟨queue, rfl, -⟩ | ⟨queue, exit, rfl⟩
  · exact ⟨rfl, rfl, rfl⟩
  · rw [leave_controller, leave_site]
    exact ⟨rfl, rfl, rfl⟩

theorem Halting.step (halting : cluster.Halting cause) (step : Step cluster deed after) :
    after.Halting cause := by
  refine ⟨step.told halting.told, fun job call running => ?_⟩
  by_cases outside : deed = .work
  · cases step <;> cases outside
    rename_i worked
    rcases halting.work worked with ⟨queue, rfl, idle⟩ | ⟨queue, exit, rfl⟩
    · exact absurd running (idle job call)
    · simp only [leave_controller, Queue.exitWith] at running
      cases running
  · have meddles := step.meddles outside
    generalize after.controller.queue.phase = phase at meddles running
    cases meddles with
    | keep => exact halting.waits job call running
    | @release _ earlier before =>
      cases running
      have waits := halting.waits job earlier before
      cases stage : earlier.stage with
      | answering => exact absurd stage waits
      | sleeping | atGate => simp [CallStage.release]
    | interject before answering => exact absurd answering (halting.waits _ _ before)

/-- No answer is heard, neither at once nor later. -/
theorem Halting.hears_nothing (halting : cluster.Halting cause) (change : Change)
    (request : Request) (answer : StoreAnswer) (next : Cluster) :
    ¬ cluster.Hears change request answer next := by
  intro hears
  cases hears with
  | atOnce started => exact begins_nothing halting.told _ _ _ started
  | later running waited => exact halting.waits _ _ running waited

theorem Halting.onward (halting : cluster.Halting cause) (onward : Onward cluster more after) :
    after.Halting cause := by
  induction onward with
  | rest => exact halting
  | next _ step ih => exact ih.step step

/-- A request that waits when the worker is told to stop is abandoned in the next move, whether or
not it could go on by then. -/
theorem Halting.abandons (halting : cluster.Halting cause)
    (running : cluster.controller.queue.phase = .running job call) :
    cluster.work? = some (cluster.leave (.stopped cause (some job))) := by
  have waits := halting.waits job call running
  have stops : cluster.goOn? job call = some (cluster.leave (.stopped cause (some job))) := by
    unfold goOn?
    rw [halting.told]
    cases stage : call.stage with
    | answering => exact absurd stage waits
    | sleeping | atGate => rfl
  simp [work?, running, stops]

/-- It goes on waiting until it is abandoned. -/
theorem Halting.onward_running (halting : cluster.Halting cause)
    (running : cluster.controller.queue.phase = .running job call)
    (onward : Onward cluster more after) :
    (∃ later, after.controller.queue.phase = .running job later) ∨
      after.controller.queue.exit? = some (.stopped cause (some job)) := by
  induction onward with
  | rest => exact .inl ⟨call, running⟩
  | @next more middle deed after onward step ih =>
    have halts := halting.onward onward
    by_cases outside : deed = .work
    · cases step <;> cases outside
      rename_i worked
      rcases ih with ⟨later, still⟩ | ended
      · rw [halts.abandons still] at worked
        cases worked
        exact .inr (by simp [Queue.exit?, Queue.exitWith])
      · have alive := (work?_works worked).alive
        cases alive.symm.trans ended
    · have meddles := step.meddles outside
      generalize phase' : after.controller.queue.phase = phase at meddles
      cases meddles with
      | keep => simpa [Queue.exit?, phase'] using ih
      | release before | interject before =>
        rcases ih with ⟨later, still⟩ | ended
        · cases still.symm.trans before
          exact .inl ⟨_, rfl⟩
        · simp [Queue.exit?, before] at ended

/-! ### After a shutdown -/

/-- A shutdown has returned. -/
structure Over (cause : StopCause) (cluster : Cluster) : Prop extends Halting cause cluster where
  closed : cluster.controller.roster.closed = true
  stopped : cluster.controller.bulletin.latest = ⟨.stopped, false⟩

/-- Word from the members. -/
inductive Deed.IsWord : Deed → Prop
  | up (handle : Handle) : IsWord (.up handle)
  | down (handle : Handle) : IsWord (.down handle)
  | signal (handle : Handle) (isPrimary : Bool) : IsWord (.signal handle isPrimary)

/-- Word from the members changes nothing when membership is frozen. -/
theorem Step.word_ignored (step : Step cluster deed after) (word : Deed.IsWord deed)
    (closed : cluster.controller.roster.closed = true) :
    after.controller = cluster.controller ∧ after.site = cluster.site := by
  cases word with
  | up handle =>
    cases step
    exact ⟨by simp [memberUp, Controller.memberUp, closed], adopt_site _ _⟩
  | down handle =>
    cases step
    exact ⟨by simp [memberDown, Controller.memberDown, closed], adopt_site _ _⟩
  | signal handle isPrimary =>
    cases step
    exact ⟨by simp [primarySignal, Controller.primarySignal, closed], adopt_site _ _⟩

theorem Over.step (ended : cluster.Over cause) (step : Step cluster deed after) :
    after.Over cause ∧ after.controller.roster = cluster.controller.roster := by
  have halting := ended.toHalting.step step
  have kept (same : after.controller.roster = cluster.controller.roster)
      (stopped : after.controller.bulletin.latest = ⟨.stopped, false⟩) :
      after.Over cause ∧ after.controller.roster = cluster.controller.roster :=
    ⟨⟨halting, same ▸ ended.closed, stopped⟩, same⟩
  have untouched (same : after.controller = cluster.controller) :
      after.Over cause ∧ after.controller.roster = cluster.controller.roster :=
    kept (same ▸ rfl) (same ▸ ended.stopped)
  cases step with
  | up held handle => exact untouched ((Step.up held handle).word_ignored (.up handle) ended.closed).1
  | down held handle =>
    exact untouched ((Step.down held handle).word_ignored (.down handle) ended.closed).1
  | signal held handle isPrimary =>
    exact untouched
      ((Step.signal held handle isPrimary).word_ignored (.signal handle isPrimary) ended.closed).1
  | peek | surround | wait => exact untouched rfl
  | release =>
    rcases cluster.release_cases with same | ⟨job, call, later, -, same⟩
    · exact untouched (congrArg controller same)
    · rw [same] at kept ⊢
      exact kept rfl ended.stopped
  | resize held desired => exact untouched (cluster.resize_frame desired).1
  | survey => exact untouched cluster.survey_frame.1
  | beginShutdown => exact kept (Roster.close_closed ended.closed) ended.stopped
  | endShutdown =>
    refine kept ?_ ?_
    · rw [endShutdown, adopt_controller]
      rfl
    · rw [endShutdown, adopt_controller]
      rfl
  | letGo => exact kept rfl ended.stopped
  | work worked =>
    obtain ⟨roster, bulletin, -⟩ := ended.toHalting.work_frame worked
    exact kept roster (bulletin ▸ ended.stopped)
  | interject interjected =>
    obtain ⟨job, call, later, running, rfl⟩ := interjection?_cases interjected
    exact kept rfl ended.stopped

theorem Over.onward (ended : cluster.Over cause) (onward : Onward cluster more after) :
    after.Over cause ∧ after.controller.roster = cluster.controller.roster := by
  induction onward with
  | rest => exact ⟨ended, rfl⟩
  | next _ step ih =>
    obtain ⟨still, same⟩ := ih.1.step step
    exact ⟨still, same.trans ih.2⟩

/-- A shutdown returns when the worker has exited, or at once if another one came first, though not
while an answer is heard. -/
inductive Returns (cluster : Cluster) : Cluster → Prop
  | ended {after : Cluster} (step : Step cluster .endShutdown after) : Returns cluster after
  | second (begun : cluster.controller.roster.closed = true)
      (waits : ∀ job call, cluster.controller.queue.phase = .running job call →
        call.stage ≠ .answering) : Returns cluster cluster.endShutdown

theorem Halting.endShutdown (halting : cluster.Halting cause)
    (begun : cluster.controller.roster.closed = true) : cluster.endShutdown.Over cause := by
  refine ⟨⟨?_, ?_⟩, ?_, ?_⟩ <;> rw [Cluster.endShutdown, adopt_controller]
  · exact halting.told
  · exact halting.waits
  · exact begun
  · rfl

theorem Returns.frame (returns : cluster.Returns after) :
    cluster.controller.roster.closed = true ∧ after = cluster.endShutdown ∧
      ∀ job call, cluster.controller.queue.phase = .running job call →
        call.stage ≠ .answering := by
  cases returns with
  | second begun waits => exact ⟨begun, rfl, waits⟩
  | ended step =>
    cases step with
    | endShutdown held begun exited =>
      refine ⟨begun, rfl, fun job call running => ?_⟩
      simp [Queue.exit?, running] at exited

theorem Run.over_of_returns (run : Run deeds cluster) (returns : cluster.Returns after) :
    ∃ cause, after.Over cause := by
  obtain ⟨begun, rfl, waits⟩ := returns.frame
  obtain ⟨cause, told⟩ := run.told (.inl (run.closed_iff.mp begun))
  exact ⟨cause, Halting.endShutdown ⟨told, waits⟩ begun⟩

/-- After a shutdown was begun or the last holder has let go, no run begins and no request is made
any more, and a request that waits is abandoned: in the next move of the worker, whether or not it
could go on by then, so that its answer is never heard. After a shutdown has returned, also one that
returned at once, no run begins, no answer is heard and no request is made, the roster stays as it
is and the status stays stopped, word from the members is ignored, and another shutdown changes
nothing but what was published. -/
theorem Run.shutdown_final (run : Run deeds cluster) :
    (.beginShutdown ∈ deeds ∨ .letGo ∈ deeds →
      (∀ job queue, cluster.controller.queue.turn cluster.now ≠ .start job queue) ∧
      (∀ deed after, Step cluster deed after →
        ∀ time via request, ⟨time, .called via request⟩ ∉ cluster.news after) ∧
      ∀ job call, cluster.controller.queue.phase = .running job call → call.stage ≠ .answering →
        ∃ cause, cluster.work? = some (cluster.leave (.stopped cause (some job))) ∧
          (cluster.leave (.stopped cause (some job))).controller.view = cluster.controller.view ∧
          (cluster.leave (.stopped cause (some job))).site = cluster.site ∧
          ∀ more after, Onward cluster more after →
            ((∃ later, after.controller.queue.phase = .running job later) ∨
              after.controller.queue.exit? = some (.stopped cause (some job))) ∧
            ∀ change request answer next, ¬ after.Hears change request answer next) ∧
    ∀ returned, cluster.Returns returned → ∀ more after, Onward returned more after →
      (∀ job queue, after.controller.queue.turn after.now ≠ .start job queue) ∧
      (∀ change request answer next, ¬ after.Hears change request answer next) ∧
      after.controller.roster = returned.controller.roster ∧
      after.controller.bulletin.latest = ⟨.stopped, false⟩ ∧
      ∀ deed later, Step after deed later →
        (∀ time via request, ⟨time, .called via request⟩ ∉ after.news later) ∧
        (Deed.IsWord deed → later.controller = after.controller ∧ later.site = after.site) ∧
        (deed = .beginShutdown ∨ deed = .endShutdown →
          later.controller.view = after.controller.view ∧ later.site = after.site) := by
  refine ⟨fun ended => ⟨?_, ?_, ?_⟩, ?_⟩
  · obtain ⟨cause, told⟩ := run.told ended
    exact begins_nothing told _
  · intro deed after step
    obtain ⟨cause, told⟩ := run.told ended
    exact step.calls_nothing told
  · intro job call running waits
    obtain ⟨cause, told⟩ := run.told ended
    have halting : cluster.Halting cause := by
      refine ⟨told, fun other otherCall alsoRunning => ?_⟩
      cases alsoRunning.symm.trans running
      exact waits
    refine ⟨cause, halting.abandons running, ?_, leave_site _ _, fun more after onward => ?_⟩
    · rw [leave_controller]
      rfl
    · exact ⟨halting.onward_running running onward, (halting.onward onward).hears_nothing⟩
  · intro returned returns more after onward
    obtain ⟨cause, ended⟩ := run.over_of_returns returns
    obtain ⟨still, same⟩ := ended.onward onward
    refine ⟨begins_nothing still.told _, still.hears_nothing, same, still.stopped,
      fun deed later step => ⟨step.calls_nothing still.told, fun word => ?_, ?_⟩⟩
    · exact step.word_ignored word still.closed
    · obtain ⟨afterwards, sameRoster⟩ := still.step step
      have view : later.controller.view = after.controller.view := by
        simp only [Controller.view, sameRoster, afterwards.stopped, still.stopped]
      rintro (rfl | rfl)
      · cases step
        exact ⟨view, rfl⟩
      · cases step
        exact ⟨view, adopt_site _ _⟩

/-- The one member takes its time to answer. -/
def unhurried : Site where
  standIns := [⟨⟨true, .unknown, none, none⟩, false⟩]
  plan := [{ delay := some 5 }]
  scaler := ⟨1, none⟩

/-- A shutdown was begun while the set was being founded. -/
def interrupted : Cluster :=
  beginShutdown (Clockwork.settle ((create "rs" tireless unhurried).memberUp ⟨"a", .standIn 0⟩))

theorem interrupted_run : ∃ deeds, .beginShutdown ∈ deeds ∧ Run deeds interrupted := by
  have named : Text.isBlank "rs" = false := by decide
  have new := Run.start (fresh_create named tireless unhurried)
  obtain ⟨moves, founding⟩ := (new.next (.up rfl ⟨"a", .standIn 0⟩)).settle
  exact ⟨_, by simp, founding.next (.beginShutdown (by decide))⟩

/-- The worker has noticed it. -/
def abandoned : Cluster :=
  interrupted.leave (.stopped .requested (some ⟨.found ⟨0, ⟨"a", .standIn 0⟩⟩, 0⟩))

/-- However long the worker takes to notice, the answer is never heard, and when the shutdown has
returned the member stays tracked for good. -/
theorem shutdown_final_interrupted :
    ∃ deeds call, Run deeds interrupted ∧
      interrupted.controller.queue.phase = .running ⟨.found ⟨0, ⟨"a", .standIn 0⟩⟩, 0⟩ call ∧
      call.stage ≠ .answering ∧
      (∀ more after, Onward interrupted more after →
        ∀ change request answer next, ¬ after.Hears change request answer next) ∧
      Run (deeds ++ [.work]) abandoned ∧ abandoned.Returns abandoned.endShutdown ∧
      ∀ more after, Onward abandoned.endShutdown more after →
        (∀ job queue, after.controller.queue.turn after.now ≠ .start job queue) ∧
        (∀ change request answer next, ¬ after.Hears change request answer next) ∧
        after.controller.roster.members = [⟨0, ⟨"a", .standIn 0⟩⟩] ∧
        after.controller.bulletin.latest = ⟨.stopped, false⟩ := by
  obtain ⟨deeds, ended, run⟩ := interrupted_run
  obtain ⟨call, running, waits⟩ : ∃ call, interrupted.controller.queue.phase =
      .running ⟨.found ⟨0, ⟨"a", .standIn 0⟩⟩, 0⟩ call ∧ call.stage ≠ .answering :=
    ⟨_, rfl, by decide⟩
  obtain ⟨-, -, waiting⟩ := run.shutdown_final.1 (.inl ended)
  obtain ⟨cause, -, -, -, later⟩ := waiting _ call running waits
  have further : Run (deeds ++ [.work]) abandoned := run.next (.work rfl)
  have returns : abandoned.Returns abandoned.endShutdown :=
    .ended (.endShutdown (by decide) (by decide) (by decide))
  refine ⟨deeds, call, run, running, waits, fun more after onward => (later more after onward).2,
    further, returns, fun more after onward => ?_⟩
  obtain ⟨begins, hears, roster, stopped, -⟩ :=
    further.shutdown_final.2 _ returns more after onward
  exact ⟨begins, hears, congrArg Roster.members roster, stopped⟩

end Simulation.Cluster

end ReplicaSet
