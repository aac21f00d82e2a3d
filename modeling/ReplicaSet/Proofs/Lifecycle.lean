import ReplicaSet.Proofs.Announcements
import ReplicaSet.Proofs.Shutdown

/-!
The statuses of a set in the course of its life. Word from outside and the worker both publish, and
a shutdown can come at any time, also a second one while the first still waits for the worker.
-/
namespace ReplicaSet

/-- What can have been published of a set as long as no shutdown has returned. -/
inductive Course : List Status → Prop
  | empty : Course [⟨.empty, false⟩]
  | founding : Course [⟨.empty, false⟩, ⟨.bootstrapping, false⟩]
  | founded : Course [⟨.empty, false⟩, ⟨.bootstrapping, false⟩, ⟨.stable, true⟩]
  | failed : Course [⟨.empty, false⟩, ⟨.bootstrapping, false⟩, ⟨.degraded, false⟩]

/-- A course and, after it, nothing but that the set is stopped. -/
def Orderly (history : List Status) : Prop :=
  ∃ course stops, Course course ∧ history = course ++ List.replicate stops ⟨.stopped, false⟩

theorem Course.orderly {history : List Status} (course : Course history) : Orderly history :=
  ⟨history, 0, course, (List.append_nil history).symm⟩

theorem Orderly.stop {history : List Status} (orderly : Orderly history) :
    Orderly (history ++ [⟨.stopped, false⟩]) := by
  obtain ⟨course, stops, isCourse, rfl⟩ := orderly
  refine ⟨course, stops + 1, isCourse, ?_⟩
  rw [List.append_assoc, List.replicate_succ']

/-- Clients are served in the one stage in which the set is founded and runs. -/
theorem Orderly.serviceUp {history : List Status} (orderly : Orderly history) {status : Status}
    (told : status ∈ history) : status.serviceUp = true ↔ status.stage = .stable := by
  obtain ⟨course, stops, isCourse, rfl⟩ := orderly
  rcases List.mem_append.mp told with before | after
  · have one : ∀ status ∈ course, status.serviceUp = true ↔ status.stage = .stable := by
      cases isCourse <;> decide
    exact one status before
  · rw [List.eq_of_mem_replicate after]
    decide

/-- What is published on the answer to the request to found a set. -/
def verdict : StoreAnswer → Status
  | .ok () => ⟨.stable, true⟩
  | .error _ => ⟨.degraded, false⟩

theorem course_verdict (answer : StoreAnswer) :
    Course [⟨.empty, false⟩, ⟨.bootstrapping, false⟩, verdict answer] := by
  cases answer with
  | ok => exact .founded
  | error => exact .failed

theorem Bulletin.latest_of_history {bulletin : Bulletin} {status : Status} (earlier : List Status)
    (history : bulletin.history = earlier ++ [status]) : bulletin.latest = status := by
  have ends : bulletin.earlier.reverse ++ [bulletin.latest] = earlier ++ [status] := by
    rw [← history, Bulletin.history, List.reverse_cons]
  exact (List.append_inj' ends rfl).2 |> List.singleton_injective

namespace Simulation

theorem firstAdmitted?_gained {deeds : List Deed} {deed : Deed}
    (nobody : firstAdmitted? deeds = none)
    (somebody : (firstAdmitted? (deeds ++ [deed])).isSome = true) :
    .beginShutdown ∉ deeds ∧ ∃ handle, deed = .up handle := by
  by_cases shut : .beginShutdown ∈ deeds
  · rw [firstAdmitted?_append_of_shut nobody shut] at somebody
    cases somebody
  · refine ⟨shut, ?_⟩
    by_contra other
    rw [firstAdmitted?_append_of_open nobody shut,
      firstAdmitted?_single fun handle same => other ⟨handle, same⟩] at somebody
    cases somebody

namespace Cluster

variable {cluster after next : Cluster} {deed : Deed} {deeds : List Deed} {founder : Member}
  {request : Request} {answer : StoreAnswer} {published : Option Status}

/-- What can happen: any deed, and that a shutdown returns which has not waited for the worker
because another one does. -/
inductive Happens (cluster : Cluster) : Deed → Cluster → Prop
  | step {deed : Deed} {after : Cluster} (step : Step cluster deed after) :
      Happens cluster deed after
  | returns {after : Cluster} (returns : cluster.Returns after) : Happens cluster .endShutdown after

/-- What becomes of a new controller in some surroundings, whatever happens. -/
inductive Life : List Deed → Cluster → Prop
  | start {cluster : Cluster} (fresh : cluster.Fresh) : Life [] cluster
  | next {deeds : List Deed} {cluster : Cluster} {deed : Deed} {after : Cluster}
      (life : Life deeds cluster) (happens : cluster.Happens deed after) :
      Life (deeds ++ [deed]) after

theorem Run.life (run : Run deeds cluster) : Life deeds cluster := by
  induction run with
  | start fresh => exact .start fresh
  | next _ step ih => exact ih.next (.step step)

/-! ### Who founds a set -/

theorem Step.founded_eq (step : Step cluster deed after) (other : ∀ handle, deed ≠ .up handle) :
    after.controller.roster.founded = cluster.controller.roster.founded := by
  have shift := step.shift
  generalize after.controller.roster = roster, after.controller.queue = queue at shift ⊢
  cases shift with
  | keep | close | letGo | goOn => rfl
  | follow key => exact (Roster.follow_frame _ key).2.2.1
  | enrol told => exact absurd told (other _)
  | dismiss dismissed => exact (Roster.dismiss?_frame dismissed).2.2.2.1
  | work _ _ same =>
    rcases same with rfl | ⟨key, rfl⟩
    · rfl
    · exact (Roster.follow_frame _ key).2.2.1

/-- A set is founded by an admission, and by nothing else. -/
theorem Step.founded (step : Step cluster deed after) (sound : cluster.controller.roster.Sound) :
    after.controller.roster.founded = true ↔ cluster.controller.roster.founded = true ∨
      cluster.controller.roster.closed = false ∧ ∃ handle, deed = .up handle := by
  by_cases entry : ∃ handle, deed = .up handle
  · obtain ⟨handle, rfl⟩ := entry
    cases closed : cluster.controller.roster.closed with
    | true =>
      rw [(step.word_ignored (.up handle) closed).1]
      simp
    | false =>
      cases step with
      | up held =>
        have told : (cluster.memberUp handle).controller = (cluster.controller.memberUp handle).2 :=
          adopt_controller _ _
        refine iff_of_true ?_ (.inr ⟨rfl, handle, rfl⟩)
        cases tracked : cluster.controller.roster.tracks handle.key with
        | true =>
          have founded : cluster.controller.roster.founded = true := by
            by_contra unfounded
            have nobody := sound.new_of_unfounded (Bool.eq_false_iff.mpr unfounded) handle.key
            cases tracked.symm.trans nobody.2
          rw [told]
          rcases cluster.controller.memberUp_cases handle with same | ⟨-, new⟩
          · rw [same, founded]
          · cases tracked.symm.trans new
        | false => rw [told, (Controller.memberUp_new closed tracked).1, Roster.enrol_new tracked]
  · simp [step.founded_eq fun handle same => entry ⟨handle, same⟩, entry]

theorem Run.founded_iff (run : Run deeds cluster) :
    cluster.controller.roster.founded = true ↔ (firstAdmitted? deeds).isSome = true := by
  induction run with
  | start fresh =>
    obtain ⟨name, settings, same⟩ := fresh.controller_eq
    simp [same, firstAdmitted?]
  | @next deeds cluster deed after run step ih =>
    rw [step.founded run.accounted.sound, ih]
    cases admitted : firstAdmitted? deeds with
    | some first => simp [firstAdmitted?_append_of_some admitted]
    | none =>
      have closed := run.closed_iff
      by_cases shut : .beginShutdown ∈ deeds
      · simp [firstAdmitted?_append_of_shut admitted shut, closed.mpr shut]
      · rw [firstAdmitted?_append_of_open admitted shut]
        have isOpen : cluster.controller.roster.closed = false :=
          Bool.eq_false_iff.mpr fun isClosed => shut (closed.mp isClosed)
        by_cases entry : ∃ handle, deed = .up handle
        · obtain ⟨handle, rfl⟩ := entry
          simp [isOpen, firstAdmitted?]
        · simp [entry, firstAdmitted?_single fun handle same => entry ⟨handle, same⟩]

/-! ### The founding task -/

/-- The task whose answer is heard was not finished before. -/
theorem Hears.unfinished {change : Change} (hears : cluster.Hears change request answer next) :
    change ∈ cluster.controller.queue.unfinished := by
  cases hears with
  | atOnce started => exact (Queue.unfinished_start started).mem_iff.mpr List.mem_cons_self
  | later running =>
    rw [Queue.unfinished_of_running running]
    exact List.mem_cons_self

theorem Hears.awake {change : Change} (hears : cluster.Hears change request answer next) :
    next.controller.queue.phase = .awake := by
  cases hears with
  | atOnce _ _ _ _ node =>
    rw [call_node node]
    exact answered_awake _ _ _ _
  | later => exact answered_awake _ _ _ _

theorem Run.founded_of_hears (run : Run deeds cluster)
    (hears : cluster.Hears (.found founder) request answer next) :
    cluster.controller.roster.founded = true := by
  cases run.founding with
  | ahead _ nothing =>
    have unfinished := hears.unfinished
    simp [nothing] at unfinished
  | lined _ founded => exact founded
  | never founded => exact founded
  | made _ founded => exact founded

/-- When the answer to the request to found the set was heard, there is no founding task left. -/
theorem Run.found_gone (run : Run deeds cluster)
    (hears : cluster.Hears (.found founder) request answer next) :
    ∀ member, .found member ∉ next.controller.queue.unfinished := by
  rw [Queue.unfinished_of_awake hears.awake]
  have founding := run.founding
  generalize Change.found founder = change at hears
  cases hears with
  | @atOnce job queue available asked via request answer started current asks ordered =>
    have starts : (cluster.withQueue queue).Starts job (asked.call job via request) :=
      .calls current asks ordered
    exact found_gone_starts starts (founding.first started)
  | @later job call answer running =>
    have alive : cluster.controller.queue.exit? = none := by simp [Queue.exit?, running]
    cases founding with
    | ahead _ nothing => simp [Queue.unfinished_of_running running] at nothing
    | lined _ _ idle => simp [running] at idle
    | never _ ended => simp [alive] at ended
    | made _ _ gone => exact found_gone_answered (gone alive)

/-- A set that is founded is given no other founding task. -/
theorem Step.found_gone (step : Step cluster deed after)
    (founded : cluster.controller.roster.founded = true)
    (gone : ∀ member, .found member ∉ cluster.controller.queue.unfinished) :
    ∀ member, .found member ∉ after.controller.queue.unfinished := by
  have offered {change : Change} (other : ∀ member, change ≠ .found member) :
      ∀ member, .found member ∉ ((cluster.controller.queue.submit? change).getD
        cluster.controller.queue).unfinished := by
    intro member waits
    rcases List.mem_append.mp ((Queue.unfinished_offered _ change).subset waits) with old | new
    · exact gone member old
    · exact other member (List.mem_singleton.mp new).symm
  have shift := step.shift
  generalize after.controller.roster = roster, after.controller.queue = queue at shift ⊢
  cases shift with
  | keep | follow | close | letGo => exact gone
  | enrol => exact offered fun member => by simp [Controller.entrance, founded]
  | dismiss => exact offered (by simp)
  | goOn running later =>
    rw [Queue.unfinished_goOn running later]
    exact gone
  | work _ works => exact fun member waits => gone member (works.unfinished_subperm.subset waits)

/-! ### What is published -/

/-- What is published when something happens, if anything is. -/
inductive Posts (cluster : Cluster) : Deed → Cluster → Option Status → Prop
  | nothing {deed : Deed} {after : Cluster} (step : Step cluster deed after)
      (other : deed ≠ .endShutdown)
      (founded : after.controller.roster.founded = cluster.controller.roster.founded)
      (bulletin : after.controller.bulletin = cluster.controller.bulletin) :
      Posts cluster deed after none
  | founder {handle : Handle} {after : Cluster} (step : Step cluster (.up handle) after)
      (isOpen : cluster.controller.roster.closed = false)
      (unfounded : cluster.controller.roster.founded = false)
      (founded : after.controller.roster.founded = true)
      (bulletin : after.controller.bulletin =
        cluster.controller.bulletin.publish .bootstrapping false) :
      Posts cluster (.up handle) after (some ⟨.bootstrapping, false⟩)
  | answer {founder : Member} {request : Request} {answer : StoreAnswer} {after : Cluster}
      (hears : cluster.Hears (.found founder) request answer after) :
      Posts cluster .work after (some (verdict answer))
  | stopped {after : Cluster} (returns : cluster.Returns after) :
      Posts cluster .endShutdown after (some ⟨.stopped, false⟩)

theorem Hears.history (hears : cluster.Hears (.found founder) request answer next) :
    next.controller.bulletin.history = cluster.controller.bulletin.history ++ [verdict answer] := by
  cases answer with
  | ok =>
    rw [hears.founded.2, Bulletin.history_publish]
    rfl
  | error cause =>
    rw [hears.unfounded.2, Bulletin.history_publish]
    rfl

theorem Posts.history (posts : cluster.Posts deed after published) :
    after.controller.bulletin.history =
      cluster.controller.bulletin.history ++ published.toList := by
  cases posts with
  | nothing _ _ _ bulletin => rw [bulletin, Option.toList_none, List.append_nil]
  | founder _ _ _ _ bulletin => rw [bulletin, Bulletin.history_publish, Option.toList_some]
  | answer hears => exact hears.history
  | stopped returns =>
    obtain ⟨-, rfl, -⟩ := returns.frame
    rw [endShutdown, adopt_controller]
    exact Bulletin.history_publish

theorem Posts.eq_of_history (posts : cluster.Posts deed after published) {status : Status}
    (history : after.controller.bulletin.history =
      cluster.controller.bulletin.history ++ [status]) : published = some status := by
  have same : published.toList = [status] :=
    List.append_cancel_left (posts.history.symm.trans history)
  cases published with
  | none => cases same
  | some other => exact congrArg some (List.singleton_injective same)

theorem memberUp_posts (held : cluster.controller.held = true) (handle : Handle)
    (blank : cluster.controller.roster.closed = false →
      cluster.controller.roster.founded = false →
      cluster.controller.bulletin.latest.stage = .empty) :
    ∃ published, cluster.Posts (.up handle) (cluster.memberUp handle) published := by
  have step : Step cluster (.up handle) (cluster.memberUp handle) := .up held handle
  have told : (cluster.memberUp handle).controller = (cluster.controller.memberUp handle).2 :=
    adopt_controller _ _
  rcases cluster.controller.memberUp_cases handle with same | ⟨isOpen, new⟩
  · exact ⟨none, .nothing step (by simp) (by rw [told, same]) (by rw [told, same])⟩
  · have roster : (cluster.memberUp handle).controller.roster.founded = true := by
      rw [told, (Controller.memberUp_new isOpen new).1, Roster.enrol_new new]
    cases founded : cluster.controller.roster.founded with
    | true =>
      refine ⟨none, .nothing step (by simp) (roster.trans founded.symm) ?_⟩
      rw [told]
      simp [Controller.memberUp, isOpen, Roster.enrol_new new, founded, Controller.schedule_frame]
    | false =>
      refine ⟨_, .founder step isOpen founded roster ?_⟩
      rw [told]
      simp [Controller.memberUp, isOpen, Roster.enrol_new new, founded, Controller.schedule_frame,
        blank isOpen founded, Controller.publish]

theorem Happens.posts (happens : cluster.Happens deed after)
    (blank : cluster.controller.roster.closed = false →
      cluster.controller.roster.founded = false →
      cluster.controller.bulletin.latest.stage = .empty) :
    ∃ published, cluster.Posts deed after published := by
  cases happens with
  | returns returns => exact ⟨_, .stopped returns⟩
  | step step =>
    have quiet (other : deed ≠ .endShutdown) (entry : ∀ handle, deed ≠ .up handle)
        (bulletin : after.controller.bulletin = cluster.controller.bulletin) :
        ∃ published, cluster.Posts deed after published :=
      ⟨none, .nothing step other (step.founded_eq entry) bulletin⟩
    by_cases aside : deed.isAside = true
    · refine quiet ?_ ?_ (step.aside aside).2
      · rintro rfl
        cases aside
      · rintro handle rfl
        cases aside
    · cases step with
      | up held handle => exact memberUp_posts held handle blank
      | down held handle =>
        refine quiet (by simp) (by simp) ?_
        rw [memberDown, adopt_controller]
        rcases cluster.controller.memberDown_cases handle.key with same | ⟨_, _, _, -, same⟩ <;>
          rw [same]
      | signal held handle isPrimary =>
        refine quiet (by simp) (by simp) ?_
        rw [primarySignal, adopt_controller]
        rcases cluster.controller.primarySignal_frame handle.key isPrimary with same | same <;>
          rw [same]
      | beginShutdown => exact quiet (by simp) (by simp) rfl
      | endShutdown held begun ended => exact ⟨_, .stopped (.ended (.endShutdown held begun ended))⟩
      | work worked =>
        rcases work?_quiet worked with ⟨-, bulletin⟩ | ⟨founder, request, answer, hears⟩
        · exact quiet (by simp) (by simp) bulletin
        · exact ⟨_, .answer hears⟩
      | _ => exact absurd rfl aside

/-! ### The course of a life -/

/-- How far the life of a set has come. -/
inductive Lived (deeds : List Deed) (cluster : Cluster) : Prop
  | unfounded (run : Run deeds cluster)
      (unfounded : cluster.controller.roster.founded = false)
      (history : cluster.controller.bulletin.history = [⟨.empty, false⟩])
  | founding (run : Run deeds cluster) (founded : cluster.controller.roster.founded = true)
      (history : cluster.controller.bulletin.history = [⟨.empty, false⟩, ⟨.bootstrapping, false⟩])
  | judged {answer : StoreAnswer} (run : Run deeds cluster)
      (founded : cluster.controller.roster.founded = true)
      (gone : ∀ member, .found member ∉ cluster.controller.queue.unfinished)
      (history : cluster.controller.bulletin.history =
        [⟨.empty, false⟩, ⟨.bootstrapping, false⟩, verdict answer])
  /-- A shutdown has returned. -/
  | stopped {cause : StopCause} (shut : .beginShutdown ∈ deeds) (ended : cluster.Over cause)
      (orderly : Orderly cluster.controller.bulletin.history)

namespace Lived

theorem orderly (lived : Lived deeds cluster) : Orderly cluster.controller.bulletin.history := by
  cases lived with
  | unfounded _ _ history => exact history ▸ Course.empty.orderly
  | founding _ _ history => exact history ▸ Course.founding.orderly
  | judged _ _ _ history => exact history ▸ (course_verdict _).orderly
  | stopped _ _ orderly => exact orderly

theorem blank (lived : Lived deeds cluster) (isOpen : cluster.controller.roster.closed = false)
    (unfounded : cluster.controller.roster.founded = false) :
    cluster.controller.bulletin.latest.stage = .empty := by
  cases lived with
  | unfounded _ _ history => rw [Bulletin.latest_of_history [] history]
  | founding _ founded => cases founded.symm.trans unfounded
  | judged _ founded => cases founded.symm.trans unfounded
  | stopped _ ended => cases ended.closed.symm.trans isOpen

theorem run (lived : Lived deeds cluster) (isOpen : cluster.controller.roster.closed = false) :
    Run deeds cluster := by
  cases lived with
  | unfounded run | founding run | judged run => exact run
  | stopped _ ended => cases ended.closed.symm.trans isOpen

theorem returned (lived : Lived deeds cluster) (returns : cluster.Returns after) :
    .beginShutdown ∈ deeds ∧ ∃ cause, after.Over cause := by
  have closed := returns.frame.1
  cases lived with
  | unfounded run | founding run | judged run =>
    exact ⟨run.closed_iff.mp closed, run.over_of_returns returns⟩
  | stopped shut ended =>
    obtain ⟨-, rfl, -⟩ := returns.frame
    exact ⟨shut, _, ended.toHalting.endShutdown closed⟩

theorem onward (lived : Lived deeds cluster) (posts : cluster.Posts deed after published) :
    Lived (deeds ++ [deed]) after := by
  have history := posts.history
  cases posts with
  | nothing step _ founded bulletin =>
    cases lived with
    | unfounded run unfounded told =>
      exact .unfounded (run.next step) (founded.trans unfounded) (bulletin ▸ told)
    | founding run isFounded told =>
      exact .founding (run.next step) (founded.trans isFounded) (bulletin ▸ told)
    | judged run isFounded gone told =>
      exact .judged (run.next step) (founded.trans isFounded) (step.found_gone isFounded gone)
        (bulletin ▸ told)
    | stopped shut ended orderly =>
      exact .stopped (List.mem_append_left _ shut) (ended.step step).1 (bulletin ▸ orderly)
  | founder step isOpen unfounded founded =>
    cases lived with
    | unfounded run _ told =>
      rw [told] at history
      exact .founding (run.next step) founded history
    | founding _ already | judged _ already => cases already.symm.trans unfounded
    | stopped _ ended => cases ended.closed.symm.trans isOpen
  | answer hears =>
    cases lived with
    | unfounded run unfounded => cases (run.founded_of_hears hears).symm.trans unfounded
    | founding run founded told =>
      rw [told] at history
      have keeps := (work?_keeps hears.worked).roster
      exact .judged (run.next (.work hears.worked)) (Founding.founded_keeps keeps founded)
        (run.found_gone hears) history
    -- The founding task is gone by now, so that no second answer to it is heard.
    | judged _ _ gone => exact absurd hears.unfinished (gone _)
    | stopped _ ended => exact absurd hears (ended.toHalting.hears_nothing _ _ _ _)
  | stopped returns =>
    obtain ⟨shut, cause, ended⟩ := lived.returned returns
    refine .stopped (List.mem_append_left _ shut) ended ?_
    rw [history]
    exact lived.orderly.stop

end Lived

theorem Life.lived (life : Life deeds cluster) : Lived deeds cluster := by
  induction life with
  | start fresh =>
    have run := Run.start fresh
    obtain ⟨name, settings, same⟩ := fresh.controller_eq
    exact .unfounded run (by rw [same]) (by rw [same]; rfl)
  | next _ happens ih =>
    obtain ⟨published, posts⟩ := happens.posts ih.blank
    exact ih.onward posts

/-! ### When it is published -/

/-- That the set is being founded is published at the first admission. -/
theorem Lived.bootstrapping_iff (lived : Lived deeds cluster)
    (posts : cluster.Posts deed after published) :
    published = some ⟨.bootstrapping, false⟩ ↔
      firstAdmitted? deeds = none ∧ (firstAdmitted? (deeds ++ [deed])).isSome = true := by
  constructor
  · intro told
    cases posts with
    | nothing | stopped => cases told
    | founder step isOpen unfounded founded =>
      have run := lived.run isOpen
      refine ⟨?_, (run.next step).founded_iff.mp founded⟩
      rw [← Option.not_isSome_iff_eq_none, ← run.founded_iff, unfounded]
      simp
    | @answer founder request answer after hears =>
      cases answer <;> cases told
  · rintro ⟨nobody, somebody⟩
    obtain ⟨shut, handle, rfl⟩ := firstAdmitted?_gained nobody somebody
    cases posts with
    | founder => rfl
    | nothing step _ same =>
      cases lived with
      | unfounded run | founding run | judged run =>
        have founded := (run.next step).founded_iff.mpr somebody
        have before := run.founded_iff.mp (same.symm.trans founded)
        simp [nobody] at before
      | stopped isShut => exact absurd isShut shut

theorem Posts.stable_iff (posts : cluster.Posts deed after published) :
    published = some ⟨.stable, true⟩ ↔
      deed = .work ∧ ∃ founder request, cluster.Hears (.found founder) request (.ok ()) after := by
  constructor
  · intro told
    cases posts with
    | nothing | founder | stopped => cases told
    | @answer founder request answer after hears =>
      cases answer with
      | ok => exact ⟨rfl, founder, request, hears⟩
      | error => cases told
  · rintro ⟨-, founder, request, hears⟩
    exact posts.eq_of_history hears.history

theorem Posts.degraded_iff (posts : cluster.Posts deed after published) :
    published = some ⟨.degraded, false⟩ ↔ deed = .work ∧ ∃ founder request cause,
      cluster.Hears (.found founder) request (.error cause) after := by
  constructor
  · intro told
    cases posts with
    | nothing | founder | stopped => cases told
    | @answer founder request answer after hears =>
      cases answer with
      | ok => cases told
      | error cause => exact ⟨rfl, founder, request, cause, hears⟩
  · rintro ⟨-, founder, request, cause, hears⟩
    exact posts.eq_of_history hears.history

theorem Posts.stopped_iff (posts : cluster.Posts deed after published) :
    published = some ⟨.stopped, false⟩ ↔ deed = .endShutdown := by
  constructor
  · intro told
    cases posts with
    | nothing | founder => cases told
    | @answer founder request answer after hears => cases answer <;> cases told
    | stopped => rfl
  · rintro rfl
    cases posts with
    | nothing _ other => exact absurd rfl other
    | stopped => rfl

/-- Whatever happens to a set, its statuses come in one order: it is empty, it is being founded, it
was founded or could not be, and from a shutdown on it is stopped. Clients can be served exactly
while it is stable. That it is being founded is published at the first admission, what came of the
founding when the worker hears the answer to the request for it, whoever is tracked by then, and
that the set is stopped when a shutdown returns. -/
theorem Life.statuses_orderly (life : Life deeds cluster) :
    Orderly cluster.controller.bulletin.history ∧
    (∀ status ∈ cluster.controller.bulletin.history,
      status.serviceUp = true ↔ status.stage = .stable) ∧
    ∀ deed after, cluster.Happens deed after → ∃ published : Option Status,
      after.controller.bulletin.history =
        cluster.controller.bulletin.history ++ published.toList ∧
      (published = some ⟨.bootstrapping, false⟩ ↔
        firstAdmitted? deeds = none ∧ (firstAdmitted? (deeds ++ [deed])).isSome = true) ∧
      (published = some ⟨.stable, true⟩ ↔ deed = .work ∧ ∃ founder request,
        cluster.Hears (.found founder) request (.ok ()) after) ∧
      (published = some ⟨.degraded, false⟩ ↔ deed = .work ∧ ∃ founder request cause,
        cluster.Hears (.found founder) request (.error cause) after) ∧
      (published = some ⟨.stopped, false⟩ ↔ deed = .endShutdown) := by
  have lived := life.lived
  refine ⟨lived.orderly, fun status told => lived.orderly.serviceUp told, ?_⟩
  intro deed after happens
  obtain ⟨published, posts⟩ := happens.posts lived.blank
  exact ⟨published, posts.history, lived.bootstrapping_iff posts, posts.stable_iff,
    posts.degraded_iff, posts.stopped_iff⟩

/-- The founder went down and came up again while the request to found the set on it was under way,
and the answer is about to be heard. -/
def overtaken : Cluster :=
  let called := Clockwork.settle ((create "rs" tireless unhurried).memberUp ⟨"a", .standIn 0⟩)
  let back := (called.memberDown ⟨"a", .standIn 0⟩).memberUp ⟨"a", .standIn 0⟩
  let late := { back with now := back.now + Time.tick 5 }
  late.work?.getD late

theorem overtaken_run : ∃ deeds, Run deeds overtaken := by
  have named : Text.isBlank "rs" = false := by decide
  have new := Run.start (fresh_create named tireless unhurried)
  obtain ⟨moves, called⟩ := (new.next (.up rfl ⟨"a", .standIn 0⟩)).settle
  have gone := called.next (.down (by decide) ⟨"a", .standIn 0⟩)
  have back := gone.next (.up (by decide) ⟨"a", .standIn 0⟩)
  exact ⟨_, (back.next (.wait (Time.tick 5))).next (.work rfl)⟩

/-- The set is stable then, although another admission of its founder is tracked. -/
theorem statuses_orderly_overtaken :
    ∃ deeds after, Life deeds overtaken ∧
      overtaken.controller.roster.members = [⟨1, ⟨"a", .standIn 0⟩⟩] ∧
      overtaken.Hears (.found ⟨0, ⟨"a", .standIn 0⟩⟩) (.found "rs" 0) (.ok ()) after ∧
      after.controller.bulletin.history =
        [⟨.empty, false⟩, ⟨.bootstrapping, false⟩, ⟨.stable, true⟩] := by
  obtain ⟨deeds, run⟩ := overtaken_run
  obtain ⟨call, running, waited, ending, asked⟩ : ∃ call, overtaken.controller.queue.phase =
      .running ⟨.found ⟨0, ⟨"a", .standIn 0⟩⟩, 0⟩ call ∧ call.stage = .answering ∧
        call.ending.answer? = some (.ok ()) ∧ call.request = .found "rs" 0 :=
    ⟨_, rfl, by decide, rfl, by decide⟩
  have hears := asked ▸ Hears.later running waited ending
  refine ⟨deeds, _, run.life, by decide, hears, ?_⟩
  obtain ⟨-, -, posts⟩ := run.life.statuses_orderly
  obtain ⟨published, history, -, stable, -⟩ := posts .work _ (.step (.work hears.worked))
  rw [history, stable.mpr ⟨rfl, _, _, hears⟩]
  rfl

end Cluster

end Simulation

end ReplicaSet
