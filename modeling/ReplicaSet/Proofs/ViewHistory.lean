import ReplicaSet.Proofs.CallRuns
import ReplicaSet.Proofs.RosterHistory

/-!
What is on view of a set as a function of its history: of the words from its members, and of when
the worker heard that the set was founded.
-/
namespace ReplicaSet

theorem Roster.Sound.primary?_key {roster : Roster} (sound : roster.Sound) :
    roster.primary?.map Member.key = roster.primaryKey := by
  cases named : roster.primaryKey with
  | none => simp [primary?, named]
  | some key =>
    obtain ⟨primary, found, -, atKey⟩ := sound.primary_found named
    rw [found, Option.map_some, atKey]

namespace Controller

variable {ρ : Type} {controller : Controller ρ}

theorem memberUp_roster (isOpen : controller.roster.closed = false) (handle : Handle) :
    (controller.memberUp handle).2.roster = controller.roster.perform (.enrol handle) := by
  show _ = (controller.roster.enrol handle).2
  cases tracked : controller.roster.tracks handle.key with
  | true => simp [memberUp, isOpen, Roster.enrol_tracked tracked]
  | false => exact (memberUp_new isOpen tracked).1

theorem memberDown_roster (isOpen : controller.roster.closed = false) (key : String) :
    (controller.memberDown key).2.roster = controller.roster.perform (.dismiss key) := by
  rcases controller.roster.dismiss_cases key with
    ⟨untracked, same⟩ | ⟨member, wasPrimary, left, dismissed, same⟩
  · rw [same]
    simp [memberDown, isOpen, Roster.dismiss?_eq_none_iff.mpr untracked]
  · rw [same]
    simp [memberDown, isOpen, dismissed, schedule_frame]

theorem primarySignal_roster (isOpen : controller.roster.closed = false) (key : String) :
    (controller.primarySignal key true).2.roster = controller.roster.perform (.follow key) := by
  show _ = (controller.roster.follow key).2
  unfold primarySignal Roster.follow
  cases controller.roster.tracks key with
  | false => simp [isOpen]
  | true => by_cases already : controller.roster.primaryKey = some key <;> simp [isOpen, already]

theorem primarySignal_not (controller : Controller ρ) (key : String) :
    (controller.primarySignal key false).2 = controller := rfl

end Controller

namespace Simulation

/-- What a member says by a deed. -/
def Deed.word? : Deed → Option Word
  | .up handle => some (.up handle)
  | .down handle => some (.down handle.key)
  | .signal handle true => some (.signal handle.key)
  | _ => none

/-- The words of members that come or go. -/
def comings (deeds : List Deed) : List Word :=
  (deeds.filterMap Deed.word?).filter fun word => word.mover?.isSome

namespace Cluster

variable {cluster after : Cluster} {deed : Deed} {deeds : List Deed} {history : List Word}
  {said? : Option Word}

/-- What a set is told when a deed is done: what a member says, or that the worker hears that the
set was founded. -/
inductive Tells (cluster : Cluster) : Deed → Cluster → Option Word → Prop
  | said {deed : Deed} {after : Cluster} {word : Word} (said : deed.word? = some word) :
      Tells cluster deed after (some word)
  | founded {founder : Member} {request : Request} {after : Cluster}
      (hears : cluster.Hears (.found founder) request (.ok ()) after) :
      Tells cluster .work after (some (.founded founder.key))
  | nothing {deed : Deed} {after : Cluster} (silent : deed.word? = none)
      (other : deed = .work → ∀ founder request,
        ¬cluster.Hears (.found founder) request (.ok ()) after) :
      Tells cluster deed after none

/-- In a run of the deeds the set was told these words, in this order. -/
inductive Recounts : List Deed → List Word → Cluster → Prop
  | start {cluster : Cluster} (fresh : cluster.Fresh) : Recounts [] [] cluster
  | next {deeds : List Deed} {history : List Word} {cluster : Cluster} {deed : Deed}
      {after : Cluster} {said? : Option Word} (recounts : Recounts deeds history cluster)
      (step : Step cluster deed after) (tells : cluster.Tells deed after said?) :
      Recounts (deeds ++ [deed]) (history ++ said?.toList) after

theorem Recounts.run (recounts : Recounts deeds history cluster) : Run deeds cluster := by
  induction recounts with
  | start fresh => exact .start fresh
  | next _ step _ ih => exact ih.next step

theorem exists_tells (cluster : Cluster) (deed : Deed) (after : Cluster) :
    ∃ said?, cluster.Tells deed after said? := by
  cases said : deed.word? with
  | some word => exact ⟨_, .said said⟩
  | none =>
    by_cases founds : ∃ founder request,
        deed = .work ∧ cluster.Hears (.found founder) request (.ok ()) after
    · obtain ⟨founder, request, rfl, hears⟩ := founds
      exact ⟨_, .founded hears⟩
    · exact ⟨none, .nothing said fun isWork founder request hears =>
        founds ⟨founder, request, isWork, hears⟩⟩

/-- Every run has a history. -/
theorem Run.recounted (run : Run deeds cluster) : ∃ history, Recounts deeds history cluster := by
  induction run with
  | start fresh => exact ⟨[], .start fresh⟩
  | @next deeds cluster deed after run step ih =>
    obtain ⟨history, recounts⟩ := ih
    obtain ⟨said?, tells⟩ := exists_tells cluster deed after
    exact ⟨_, recounts.next step tells⟩

/-! ### What becomes of the roster -/

theorem Step.roster_said (step : Step cluster deed after) {word : Word}
    (isOpen : cluster.controller.roster.closed = false) (said : deed.word? = some word) :
    after.controller.roster = cluster.controller.roster.perform word.operation := by
  cases step with
  | up held handle =>
    cases said
    rw [Cluster.memberUp, adopt_controller]
    exact Controller.memberUp_roster isOpen handle
  | down held handle =>
    cases said
    rw [Cluster.memberDown, adopt_controller]
    exact Controller.memberDown_roster isOpen handle.key
  | signal held handle isPrimary =>
    cases isPrimary with
    | false => cases said
    | true =>
      cases said
      rw [Cluster.primarySignal, adopt_controller]
      exact Controller.primarySignal_roster isOpen handle.key
  | _ => cases said

theorem Step.roster_unsaid (step : Step cluster deed after) (stays : deed ≠ .beginShutdown)
    (silent : deed.word? = none)
    (other : deed = .work → ∀ founder request,
      ¬cluster.Hears (.found founder) request (.ok ()) after) :
    after.controller.roster = cluster.controller.roster := by
  by_cases aside : deed.isAside = true
  · exact (step.aside aside).1
  · cases step with
    | up | down => cases silent
    | signal held handle isPrimary =>
      cases isPrimary with
      | true => cases silent
      | false => rw [Cluster.primarySignal, adopt_controller, Controller.primarySignal_not]
    | beginShutdown => exact absurd rfl stays
    | endShutdown =>
      rw [Cluster.endShutdown, adopt_controller]
      rfl
    | work worked =>
      rcases work?_quiet worked with ⟨same, -⟩ | ⟨founder, request, answer, hears⟩
      · exact same
      · cases answer with
        | ok => exact absurd hears (other rfl founder request)
        | error => exact hears.unfounded.1
    | _ => exact absurd rfl aside

/-- As long as membership is not frozen, the roster is told what there is to tell. -/
theorem Step.tells (step : Step cluster deed after) (tells : cluster.Tells deed after said?)
    (isOpen : cluster.controller.roster.closed = false) (stays : deed ≠ .beginShutdown) :
    after.controller.roster =
      cluster.controller.roster.performAll (said?.toList.map Word.operation) := by
  cases tells with
  | said said => exact step.roster_said isOpen said
  | founded hears => exact hears.founded.1
  | nothing silent other => exact step.roster_unsaid stays silent other

theorem Recounts.roster_eq (recounts : Recounts deeds history cluster)
    (isOpen : .beginShutdown ∉ deeds) :
    cluster.controller.roster = Roster.performAll {} (history.map Word.operation) := by
  induction recounts with
  | start fresh =>
    obtain ⟨name, settings, same⟩ := fresh.controller_eq
    rw [same]
    rfl
  | @next deeds history cluster deed after said? recounts step tells ih =>
    rw [List.mem_append, not_or, List.mem_singleton] at isOpen
    have stillOpen : cluster.controller.roster.closed = false :=
      Bool.eq_false_iff.mpr fun closed => isOpen.1 (recounts.run.closed_iff.mp closed)
    rw [step.tells tells stillOpen (Ne.symm isOpen.2), ih isOpen.1, List.map_append]
    exact List.foldl_append.symm

theorem Recounts.comings_eq (recounts : Recounts deeds history cluster) :
    (history.filter fun word => word.mover?.isSome) = comings deeds := by
  induction recounts with
  | start => rfl
  | next _ _ tells ih =>
    cases tells with
    | said said => simp [comings, ih, said]
    | @founded founder =>
      have silent : Deed.work.word? = none := rfl
      have stays : (Word.founded founder.key).mover? = none := rfl
      simp [comings, ih, silent, stays]
    | nothing silent => simp [comings, ih, silent]

theorem Recounts.recalls (recounts : Recounts deeds history cluster)
    (isOpen : .beginShutdown ∉ deeds) : cluster.controller.roster.Recalls history :=
  recounts.roster_eq isOpen ▸ Roster.performAll_recalls history

/-- Who is tracked, and by which handle, follows from who came and went. -/
theorem Run.handle_eq (run : Run deeds cluster) (isOpen : .beginShutdown ∉ deeds) (key : String) :
    (cluster.controller.roster.find? key).map Member.handle = handleOf? (comings deeds) key := by
  obtain ⟨history, recounts⟩ := run.recounted
  rw [(recounts.recalls isOpen).handle, ← recounts.comings_eq]
  exact (handleOf?_filter (by simp_all) history).symm

/-- What is on view of a set before a shutdown follows from its history. A key is tracked exactly
when the last word of its coming or going is that it came, by the handle with which it came first
since it went last. The members are those that were admitted and have not gone since, each under
the number of admissions before its own, and in this order. The primary is the key that was named
last, by its own word or by the founding of the set, while it was tracked, unless it has gone since.
When two runs differ only in that different members came or went one right after the other the
other way round, here and there, the same keys are tracked by the same handles. -/
theorem Run.view_history (run : Run deeds cluster) (isOpen : .beginShutdown ∉ deeds) :
    (∃ history, Recounts deeds history cluster) ∧
    (∀ history, Recounts deeds history cluster →
      (∀ key, cluster.controller.roster.tracks key = isThere history key) ∧
      (∀ key, (cluster.controller.roster.find? key).map Member.handle = handleOf? history key) ∧
      (∀ member, member ∈ cluster.controller.view.members ↔ Stays history member) ∧
      cluster.controller.view.members.Pairwise (fun earlier later => earlier.id < later.id) ∧
      ∀ key, cluster.controller.view.primary.map Member.key = some key ↔ Leads history key) ∧
    ∀ more other, Run more other → .beginShutdown ∉ more →
      Relation.ReflTransGen Swaps (comings deeds) (comings more) →
      ∀ key, other.controller.roster.tracks key = cluster.controller.roster.tracks key ∧
        (other.controller.roster.find? key).map Member.handle =
          (cluster.controller.roster.find? key).map Member.handle := by
  refine ⟨run.recounted, fun history recounts => ?_, ?_⟩
  · have recalls := recounts.recalls isOpen
    refine ⟨recalls.tracks, recalls.handle, recalls.members, recalls.sound.ids_increase, ?_⟩
    intro key
    rw [← recalls.primary]
    exact Eq.congr_left recalls.sound.primary?_key
  · intro more other otherRun otherOpen swaps key
    have same : (other.controller.roster.find? key).map Member.handle =
        (cluster.controller.roster.find? key).map Member.handle := by
      rw [otherRun.handle_eq otherOpen, run.handle_eq isOpen]
      exact handleOf?_eq_of_swaps swaps key
    refine ⟨?_, same⟩
    have sameSome := congrArg Option.isSome same
    rwa [Option.isSome_map, Option.isSome_map] at sameSome

/-- Stand-ins that answer as soon as they are asked. -/
def readily : Site where
  standIns := List.replicate 3 ⟨⟨true, .unknown, none, none⟩, false⟩
  scaler := ⟨1, none⟩

/-- The set is being founded on one of two members, which went down and is up again under another
handle. -/
def relieved : Cluster :=
  let founding := ((create "rs" tireless readily).memberUp ⟨"a", .standIn 0⟩).memberUp
    ⟨"b", .standIn 1⟩
  let called := ((founding.work?.bind work?).bind work?).getD founding
  (called.memberDown ⟨"a", .standIn 0⟩).memberUp ⟨"a", .standIn 2⟩

/-- A move of the worker in which nothing is published tells the set nothing. -/
theorem tells_quiet (same : after.controller.bulletin = cluster.controller.bulletin) :
    cluster.Tells .work after none := by
  refine .nothing rfl fun _ founder request hears => ?_
  have published := same.symm.trans hears.founded.2
  have longer := congrArg (fun bulletin => bulletin.earlier.length) published
  simp [Bulletin.publish] at longer

theorem relieved_recounts :
    ∃ deeds, Recounts deeds [.up ⟨"a", .standIn 0⟩, .up ⟨"b", .standIn 1⟩, .down "a",
      .up ⟨"a", .standIn 2⟩] relieved ∧ .beginShutdown ∉ deeds := by
  have named : Text.isBlank "rs" = false := by decide
  have new := Recounts.start (fresh_create named tireless readily)
  have one := new.next (.up rfl ⟨"a", .standIn 0⟩) (.said rfl)
  have two := one.next (.up (by decide) ⟨"b", .standIn 1⟩) (.said rfl)
  have parked := two.next (.work rfl) (tells_quiet (by decide))
  have received := parked.next (.work rfl) (tells_quiet (by decide))
  have called := received.next (.work rfl) (tells_quiet (by decide))
  have gone := called.next (.down (by decide) ⟨"a", .standIn 0⟩) (.said rfl)
  have back := gone.next (.up (by decide) ⟨"a", .standIn 2⟩) (.said rfl)
  exact ⟨_, back, by simp⟩

/-- The later admission of the founder is the primary when the set is founded, and the same keys
are tracked when it went down before the other member came. -/
theorem view_history_relieved :
    ∃ deeds history after more other, Recounts deeds history after ∧ .beginShutdown ∉ deeds ∧
      relieved.Hears (.found ⟨0, ⟨"a", .standIn 0⟩⟩) (.found "rs" 0) (.ok ()) after ∧
      Stays history ⟨2, ⟨"a", .standIn 2⟩⟩ ∧ Leads history "a" ∧
      Run more other ∧ .beginShutdown ∉ more ∧
      comings more = [.up ⟨"a", .standIn 0⟩, .down "a", .up ⟨"b", .standIn 1⟩,
        .up ⟨"a", .standIn 2⟩] ∧
      ∀ key, other.controller.roster.tracks key = after.controller.roster.tracks key := by
  obtain ⟨deeds, recounts, isOpen⟩ := relieved_recounts
  obtain ⟨call, running, waited, ending, asked⟩ : ∃ call, relieved.controller.queue.phase =
      .running ⟨.found ⟨0, ⟨"a", .standIn 0⟩⟩, 0⟩ call ∧ call.stage = .answering ∧
        call.ending.answer? = some (.ok ()) ∧ call.request = .found "rs" 0 :=
    ⟨_, rfl, by decide, rfl, by decide⟩
  have hears := asked ▸ Hears.later running waited ending
  have founded := recounts.next (.work hears.worked) (.founded hears)
  have stillOpen : .beginShutdown ∉ deeds ++ [.work] := by simp [isOpen]
  have named : Text.isBlank "rs" = false := by decide
  have new := Run.start (fresh_create named tireless readily)
  have gone := (new.next (.up rfl ⟨"a", .standIn 0⟩)).next (.down (by decide) ⟨"a", .standIn 0⟩)
  have other := (gone.next (.up (by decide) ⟨"b", .standIn 1⟩)).next
    (.up (by decide) ⟨"a", .standIn 2⟩)
  obtain ⟨-, view, swapped⟩ := founded.run.view_history stillOpen
  obtain ⟨-, -, members, -, primary⟩ := view _ founded
  have came := founded.comings_eq
  refine ⟨_, _, _, _, _, founded, stillOpen, hears, (members _).mp ?_, (primary "a").mp ?_, other,
    by simp, rfl, fun key => (swapped _ _ other (by simp) (came ▸ .single ?_) key).1⟩
  · simp only [Controller.view, hears.founded.1]
    decide
  · simp only [Controller.view, hears.founded.1]
    decide
  · exact .swap (by decide) [.up ⟨"a", .standIn 0⟩] [.up ⟨"a", .standIn 2⟩]

end Cluster

end Simulation

end ReplicaSet
