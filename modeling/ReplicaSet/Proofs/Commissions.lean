import Mathlib.Data.List.Induction
import ReplicaSet.Proofs.Admissions

/-!
What callbacks make of a set, and the tasks that they create. Both follow from the deeds alone:
it does not matter what becomes of the tasks.
-/
namespace ReplicaSet

theorem entrant?_entrance (roster : Roster) (handle : Handle) :
    (Controller.entrance roster handle).entrant? = some ⟨roster.nextId, handle⟩ := by
  unfold Controller.entrance
  split <;> rfl

namespace Simulation

variable {roster : Roster} {deed : Deed} {deeds : List Deed}

/-- What the deed makes of a roster that no primary is named in. -/
def hear (roster : Roster) : Deed → Roster
  | .up handle => if roster.closed then roster else (roster.enrol handle).2
  | .down handle =>
    if roster.closed then roster
    else ((roster.dismiss? handle.key).map fun dismissal => dismissal.2.2).getD roster
  | .beginShutdown => roster.close
  | _ => roster

/-- The tasks that the deed creates: one to bring in a member that is admitted, one to remove a
member that is dismissed, and none else. -/
def commissions (roster : Roster) : Deed → List Change
  | .up handle =>
    if roster.closed || roster.tracks handle.key then [] else [Controller.entrance roster handle]
  | .down handle => if roster.closed then [] else (roster.find? handle.key).toList.map .leave
  | _ => []

/-- Who is tracked after the deeds, and the number for the next admission. -/
def heard (deeds : List Deed) : Roster :=
  deeds.foldl hear {}

/-- The tasks that the deeds create, from this roster on. -/
def createdFrom (roster : Roster) : List Deed → List Change
  | [] => []
  | deed :: later => commissions roster deed ++ createdFrom (hear roster deed) later

/-- The tasks that the deeds create, in the order in which they are created. -/
def created (deeds : List Deed) : List Change :=
  createdFrom {} deeds

theorem heard_snoc (deeds : List Deed) (deed : Deed) :
    heard (deeds ++ [deed]) = hear (heard deeds) deed := by
  simp [heard]

theorem created_snoc (deeds : List Deed) (deed : Deed) :
    created (deeds ++ [deed]) = created deeds ++ commissions (heard deeds) deed := by
  have append (roster : Roster) : createdFrom roster (deeds ++ [deed]) =
      createdFrom roster deeds ++ commissions (deeds.foldl hear roster) deed := by
    induction deeds generalizing roster with
    | nil => simp [createdFrom]
    | cons first rest ih =>
      rw [List.cons_append, createdFrom, createdFrom, ih, List.append_assoc, List.foldl_cons]
  exact append {}

/-! ### The roster of a controller -/

/-- A roster without its primary. -/
def unled (roster : Roster) : Roster := { roster with primaryKey := none }

theorem unled_follow (roster : Roster) (key : String) :
    unled (roster.follow key).2 = unled roster := by
  obtain ⟨members, nextId, founded, closed⟩ := roster.follow_frame key
  simp [unled, members, nextId, founded, closed]

@[simp]
theorem commissions_unled (roster : Roster) (deed : Deed) :
    commissions (unled roster) deed = commissions roster deed := by
  cases deed <;> rfl

theorem hear_unled_up (roster : Roster) (handle : Handle) :
    hear (unled roster) (.up handle) =
      if roster.closed || roster.tracks handle.key then unled roster
      else unled (roster.enrol handle).2 := by
  have same : (unled roster).tracks handle.key = roster.tracks handle.key := rfl
  show (if roster.closed then unled roster else ((unled roster).enrol handle).2) = _
  cases roster.closed with
  | true => rfl
  | false =>
    cases tracked : roster.tracks handle.key with
    | true => rw [Roster.enrol_tracked (same.trans tracked)]; rfl
    | false => rw [Roster.enrol_new (same.trans tracked), Roster.enrol_new tracked]; rfl

theorem hear_unled_down (roster : Roster) (handle : Handle) :
    hear (unled roster) (.down handle) =
      if roster.closed then unled roster
      else ((roster.dismiss? handle.key).map fun dismissal => unled dismissal.2.2).getD
        (unled roster) := by
  have same : (unled roster).find? handle.key = roster.find? handle.key := rfl
  show (if roster.closed then unled roster
    else (((unled roster).dismiss? handle.key).map fun dismissal => dismissal.2.2).getD
      (unled roster)) = _
  unfold Roster.dismiss?
  rw [same]
  split
  · rfl
  · cases roster.find? handle.key <;> rfl

theorem memberUp_hears {ρ : Type} (controller : Controller ρ) (handle : Handle) :
    unled (controller.memberUp handle).2.roster = hear (unled controller.roster) (.up handle) := by
  rw [hear_unled_up]
  cases closed : controller.roster.closed with
  | true => simp [Controller.memberUp, closed]
  | false =>
    cases tracked : controller.roster.tracks handle.key with
    | true => simp [Controller.memberUp, closed, Roster.enrol_tracked tracked]
    | false => simp [(Controller.memberUp_new closed tracked).1]

theorem memberDown_hears {ρ : Type} (controller : Controller ρ) (handle : Handle) :
    unled (controller.memberDown handle.key).2.roster =
      hear (unled controller.roster) (.down handle) := by
  rw [hear_unled_down]
  cases closed : controller.roster.closed with
  | true => simp [Controller.memberDown, closed]
  | false =>
    cases dismissed : controller.roster.dismiss? handle.key with
    | none => simp [Controller.memberDown, closed, dismissed]
    | some dismissal => simp [Controller.memberDown, closed, dismissed, Controller.schedule_frame]

namespace Cluster

variable {cluster after : Cluster}

/-- Apart from the primary, a roster follows from what is heard. -/
theorem Step.hears (step : Step cluster deed after) :
    unled after.controller.roster = hear (unled cluster.controller.roster) deed := by
  cases step with
  | up held handle =>
    rw [Cluster.memberUp, adopt_controller]
    exact memberUp_hears cluster.controller handle
  | down held handle =>
    rw [Cluster.memberDown, adopt_controller]
    exact memberDown_hears cluster.controller handle
  | signal held handle isPrimary =>
    rw [Cluster.primarySignal, adopt_controller]
    rcases cluster.controller.primarySignal_frame handle.key isPrimary with same | same
    · exact congrArg (fun controller => unled controller.roster) same
    · rw [same]
      exact unled_follow _ _
  | peek | surround | wait | beginShutdown | letGo => rfl
  | release =>
    rcases cluster.release_cases with same | ⟨job, call, later, -, same⟩
    · rw [same]
      rfl
    · rw [same]
      rfl
  | resize held desired =>
    rw [(cluster.resize_frame desired).1]
    rfl
  | survey =>
    rw [cluster.survey_frame.1]
    rfl
  | endShutdown =>
    rw [Cluster.endShutdown, adopt_controller]
    rfl
  | work worked =>
    rcases (work?_keeps worked).roster with same | ⟨key, same⟩
    · rw [same]
      rfl
    · rw [same]
      exact unled_follow _ _
  | interject interjected =>
    obtain ⟨job, call, later, -, rfl⟩ := interjection?_cases interjected
    rfl

theorem Run.heard_eq (run : Run deeds cluster) : heard deeds = unled cluster.controller.roster := by
  induction run with
  | start fresh =>
    obtain ⟨name, settings, same⟩ := fresh.controller_eq
    rw [same]
    rfl
  | next _ step ih => rw [heard_snoc, ih, step.hears]

/-- What a deed creates follows from the roster of the controller at that time. -/
theorem Run.created_next (run : Run deeds cluster) (deed : Deed) :
    created (deeds ++ [deed]) = created deeds ++ commissions cluster.controller.roster deed := by
  rw [created_snoc, run.heard_eq, commissions_unled]

end Cluster

/-! ### The tasks that were ever created -/

/-- What is known of a roster and the tasks that were created so far. Members are brought in by one
task each, under the numbers from zero on, and who is to be removed was brought in and is not
tracked any more. -/
structure Chronicled (roster : Roster) (tasks : List Change) : Prop where
  sound : roster.Sound
  numbers : (tasks.filterMap Change.entrant?).map Member.id = List.range roster.nextId
  admitted : ∀ member ∈ roster.members, member ∈ tasks.filterMap Change.entrant?
  dismissed : ∀ member, .leave member ∈ tasks →
    member ∈ tasks.filterMap Change.entrant? ∧ member ∉ roster.members
  nodup : tasks.Nodup

namespace Chronicled

variable {tasks : List Change} {member : Member}

theorem new : Chronicled {} [] where
  sound := Roster.sound_new
  numbers := rfl
  admitted := by simp
  dismissed := by simp
  nodup := .nil

theorem id_lt (chronicled : Chronicled roster tasks)
    (entrant : member ∈ tasks.filterMap Change.entrant?) : member.id < roster.nextId := by
  have number : member.id ∈ (tasks.filterMap Change.entrant?).map Member.id :=
    List.mem_map_of_mem entrant
  rw [chronicled.numbers] at number
  exact List.mem_range.mp number

/-- A number belongs to one member alone. -/
theorem eq_of_id (chronicled : Chronicled roster tasks) {one two : Member}
    (isOne : one ∈ tasks.filterMap Change.entrant?) (isTwo : two ∈ tasks.filterMap Change.entrant?)
    (same : one.id = two.id) : one = two := by
  have distinct : ((tasks.filterMap Change.entrant?).map Member.id).Nodup :=
    chronicled.numbers ▸ List.nodup_range
  exact List.inj_on_of_nodup_map distinct isOne isTwo same

theorem enrol (chronicled : Chronicled roster tasks) {handle : Handle}
    (new : roster.tracks handle.key = false) :
    Chronicled (roster.enrol handle).2 (tasks ++ [Controller.entrance roster handle]) := by
  have entrants : (tasks ++ [Controller.entrance roster handle]).filterMap Change.entrant? =
      tasks.filterMap Change.entrant? ++ [⟨roster.nextId, handle⟩] := by
    simp [List.filterMap_append, entrant?_entrance]
  have fresh : (⟨roster.nextId, handle⟩ : Member) ∉ tasks.filterMap Change.entrant? :=
    fun entrant => absurd (chronicled.id_lt entrant) (Nat.lt_irrefl _)
  refine ⟨chronicled.sound.enrol new, ?_, ?_, ?_, ?_⟩
  · rw [entrants, List.map_append, chronicled.numbers, Roster.enrol_new new]
    exact List.range_succ.symm
  · intro member tracked
    rw [entrants, List.mem_append, List.mem_singleton]
    exact ((Roster.mem_enrol new).mp tracked).imp (chronicled.admitted member) id
  · intro member left
    have old : Change.leave member ∈ tasks := by
      rcases List.mem_append.mp left with old | isNew
      · exact old
      · have entrant := entrant?_entrance roster handle
        rw [← List.mem_singleton.mp isNew] at entrant
        cases entrant
    obtain ⟨entrant, untracked⟩ := chronicled.dismissed member old
    rw [entrants, Roster.mem_enrol new, not_or]
    exact ⟨List.mem_append_left _ entrant, untracked, fun same => fresh (same ▸ entrant)⟩
  · refine List.nodup_append.mpr ⟨chronicled.nodup, List.nodup_singleton _, ?_⟩
    intro task old other isNew same
    rw [List.mem_singleton.mp isNew] at same
    exact fresh (List.mem_filterMap.mpr ⟨task, old, same ▸ entrant?_entrance roster handle⟩)

theorem dismiss (chronicled : Chronicled roster tasks) {key : String} {wasPrimary : Bool}
    {left : Roster} (dismissed : roster.dismiss? key = some (member, wasPrimary, left)) :
    Chronicled left (tasks ++ [.leave member]) := by
  obtain ⟨tracked, atKey, nextId, -, -, fewer, -⟩ := Roster.dismiss?_frame dismissed
  have entrants : (tasks ++ [Change.leave member]).filterMap Change.entrant? =
      tasks.filterMap Change.entrant? := by
    simp [List.filterMap_append, Change.entrant?]
  refine ⟨chronicled.sound.dismiss dismissed, ?_, ?_, ?_, ?_⟩
  · rw [entrants, nextId]
    exact chronicled.numbers
  · intro other stays
    exact entrants ▸ chronicled.admitted other (fewer.subset stays)
  · intro other leaves
    rw [entrants]
    rcases List.mem_append.mp leaves with old | isNew
    · obtain ⟨entrant, untracked⟩ := chronicled.dismissed other old
      exact ⟨entrant, fun stays => untracked (fewer.subset stays)⟩
    · obtain rfl := Change.leave.inj (List.mem_singleton.mp isNew)
      refine ⟨chronicled.admitted other tracked, fun stays => ?_⟩
      exact ((chronicled.sound.mem_dismiss dismissed).mp stays).2 atKey
  · refine List.nodup_append.mpr ⟨chronicled.nodup, List.nodup_singleton _, ?_⟩
    intro task old other isNew same
    rw [same, List.mem_singleton.mp isNew] at old
    exact (chronicled.dismissed member old).2 tracked

theorem hear (chronicled : Chronicled roster tasks) (deed : Deed) :
    Chronicled (hear roster deed) (tasks ++ commissions roster deed) := by
  cases deed with
  | up handle =>
    show Chronicled (if roster.closed then roster else (roster.enrol handle).2) (tasks ++
      if roster.closed || roster.tracks handle.key then [] else [Controller.entrance roster handle])
    cases roster.closed with
    | true => simpa using chronicled
    | false =>
      cases tracked : roster.tracks handle.key with
      | true => simpa [Roster.enrol_tracked tracked] using chronicled
      | false => simpa using chronicled.enrol tracked
  | down handle =>
    show Chronicled (if roster.closed then roster
      else ((roster.dismiss? handle.key).map fun dismissal => dismissal.2.2).getD roster)
      (tasks ++ if roster.closed then [] else (roster.find? handle.key).toList.map .leave)
    cases roster.closed with
    | true => simpa using chronicled
    | false =>
      cases dismissed : roster.dismiss? handle.key with
      | none => simpa [Option.map_eq_none_iff.mp dismissed] using chronicled
      | some dismissal =>
        obtain ⟨member, wasPrimary, left⟩ := dismissal
        obtain ⟨found, isFound, same⟩ := Option.map_eq_some_iff.mp dismissed
        obtain rfl := (Prod.mk.inj same).1
        simpa [isFound] using chronicled.dismiss dismissed
  | beginShutdown =>
    show Chronicled roster.close (tasks ++ [])
    rw [List.append_nil]
    exact ⟨chronicled.sound.close, chronicled.numbers, chronicled.admitted, chronicled.dismissed,
      chronicled.nodup⟩
  | _ =>
    show Chronicled roster (tasks ++ [])
    rw [List.append_nil]
    exact chronicled

end Chronicled

theorem chronicled_created (deeds : List Deed) : Chronicled (heard deeds) (created deeds) := by
  induction deeds using List.reverseRecOn with
  | nil => exact .new
  | append_singleton deeds deed ih =>
    rw [heard_snoc, created_snoc]
    exact ih.hear deed

end Simulation

end ReplicaSet
