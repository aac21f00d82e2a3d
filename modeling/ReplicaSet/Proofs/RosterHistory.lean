import Mathlib.Data.List.DropRight
import Mathlib.Logic.Relation
import ReplicaSet.Proofs.RosterRuns

/-!
The roster as a function of what was said about the members, and of nothing else. What is tracked
is read off the last words about a key, whatever was said in between about others.
-/
namespace ReplicaSet

/-- What a roster is told. -/
inductive Word where
  | up (handle : Handle)
  | down (key : String)
  /-- A member calls itself primary. -/
  | signal (key : String)
  /-- The set was founded on a member. -/
  | founded (key : String)
deriving DecidableEq

namespace Word

/-- What is done to the roster on a word. -/
def operation : Word → Roster.Operation
  | up handle => .enrol handle
  | down key => .dismiss key
  | signal key | founded key => .follow key

def isUp : Word → Bool
  | up _ => true
  | _ => false

/-- The key of the member that comes or goes. -/
def mover? : Word → Option String
  | up handle => some handle.key
  | down key => some key
  | _ => none

/-- The handle with which a member of the key comes. -/
def arrival? (key : String) : Word → Option Handle
  | up handle => if handle.key = key then some handle else none
  | _ => none

/-- The key of the member that is named primary. -/
def leader? : Word → Option String
  | signal key | founded key => some key
  | _ => none

end Word

variable {history : List Word} {word : Word} {key : String} {handle : Handle}

/-! ### What can be read off a history -/

/-- Whether the last word about a coming or going of the key is that it came. -/
def isThere (history : List Word) (key : String) : Bool :=
  (history.filter fun word => word.mover? = some key).getLast?.any Word.isUp

/-- The handle with which the key came first since it went last. -/
def handleOf? (history : List Word) (key : String) : Option Handle :=
  (history.rtakeWhile (· ≠ .down key)).findSome? (Word.arrival? key)

/-- Each word of a history, with what was said before. -/
def moments (before : List Word) : List Word → List (List Word × Word)
  | [] => []
  | word :: rest => (before, word) :: moments (before ++ [word]) rest

/-- Whether a member is admitted on the word: it came, and was not there. -/
def admits (before : List Word) : Word → Bool
  | .up handle => !isThere before handle.key
  | _ => false

/-- How many members were admitted in the course of a history. -/
def admissionCount (history : List Word) : Nat :=
  (moments [] history).countP fun moment => admits moment.1 moment.2

/-- The member was admitted at some time, under the number of admissions before, and has not gone
since. -/
def Stays (history : List Word) (member : Member) : Prop :=
  ∃ earlier later, history = earlier ++ .up member.handle :: later ∧
    isThere earlier member.key = false ∧ member.id = admissionCount earlier ∧
    .down member.key ∉ later

/-- The key was the last one that was named primary while it was there, and it has not gone
since. -/
def Leads (history : List Word) (key : String) : Prop :=
  ∃ word earlier later, history = earlier ++ word :: later ∧ word.leader? = some key ∧
    isThere earlier key = true ∧ .down key ∉ later ∧
    ∀ between other rest, later = between ++ other :: rest → ∀ rival, other.leader? = some rival →
      isThere (earlier ++ word :: between) rival = false

theorem isThere_snoc :
    isThere (history ++ [word]) key =
      if word.mover? = some key then word.isUp else isThere history key := by
  unfold isThere
  by_cases about : word.mover? = some key <;> simp [List.filter_append, about]

theorem handleOf?_snoc :
    handleOf? (history ++ [word]) key =
      if word = .down key then none else (handleOf? history key).or (word.arrival? key) := by
  unfold handleOf?
  by_cases gone : word = .down key
  · simp [gone]
  · simp [gone, List.findSome?_append]

/-- A member that is there is there with a handle. -/
theorem isSome_handleOf? (history : List Word) (key : String) :
    (handleOf? history key).isSome = isThere history key := by
  induction history using List.reverseRecOn with
  | nil => rfl
  | append_singleton history word ih =>
    rw [isThere_snoc, handleOf?_snoc]
    cases word with
    | up handle =>
      by_cases same : handle.key = key <;>
        simp [Word.mover?, Word.arrival?, Word.isUp, same, ih]
    | down other =>
      by_cases same : other = key <;>
        simp [Word.mover?, Word.arrival?, Word.isUp, same, ih]
    | signal | founded => simp [Word.mover?, Word.arrival?, ih]

theorem moments_append (before earlier later : List Word) :
    moments before (earlier ++ later) =
      moments before earlier ++ moments (before ++ earlier) later := by
  induction earlier generalizing before with
  | nil => simp [moments]
  | cons word rest ih => simp [moments, ih]

theorem admissionCount_snoc :
    admissionCount (history ++ [word]) =
      admissionCount history + if admits history word then 1 else 0 := by
  unfold admissionCount
  rw [moments_append, List.countP_append]
  simp [moments, List.countP_singleton]

/-- A word stands in a history at its end or before its end. -/
theorem split_snoc {holds : List Word → List Word → Prop} {last : Word} :
    (∃ earlier later, history ++ [last] = earlier ++ word :: later ∧ holds earlier later) ↔
      last = word ∧ holds history [] ∨
        ∃ earlier later, history = earlier ++ word :: later ∧ holds earlier (later ++ [last]) := by
  constructor
  · rintro ⟨earlier, later, same, fits⟩
    rcases List.eq_nil_or_concat' later with rfl | ⟨later, final, rfl⟩
    · obtain ⟨rfl, ends⟩ := List.append_inj' same rfl
      exact .inl ⟨List.singleton_injective ends, fits⟩
    · rw [← List.cons_append, ← List.append_assoc] at same
      obtain ⟨rfl, ends⟩ := List.append_inj' same rfl
      cases ends
      exact .inr ⟨earlier, later, rfl, fits⟩
  · rintro (⟨rfl, fits⟩ | ⟨earlier, later, rfl, fits⟩)
    · exact ⟨history, [], rfl, fits⟩
    · exact ⟨earlier, later ++ [last], by simp, fits⟩

theorem stays_snoc {member : Member} :
    Stays (history ++ [word]) member ↔
      (word = .up member.handle ∧ isThere history member.key = false ∧
        member.id = admissionCount history) ∨
      Stays history member ∧ word ≠ .down member.key := by
  unfold Stays
  rw [split_snoc]
  refine or_congr (by simp) ?_
  constructor
  · rintro ⟨earlier, later, rfl, new, number, stays⟩
    rw [List.mem_append, not_or, List.mem_singleton] at stays
    exact ⟨⟨earlier, later, rfl, new, number, stays.1⟩, Ne.symm stays.2⟩
  · rintro ⟨⟨earlier, later, rfl, new, number, stays⟩, other⟩
    refine ⟨earlier, later, rfl, new, number, ?_⟩
    rw [List.mem_append, not_or, List.mem_singleton]
    exact ⟨stays, other.symm⟩

theorem leads_snoc :
    Leads (history ++ [word]) key ↔
      (word.leader? = some key ∧ isThere history key = true) ∨
      Leads history key ∧ word ≠ .down key ∧
        ∀ rival, word.leader? = some rival → isThere history rival = false := by
  constructor
  · rintro ⟨named, split⟩
    rcases split_snoc.mp split with ⟨rfl, leads, there, -⟩ |
      ⟨earlier, later, rfl, leads, there, stays, last⟩
    · exact .inl ⟨leads, there⟩
    · rw [List.mem_append, not_or, List.mem_singleton] at stays
      refine .inr ⟨⟨named, earlier, later, rfl, leads, there, stays.1, ?_⟩, Ne.symm stays.2, ?_⟩
      · intro between other rest same
        exact last between other (rest ++ [word]) (by simp [same])
      · exact last later word [] rfl
  · rintro (⟨leads, there⟩ |
      ⟨⟨named, earlier, later, rfl, leads, there, stays, last⟩, other, rivals⟩)
    · exact ⟨word, history, [], rfl, leads, there, by simp, by simp⟩
    · refine ⟨named, earlier, later ++ [word], by simp, leads, there, ?_, ?_⟩
      · rw [List.mem_append, not_or, List.mem_singleton]
        exact ⟨stays, other.symm⟩
      · intro between final rest same
        rcases List.eq_nil_or_concat' rest with rfl | ⟨rest, ending, rfl⟩
        · obtain ⟨rfl, ends⟩ := List.append_inj' same rfl
          cases ends
          exact rivals
        · rw [← List.cons_append, ← List.append_assoc] at same
          obtain ⟨rfl, -⟩ := List.append_inj' same rfl
          exact last between final rest rfl

/-! ### What the roster makes of it -/

/-- The roster is what can be read off the history. -/
structure Roster.Recalls (roster : Roster) (history : List Word) : Prop where
  sound : roster.Sound
  nextId : roster.nextId = admissionCount history
  handle : ∀ key, (roster.find? key).map Member.handle = handleOf? history key
  members : ∀ member, member ∈ roster.members ↔ Stays history member
  primary : ∀ key, roster.primaryKey = some key ↔ Leads history key

namespace Roster.Recalls

variable {roster left : Roster} {member : Member} {wasPrimary : Bool}

theorem tracks (recalls : roster.Recalls history) (key : String) :
    roster.tracks key = isThere history key := by
  rw [← isSome_handleOf?, ← recalls.handle, Option.isSome_map]
  rfl

theorem new : ({} : Roster).Recalls [] where
  sound := sound_new
  nextId := rfl
  handle _ := rfl
  members := by simp [Stays]
  primary := by simp [Leads]

theorem repeated (recalls : roster.Recalls history) (tracked : roster.tracks handle.key = true) :
    roster.Recalls (history ++ [.up handle]) := by
  have there : isThere history handle.key = true := recalls.tracks handle.key ▸ tracked
  refine ⟨recalls.sound, ?_, fun key => ?_, fun member => ?_, fun key => ?_⟩
  · simp [admissionCount_snoc, admits, there, recalls.nextId]
  · rw [handleOf?_snoc, if_neg (by simp), ← recalls.handle]
    by_cases same : handle.key = key
    · obtain ⟨found, isFound⟩ := Option.isSome_iff_exists.mp tracked
      simp [← same, isFound]
    · simp [Word.arrival?, same]
  · rw [stays_snoc, recalls.members]
    refine ⟨fun stays => .inr ⟨stays, by simp⟩, ?_⟩
    rintro (⟨same, new, -⟩ | ⟨stays, -⟩)
    · cases same
      cases there.symm.trans new
    · exact stays
  · rw [leads_snoc, recalls.primary]
    simp [Word.leader?]

theorem enrol (recalls : roster.Recalls history) (new : roster.tracks handle.key = false) :
    (roster.enrol handle).2.Recalls (history ++ [.up handle]) := by
  have absent : isThere history handle.key = false := recalls.tracks handle.key ▸ new
  have found := find?_enrol new
  refine ⟨recalls.sound.enrol new, ?_, fun key => ?_, fun member => ?_, fun key => ?_⟩
  · rw [enrol_new new]
    simp [admissionCount_snoc, admits, absent, recalls.nextId]
  · rw [handleOf?_snoc, if_neg (by simp), found, ← recalls.handle]
    by_cases same : handle.key = key
    · have nobody : roster.find? key = none := find?_of_untracked (same ▸ new)
      simp [Word.arrival?, same, nobody]
    · simp [Word.arrival?, same]
  · rw [mem_enrol new, stays_snoc, recalls.members, or_comm]
    refine or_congr ?_ (by simp)
    constructor
    · rintro rfl
      exact ⟨rfl, absent, recalls.nextId⟩
    · rintro ⟨same, -, number⟩
      obtain ⟨id, other⟩ := member
      cases same
      rw [recalls.nextId, ← number]
  · rw [enrol_new new, leads_snoc, ← recalls.primary]
    simp [Word.leader?]

theorem unknown (recalls : roster.Recalls history) (untracked : roster.tracks key = false) :
    roster.Recalls (history ++ [.down key]) := by
  refine ⟨recalls.sound, ?_, fun other => ?_, fun member => ?_, fun other => ?_⟩
  · simp [admissionCount_snoc, admits, recalls.nextId]
  · rw [handleOf?_snoc, ← recalls.handle]
    by_cases same : key = other
    · have nobody : roster.find? other = none := find?_of_untracked (same ▸ untracked)
      simp [same, nobody]
    · simp [Word.arrival?, same]
  · rw [stays_snoc, ← recalls.members]
    have differs := tracks_eq_false_iff.mp untracked
    constructor
    · exact fun tracked => .inr ⟨tracked, by simpa using (differs member tracked).symm⟩
    · rintro (⟨same, -⟩ | ⟨tracked, -⟩)
      · cases same
      · exact tracked
  · rw [leads_snoc, ← recalls.primary]
    simp only [Word.leader?, reduceCtorEq, false_and, false_or, Word.down.injEq, ne_eq]
    refine ⟨fun named => ⟨named, ?_, by simp⟩, And.left⟩
    rintro rfl
    cases untracked.symm.trans (recalls.sound.primary_tracked key named)

theorem dismiss (recalls : roster.Recalls history)
    (dismissed : roster.dismiss? key = some (member, wasPrimary, left)) :
    left.Recalls (history ++ [.down key]) := by
  have found := recalls.sound.find?_dismiss dismissed
  obtain ⟨-, -, nextId, -, -, -, -⟩ := dismiss?_frame dismissed
  refine ⟨recalls.sound.dismiss dismissed, ?_, fun other => ?_, fun other => ?_, fun other => ?_⟩
  · simp [admissionCount_snoc, admits, nextId, recalls.nextId]
  · rw [handleOf?_snoc, found, ← recalls.handle]
    by_cases same : key = other
    · simp [same]
    · simp [Word.arrival?, same, Ne.symm same]
  · rw [recalls.sound.mem_dismiss dismissed, stays_snoc, recalls.members]
    simp only [reduceCtorEq, false_and, false_or, ne_eq, Word.down.injEq]
    exact and_congr_right fun _ => not_congr eq_comm
  · rw [primary_dismiss dismissed, leads_snoc, ← recalls.primary]
    simp only [Word.leader?, reduceCtorEq, false_and, false_or, ne_eq, Word.down.injEq,
      false_implies, implies_true, and_true]
    exact and_congr_right fun _ => not_congr eq_comm

theorem follow (recalls : roster.Recalls history) (named : word.leader? = some key) :
    (roster.follow key).2.Recalls (history ++ [word]) := by
  have quiet : (∀ other, word.arrival? other = none) ∧ (∀ other, word ≠ .down other) ∧
      (∀ other, word ≠ .up other) ∧ admits history word = false := by
    cases word <;> simp_all [Word.leader?, Word.arrival?, admits]
  obtain ⟨nobody, notDown, notUp, none⟩ := quiet
  obtain ⟨members, nextId, -⟩ := roster.follow_frame key
  have found : ∀ other, (roster.follow key).2.find? other = roster.find? other := fun other => by
    rw [find?, members, find?]
  refine ⟨recalls.sound.follow key, ?_, fun other => ?_, fun other => ?_, fun other => ?_⟩
  · rw [nextId, admissionCount_snoc, none, recalls.nextId]
    rfl
  · rw [handleOf?_snoc, found, if_neg (notDown other), nobody, Option.or_none, recalls.handle]
  · rw [members, recalls.members, stays_snoc]
    simp [notUp, notDown]
  · rw [primary_follow, leads_snoc, ← recalls.primary, named, ← recalls.tracks]
    cases tracked : roster.tracks key with
    | true =>
      simp only [if_true, Option.some.injEq]
      constructor
      · rintro rfl
        exact .inl ⟨rfl, tracked⟩
      · rintro (⟨same, -⟩ | ⟨-, -, nobody⟩)
        · exact same
        · cases tracked.symm.trans ((recalls.tracks key).trans (nobody key rfl))
    | false =>
      simp only [Bool.false_eq_true, if_false, Option.some.injEq]
      constructor
      · refine fun leads => .inr ⟨leads, notDown other, ?_⟩
        rintro rival rfl
        exact (recalls.tracks key).symm.trans tracked
      · rintro (⟨rfl, there⟩ | ⟨leads, -⟩)
        · cases tracked.symm.trans there
        · exact leads

/-- A roster that is told one more word can still be read off what it was told. -/
theorem tell (recalls : roster.Recalls history) (word : Word) :
    (roster.perform word.operation).Recalls (history ++ [word]) := by
  cases word with
  | up handle =>
    show (roster.enrol handle).2.Recalls _
    cases tracked : roster.tracks handle.key with
    | true =>
      rw [enrol_tracked tracked]
      exact recalls.repeated tracked
    | false => exact recalls.enrol tracked
  | down key =>
    show (roster.perform (.dismiss key)).Recalls _
    rcases roster.dismiss_cases key with ⟨untracked, same⟩ | ⟨member, was, left, dismissed, same⟩
    · rw [same]
      exact recalls.unknown untracked
    · rw [same]
      exact recalls.dismiss dismissed
  | signal key | founded key => exact recalls.follow rfl

end Roster.Recalls

/-- Whatever a new roster is told, what it has become can be read off. -/
theorem Roster.performAll_recalls (history : List Word) :
    (performAll {} (history.map Word.operation)).Recalls history := by
  induction history using List.reverseRecOn with
  | nil => exact .new
  | append_singleton history word ih =>
    rw [List.map_append, performAll, List.foldl_append]
    exact ih.tell word

/-! ### Words about different members -/

/-- What is said about others does not matter. -/
theorem handleOf?_filter {keeps : Word → Bool}
    (about : ∀ word, word.mover? = some key → keeps word = true) (history : List Word) :
    handleOf? (history.filter keeps) key = handleOf? history key := by
  induction history using List.reverseRecOn with
  | nil => rfl
  | append_singleton history word ih =>
    cases kept : keeps word with
    | true => simp [List.filter_append, kept, handleOf?_snoc, ih]
    | false =>
      have other : word.mover? ≠ some key := fun same => by simp [about word same] at kept
      have stays : word ≠ .down key := fun same => other (by rw [same, Word.mover?])
      have nobody : word.arrival? key = none := by
        cases word with
        | up handle => simpa [Word.arrival?, Word.mover?] using other
        | _ => rfl
      simp [List.filter_append, kept, handleOf?_snoc, ih, stays, nobody]

/-- Two members came or went one right after the other, and then the other way round. -/
inductive Swaps : List Word → List Word → Prop
  | swap {one two : Word} (differ : one.mover? ≠ two.mover?) (earlier later : List Word) :
      Swaps (earlier ++ one :: two :: later) (earlier ++ two :: one :: later)

theorem Swaps.handleOf?_eq {other : List Word} (swaps : Swaps history other) (key : String) :
    handleOf? other key = handleOf? history key := by
  have about (history : List Word) :
      handleOf? (history.filter fun word => word.mover? = some key) key = handleOf? history key :=
    handleOf?_filter (by simp) history
  rw [← about, ← about history]
  cases swaps with
  | @swap one two differ earlier later =>
    -- At most one of the two words is about the key, so that the others leave one list of both.
    by_cases isOne : one.mover? = some key
    · have notTwo : two.mover? ≠ some key := fun isTwo => differ (isOne.trans isTwo.symm)
      simp [List.filter_append, isOne, notTwo]
    · simp [List.filter_append, List.filter_cons, isOne]

/-- It does not matter in which order different members come or go. -/
theorem handleOf?_eq_of_swaps {other : List Word}
    (swaps : Relation.ReflTransGen Swaps history other) (key : String) :
    handleOf? other key = handleOf? history key := by
  induction swaps with
  | refl => rfl
  | tail _ last ih => exact (last.handleOf?_eq key).trans ih

end ReplicaSet
