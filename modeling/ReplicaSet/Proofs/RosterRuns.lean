import ReplicaSet.Proofs.RosterShape

/-!
What a roster can come to. Its operations come in any order, and those on a closed one are no
different: that membership is frozen is seen to by whoever holds it.
-/
namespace ReplicaSet.Roster

variable {roster : Roster} {operation : Operation}

/-- What can be done to a roster. -/
inductive Operation where
  | enrol (handle : Handle)
  | dismiss (key : String)
  | follow (key : String)
  | close
deriving DecidableEq

/-- The roster after an operation, also if it came to nothing. -/
def perform (roster : Roster) : Operation → Roster
  | .enrol handle => (roster.enrol handle).2
  | .dismiss key => ((roster.dismiss? key).map fun dismissal => dismissal.2.2).getD roster
  | .follow key => (roster.follow key).2
  | .close => roster.close

/-- The roster after all of the operations, in this order. -/
def performAll (roster : Roster) (operations : List Operation) : Roster :=
  operations.foldl perform roster

/-- What the admissions among the operations come to, in this order. -/
def answers (roster : Roster) : List Operation → List Admission
  | [] => []
  | .enrol handle :: rest =>
    (roster.enrol handle).1 :: (roster.perform (.enrol handle)).answers rest
  | operation :: rest => (roster.perform operation).answers rest

theorem perform_dismissed {key : String} {member : Member} {wasPrimary : Bool} {left : Roster}
    (dismissed : roster.dismiss? key = some (member, wasPrimary, left)) :
    roster.perform (.dismiss key) = left := by
  simp [perform, dismissed]

theorem perform_dismiss_untracked {key : String} (untracked : roster.tracks key = false) :
    roster.perform (.dismiss key) = roster := by
  simp [perform, dismiss?_eq_none_iff.mpr untracked]

/-- A dismissal takes somebody out or changes nothing. -/
theorem dismiss_cases (roster : Roster) (key : String) :
    roster.tracks key = false ∧ roster.perform (.dismiss key) = roster ∨
      ∃ member wasPrimary left, roster.dismiss? key = some (member, wasPrimary, left) ∧
        roster.perform (.dismiss key) = left := by
  cases dismissed : roster.dismiss? key with
  | none =>
    have untracked := dismiss?_eq_none_iff.mp dismissed
    exact .inl ⟨untracked, perform_dismiss_untracked untracked⟩
  | some dismissal =>
    obtain ⟨member, wasPrimary, left⟩ := dismissal
    exact .inr ⟨member, wasPrimary, left, rfl, perform_dismissed dismissed⟩

theorem Sound.perform (sound : roster.Sound) (operation : Operation) :
    (roster.perform operation).Sound := by
  cases operation with
  | enrol handle =>
    show (roster.enrol handle).2.Sound
    cases tracked : roster.tracks handle.key with
    | true =>
      rw [enrol_tracked tracked]
      exact sound
    | false => exact sound.enrol tracked
  | dismiss key =>
    rcases roster.dismiss_cases key with ⟨-, same⟩ | ⟨member, wasPrimary, left, dismissed, same⟩
    · rw [same]
      exact sound
    · rw [same]
      exact sound.dismiss dismissed
  | follow key => exact sound.follow key
  | close => exact sound.close

theorem Sound.performAll (sound : roster.Sound) (operations : List Operation) :
    (roster.performAll operations).Sound := by
  induction operations generalizing roster with
  | nil => exact sound
  | cons operation rest ih => exact ih (sound.perform operation)

theorem Sound.primary_found (sound : roster.Sound) {key : String}
    (named : roster.primaryKey = some key) :
    ∃ primary, roster.primary? = some primary ∧ primary ∈ roster.members ∧ primary.key = key := by
  obtain ⟨primary, found⟩ := Option.isSome_iff_exists.mp (sound.primary_tracked key named)
  obtain ⟨tracked, atKey⟩ := mem_of_find? found
  refine ⟨primary, ?_, tracked, atKey⟩
  simp [primary?, named, found]

/-! ### The founding -/

/-- Only an admission founds a set. -/
theorem perform_founded (other : ∀ handle, operation ≠ .enrol handle) :
    (roster.perform operation).founded = roster.founded := by
  cases operation with
  | enrol handle => exact absurd rfl (other handle)
  | dismiss key =>
    rcases roster.dismiss_cases key with ⟨-, same⟩ | ⟨member, wasPrimary, left, dismissed, same⟩
    · rw [same]
    · rw [same]
      exact (dismiss?_frame dismissed).2.2.2.1
  | follow key => exact (roster.follow_frame key).2.2.1
  | close => rfl

theorem enrol_founded (founded : roster.founded = true) (handle : Handle) :
    (roster.enrol handle).2.founded = true ∧ ((roster.enrol handle).1 = .duplicate ∨
      (roster.enrol handle).1 = .newcomer ⟨roster.nextId, handle⟩) := by
  cases tracked : roster.tracks handle.key with
  | true =>
    rw [enrol_tracked tracked]
    exact ⟨founded, .inl rfl⟩
  | false =>
    rw [enrol_new tracked]
    exact ⟨rfl, .inr (if_pos founded)⟩

theorem answers_skip (other : ∀ handle, operation ≠ .enrol handle) (rest : List Operation) :
    roster.answers (operation :: rest) = (roster.perform operation).answers rest := by
  cases operation with
  | enrol handle => exact absurd rfl (other handle)
  | _ => rfl

/-- A set that is founded is not founded again, not even when all its members have left. -/
theorem answers_of_founded (founded : roster.founded = true) (operations : List Operation) :
    ∀ answer ∈ roster.answers operations,
      answer = .duplicate ∨ ∃ member, answer = .newcomer member := by
  induction operations generalizing roster with
  | nil => simp [answers]
  | cons operation rest ih =>
    by_cases entry : ∃ handle, operation = .enrol handle
    · obtain ⟨handle, rfl⟩ := entry
      obtain ⟨stays, answered⟩ := enrol_founded founded handle
      intro answer given
      rcases List.mem_cons.mp given with rfl | later
      · exact answered.imp_right fun newcomer => ⟨_, newcomer⟩
      · exact ih stays answer later
    · have other : ∀ handle, operation ≠ .enrol handle := fun handle same => entry ⟨handle, same⟩
      rw [answers_skip other]
      exact ih ((perform_founded other).trans founded)

/-- Of the admissions that have an effect, the first one founds the set under number zero, and no
later one does. -/
theorem Sound.answers_of_unfounded (sound : roster.Sound) (unfounded : roster.founded = false)
    (operations : List Operation) :
    (roster.answers operations).filter (· ≠ .duplicate) = [] ∨
      ∃ handle later, (roster.answers operations).filter (· ≠ .duplicate) =
        .founder ⟨0, handle⟩ :: later ∧ ∀ answer ∈ later, ∃ member, answer = .newcomer member := by
  induction operations generalizing roster with
  | nil => exact .inl rfl
  | cons operation rest ih =>
    by_cases entry : ∃ handle, operation = .enrol handle
    · obtain ⟨handle, rfl⟩ := entry
      obtain ⟨nextId, new⟩ := sound.new_of_unfounded unfounded handle.key
      have answered : (roster.enrol handle).1 = .founder ⟨0, handle⟩ := by
        simp [enrol_new new, unfounded, nextId]
      have founded : (roster.perform (.enrol handle)).founded = true := by
        simp [Roster.perform, enrol_new new]
      refine .inr ⟨handle, ((roster.perform (.enrol handle)).answers rest).filter (· ≠ .duplicate),
        ?_, fun answer given => ?_⟩
      · simp [answers, answered]
      · obtain ⟨later, effective⟩ := List.mem_filter.mp given
        rcases answers_of_founded founded rest answer later with rfl | newcomer
        · exact absurd rfl (of_decide_eq_true effective)
        · exact newcomer
    · have other : ∀ handle, operation ≠ .enrol handle := fun handle same => entry ⟨handle, same⟩
      rw [answers_skip other]
      exact ih (sound.perform operation) ((perform_founded other).trans unfounded)

/-- Whatever is done to a new roster: keys are tracked once, numbers increase and stay below the
next one, the primary is tracked, and the set is founded exactly when a number was given. An
admission has an effect, and is not answered as a duplicate, exactly when its key is not tracked,
and afterwards the key is. Of the admissions that have an effect, exactly the first one founds the
set, under number zero. -/
theorem reachable_roster_consistent (operations : List Operation) :
    ((performAll {} operations).members.map Member.key).Nodup ∧
    (performAll {} operations).members.Pairwise (fun earlier later => earlier.id < later.id) ∧
    (∀ member ∈ (performAll {} operations).members,
      member.id < (performAll {} operations).nextId) ∧
    (∀ key, (performAll {} operations).primaryKey = some key →
      ∃ primary, (performAll {} operations).primary? = some primary ∧
        primary ∈ (performAll {} operations).members ∧ primary.key = key) ∧
    ((performAll {} operations).founded = true ↔ 0 < (performAll {} operations).nextId) ∧
    (∀ handle,
      (((performAll {} operations).enrol handle).1 = .duplicate ↔
        (performAll {} operations).tracks handle.key = true) ∧
      (((performAll {} operations).enrol handle).2 = performAll {} operations ↔
        (performAll {} operations).tracks handle.key = true) ∧
      ((performAll {} operations).enrol handle).2.tracks handle.key = true) ∧
    ((answers {} operations).filter (· ≠ .duplicate) = [] ∨
      ∃ handle later, (answers {} operations).filter (· ≠ .duplicate) =
        .founder ⟨0, handle⟩ :: later ∧ ∀ answer ∈ later, ∃ member, answer = .newcomer member) := by
  have sound : (performAll {} operations).Sound := sound_new.performAll operations
  exact ⟨sound.keys_nodup, sound.ids_increase, sound.id_lt, fun key => sound.primary_found,
    sound.founded_iff, fun handle => ⟨enrol_duplicate_iff, enrol_same_iff, tracks_enrol _ handle⟩,
    sound_new.answers_of_unfounded rfl operations⟩

/-- A set that drained completely is not founded again. -/
example (one two : Origin) :
    answers {} [.enrol ⟨"a", one⟩, .follow "a", .dismiss "a", .enrol ⟨"a", two⟩] =
      [.founder ⟨0, ⟨"a", one⟩⟩, .newcomer ⟨1, ⟨"a", two⟩⟩] := rfl

end ReplicaSet.Roster
