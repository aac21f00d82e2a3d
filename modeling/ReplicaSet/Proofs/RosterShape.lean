import Mathlib.Data.List.Nodup
import ReplicaSet.Roster

/-!
The shape of a roster: a key is tracked once, numbers increase and are never given twice, and the
primary is tracked. Every operation keeps it.
-/
namespace ReplicaSet.Roster

variable {roster after : Roster} {member : Member} {key : String}

structure Sound (roster : Roster) : Prop where
  keys_nodup : (roster.members.map Member.key).Nodup
  ids_increase : roster.members.Pairwise fun earlier later => earlier.id < later.id
  id_lt : ∀ member ∈ roster.members, member.id < roster.nextId
  primary_tracked : ∀ key, roster.primaryKey = some key → roster.tracks key = true
  founded_iff : roster.founded = true ↔ 0 < roster.nextId

/-! ### What is tracked -/

theorem mem_of_find? (found : roster.find? key = some member) :
    member ∈ roster.members ∧ member.key = key :=
  ⟨List.mem_of_find?_eq_some found, of_decide_eq_true (List.find?_some found :)⟩

theorem tracks_iff : roster.tracks key = true ↔ ∃ member ∈ roster.members, member.key = key := by
  simp [tracks, find?]

theorem tracks_eq_false_iff :
    roster.tracks key = false ↔ ∀ member ∈ roster.members, member.key ≠ key := by
  simp [tracks, find?]

theorem find?_of_untracked (untracked : roster.tracks key = false) : roster.find? key = none := by
  rw [← Option.not_isSome_iff_eq_none]
  simpa [tracks] using untracked

theorem tracks_of_mem (tracked : member ∈ roster.members) : roster.tracks member.key = true :=
  tracks_iff.mpr ⟨member, tracked, rfl⟩

theorem Sound.eq_of_key (sound : roster.Sound) {other : Member} (tracked : member ∈ roster.members)
    (otherTracked : other ∈ roster.members) (same : member.key = other.key) : member = other :=
  List.inj_on_of_nodup_map sound.keys_nodup tracked otherTracked same

theorem Sound.find?_eq_some_iff (sound : roster.Sound) :
    roster.find? key = some member ↔ member ∈ roster.members ∧ member.key = key := by
  refine ⟨mem_of_find?, fun ⟨tracked, atKey⟩ => ?_⟩
  cases found : roster.find? key with
  | none =>
    have absent := List.find?_eq_none.mp found member tracked
    simp [atKey] at absent
  | some other =>
    obtain ⟨otherTracked, otherKey⟩ := mem_of_find? found
    rw [sound.eq_of_key otherTracked tracked (otherKey.trans atKey.symm)]

theorem Sound.find?_of_mem (sound : roster.Sound) (tracked : member ∈ roster.members) :
    roster.find? member.key = some member :=
  sound.find?_eq_some_iff.mpr ⟨tracked, rfl⟩

theorem Sound.idOf?_eq_some_iff (sound : roster.Sound) {id : Nat} :
    roster.idOf? key = some id ↔ ∃ member ∈ roster.members, member.key = key ∧ member.id = id := by
  simp only [idOf?, Option.map_eq_some_iff, sound.find?_eq_some_iff, and_assoc]

theorem idOf?_isSome : (roster.idOf? key).isSome = roster.tracks key := by
  simp [idOf?, tracks]

theorem Sound.isCurrent_iff (sound : roster.Sound) :
    roster.isCurrent member = true ↔
      ∃ other ∈ roster.members, other.key = member.key ∧ other.id = member.id := by
  simp only [isCurrent, decide_eq_true_eq, sound.idOf?_eq_some_iff]

theorem Sound.isCurrent_of_mem (sound : roster.Sound) (tracked : member ∈ roster.members) :
    roster.isCurrent member = true :=
  sound.isCurrent_iff.mpr ⟨member, tracked, rfl, rfl⟩

theorem mem_of_primary? (primary : roster.primary? = some member) :
    member ∈ roster.members ∧ roster.primaryKey = some member.key := by
  obtain ⟨key, named, found⟩ := Option.bind_eq_some_iff.mp primary
  obtain ⟨tracked, rfl⟩ := mem_of_find? found
  exact ⟨tracked, named⟩

/-- Nobody was tracked before the set was founded. -/
theorem Sound.new_of_unfounded (sound : roster.Sound) (unfounded : roster.founded = false)
    (key : String) : roster.nextId = 0 ∧ roster.tracks key = false := by
  have none : roster.nextId = 0 := by
    by_contra some
    simp [sound.founded_iff.mpr (Nat.pos_of_ne_zero some)] at unfounded
  refine ⟨none, tracks_eq_false_iff.mpr fun member tracked => ?_⟩
  have below := sound.id_lt member tracked
  omega

/-! ### The operations -/

theorem sound_new : ({} : Roster).Sound where
  keys_nodup := .nil
  ids_increase := .nil
  id_lt := by simp
  primary_tracked := by simp
  founded_iff := by simp

theorem enrol_tracked {handle : Handle} (tracked : roster.tracks handle.key = true) :
    roster.enrol handle = (.duplicate, roster) :=
  if_pos tracked

theorem enrol_new {handle : Handle} (new : roster.tracks handle.key = false) :
    roster.enrol handle =
      (if roster.founded then .newcomer ⟨roster.nextId, handle⟩
        else .founder ⟨roster.nextId, handle⟩,
      { roster with
        members := roster.members ++ [⟨roster.nextId, handle⟩]
        founded := true
        nextId := roster.nextId + 1 }) := by
  simp [enrol, new]

theorem mem_enrol {handle : Handle} (new : roster.tracks handle.key = false) :
    member ∈ (roster.enrol handle).2.members ↔
      member ∈ roster.members ∨ member = ⟨roster.nextId, handle⟩ := by
  simp [enrol_new new]

/-- An admission is turned down exactly when the key is tracked already. -/
theorem enrol_duplicate_iff {handle : Handle} :
    (roster.enrol handle).1 = .duplicate ↔ roster.tracks handle.key = true := by
  cases tracked : roster.tracks handle.key with
  | true => simp [enrol_tracked tracked]
  | false => cases founded : roster.founded <;> simp [enrol_new tracked, founded]

/-- Every other one changes the roster, since it uses up a number. -/
theorem enrol_same_iff {handle : Handle} :
    (roster.enrol handle).2 = roster ↔ roster.tracks handle.key = true := by
  cases tracked : roster.tracks handle.key with
  | true => simp [enrol_tracked tracked]
  | false =>
    refine iff_of_false (fun same => ?_) Bool.false_ne_true
    have number := congrArg nextId same
    rw [enrol_new tracked] at number
    exact Nat.succ_ne_self _ number

/-- After either the key is tracked. -/
theorem tracks_enrol (roster : Roster) (handle : Handle) :
    (roster.enrol handle).2.tracks handle.key = true := by
  cases tracked : roster.tracks handle.key with
  | true => rwa [enrol_tracked tracked]
  | false => exact tracks_of_mem ((mem_enrol tracked).mpr (.inr rfl))

theorem find?_enrol {handle : Handle} (new : roster.tracks handle.key = false) (key : String) :
    (roster.enrol handle).2.find? key =
      (roster.find? key).or (if handle.key = key then some ⟨roster.nextId, handle⟩ else none) := by
  have isNew : find? { roster with members := [⟨roster.nextId, handle⟩] } key =
      if handle.key = key then some ⟨roster.nextId, handle⟩ else none := by
    by_cases same : handle.key = key <;> simp [find?, Member.key, same]
  rw [enrol_new new, ← isNew]
  exact List.find?_append

theorem Sound.enrol (sound : roster.Sound) {handle : Handle}
    (new : roster.tracks handle.key = false) : (roster.enrol handle).2.Sound := by
  have absent := tracks_eq_false_iff.mp new
  rw [enrol_new new]
  refine ⟨?_, ?_, ?_, ?_, by simp⟩
  · rw [List.map_append, List.nodup_append]
    refine ⟨sound.keys_nodup, by simp, ?_⟩
    intro key tracked other isNew same
    obtain ⟨member, inside, rfl⟩ := List.mem_map.mp tracked
    simp only [List.map_cons, List.map_nil, List.mem_singleton] at isNew
    exact absent member inside (same.trans isNew)
  · refine List.pairwise_append.mpr ⟨sound.ids_increase, by simp, ?_⟩
    intro earlier tracked later isNew
    rw [List.mem_singleton] at isNew
    exact isNew ▸ sound.id_lt earlier tracked
  · intro member tracked
    rcases List.mem_append.mp tracked with old | new
    · exact Nat.lt_succ_of_lt (sound.id_lt member old)
    · rw [List.mem_singleton] at new
      rw [new]
      exact Nat.lt_succ_self roster.nextId
  · intro key named
    obtain ⟨member, tracked, atKey⟩ := tracks_iff.mp (sound.primary_tracked key named)
    exact tracks_iff.mpr ⟨member, List.mem_append_left _ tracked, atKey⟩

theorem dismiss?_eq_none_iff : roster.dismiss? key = none ↔ roster.tracks key = false := by
  simp [dismiss?, tracks]

theorem mem_eraseP_key {members : List Member} (distinct : (members.map Member.key).Nodup) :
    member ∈ members.eraseP (fun other => other.key = key) ↔ member ∈ members ∧ member.key ≠ key := by
  induction members with
  | nil => simp
  | cons first rest ih =>
    obtain ⟨absent, distinct⟩ := List.nodup_cons.mp distinct
    by_cases atKey : first.key = key
    · simp only [List.eraseP_cons, atKey, decide_true, cond_true, List.mem_cons]
      constructor
      · intro inRest
        refine ⟨.inr inRest, fun same => absent ?_⟩
        exact List.mem_map.mpr ⟨member, inRest, same.trans atKey.symm⟩
      · rintro ⟨rfl | inRest, differs⟩
        · exact absurd atKey differs
        · exact inRest
    · simp only [List.eraseP_cons, atKey, decide_false, cond_false, List.mem_cons, ih distinct]
      constructor
      · rintro (rfl | ⟨inRest, differs⟩)
        · exact ⟨.inl rfl, atKey⟩
        · exact ⟨.inr inRest, differs⟩
      · rintro ⟨rfl | inRest, differs⟩
        · exact .inl rfl
        · exact .inr ⟨inRest, differs⟩

/-- A dismissal takes out the member of that key alone. -/
theorem Sound.mem_dismiss (sound : roster.Sound) {wasPrimary : Bool}
    (dismissed : roster.dismiss? key = some (member, wasPrimary, after)) {other : Member} :
    other ∈ after.members ↔ other ∈ roster.members ∧ other.key ≠ key := by
  obtain ⟨found, _, same⟩ := Option.map_eq_some_iff.mp dismissed
  cases same
  exact mem_eraseP_key sound.keys_nodup

theorem primary_dismiss {wasPrimary : Bool}
    (dismissed : roster.dismiss? key = some (member, wasPrimary, after)) (other : String) :
    after.primaryKey = some other ↔ roster.primaryKey = some other ∧ other ≠ key := by
  obtain ⟨found, -, same⟩ := Option.map_eq_some_iff.mp dismissed
  cases same
  by_cases primary : roster.primaryKey = some key
  · simp [primary, eq_comm]
  · simp only [primary, decide_false, Bool.false_eq_true, if_false]
    refine ⟨fun named => ⟨named, ?_⟩, And.left⟩
    rintro rfl
    exact primary named

theorem dismiss?_frame {wasPrimary : Bool}
    (dismissed : roster.dismiss? key = some (member, wasPrimary, after)) :
    member ∈ roster.members ∧ member.key = key ∧ after.nextId = roster.nextId ∧
      after.founded = roster.founded ∧ after.closed = roster.closed ∧
      after.members.Sublist roster.members ∧
      ∀ primary, after.primaryKey = some primary →
        roster.primaryKey = some primary ∧ primary ≠ key := by
  have primary := primary_dismiss dismissed
  obtain ⟨found, isFound, same⟩ := Option.map_eq_some_iff.mp dismissed
  obtain ⟨tracked, atKey⟩ := mem_of_find? isFound
  cases same
  exact ⟨tracked, atKey, rfl, rfl, rfl, List.eraseP_sublist, fun other => (primary other).mp⟩

theorem Sound.dismiss (sound : roster.Sound) {wasPrimary : Bool}
    (dismissed : roster.dismiss? key = some (member, wasPrimary, after)) : after.Sound := by
  obtain ⟨-, -, nextId, founded, -, fewer, primary⟩ := dismiss?_frame dismissed
  refine ⟨sound.keys_nodup.sublist (fewer.map _), sound.ids_increase.sublist fewer, ?_, ?_, ?_⟩
  · intro member tracked
    exact nextId ▸ sound.id_lt member (fewer.subset tracked)
  · intro primaryKey named
    obtain ⟨before, differs⟩ := primary primaryKey named
    obtain ⟨member, tracked, atKey⟩ := tracks_iff.mp (sound.primary_tracked primaryKey before)
    exact tracks_iff.mpr ⟨member, (sound.mem_dismiss dismissed).mpr
      ⟨tracked, fun same => differs (atKey.symm.trans same)⟩, atKey⟩
  · rw [founded, nextId]
    exact sound.founded_iff

theorem Sound.find?_dismiss (sound : roster.Sound) {wasPrimary : Bool}
    (dismissed : roster.dismiss? key = some (member, wasPrimary, after)) (other : String) :
    after.find? other = if other = key then none else roster.find? other := by
  ext found
  rw [(sound.dismiss dismissed).find?_eq_some_iff, sound.mem_dismiss dismissed]
  by_cases same : other = key
  · rw [if_pos same]
    refine iff_of_false ?_ (by simp)
    rintro ⟨⟨-, differs⟩, atKey⟩
    exact differs (atKey.trans same)
  · rw [if_neg same, sound.find?_eq_some_iff]
    constructor
    · rintro ⟨⟨tracked, -⟩, atKey⟩
      exact ⟨tracked, atKey⟩
    · rintro ⟨tracked, rfl⟩
      exact ⟨⟨tracked, same⟩, rfl⟩

theorem follow_frame (roster : Roster) (key : String) :
    (roster.follow key).2.members = roster.members ∧
      (roster.follow key).2.nextId = roster.nextId ∧
      (roster.follow key).2.founded = roster.founded ∧
      (roster.follow key).2.closed = roster.closed := by
  unfold follow
  split
  · exact ⟨rfl, rfl, rfl, rfl⟩
  · split <;> exact ⟨rfl, rfl, rfl, rfl⟩

theorem primary_follow (roster : Roster) (key : String) :
    (roster.follow key).2.primaryKey =
      if roster.tracks key then some key else roster.primaryKey := by
  unfold follow
  cases roster.tracks key with
  | false => rfl
  | true => by_cases already : roster.primaryKey = some key <;> simp [already]

theorem Sound.follow (sound : roster.Sound) (key : String) : (roster.follow key).2.Sound := by
  unfold Roster.follow
  split
  · exact sound
  · rename_i tracked
    split
    · exact sound
    · refine ⟨sound.keys_nodup, sound.ids_increase, sound.id_lt, ?_, sound.founded_iff⟩
      intro other named
      cases named
      simp only [Bool.not_eq_true', Bool.not_eq_false] at tracked
      exact tracked

theorem Sound.close (sound : roster.Sound) : roster.close.Sound :=
  ⟨sound.keys_nodup, sound.ids_increase, sound.id_lt, sound.primary_tracked, sound.founded_iff⟩

end ReplicaSet.Roster
