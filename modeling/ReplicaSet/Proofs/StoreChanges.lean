import Mathlib.Data.List.Induction
import ReplicaSet.Proofs.StoreRuns

/-!
What elections and requests change in a store. A call that fails changes nothing, and one that
succeeds changes what it is about and nothing else. So a key that is configured keeps its number
until it is removed.
-/
namespace ReplicaSet.Store

variable {store : Store} {key via : String} {id : Nat} {request : Request} {cause : StoreError}
  {more : List Operation}

/-! ### Single calls -/

theorem elect_refused (failed : (store.elect key).1 = .error cause) :
    (store.elect key).2 = store := by
  unfold elect at failed ⊢
  cases objection : store.electionObjection? key with
  | some other => rfl
  | none =>
    rw [objection] at failed
    cases failed

theorem elect_accepted (succeeded : (store.elect key).1 = .ok ()) :
    (store.elect key).2 = { store with primaryKey := some key } := by
  unfold elect at succeeded ⊢
  cases objection : store.electionObjection? key with
  | none => rfl
  | some cause =>
    rw [objection] at succeeded
    cases succeeded

theorem serve_unchanged (failed : (store.serve via request).1 = .error cause) :
    (store.serve via request).2 = store := by
  cases objection : store.objection? via request with
  | some other => rw [serve_refused objection]
  | none =>
    rw [serve_accepted objection] at failed
    cases failed

theorem accepted_of_served (succeeded : (store.serve via request).1 = .ok ()) :
    store.objection? via request = none ∧
      (store.serve via request).2 = store.carryOut via request := by
  cases objection : store.objection? via request with
  | none => exact ⟨rfl, by rw [serve_accepted objection]⟩
  | some cause =>
    rw [serve_refused objection] at succeeded
    cases succeeded

/-- A number that is free is put in somewhere between the others. -/
theorem putMember_free {members : List (Nat × String)} (key : String)
    (free : ∀ holder, (id, holder) ∉ members) :
    ∃ earlier later, members = earlier ++ later ∧
      putMember id key members = earlier ++ (id, key) :: later := by
  induction members with
  | nil => exact ⟨[], [], rfl, rfl⟩
  | cons first rest ih =>
    have differs : id ≠ first.1 := fun same => free first.2 (same ▸ List.mem_cons_self)
    by_cases below : id < first.1
    · exact ⟨[], first :: rest, rfl, by simp [putMember, below]⟩
    · have freeRest : ∀ holder, (id, holder) ∉ rest := fun holder old =>
        free holder (List.mem_cons_of_mem _ old)
      obtain ⟨earlier, later, rfl, put⟩ := ih freeRest
      exact ⟨first :: earlier, later, rfl, by simp [putMember, below, differs, put]⟩

theorem Sound.found_carried (sound : store.Sound) {setName : String}
    (accepted : store.objection? via (.found setName id) = none) :
    store.carryOut via (.found setName id) =
      { store with setName := some setName, configuration := [(id, via)], primaryKey := some via } := by
  have only : putMember id via store.configuration = [(id, via)] :=
    sound.configuration_found accepted
  rw [Store.carryOut, only]

/-- Whoever is removed does not run, and the primary does. -/
theorem Sound.not_primary (sound : store.Sound) (stopped : store.isAvailable key = false) :
    store.primaryKey ≠ some key := by
  intro named
  have runs := (sound.primary_runs key named).1
  cases runs.symm.trans stopped

/-! ### How long a key keeps its number -/

/-- The key is configured under this number, and no other, from now on until all of the operations
are done. -/
def Keeps (store : Store) (id : Nat) (key : String) (operations : List Operation) : Prop :=
  ∀ early, early <+: operations →
    ∀ other, (other, key) ∈ (store.performAll early).configuration ↔ other = id

/-- An operation leaves a configured key where it is, unless it removes it. -/
theorem Sound.stays (sound : store.Sound) (configured : (id, key) ∈ store.configuration)
    (operation : Operation) :
    (id, key) ∈ (store.perform operation).configuration ∨
      ∃ via, operation = .request via (.remove key) ∧
        store.objection? via (.remove key) = none := by
  cases operation with
  | startNode | setAvailable => exact .inl configured
  | elect other =>
    left
    show (id, key) ∈ (store.elect other).2.configuration
    rw [(elect_frame store other).1]
    exact configured
  | request via request =>
    show (id, key) ∈ (store.serve via request).2.configuration ∨ _
    cases objection : store.objection? via request with
    | some cause =>
      rw [serve_refused objection]
      exact .inl configured
    | none =>
      rw [serve_accepted objection]
      cases request with
      | found setName number =>
        -- A set is founded when nobody is configured.
        have nobody := sound.unnamed_iff.mp (accepts_found.mp objection).2
        rw [nobody] at configured
        cases configured
      | add other number => exact .inl ((sound.mem_add objection).mpr (.inr configured))
      | remove other =>
        by_cases same : key = other
        · subst same
          exact .inr ⟨via, rfl, objection⟩
        · exact .inl ((mem_remove via).mpr ⟨configured, same⟩)

theorem Sound.configured_iff (sound : store.Sound) (configured : (id, key) ∈ store.configuration)
    (other : Nat) : (other, key) ∈ store.configuration ↔ other = id := by
  constructor
  · intro alsoConfigured
    exact sound.id_unique alsoConfigured configured
  · rintro rfl
    exact configured

theorem Keeps.now (keeps : store.Keeps id key more) :
    (id, key) ∈ (store.performAll more).configuration :=
  (keeps more List.prefix_rfl id).mpr rfl

theorem Keeps.snoc (keeps : store.Keeps id key more) (sound : store.Sound) {operation : Operation}
    (stays : (id, key) ∈ ((store.performAll more).perform operation).configuration) :
    store.Keeps id key (more ++ [operation]) := by
  intro early isPrefix other
  rcases List.prefix_concat_iff.mp isPrefix with rfl | before
  · rw [performAll_append]
    exact ((sound.performAll more).perform operation).configured_iff stays other
  · exact keeps early before other

/-- A key that is configured keeps its number throughout all operations, or until it is removed. -/
theorem Sound.keeps_or_removed (sound : store.Sound)
    (configured : (id, key) ∈ store.configuration) (more : List Operation) :
    store.Keeps id key more ∨
      ∃ early via late, more = early ++ .request via (.remove key) :: late ∧
        store.Keeps id key early ∧
        (store.performAll early).objection? via (.remove key) = none := by
  induction more using List.reverseRecOn with
  | nil =>
    left
    intro early isPrefix other
    rw [List.prefix_nil.mp isPrefix]
    exact sound.configured_iff configured other
  | append_singleton more operation ih =>
    rcases ih with keeps | ⟨early, via, late, rfl, keeps, removed⟩
    · rcases (sound.performAll more).stays keeps.now operation with stays | ⟨via, rfl, removed⟩
      · exact .inl (keeps.snoc sound stays)
      · exact .inr ⟨more, via, [], rfl, keeps, removed⟩
    · exact .inr ⟨early, via, late ++ [operation], by simp, keeps, removed⟩

/-- In any state that a store can come to, an election or a request that fails leaves all of it as
it is. An election that is won names the primary. A founding sets the name, the one entry of the
addressed node and the primary, an addition puts in one entry whose number and key were free, a
removal takes out the entry of a key that does not run and is not the primary, and nothing else
changes. From then on, whatever is done, a configured key keeps its number until a request to
remove it is made through the primary of that time, while the key does not run. -/
theorem Reached.changed_as_asked (reached : store.Reached) :
    (∀ key cause, (store.elect key).1 = .error cause → (store.elect key).2 = store) ∧
    (∀ via request cause, (store.serve via request).1 = .error cause →
      (store.serve via request).2 = store) ∧
    (∀ key, (store.elect key).1 = .ok () →
      (store.elect key).2 = { store with primaryKey := some key }) ∧
    (∀ via setName id, (store.serve via (.found setName id)).1 = .ok () →
      (store.serve via (.found setName id)).2 =
        { store with
          setName := some setName, configuration := [(id, via)], primaryKey := some via }) ∧
    (∀ via key id, (store.serve via (.add key id)).1 = .ok () →
      store.isConfigured key = false ∧ (∀ holder, (id, holder) ∉ store.configuration) ∧
      ∃ earlier later, store.configuration = earlier ++ later ∧
        (store.serve via (.add key id)).2 =
          { store with configuration := earlier ++ (id, key) :: later }) ∧
    (∀ via key, (store.serve via (.remove key)).1 = .ok () →
      store.isAvailable key = false ∧ store.primaryKey ≠ some key ∧
      (store.serve via (.remove key)).2 =
        { store with configuration := store.configuration.filter fun entry => entry.2 ≠ key }) ∧
    ∀ id key, (id, key) ∈ store.configuration → ∀ more, store.Keeps id key more ∨
      ∃ early via late, more = early ++ .request via (.remove key) :: late ∧
        store.Keeps id key early ∧
        (store.performAll early).primaryKey = some via ∧
        (store.performAll early).isAvailable key = false ∧
        ((store.performAll early).serve via (.remove key)).1 = .ok () ∧
        (store.performAll (early ++ [.request via (.remove key)])).isConfigured key = false := by
  have sound := reached.sound
  refine ⟨fun key cause => elect_refused, fun via request cause => serve_unchanged,
    fun key => elect_accepted, ?_, ?_, ?_, ?_⟩
  · intro via setName id succeeded
    obtain ⟨accepted, carried⟩ := accepted_of_served succeeded
    exact carried.trans (sound.found_carried accepted)
  · intro via key id succeeded
    obtain ⟨accepted, carried⟩ := accepted_of_served succeeded
    obtain ⟨-, -, newKey, newId⟩ := accepts_add.mp accepted
    have free := holder?_eq_none_iff.mp newId
    obtain ⟨earlier, later, split, put⟩ := putMember_free key free
    refine ⟨newKey, free, earlier, later, split, carried.trans ?_⟩
    rw [carryOut, put]
  · intro via key succeeded
    obtain ⟨accepted, carried⟩ := accepted_of_served succeeded
    have stopped := (accepts_remove.mp accepted).2
    exact ⟨stopped, sound.not_primary stopped, carried⟩
  · intro id key configured more
    refine (sound.keeps_or_removed configured more).imp_right ?_
    rintro ⟨early, via, late, rfl, keeps, accepted⟩
    obtain ⟨⟨-, primary⟩, stopped⟩ := accepts_remove.mp accepted
    have served := serve_accepted accepted
    refine ⟨early, via, late, rfl, keeps, primary, stopped, by rw [served], ?_⟩
    have gone : (store.performAll (early ++ [.request via (.remove key)])) =
        (store.performAll early).carryOut via (.remove key) := by
      rw [performAll_append]
      exact congrArg Prod.snd served
    rw [gone, isConfigured_eq_false_iff]
    intro other there
    exact ((mem_remove via).mp there).2 rfl

/-- Two nodes. A set was founded on the one, and the other one was added. -/
def couple : Store :=
  performAll {} [.startNode "a" "a:1", .startNode "b" "b:1", .request "a" (.found "rs" 0),
    .request "a" (.add "b" 1)]

/-- The removal of the second node is asked of itself, then while it runs, and then once it was
stopped. -/
def parting : List Operation :=
  [.request "b" (.remove "b"), .request "a" (.remove "b"), .setAvailable "b" false,
    .request "a" (.remove "b")]

theorem changed_as_asked_couple : couple.Reached ∧ (1, "b") ∈ couple.configuration ∧
    (couple.serve "a" (.remove "b")).1 = .error (.rejected (.stillRunning "b")) ∧
    (couple.serve "a" (.remove "b")).2 = couple ∧
    ∃ early via late, parting = early ++ .request via (.remove "b") :: late ∧
      (couple.performAll early).primaryKey = some via ∧
      (couple.performAll early).isAvailable "b" = false := by
  have reached : couple.Reached := ⟨_, rfl⟩
  have configured : (1, "b") ∈ couple.configuration := by decide
  obtain ⟨-, unchanged, -, -, -, -, kept⟩ := reached.changed_as_asked
  refine ⟨reached, configured, rfl, unchanged "a" (.remove "b") _ rfl, ?_⟩
  rcases kept 1 "b" configured parting with
    keeps | ⟨early, via, late, split, -, primary, stopped, -⟩
  · exact absurd keeps.now (by decide)
  · exact ⟨early, via, late, split, primary, stopped⟩

end ReplicaSet.Store
