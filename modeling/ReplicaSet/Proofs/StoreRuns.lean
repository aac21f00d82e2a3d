import ReplicaSet.Proofs.StoreShape

/-!
What a store in memory can come to. Nodes are started, stop and run again, elections are held, and
anybody who has a client of a node makes requests through it, with any keys and numbers.
-/
namespace ReplicaSet.Store

variable {store : Store} {name : String}

/-- What can be done to a store. -/
inductive Operation where
  | startNode (key endpoint : String)
  | setAvailable (key : String) (available : Bool)
  | elect (key : String)
  | request (via : String) (request : Request)

/-- The store after an operation, also if it was turned down. -/
def perform (store : Store) : Operation → Store
  | .startNode key endpoint => store.startNode key endpoint
  | .setAvailable key available => store.setAvailable key available
  | .elect key => (store.elect key).2
  | .request via request => (store.serve via request).2

/-- The store after all of the operations, in this order. -/
def performAll (store : Store) (operations : List Operation) : Store :=
  operations.foldl perform store

theorem performAll_append (store : Store) (earlier later : List Operation) :
    store.performAll (earlier ++ later) = (store.performAll earlier).performAll later :=
  List.foldl_append

theorem sound_new : ({} : Store).Sound where
  ids_increase := .nil
  keys_nodup := .nil
  primary_runs := by simp
  unnamed_iff := by simp

theorem Sound.perform (sound : store.Sound) (operation : Operation) :
    (store.perform operation).Sound := by
  cases operation with
  | startNode key endpoint => exact sound.startNode key endpoint
  | setAvailable key available => exact sound.setAvailable key available
  | elect key => exact sound.elect key
  | request via request => exact sound.serve via request

theorem Sound.performAll (sound : store.Sound) (operations : List Operation) :
    (store.performAll operations).Sound := by
  induction operations generalizing store with
  | nil => exact sound
  | cons operation rest ih => exact ih (sound.perform operation)

/-- Operations make the store out of a new one. -/
def Reached (store : Store) : Prop :=
  ∃ operations, store = performAll {} operations

theorem Reached.sound (reached : store.Reached) : store.Sound := by
  obtain ⟨operations, rfl⟩ := reached
  exact sound_new.performAll operations

theorem Reached.perform (reached : store.Reached) (operation : Operation) :
    (store.perform operation).Reached := by
  obtain ⟨operations, rfl⟩ := reached
  exact ⟨operations ++ [operation], (performAll_append _ operations [operation]).symm⟩

/-! ### The name of a set -/

/-- A set that has a name is not founded again. -/
theorem found_refused (named : store.setName = some name) (via setName : String) (id : Nat) :
    ∃ cause, store.objection? via (.found setName id) = some cause := by
  rw [← Option.isSome_iff_exists, Option.isSome_iff_ne_none]
  intro accepted
  have unnamed := (accepts_found.mp accepted).2
  cases named.symm.trans unnamed

theorem serve_setName (named : store.setName = some name) (via : String) (request : Request) :
    (store.serve via request).2.setName = some name := by
  cases objection : store.objection? via request with
  | some cause =>
    rw [serve_refused objection]
    exact named
  | none =>
    rw [serve_accepted objection]
    cases request with
    | found setName id =>
      obtain ⟨cause, refused⟩ := found_refused named via setName id
      cases objection.symm.trans refused
    | add | remove => exact named

theorem perform_setName (named : store.setName = some name) (operation : Operation) :
    (store.perform operation).setName = some name := by
  cases operation with
  | startNode | setAvailable => exact named
  | elect key => exact (elect_frame store key).2.1.trans named
  | request via request => exact serve_setName named via request

theorem performAll_setName (named : store.setName = some name) (operations : List Operation) :
    (store.performAll operations).setName = some name := by
  induction operations generalizing store with
  | nil => exact named
  | cons operation rest ih => exact ih (perform_setName named operation)

theorem Sound.named_iff (sound : store.Sound) :
    store.setName.isSome = true ↔ store.configuration ≠ [] := by
  rw [Option.isSome_iff_ne_none]
  exact not_congr sound.unnamed_iff

/-- Whatever is done to a new store: no key is configured under two numbers, the primary is
configured and runs, and the set has a name exactly when it has members. Once it has a name, it
keeps that name and is never without members again. -/
theorem reachable_store_consistent (operations : List Operation) :
    (∀ key id other, (id, key) ∈ (performAll {} operations).configuration →
      (other, key) ∈ (performAll {} operations).configuration → id = other) ∧
    (∀ key, (performAll {} operations).primaryKey = some key →
      (performAll {} operations).isConfigured key = true ∧
        (performAll {} operations).isAvailable key = true) ∧
    ((performAll {} operations).setName.isSome = true ↔
      (performAll {} operations).configuration ≠ []) ∧
    ∀ name, (performAll {} operations).setName = some name → ∀ more,
      (performAll {} (operations ++ more)).setName = some name ∧
        (performAll {} (operations ++ more)).configuration ≠ [] := by
  have sound : (performAll {} operations).Sound := sound_new.performAll operations
  refine ⟨fun key id other one two => sound.id_unique one two,
    fun key named => (sound.primary_runs key named).symm, sound.named_iff, ?_⟩
  intro name named more
  rw [performAll_append]
  have stays := performAll_setName named more
  exact ⟨stays, (sound.performAll more).named_iff.mp (Option.isSome_of_eq_some stays)⟩

/-- A stopped node founds nothing. A running one does, whatever its number, and neither a second
founding nor the removal of the running primary changes the set. -/
example : (performAll {} [.startNode "a" "a:1", .setAvailable "a" false,
    .request "a" (.found "s" 7), .startNode "a" "a:2", .request "a" (.found "s" 9),
    .request "a" (.found "t" 0), .request "a" (.remove "a")]).configuration = [(9, "a")] := by
  decide

end ReplicaSet.Store
