import ReplicaSet.Proofs.StoreRuns

/-!
What the nodes of a store say of themselves and of the primary. Whoever runs and is configured
speaks for the store, and all that speak say the same.
-/
namespace ReplicaSet.Store

variable {store : Store} {key other : String}

/-- The address of the primary, if there is a primary. -/
def primaryEndpoint? (store : Store) : Option String :=
  store.primaryKey.bind fun primary => (store.face primary).endpoint

/-- The node runs and is configured. -/
def Speaks (store : Store) (key : String) : Prop :=
  store.isAvailable key = true ∧ store.isConfigured key = true

theorem Sound.primary_speaks (sound : store.Sound) (named : store.primaryKey = some key) :
    store.Speaks key :=
  sound.primary_runs key named

theorem not_speaks_iff :
    ¬store.Speaks key ↔ store.isAvailable key = false ∨ store.isConfigured key = false := by
  simp only [Speaks, Decidable.not_and_iff_or_not, Bool.not_eq_true]

theorem face_speaks (speaks : store.Speaks key) :
    (store.face key).role = (if store.primaryKey = some key then .primary else .secondary) ∧
      (store.face key).primaryEndpoint = store.primaryEndpoint? := by
  obtain ⟨runs, configured⟩ := speaks
  refine ⟨by simp [face, runs, configured], ?_⟩
  cases primary : store.primaryKey <;> simp [face, primaryEndpoint?, runs, configured, primary]

theorem face_silent (silent : ¬store.Speaks key) :
    (store.face key).role = .unknown ∧ (store.face key).primaryEndpoint = none := by
  rcases not_speaks_iff.mp silent with down | absent
  · simp [face, down]
  · simp [face, absent]

theorem Sound.role_primary_iff (sound : store.Sound) :
    (store.face key).role = .primary ↔ store.primaryKey = some key := by
  by_cases speaks : store.Speaks key
  · rw [(face_speaks speaks).1]
    split <;> simp [*]
  · rw [(face_silent speaks).1]
    exact iff_of_false (by simp) fun named => speaks (sound.primary_speaks named)

theorem role_unknown_iff :
    (store.face key).role = .unknown ↔
      store.isAvailable key = false ∨ store.isConfigured key = false := by
  rw [← not_speaks_iff]
  constructor
  · intro unknown speaks
    rw [(face_speaks speaks).1] at unknown
    split at unknown <;> cases unknown
  · exact fun silent => (face_silent silent).1

/-- The primary is a node that was started, so that it has an address. -/
theorem Sound.primaryEndpoint?_isSome (sound : store.Sound) :
    store.primaryEndpoint?.isSome = store.primaryKey.isSome := by
  cases named : store.primaryKey with
  | none => simp [primaryEndpoint?, named]
  | some primary =>
    have runs := (sound.primary_speaks named).1
    cases node : store.node? primary with
    | none => simp [isAvailable, node] at runs
    | some there => simp [primaryEndpoint?, named, face, node]

end ReplicaSet.Store
