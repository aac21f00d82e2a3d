import Mathlib.Data.List.Nodup
import ReplicaSet.Store.Memory

/-!
The shape of a store in memory: no number and no key is configured twice, the primary runs and is
configured, and the set has a name exactly when it has members. Every operation keeps it.
-/
namespace ReplicaSet.Store

variable {store : Store} {key via : String} {id : Nat}

structure Sound (store : Store) : Prop where
  ids_increase : store.configuration.Pairwise fun earlier later => earlier.1 < later.1
  keys_nodup : (store.configuration.map Prod.snd).Nodup
  primary_runs : ∀ key, store.primaryKey = some key →
    store.isAvailable key = true ∧ store.isConfigured key = true
  unnamed_iff : store.setName = none ↔ store.configuration = []

theorem isConfigured_iff : store.isConfigured key = true ↔ ∃ id, (id, key) ∈ store.configuration := by
  simp [isConfigured]

theorem isConfigured_of_mem (configured : (id, key) ∈ store.configuration) :
    store.isConfigured key = true :=
  isConfigured_iff.mpr ⟨id, configured⟩

theorem isConfigured_eq_false_iff :
    store.isConfigured key = false ↔ ∀ id, (id, key) ∉ store.configuration := by
  rw [← Bool.not_eq_true, isConfigured_iff, not_exists]

theorem holder?_eq_none_iff : store.holder? id = none ↔ ∀ key, (id, key) ∉ store.configuration := by
  simp only [holder?, Option.map_eq_none_iff, List.find?_eq_none, decide_eq_true_eq, Prod.forall]
  constructor
  · intro absent key configured
    exact absent id key configured rfl
  · rintro absent _ key configured rfl
    exact absent key configured

theorem Sound.id_unique (sound : store.Sound) {other : Nat} (one : (id, key) ∈ store.configuration)
    (two : (other, key) ∈ store.configuration) : id = other :=
  congrArg Prod.fst (List.inj_on_of_nodup_map sound.keys_nodup one two rfl)

/-! ### Nodes -/

theorem find?_putNode {node : Node} {other : String} (nodes : List (String × Node)) :
    (putNode key node nodes).find? (fun entry => entry.1 = other) =
      if key = other then some (key, node) else nodes.find? (fun entry => entry.1 = other) := by
  induction nodes with
  | nil => by_cases same : key = other <;> simp [putNode, same]
  | cons entry rest ih =>
    by_cases here : entry.1 = key
    · by_cases same : key = other <;> simp [putNode, here, same]
    · by_cases same : key = other
      · subst same
        simp [putNode, here, ih]
      · simp [putNode, here, same, ih, List.find?_cons]

theorem isAvailable_startNode {endpoint other : String} :
    (store.startNode key endpoint).isAvailable other =
      if key = other then true else store.isAvailable other := by
  simp only [isAvailable, node?, startNode, find?_putNode]
  split <;> simp

theorem find?_setAvailable {available : Bool} {other : String} (nodes : List (String × Node)) :
    (nodes.map fun entry =>
      if entry.1 = key then (key, { entry.2 with available := available }) else entry).find?
        (fun entry => entry.1 = other) =
      (nodes.find? (fun entry => entry.1 = other)).map fun entry =>
        if key = other then (key, { entry.2 with available := available }) else entry := by
  induction nodes with
  | nil => rfl
  | cons entry rest ih =>
    by_cases here : entry.1 = key
    · by_cases same : key = other
      · simp [here, same]
      · simpa [here, same] using ih
    · by_cases same : key = other
      · subst same
        simpa [here] using ih
      · by_cases there : entry.1 = other
        · have elsewhere : ¬other = key := fun eq => same eq.symm
          simp [there, same, elsewhere]
        · simpa [here, there, same] using ih

theorem isAvailable_setAvailable {available : Bool} {other : String} :
    (store.setAvailable key available).isAvailable other =
      if key = other then (store.node? other).isSome && available else store.isAvailable other := by
  simp only [isAvailable, node?, setAvailable, find?_setAvailable]
  cases store.nodes.find? fun entry => entry.1 = other with
  | none => split <;> simp
  | some entry => split <;> simp

theorem Sound.startNode (sound : store.Sound) (key endpoint : String) :
    (store.startNode key endpoint).Sound := by
  refine ⟨sound.ids_increase, sound.keys_nodup, ?_, sound.unnamed_iff⟩
  intro primary named
  obtain ⟨runs, configured⟩ := sound.primary_runs primary named
  refine ⟨?_, configured⟩
  rw [isAvailable_startNode]
  split
  · rfl
  · exact runs

theorem Sound.setAvailable (sound : store.Sound) (key : String) (available : Bool) :
    (store.setAvailable key available).Sound := by
  refine ⟨sound.ids_increase, sound.keys_nodup, ?_, sound.unnamed_iff⟩
  intro primary named
  simp only [Store.setAvailable] at named
  split at named
  · cases named
  · rename_i stays
    obtain ⟨runs, configured⟩ := sound.primary_runs primary named
    refine ⟨?_, configured⟩
    rw [isAvailable_setAvailable]
    split
    · rename_i same
      subst same
      have known : (store.node? key).isSome := by
        cases node : store.node? key with
        | none => simp [isAvailable, node] at runs
        | some => rfl
      simpa [named, known] using stays
    · exact runs

/-! ### Elections -/

/-- An election changes nothing but the primary. -/
theorem elect_frame (store : Store) (key : String) :
    (store.elect key).2.configuration = store.configuration ∧
      (store.elect key).2.setName = store.setName ∧ (store.elect key).2.nodes = store.nodes := by
  unfold elect
  split <;> exact ⟨rfl, rfl, rfl⟩

theorem Sound.elect (sound : store.Sound) (key : String) : (store.elect key).2.Sound := by
  unfold Store.elect
  split
  · exact sound
  · rename_i accepted
    refine ⟨sound.ids_increase, sound.keys_nodup, ?_, sound.unnamed_iff⟩
    intro primary named
    cases named
    simp only [electionObjection?] at accepted
    split at accepted
    · cases accepted
    · rename_i runs
      split at accepted
      · cases accepted
      · rename_i configured
        simp only [Bool.not_eq_true', Bool.not_eq_false] at runs configured
        exact ⟨runs, configured⟩

/-! ### Requests -/

theorem accepts_found {setName : String} :
    store.objection? via (.found setName id) = none ↔
      store.isAvailable via = true ∧ store.setName = none := by
  simp only [objection?]
  split
  · rename_i down
    simp only [Bool.not_eq_true'] at down
    simp [down]
  · rename_i runs
    simp only [Bool.not_eq_true', Bool.not_eq_false] at runs
    simp [runs]

theorem objectionTo?_eq_none :
    store.objectionTo? via = none ↔
      store.isAvailable via = true ∧ store.primaryKey = some via := by
  unfold objectionTo?
  split
  · rename_i down
    simp only [Bool.not_eq_true'] at down
    simp [down]
  · rename_i runs
    simp only [Bool.not_eq_true', Bool.not_eq_false] at runs
    simp [runs]

theorem accepts_add :
    store.objection? via (.add key id) = none ↔
      (store.isAvailable via = true ∧ store.primaryKey = some via) ∧
        store.isAvailable key = true ∧ store.isConfigured key = false ∧ store.holder? id = none := by
  simp only [objection?, Option.or_eq_none_iff, objectionTo?_eq_none]
  refine and_congr_right fun _ => ?_
  cases store.isAvailable key <;> cases store.isConfigured key <;> simp

theorem accepts_remove :
    store.objection? via (.remove key) = none ↔
      (store.isAvailable via = true ∧ store.primaryKey = some via) ∧
        store.isAvailable key = false := by
  simp only [objection?, Option.or_eq_none_iff, objectionTo?_eq_none]
  refine and_congr_right fun _ => ?_
  cases store.isAvailable key <;> simp

theorem serve_accepted {request : Request} (accepted : store.objection? via request = none) :
    store.serve via request = (.ok (), store.carryOut via request) := by
  simp [serve, accepted]

theorem serve_refused {request : Request} {cause : StoreError}
    (refused : store.objection? via request = some cause) :
    store.serve via request = (.error cause, store) := by
  simp [serve, refused]

theorem mem_putMember {members : List (Nat × String)} {entry : Nat × String}
    (ordered : members.Pairwise fun earlier later => earlier.1 < later.1) :
    entry ∈ putMember id key members ↔ entry = (id, key) ∨ entry ∈ members ∧ entry.1 ≠ id := by
  induction members with
  | nil => simp [putMember]
  | cons first rest ih =>
    obtain ⟨above, ordered⟩ := List.pairwise_cons.mp ordered
    unfold putMember
    split
    · rename_i below
      simp only [List.mem_cons]
      refine or_congr_right ⟨fun old => ⟨old, ?_⟩, fun old => old.1⟩
      rcases old with rfl | inRest
      · omega
      · have := above entry inRest
        omega
    · split
      · rename_i here
        subst here
        simp only [List.mem_cons]
        refine or_congr_right ⟨fun inRest => ⟨.inr inRest, ?_⟩, ?_⟩
        · have := above entry inRest
          omega
        · rintro ⟨rfl | inRest, differs⟩
          · exact absurd rfl differs
          · exact inRest
      · rename_i differs
        simp only [List.mem_cons, ih ordered]
        constructor
        · rintro (rfl | new | ⟨inRest, other⟩)
          · exact .inr ⟨.inl rfl, fun same => differs same.symm⟩
          · exact .inl new
          · exact .inr ⟨.inr inRest, other⟩
        · rintro (new | ⟨rfl | inRest, other⟩)
          · exact .inr (.inl new)
          · exact .inl rfl
          · exact .inr (.inr ⟨inRest, other⟩)

theorem putMember_ordered {members : List (Nat × String)}
    (ordered : members.Pairwise fun earlier later => earlier.1 < later.1) :
    (putMember id key members).Pairwise fun earlier later => earlier.1 < later.1 := by
  induction members with
  | nil => simp [putMember]
  | cons first rest ih =>
    obtain ⟨above, rest⟩ := List.pairwise_cons.mp ordered
    unfold putMember
    split
    · rename_i below
      refine List.pairwise_cons.mpr ⟨fun entry member => ?_, ordered⟩
      rcases List.mem_cons.mp member with rfl | inRest
      · exact below
      · exact Nat.lt_trans below (above entry inRest)
    · split
      · rename_i here
        exact List.pairwise_cons.mpr ⟨fun entry inRest => here ▸ above entry inRest, rest⟩
      · refine List.pairwise_cons.mpr ⟨fun entry member => ?_, ih rest⟩
        rcases (mem_putMember rest).mp member with rfl | ⟨inRest, -⟩
        · omega
        · exact above entry inRest

/-- A key that is not configured yet can be put in without being there twice. -/
theorem putMember_keys_nodup {members : List (Nat × String)}
    (ordered : members.Pairwise fun earlier later => earlier.1 < later.1)
    (distinct : (members.map Prod.snd).Nodup) (new : ∀ other, (other, key) ∉ members) :
    ((putMember id key members).map Prod.snd).Nodup := by
  have entries : (putMember id key members).Nodup :=
    (putMember_ordered ordered).imp fun below => ne_of_apply_ne Prod.fst (Nat.ne_of_lt below)
  refine List.Nodup.map_on ?_ entries
  intro one oneMember two twoMember same
  rcases (mem_putMember ordered).mp oneMember with rfl | ⟨oneOld, -⟩ <;>
    rcases (mem_putMember ordered).mp twoMember with rfl | ⟨twoOld, -⟩
  · rfl
  · cases same
    exact absurd twoOld (new two.1)
  · cases same
    exact absurd oneOld (new one.1)
  · exact List.inj_on_of_nodup_map distinct oneOld twoOld same

theorem putMember_ne_nil (members : List (Nat × String)) : putMember id key members ≠ [] := by
  cases members with
  | nil => simp [putMember]
  | cons first rest =>
    unfold putMember
    split
    · simp
    · split <;> simp

/-- What an accepted addition leaves in the configuration. -/
theorem Sound.mem_add (sound : store.Sound) {entry : Nat × String}
    (accepted : store.objection? via (.add key id) = none) :
    entry ∈ (store.carryOut via (.add key id)).configuration ↔
      entry = (id, key) ∨ entry ∈ store.configuration := by
  have free := holder?_eq_none_iff.mp (accepts_add.mp accepted).2.2.2
  refine (mem_putMember sound.ids_increase).trans (or_congr_right ⟨And.left, fun old => ⟨old, ?_⟩⟩)
  exact fun same => free entry.2 (same ▸ old)

theorem mem_remove (via : String) {entry : Nat × String} :
    entry ∈ (store.carryOut via (.remove key)).configuration ↔
      entry ∈ store.configuration ∧ entry.2 ≠ key := by
  simp [carryOut]

theorem Sound.configuration_found (sound : store.Sound) {setName : String}
    (accepted : store.objection? via (.found setName id) = none) :
    (store.carryOut via (.found setName id)).configuration = [(id, via)] := by
  have unnamed := (accepts_found.mp accepted).2
  simp [carryOut, sound.unnamed_iff.mp unnamed, putMember]

theorem Sound.carryOut (sound : store.Sound) {request : Request}
    (accepted : store.objection? via request = none) : (store.carryOut via request).Sound := by
  cases request with
  | found setName id =>
    have only := sound.configuration_found accepted
    refine ⟨by rw [only]; simp, by rw [only]; simp, ?_, by rw [only]; simp [Store.carryOut]⟩
    intro primary named
    cases named
    refine ⟨(accepts_found.mp accepted).1, isConfigured_iff.mpr ⟨id, ?_⟩⟩
    rw [only]
    exact List.mem_singleton_self _
  | add key id =>
    obtain ⟨-, -, absent, -⟩ := accepts_add.mp accepted
    refine ⟨putMember_ordered sound.ids_increase, putMember_keys_nodup sound.ids_increase
      sound.keys_nodup (isConfigured_eq_false_iff.mp absent), ?_, ?_⟩
    · intro primary named
      obtain ⟨runs, configured⟩ := sound.primary_runs primary named
      obtain ⟨number, there⟩ := isConfigured_iff.mp configured
      exact ⟨runs, isConfigured_of_mem ((sound.mem_add accepted).mpr (.inr there))⟩
    · have named : store.setName ≠ none := by
        intro unnamed
        obtain ⟨⟨-, primary⟩, -⟩ := accepts_add.mp accepted
        obtain ⟨number, there⟩ := isConfigured_iff.mp (sound.primary_runs via primary).2
        simp [sound.unnamed_iff.mp unnamed] at there
      exact iff_of_false named (putMember_ne_nil _)
  | remove key =>
    obtain ⟨⟨runs, primary⟩, stopped⟩ := accepts_remove.mp accepted
    -- The primary runs and what is removed does not, so that the primary stays.
    have stays : ∀ other, store.primaryKey = some other → other ≠ key := by
      rintro other named rfl
      rw [(sound.primary_runs _ named).1] at stopped
      cases stopped
    obtain ⟨number, there⟩ := isConfigured_iff.mp (sound.primary_runs via primary).2
    have kept := (mem_remove via).mpr ⟨there, stays via primary⟩
    refine ⟨sound.ids_increase.filter _, sound.keys_nodup.sublist (List.filter_sublist.map _),
      ?_, iff_of_false ?_ (List.ne_nil_of_mem kept)⟩
    · intro other named
      obtain ⟨runs, configured⟩ := sound.primary_runs other named
      obtain ⟨number, there⟩ := isConfigured_iff.mp configured
      exact ⟨runs, isConfigured_of_mem ((mem_remove via).mpr ⟨there, stays other named⟩)⟩
    · intro unnamed
      simp [sound.unnamed_iff.mp unnamed] at there

theorem Sound.serve (sound : store.Sound) (via : String) (request : Request) :
    (store.serve via request).2.Sound := by
  cases objection : store.objection? via request with
  | none => rw [serve_accepted objection]; exact sound.carryOut objection
  | some cause => rw [serve_refused objection]; exact sound

end ReplicaSet.Store
