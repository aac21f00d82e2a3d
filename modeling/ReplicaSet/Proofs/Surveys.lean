import ReplicaSet.Proofs.OpenRuns
import ReplicaSet.Proofs.StoreFaces

/-!
What is found out about a set whose tracked members are all nodes of one store. They agree about the
primary, and the surplus member is not the primary of the store.
-/
namespace ReplicaSet

theorem Text.distinct_of_agree {only : String} {texts : List String}
    (agree : ∀ text ∈ texts, text = only) : distinct texts = [] ∨ distinct texts = [only] := by
  induction texts with
  | nil => exact .inl rfl
  | cons head tail ih =>
    obtain ⟨rfl, agree⟩ := List.forall_mem_cons.mp agree
    right
    show insertDistinct head (distinct tail) = [head]
    rcases ih agree with none | one
    · rw [none, insertDistinct]
    · simp [one, insertDistinct]

theorem Text.bind_nonBlank?_eq_some {told : Option String} {text : String} :
    told.bind nonBlank? = some text ↔ told = some text ∧ isBlank text = false := by
  simp only [Option.bind_eq_some_iff, nonBlank?_eq_some]
  constructor
  · rintro ⟨_, isTold, kept, rfl⟩
    exact ⟨isTold, kept⟩
  · rintro ⟨isTold, kept⟩
    exact ⟨text, isTold, kept, rfl⟩

namespace Endpoints

variable {faces : List Face} {text : String}

theorem mem_reports :
    text ∈ reports faces ↔
      ∃ face ∈ faces, face.primaryEndpoint = some text ∧ Text.isBlank text = false := by
  simp only [reports, List.mem_filterMap, Text.bind_nonBlank?_eq_some]

theorem disagreement?_of_agree
    (agree : ∀ one ∈ reports faces, ∀ other ∈ reports faces, one = other) :
    disagreement? faces = none := by
  cases told : reports faces with
  | nil => simp [disagreement?, told, Text.distinct]
  | cons first rest =>
    have same : ∀ report ∈ reports faces, report = first := fun report among =>
      agree report among first (told ▸ List.mem_cons_self)
    rcases Text.distinct_of_agree same with none | one
    · simp [disagreement?, none]
    · simp [disagreement?, one]

theorem primary?_of_agree
    (agree : ∀ one ∈ reports faces, ∀ other ∈ reports faces, one = other) :
    primary? faces = some text ↔ text ∈ reports faces := by
  refine ⟨List.mem_of_head?, fun among => ?_⟩
  cases told : reports faces with
  | nil => simp [told] at among
  | cons first rest =>
    have same := agree first (told ▸ List.mem_cons_self) text among
    rw [primary?, told, List.head?_cons, same]

end Endpoints

namespace Simulation.Cluster

variable {cluster : Cluster} {endpoint : String}

/-- All tracked members are nodes of the store. -/
def OverNodes (cluster : Cluster) : Prop :=
  ∀ member ∈ cluster.controller.roster.members, member.handle.origin = .node

theorem OverNodes.look (nodes : cluster.OverNodes) {member : Member}
    (tracked : member ∈ cluster.controller.roster.members) :
    cluster.site.look member.handle = cluster.site.store.face member.key := by
  simp [Site.look, nodes member tracked, Member.key]

theorem Nodal.overNodes (nodal : cluster.Nodal) : cluster.OverNodes :=
  fun member tracked => nodal.nodes member (mem_admissions.mpr (.inl tracked))

theorem OverNodes.mem_reports (nodes : cluster.OverNodes) :
    endpoint ∈ Endpoints.reports cluster.faces ↔
      cluster.site.store.primaryEndpoint? = some endpoint ∧ Text.isBlank endpoint = false ∧
        ∃ member ∈ cluster.controller.roster.members, cluster.site.store.Speaks member.key := by
  simp only [Endpoints.mem_reports, faces, List.mem_map, exists_exists_and_eq_and]
  constructor
  · rintro ⟨member, tracked, told, nonBlank⟩
    rw [nodes.look tracked] at told
    by_cases speaks : cluster.site.store.Speaks member.key
    · rw [(Store.face_speaks speaks).2] at told
      exact ⟨told, nonBlank, member, tracked, speaks⟩
    · cases told.symm.trans (Store.face_silent speaks).2
  · rintro ⟨primary, nonBlank, member, tracked, speaks⟩
    refine ⟨member, tracked, ?_, nonBlank⟩
    rw [nodes.look tracked, (Store.face_speaks speaks).2, primary]

theorem OverNodes.agree (nodes : cluster.OverNodes) :
    ∀ one ∈ Endpoints.reports cluster.faces, ∀ other ∈ Endpoints.reports cluster.faces,
      one = other := by
  intro one oneTold other otherTold
  have onePrimary := (nodes.mem_reports.mp oneTold).1
  have otherPrimary := (nodes.mem_reports.mp otherTold).1
  exact Option.some.inj (onePrimary.symm.trans otherPrimary)

/-- A survey of nodes of one store reports nothing. -/
theorem OverNodes.survey_eq (nodes : cluster.OverNodes) : cluster.survey.2 = cluster := by
  simp [survey, Endpoints.disagreement?_of_agree nodes.agree, noteAll]

end Simulation.Cluster

open Simulation Simulation.Cluster

/-- In any state that a store can come to, the primary and nobody else calls itself primary, and
who does not run or is not configured knows no role. All who run and are configured tell the
address of the primary, which has one, and all others tell none. So when all tracked members are
nodes of that store, no disagreement is reported, and the address of the primary is found out
exactly when it is not blank and some tracked member runs and is configured. -/
theorem Store.Reached.primary_agreed {store : Store} (reached : store.Reached) :
    (∀ key, (store.face key).role = .primary ↔ store.primaryKey = some key) ∧
    (∀ key other, (store.face key).role = .primary → (store.face other).role = .primary →
      key = other) ∧
    (∀ key, (store.face key).role = .unknown ↔
      store.isAvailable key = false ∨ store.isConfigured key = false) ∧
    store.primaryEndpoint?.isSome = store.primaryKey.isSome ∧
    (∀ key, store.isAvailable key = true → store.isConfigured key = true →
      (store.face key).primaryEndpoint = store.primaryEndpoint?) ∧
    (∀ key, store.isAvailable key = false ∨ store.isConfigured key = false →
      (store.face key).primaryEndpoint = none) ∧
    ∀ cluster : Cluster, cluster.site.store = store → cluster.OverNodes →
      Endpoints.disagreement? cluster.faces = none ∧ cluster.survey.2 = cluster ∧
      ∀ endpoint, cluster.survey.1.primaryEndpoint = some endpoint ↔
        store.primaryEndpoint? = some endpoint ∧ Text.isBlank endpoint = false ∧
          ∃ member ∈ cluster.controller.roster.members,
            store.isAvailable member.key = true ∧ store.isConfigured member.key = true := by
  have sound := reached.sound
  refine ⟨fun key => sound.role_primary_iff, ?_, fun key => role_unknown_iff,
    sound.primaryEndpoint?_isSome, ?_, ?_, ?_⟩
  · intro key other one two
    have named := sound.role_primary_iff.mp one
    have alsoNamed := sound.role_primary_iff.mp two
    exact Option.some.inj (named.symm.trans alsoNamed)
  · intro key runs configured
    exact (face_speaks ⟨runs, configured⟩).2
  · intro key silent
    exact (face_silent (not_speaks_iff.mpr silent)).2
  · rintro cluster rfl nodes
    refine ⟨Endpoints.disagreement?_of_agree nodes.agree, nodes.survey_eq, fun endpoint => ?_⟩
    exact (Endpoints.primary?_of_agree nodes.agree).trans nodes.mem_reports

/-- Two nodes, of which the second one was elected, which the controller has not heard of. -/
def Simulation.Cluster.turned : Cluster :=
  pair.withStore (pair.site.store.perform (.elect "b"))

theorem Simulation.Cluster.turned_reach : OpenReach turned :=
  pair_reach.isOpen.operate (.elect "b")

theorem Simulation.Cluster.turned_nodes : turned.OverNodes :=
  (pair_reach.elect "b").nodal.overNodes

theorem Simulation.Cluster.primary_agreed_turned : turned.site.store.Reached ∧ turned.OverNodes ∧
    (turned.site.store.face "b").role = .primary ∧ turned.survey.2 = turned ∧
    turned.survey.1.primaryEndpoint = some "b:1" := by
  have reached := turned_reach.store
  obtain ⟨role, -, -, -, -, -, surveyed⟩ := reached.primary_agreed
  obtain ⟨-, quiet, found⟩ := surveyed turned rfl turned_nodes
  have isPrimary : turned.site.store.primaryKey = some "b" := by decide
  refine ⟨reached, turned_nodes, (role "b").mpr isPrimary, quiet, (found "b:1").mpr ?_⟩
  decide

/-! ### The surplus member -/

theorem surplus?_of_find? {look : Handle → Face} {members : List Member} {chosen : Member}
    (found : members.find? (fun member => (look member.handle).role ≠ .primary) = some chosen) :
    surplus? look members = .ok (some chosen) := by
  cases members with
  | nil => cases found
  | cons first rest =>
    rw [surplus?, surplusOf, found]
    rfl

theorem surplus?_single (look : Handle → Face) (only : Member) :
    surplus? look [only] = .ok (some only) := by
  by_cases isPrimary : (look only.handle).role = .primary <;>
    simp [surplus?, surplusOf, isPrimary, Except.map]

/-- One of several members is not the primary. -/
theorem exists_key_ne {members : List Member} (distinct : (members.map Member.key).Nodup)
    (several : 2 ≤ members.length) (primary : Option String) :
    ∃ member ∈ members, primary ≠ some member.key := by
  rcases members with _ | ⟨first, _ | ⟨second, rest⟩⟩
  · simp at several
  · simp at several
  · by_cases isFirst : primary = some first.key
    · refine ⟨second, by simp, fun isSecond => ?_⟩
      have same : first.key = second.key := Option.some.inj (isFirst.symm.trans isSecond)
      simp [same] at distinct
    · exact ⟨first, by simp, isFirst⟩

namespace Simulation.Cluster

variable {cluster : Cluster}

theorem OverNodes.role_ne_primary_iff (nodes : cluster.OverNodes)
    (reached : cluster.site.store.Reached) {member : Member}
    (tracked : member ∈ cluster.controller.roster.members) :
    (cluster.site.look member.handle).role ≠ .primary ↔
      cluster.site.store.primaryKey ≠ some member.key := by
  rw [nodes.look tracked, ne_eq, reached.sound.role_primary_iff]

/-- Of several nodes the first one is named that is not the primary. -/
theorem OverNodes.surplus_first (nodes : cluster.OverNodes)
    (reached : cluster.site.store.Reached) (sound : cluster.controller.roster.Sound)
    (several : 2 ≤ cluster.controller.roster.members.length) :
    ∃ earlier chosen later,
      cluster.controller.roster.members = earlier ++ chosen :: later ∧
      cluster.survey.1.surplus = .ok (some chosen) ∧
      cluster.site.store.primaryKey ≠ some chosen.key ∧
      ∀ other ∈ earlier, cluster.site.store.primaryKey = some other.key := by
  obtain ⟨spared, sparedTracked, notPrimary⟩ :=
    exists_key_ne sound.keys_nodup several cluster.site.store.primaryKey
  cases found : cluster.controller.roster.members.find? fun member =>
      (cluster.site.look member.handle).role ≠ .primary with
  | none =>
    have isPrimary := List.find?_eq_none.mp found spared sparedTracked
    simp only [decide_eq_true_eq, nodes.role_ne_primary_iff reached sparedTracked] at isPrimary
    exact absurd notPrimary isPrimary
  | some chosen =>
    obtain ⟨role, earlier, later, split, before⟩ := List.find?_eq_some_iff_append.mp found
    refine ⟨earlier, chosen, later, split, surplus?_of_find? found, ?_, ?_⟩
    · have tracked : chosen ∈ cluster.controller.roster.members := by simp [split]
      exact (nodes.role_ne_primary_iff reached tracked).mp (of_decide_eq_true role)
    · intro other early
      have tracked : other ∈ cluster.controller.roster.members := by simp [split, early]
      have passed := before other early
      simpa [nodes.role_ne_primary_iff reached tracked] using passed

/-- Whatever a controller and the other users of a store did: when all tracked members are nodes of
that store, it can be told which of them is surplus. In an empty set none is, and a single member
is surplus itself. Of several members it is never the primary of the store, but of all others the
one that was admitted first. -/
theorem OpenReach.primary_spared (reach : OpenReach cluster) (nodes : cluster.OverNodes) :
    ∃ surplus, cluster.survey.1.surplus = .ok surplus ∧
      (cluster.controller.roster.members = [] → surplus = none) ∧
      (∀ only, cluster.controller.roster.members = [only] → surplus = some only) ∧
      (2 ≤ cluster.controller.roster.members.length → ∃ earlier chosen later,
        cluster.controller.roster.members = earlier ++ chosen :: later ∧ surplus = some chosen ∧
        cluster.site.store.primaryKey ≠ some chosen.key ∧
        (∀ other ∈ earlier, cluster.site.store.primaryKey = some other.key) ∧
        ∀ other ∈ later, chosen.id < other.id) := by
  have named : cluster.survey.1.surplus =
      surplus? cluster.site.look cluster.controller.roster.members := rfl
  by_cases several : 2 ≤ cluster.controller.roster.members.length
  · obtain ⟨deeds, run⟩ := reach.run
    have sound := run.accounted.sound
    obtain ⟨earlier, chosen, later, split, surplus, spared, before⟩ :=
      nodes.surplus_first reach.store sound several
    have increase := sound.ids_increase
    rw [split, List.pairwise_append, List.pairwise_cons] at increase
    refine ⟨some chosen, surplus, ?_, ?_, fun _ =>
      ⟨earlier, chosen, later, split, rfl, spared, before, increase.2.1.1⟩⟩
    · intro empty
      simp [empty] at several
    · intro only single
      simp [single] at several
  · rcases members : cluster.controller.roster.members with _ | ⟨only, _ | ⟨second, rest⟩⟩
    · exact ⟨none, by rw [named, members]; rfl, by simp, by simp, by simp⟩
    · exact ⟨some only, by rw [named, members, surplus?_single], by simp, by simp, by simp⟩
    · simp [members] at several

theorem primary_spared_turned : OpenReach turned ∧ turned.OverNodes ∧
    turned.controller.roster.primaryKey = some "a" ∧
    turned.survey.1.surplus = .ok (some ⟨0, ⟨"a", .node⟩⟩) := by
  obtain ⟨surplus, named, -, -, several⟩ := turned_reach.primary_spared turned_nodes
  obtain ⟨earlier, chosen, later, split, rfl, spared, -⟩ := several (by decide)
  have elected : turned.site.store.primaryKey = some "b" := by decide
  have members : turned.controller.roster.members =
      [⟨0, ⟨"a", .node⟩⟩, ⟨1, ⟨"b", .node⟩⟩] := by decide
  have tracked : chosen ∈ turned.controller.roster.members := by simp [split]
  rw [members, List.mem_pair] at tracked
  rcases tracked with rfl | rfl
  · exact ⟨turned_reach, turned_nodes, by decide, named⟩
  · exact absurd elected spared

end Simulation.Cluster

end ReplicaSet
