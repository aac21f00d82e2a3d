import ReplicaSet.Proofs.Surveys

/-!
The addresses that a survey finds, whatever the members say of themselves. Those of the members come
each once and in order; of those that are reported for the primary the first is taken, and a record
is written when they are not all the same.
-/
namespace ReplicaSet

namespace Text

variable {text : String} {texts others : List String}

theorem insertDistinct_increasing (increasing : texts.Pairwise (· < ·)) (text : String) :
    (insertDistinct text texts).Pairwise (· < ·) := by
  induction texts with
  | nil => exact List.pairwise_singleton _ _
  | cons head tail ih =>
    obtain ⟨least, rest⟩ := List.pairwise_cons.mp increasing
    unfold insertDistinct
    split
    next first =>
      refine List.pairwise_cons.mpr ⟨fun other member => ?_, increasing⟩
      rcases List.mem_cons.mp member with rfl | later
      · exact first
      · exact String.lt_trans first (least other later)
    next notFirst =>
      split
      next => exact increasing
      next differ =>
        refine List.pairwise_cons.mpr ⟨fun other member => ?_, ih rest⟩
        rcases mem_insertDistinct.mp member with rfl | later
        · by_contra notLater
          exact differ (String.le_antisymm (String.not_lt.mp notLater) (String.not_lt.mp notFirst))
        · exact least other later

theorem distinct_increasing (texts : List String) : (distinct texts).Pairwise (· < ·) := by
  induction texts with
  | nil => exact .nil
  | cons head tail ih => exact insertDistinct_increasing ih head

theorem distinct_nodup (texts : List String) : (distinct texts).Nodup := by
  refine (distinct_increasing texts).imp ?_
  rintro one _ less rfl
  exact String.lt_irrefl one less

/-- The order of the texts and how often they come make no difference. -/
theorem distinct_congr (same : ∀ text, text ∈ texts ↔ text ∈ others) :
    distinct texts = distinct others := by
  have contents : (distinct texts).Perm (distinct others) :=
    (List.perm_ext_iff_of_nodup (distinct_nodup texts) (distinct_nodup others)).mpr fun text => by
      rw [mem_distinct, mem_distinct, same]
  refine contents.eq_of_pairwise (fun one other _ _ less more => ?_) (distinct_increasing texts)
    (distinct_increasing others)
  exact absurd more (String.lt_asymm less)

/-- There are several distinct texts exactly if two differ. -/
theorem one_lt_length_distinct :
    1 < (distinct texts).length ↔ ∃ one ∈ texts, ∃ other ∈ texts, one ≠ other := by
  constructor
  · intro several
    rcases found : distinct texts with _ | ⟨one, _ | ⟨other, rest⟩⟩
    · simp [found] at several
    · simp [found] at several
    · have apart := distinct_nodup texts
      rw [found, List.nodup_cons, List.mem_cons, not_or] at apart
      refine ⟨one, ?_, other, ?_, apart.1.1⟩ <;> rw [← mem_distinct, found] <;> simp
  · rintro ⟨one, isOne, other, isOther, differ⟩
    by_contra few
    rcases found : distinct texts with _ | ⟨only, _ | ⟨second, rest⟩⟩
    · rw [← mem_distinct, found] at isOne
      cases isOne
    · rw [← mem_distinct, found, List.mem_singleton] at isOne isOther
      exact differ (isOne.trans isOther.symm)
    · simp [found] at few

end Text

namespace Endpoints

variable {faces : List Face} {text : String}

theorem mem_reachable :
    text ∈ reachable faces ↔
      ∃ face ∈ faces, face.endpoint = some text ∧ Text.isBlank text = false := by
  simp only [reachable, Text.mem_distinct, List.mem_filterMap, Text.bind_nonBlank?_eq_some]

theorem reachable_congr {others : List Face} (same : ∀ face, face ∈ others ↔ face ∈ faces) :
    reachable others = reachable faces :=
  Text.distinct_congr fun text => by simp only [List.mem_filterMap, same]

/-- What is told when the reports differ are the reports, each once and in order. -/
theorem disagreement?_of_differ {one other : String} (isOne : one ∈ reports faces)
    (isOther : other ∈ reports faces) (differ : one ≠ other) :
    disagreement? faces = some (Text.distinct (reports faces)) :=
  if_pos (Text.one_lt_length_distinct.mpr ⟨one, isOne, other, isOther, differ⟩)

end Endpoints

namespace Simulation.Cluster

variable {cluster : Cluster} {member : Member} {text : String}

/-- The member tells this address of the primary, and it is not blank. -/
def Reports (cluster : Cluster) (member : Member) (text : String) : Prop :=
  (cluster.site.look member.handle).primaryEndpoint = some text ∧ Text.isBlank text = false

/-- Two of the tracked members tell different addresses of the primary. -/
def Disagrees (cluster : Cluster) : Prop :=
  ∃ one ∈ cluster.controller.roster.members, ∃ other ∈ cluster.controller.roster.members,
    ∃ text different, cluster.Reports one text ∧ cluster.Reports other different ∧ text ≠ different

theorem report_eq_some : (cluster.site.look member.handle).primaryEndpoint.bind Text.nonBlank? =
    some text ↔ cluster.Reports member text :=
  Text.bind_nonBlank?_eq_some

theorem report_eq_none : (cluster.site.look member.handle).primaryEndpoint.bind Text.nonBlank? =
    none ↔ ∀ text, ¬cluster.Reports member text := by
  simp only [← report_eq_some, Option.eq_none_iff_forall_ne_some]

theorem reports_faces (cluster : Cluster) :
    Endpoints.reports cluster.faces = cluster.controller.roster.members.filterMap fun member =>
      (cluster.site.look member.handle).primaryEndpoint.bind Text.nonBlank? :=
  List.filterMap_map

theorem mem_reports_faces : text ∈ Endpoints.reports cluster.faces ↔
    ∃ member ∈ cluster.controller.roster.members, cluster.Reports member text := by
  simp only [reports_faces, List.mem_filterMap, report_eq_some]

/-- A disagreement is written down once, with all that was told. -/
theorem survey_of_disagrees (disagrees : cluster.Disagrees) :
    cluster.survey.2 =
      cluster.note (.primariesDisagree (Text.distinct (Endpoints.reports cluster.faces))) := by
  obtain ⟨one, isOne, other, isOther, text, different, told, alsoTold, differ⟩ := disagrees
  have reported := mem_reports_faces.mpr ⟨one, isOne, told⟩
  have alsoReported := mem_reports_faces.mpr ⟨other, isOther, alsoTold⟩
  simp only [survey, Endpoints.disagreement?_of_differ reported alsoReported differ,
    Option.toList_some, List.map_singleton]
  rfl

theorem survey_of_agrees (agrees : ¬cluster.Disagrees) : cluster.survey.2 = cluster := by
  have same : ∀ one ∈ Endpoints.reports cluster.faces,
      ∀ other ∈ Endpoints.reports cluster.faces, one = other := by
    intro text reported different alsoReported
    obtain ⟨one, isOne, told⟩ := mem_reports_faces.mp reported
    obtain ⟨other, isOther, alsoTold⟩ := mem_reports_faces.mp alsoReported
    by_contra differ
    exact agrees ⟨one, isOne, other, isOther, text, different, told, alsoTold, differ⟩
  simp [survey, Endpoints.disagreement?_of_agree same, noteAll]

/-- Whatever the members say, the addresses that are found are those that are not blank, as they
were told, each once and in increasing order. The order of the members makes no difference to them,
nor does it how often a member is tracked. Of what is told of the primary the first address that is
not blank is found, and none exactly if there is no such address. If two such addresses differ, one
warning is written with all of them, each once and in increasing order; else nothing is written. -/
theorem survey_addresses (cluster : Cluster) :
    cluster.survey.1.endpoints.Pairwise (· < ·) ∧
    (∀ text, text ∈ cluster.survey.1.endpoints ↔
      ∃ member ∈ cluster.controller.roster.members,
        (cluster.site.look member.handle).endpoint = some text ∧ Text.isBlank text = false) ∧
    (∀ other : Cluster, (∀ face, face ∈ other.faces ↔ face ∈ cluster.faces) →
      other.survey.1.endpoints = cluster.survey.1.endpoints) ∧
    (∀ text, cluster.survey.1.primaryEndpoint = some text ↔ ∃ earlier member later,
      cluster.controller.roster.members = earlier ++ member :: later ∧
      cluster.Reports member text ∧ ∀ other ∈ earlier, ∀ report, ¬cluster.Reports other report) ∧
    (cluster.survey.1.primaryEndpoint = none ↔
      ∀ member ∈ cluster.controller.roster.members, ∀ text,
        (cluster.site.look member.handle).primaryEndpoint = some text → Text.isBlank text = true) ∧
    (cluster.Disagrees → ∃ reports,
      cluster.survey.2 = cluster.note (.primariesDisagree reports) ∧
      (Notice.primariesDisagree reports).level = .warning ∧ reports.Pairwise (· < ·) ∧
      ∀ text, text ∈ reports ↔
        ∃ member ∈ cluster.controller.roster.members, cluster.Reports member text) ∧
    (¬cluster.Disagrees → cluster.survey.2 = cluster) := by
  have primary : cluster.survey.1.primaryEndpoint =
      (cluster.controller.roster.members.filterMap fun member =>
        (cluster.site.look member.handle).primaryEndpoint.bind Text.nonBlank?).head? := by
    rw [← reports_faces]
    rfl
  refine ⟨Text.distinct_increasing _, fun text => ?_, fun other same =>
    Endpoints.reachable_congr same, fun text => ?_, ?_, fun disagrees => ?_, survey_of_agrees⟩
  · have found : text ∈ cluster.survey.1.endpoints ↔ _ := Endpoints.mem_reachable
    simpa only [faces, List.mem_map, exists_exists_and_eq_and] using found
  · rw [primary, List.head?_filterMap, List.findSome?_eq_some_iff]
    simp only [report_eq_some, report_eq_none]
  · rw [primary, List.head?_filterMap, List.findSome?_eq_none_iff]
    simp only [report_eq_none, Reports, not_and, Bool.not_eq_false]
  · exact ⟨_, survey_of_disagrees disagrees, rfl, Text.distinct_increasing _, fun text =>
      Text.mem_distinct.trans mem_reports_faces⟩

/-- What the first member tells of the primary is blank, and the other two differ in a space. -/
def divergent : Site where
  standIns := [⟨⟨true, .unknown, some "c:1", some "\u3000"⟩, false⟩,
    ⟨⟨true, .unknown, some "b:1", some "a:1 "⟩, false⟩,
    ⟨⟨true, .unknown, some "c:1", some "a:1"⟩, false⟩]
  scaler := ⟨3, none⟩

/-- The members come up in the order in which they are listed. -/
def assembled (order : List (String × Nat)) : Cluster :=
  order.foldl (fun cluster member => cluster.memberUp ⟨member.1, .standIn member.2⟩)
    (create "rs" tireless divergent)

theorem survey_addresses_assembled :
    let cluster := assembled [("x", 0), ("y", 1), ("z", 2)]
    let reordered := assembled [("z", 2), ("x", 0), ("y", 1), ("w", 1)]
    (∀ face, face ∈ reordered.faces ↔ face ∈ cluster.faces) ∧
      reordered.survey.1.endpoints = cluster.survey.1.endpoints ∧
      cluster.survey.1.endpoints.Pairwise (· < ·) ∧
      cluster.survey.1.primaryEndpoint = some "a:1 " ∧ cluster.Disagrees ∧
      ∃ reports, cluster.survey.2 = cluster.note (.primariesDisagree reports) ∧
        "a:1" ∈ reports ∧ "a:1 " ∈ reports ∧ "\u3000" ∉ reports := by
  intro cluster reordered
  have faces : cluster.faces = [⟨true, .unknown, some "c:1", some "\u3000"⟩,
      ⟨true, .unknown, some "b:1", some "a:1 "⟩, ⟨true, .unknown, some "c:1", some "a:1"⟩] := rfl
  have again : reordered.faces = [⟨true, .unknown, some "c:1", some "a:1"⟩,
      ⟨true, .unknown, some "c:1", some "\u3000"⟩, ⟨true, .unknown, some "b:1", some "a:1 "⟩,
      ⟨true, .unknown, some "b:1", some "a:1 "⟩] := rfl
  have same (face : Face) : face ∈ reordered.faces ↔ face ∈ cluster.faces := by
    simp only [faces, again, List.mem_cons, List.not_mem_nil]
    tauto
  have members : cluster.controller.roster.members = [⟨0, ⟨"x", .standIn 0⟩⟩] ++
      ⟨1, ⟨"y", .standIn 1⟩⟩ :: [⟨2, ⟨"z", .standIn 2⟩⟩] := rfl
  have blank : ∀ report, ¬cluster.Reports ⟨0, ⟨"x", .standIn 0⟩⟩ report := by
    rintro report ⟨told, isText⟩
    cases told
    exact absurd isText (by decide)
  have second : cluster.Reports ⟨1, ⟨"y", .standIn 1⟩⟩ "a:1 " := ⟨rfl, by decide⟩
  have third : cluster.Reports ⟨2, ⟨"z", .standIn 2⟩⟩ "a:1" := ⟨rfl, by decide⟩
  have disagrees : cluster.Disagrees :=
    ⟨_, by simp [members], _, by simp [members], _, _, second, third, by decide⟩
  obtain ⟨increasing, -, order, first, -, disagree, -⟩ := cluster.survey_addresses
  obtain ⟨reports, written, -, -, told⟩ := disagree disagrees
  refine ⟨same, order reordered same, increasing, (first "a:1 ").mpr ⟨_, _, _, members, second, ?_⟩,
    disagrees, reports, written, (told _).mpr ⟨_, by simp [members], third⟩,
    (told _).mpr ⟨_, by simp [members], second⟩, fun among => ?_⟩
  · exact fun other isFirst => List.mem_singleton.mp isFirst ▸ blank
  · obtain ⟨member, -, -, isText⟩ := (told _).mp among
    exact absurd isText (by decide)

end Simulation.Cluster

end ReplicaSet
