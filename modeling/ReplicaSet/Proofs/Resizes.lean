import ReplicaSet.Proofs.Lifecycle

/-!
Requests to resize a set. The scaler hears of those that ask for a size a set can have, and nothing
of the set itself changes by any of them.
-/
namespace ReplicaSet

/-- The set may be given up, or have an odd size within the bounds. -/
def Admissible (desired : Nat) : Prop :=
  desired = 0 ∨ desired % 2 = 1 ∧ minMembers ≤ desired ∧ desired ≤ maxMembers
deriving Decidable

theorem refusal?_admissible {desired : Nat} (admissible : Admissible desired) (current : Nat) :
    refusal? desired current = none := by
  have accepted :
      desired = 0 ∨ (minMembers ≤ desired ∧ desired ≤ maxMembers ∧ desired % 2 = 1) := by
    rcases admissible with isZero | ⟨odd, large, small⟩
    · exact .inl isZero
    · exact .inr ⟨large, small, odd⟩
  exact if_pos accepted

/-- What is said of a size that a set cannot have. -/
inductive Refused (desired current : Nat) : ResizeError → Prop
  | even (even : desired % 2 = 0) : Refused desired current (.evenMemberCount desired current)
  | below (odd : desired % 2 = 1) (small : desired < minMembers) :
      Refused desired current (.belowMinimum desired current)
  | above (odd : desired % 2 = 1) (large : maxMembers < desired) :
      Refused desired current (.aboveMaximum desired current)

theorem refusal?_refused {desired : Nat} (inadmissible : ¬ Admissible desired) (current : Nat) :
    ∃ error, refusal? desired current = some error ∧ Refused desired current error := by
  have declined :
      ¬ (desired = 0 ∨ (minMembers ≤ desired ∧ desired ≤ maxMembers ∧ desired % 2 = 1)) := by
    rintro (isZero | ⟨large, small, odd⟩)
    · exact inadmissible (.inl isZero)
    · exact inadmissible (.inr ⟨odd, large, small⟩)
  rw [refusal?, if_neg declined]
  by_cases even : desired % 2 = 0
  · exact ⟨_, if_pos even, .even even⟩
  · have odd : desired % 2 = 1 := by omega
    rw [if_neg even]
    by_cases small : desired < minMembers
    · exact ⟨_, if_pos small, .below odd small⟩
    · refine ⟨_, if_neg small, .above odd ?_⟩
      by_contra fits
      exact declined (.inr ⟨Nat.le_of_not_lt small, Nat.le_of_not_lt fits, odd⟩)

theorem Refused.cases_iff {desired current : Nat} {error : ResizeError}
    (refused : Refused desired current error) :
    (error = .evenMemberCount desired current ↔ desired % 2 = 0) ∧
      (error = .belowMinimum desired current ↔ desired % 2 = 1 ∧ desired < minMembers) ∧
      (error = .aboveMaximum desired current ↔ desired % 2 = 1 ∧ maxMembers < desired) := by
  have ordered : minMembers ≤ maxMembers := by decide
  cases refused with
  | even even => simp [even]
  | below odd small =>
    have fits : ¬ maxMembers < desired := by omega
    simp [odd, small, fits]
  | above odd large =>
    have fits : ¬ desired < minMembers := by omega
    simp [odd, large, fits]

namespace Simulation

/-- The size that the scaler was asked for. -/
def Event.scaled? : Event → Option Nat
  | .scaled desired => some desired
  | _ => none

/-- The size that the set was to have. -/
def Deed.size? : Deed → Option Nat
  | .resize desired => some desired
  | _ => none

namespace Cluster

variable {cluster after next : Cluster} {deed : Deed} {deeds : List Deed} {job : Job Change}

/-- The sizes that the scaler was asked for, in the order in which it was. -/
def sizesAsked (cluster : Cluster) : List Nat :=
  cluster.readings Event.scaled?

/-! ### What becomes of a request -/

/-- What a request to resize returns, and what it makes of the cluster. -/
inductive Resizes (cluster : Cluster) (desired : Nat) : Except ResizeError Nat → Cluster → Prop
  | asks {after : Cluster} (admissible : Admissible desired)
      (site : after.site =
        { cluster.site with scaler := (cluster.site.scaler.resize desired).2 })
      (asked : after.sizesAsked = cluster.sizesAsked ++ [desired]) :
      Resizes cluster desired ((cluster.site.scaler.resize desired).1.mapError .scaler) after
  | refuses {error : ResizeError} {after : Cluster} (inadmissible : ¬ Admissible desired)
      (refused : Refused desired cluster.site.scaler.size error)
      (site : after.site = cluster.site) (asked : after.sizesAsked = cluster.sizesAsked) :
      Resizes cluster desired (.error error) after

theorem resizes (cluster : Cluster) (desired : Nat) :
    cluster.Resizes desired (cluster.resize desired).1 (cluster.resize desired).2 := by
  unfold resize
  dsimp only
  by_cases admissible : Admissible desired
  · rw [refusal?_admissible admissible]
    refine .asks admissible rfl ?_
    have noted : (cluster.note (.resizing cluster.site.scaler.size desired)).sizesAsked =
        cluster.sizesAsked := Only.unread (only_record cluster rfl)
    exact (readings_record _ _ _).trans (congrArg (· ++ [desired]) noted)
  · obtain ⟨error, isError, refused⟩ := refusal?_refused admissible cluster.site.scaler.size
    rw [isError]
    exact .refuses admissible refused rfl (Only.unread (only_record cluster rfl))

theorem Resizes.sizesAsked {result : Except ResizeError Nat}
    (resizes : cluster.Resizes desired result after) :
    after.sizesAsked = cluster.sizesAsked ++ [desired].filter Admissible := by
  cases resizes with
  | asks admissible _ asked => simp [asked, admissible]
  | refuses inadmissible _ _ asked => simp [asked, inadmissible]

/-! ### What becomes of all requests -/

/-- Only a request to resize the set reaches the scaler, and only if the size is one a set can
have. -/
theorem Step.sizesAsked (step : Step cluster deed after) :
    after.sizesAsked = cluster.sizesAsked ++ deed.size?.toList.filter Admissible := by
  by_cases request : ∃ desired, deed = .resize desired
  · obtain ⟨desired, rfl⟩ := request
    cases step
    exact (cluster.resizes desired).sizesAsked
  · have same : after.sizesAsked = cluster.sizesAsked := by
      refine Only.unread (step.only.mono fun event brings => ?_)
      cases brings with
      | scaled desired => exact absurd ⟨desired, rfl⟩ request
      | _ => rfl
    have other : deed.size? = none := by
      cases deed with
      | resize desired => exact absurd ⟨desired, rfl⟩ request
      | _ => rfl
    rw [same, other, Option.toList_none, List.filter_nil, List.append_nil]

theorem Happens.sizesAsked (happens : cluster.Happens deed after) :
    after.sizesAsked = cluster.sizesAsked ++ deed.size?.toList.filter Admissible := by
  cases happens with
  | step step => exact step.sizesAsked
  | returns returns =>
    obtain ⟨-, rfl, -⟩ := returns.frame
    have same : cluster.endShutdown.sizesAsked = cluster.sizesAsked :=
      Only.unread (only_adopt cluster fun _ _ => rfl)
    exact same.trans (List.append_nil _).symm

theorem Life.sizesAsked_eq (life : Life deeds cluster) :
    cluster.sizesAsked = (deeds.filterMap Deed.size?).filter Admissible := by
  induction life with
  | start fresh => exact fresh.readings _
  | @next deeds cluster deed after life happens ih =>
    rw [happens.sizesAsked, ih, List.filterMap_append, List.filter_append]
    cases size : deed.size? <;> simp [size]

/-- Whatever happens to a set, the scaler is asked for exactly the admissible sizes among those that
the set was to have, once for each request and in their order. What it answers is what the request
returns. Any other request returns what is wrong with the size, with the size that the scaler has
at that moment. The set itself, its worker and its store stay as they are. -/
theorem Life.resizes_guarded (life : Life deeds cluster) :
    cluster.sizesAsked = (deeds.filterMap Deed.size?).filter Admissible ∧
    ∀ desired result after, cluster.resize desired = (result, after) →
      (Admissible desired →
        after.sizesAsked = cluster.sizesAsked ++ [desired] ∧
        after.site = { cluster.site with scaler := (cluster.site.scaler.resize desired).2 } ∧
        (∀ size, (cluster.site.scaler.resize desired).1 = .ok size → result = .ok size) ∧
        ∀ cause, (cluster.site.scaler.resize desired).1 = .error cause →
          result = .error (.scaler cause)) ∧
      (¬ Admissible desired →
        after.sizesAsked = cluster.sizesAsked ∧ after.site = cluster.site ∧
        ∃ error, result = .error error ∧
          (error = .evenMemberCount desired cluster.site.scaler.size ↔ desired % 2 = 0) ∧
          (error = .belowMinimum desired cluster.site.scaler.size ↔
            desired % 2 = 1 ∧ desired < minMembers) ∧
          (error = .aboveMaximum desired cluster.site.scaler.size ↔
            desired % 2 = 1 ∧ maxMembers < desired)) ∧
      after.controller = cluster.controller ∧ after.site.store = cluster.site.store := by
  refine ⟨life.sizesAsked_eq, fun desired result after requested => ?_⟩
  obtain ⟨controller, store, -⟩ := cluster.resize_frame desired
  have resizes := cluster.resizes desired
  rw [requested] at controller store resizes
  refine ⟨fun admissible => ?_, fun inadmissible => ?_, controller, store⟩
  · cases resizes with
    | asks _ site asked =>
      refine ⟨asked, site, fun size answer => ?_, fun cause answer => ?_⟩
      · rw [answer]
      · rw [answer]
    | refuses inadmissible => exact absurd admissible inadmissible
  · cases resizes with
    | asks admissible => exact absurd admissible inadmissible
    | @refuses error after _ refused site asked =>
      exact ⟨asked, site, error, rfl, refused.cases_iff⟩

/-- The scaler runs five nodes and has no others left. -/
def exhausted : Site :=
  { unhurried with scaler := { size := 5, reply := some (.fails "quota") } }

/-- A set was brought to five members. Then it was to have seven and, while it was shut down,
four. -/
def outgrown : Cluster :=
  let added := (create "rs" tireless unhurried).memberUp ⟨"a", .standIn 0⟩
  let grown := (added.resize 5).2
  let moved := grown.work?.getD grown
  let asked := ({ moved with site := exhausted }.resize 7).2
  (asked.beginShutdown.resize 4).2

theorem outgrown_life : ∃ deeds, Life deeds outgrown ∧
    deeds.filterMap Deed.size? = [5, 7, 4] := by
  have named : Text.isBlank "rs" = false := by decide
  have new := Run.start (fresh_create named tireless unhurried)
  have grown := (new.next (.up rfl ⟨"a", .standIn 0⟩)).next (.resize rfl 5)
  have asked := ((grown.next (.work rfl)).next (.surround exhausted)).next (.resize rfl 7)
  have refused := (asked.next (.beginShutdown rfl)).next (.resize rfl 4)
  exact ⟨_, refused.life, rfl⟩

theorem resizes_guarded_outgrown : ∃ deeds, Life deeds outgrown ∧
    deeds.filterMap Deed.size? = [5, 7, 4] ∧ outgrown.sizesAsked = [5, 7] ∧
    (outgrown.resize 3).1 = .error (.scaler (.provisioning "quota")) ∧
    (outgrown.resize 9).1 = .error (.aboveMaximum 9 5) := by
  obtain ⟨deeds, life, sizes⟩ := outgrown_life
  obtain ⟨asked, requests⟩ := life.resizes_guarded
  obtain ⟨accepts, -⟩ := requests 3 _ _ (Prod.eta _).symm
  obtain ⟨-, refuses, -⟩ := requests 9 _ _ (Prod.eta _).symm
  obtain ⟨-, -, -, fails⟩ := accepts (by decide)
  obtain ⟨-, -, error, isError, -, -, above⟩ := refuses (by decide)
  refine ⟨deeds, life, sizes, ?_, fails _ (by decide), ?_⟩
  · rw [asked, sizes]
    decide
  · rw [isError, above.mpr (by decide)]
    rfl

end Cluster

end Simulation

end ReplicaSet
