import ReplicaSet.Proofs.ClusterRuns

/-!
What is written down while a cluster is at work. Whatever is read off its trace stays as it is
between two states if nothing that is read happens there (`Only.unread`). A crash is reported by
none of the operations here, so that only the end of a shutdown is left to report it.
-/
namespace ReplicaSet

/-- The message of the crash that the record reports, if it reports one. -/
def Notice.crash? : Notice → Option String
  | workerCrashed message => some message
  | _ => none

/-- The records report no crash. -/
def Calm (notices : List Notice) : Prop :=
  ∀ notice ∈ notices, notice.crash? = none

theorem Calm.cons {notice : Notice} {notices : List Notice} (first : notice.crash? = none)
    (rest : Calm notices) : Calm (notice :: notices) :=
  List.forall_mem_cons.mpr ⟨first, rest⟩

theorem calm_nil : Calm [] :=
  List.forall_mem_nil _

namespace Controller

variable {ρ : Type} (controller : Controller ρ)

/-! ### What operations report -/

theorem calm_schedule (change : Change) : Calm (controller.schedule change).1 := by
  unfold schedule
  split
  · exact calm_nil
  · exact calm_nil.cons rfl

theorem calm_memberUp (handle : Handle) : Calm (controller.memberUp handle).1 := by
  unfold memberUp
  split
  · exact calm_nil.cons rfl
  · rcases controller.roster.enrol handle with ⟨duplicate | member | member, roster⟩
    · exact calm_nil.cons rfl
    · exact (calm_schedule _ _).cons rfl
    · exact (calm_schedule _ _).cons rfl

theorem calm_memberDown (key : String) : Calm (controller.memberDown key).1 := by
  unfold memberDown
  split
  · exact calm_nil.cons rfl
  · rcases controller.roster.dismiss? key with none | ⟨member, wasPrimary, roster⟩
    · exact calm_nil.cons rfl
    · have leaves : Calm (.leaveScheduled member ::
          ({ controller with roster := roster }.schedule (.leave member)).1) :=
        (calm_schedule _ _).cons rfl
      cases wasPrimary with
      | false => exact leaves
      | true => exact leaves.cons rfl

theorem calm_primarySignal (key : String) (isPrimary : Bool) :
    Calm (controller.primarySignal key isPrimary).1 := by
  unfold primarySignal
  split
  · exact calm_nil
  · rcases controller.roster.follow key with ⟨changed | unchanged | unknown, roster⟩
    · exact calm_nil.cons rfl
    · exact calm_nil
    · exact calm_nil.cons rfl

theorem calm_answered (change : Change) (via : Member) (answer : StoreAnswer) :
    Calm (controller.answered change via answer).2.1 := by
  cases change with
  | found member =>
    cases answer with
    | ok =>
      simp only [answered]
      split <;> exact calm_nil.cons rfl
    | error => exact calm_nil.cons rfl
  | join | leave => cases answer <;> exact calm_nil.cons rfl

theorem calm_conclude (now : Nat) (job : Job Change) (outcome : Outcome) :
    Calm (controller.conclude now job outcome).1 := by
  unfold conclude
  rcases controller.queue.conclude now job outcome with ⟨completed | gaveUp | putOff, queue⟩
  · exact calm_nil.cons rfl
  · obtain ⟨task, attempts⟩ := job
    cases task with
    | found => exact calm_nil.cons rfl
    | join | leave => exact (calm_nil.cons rfl).cons rfl
  · exact calm_nil

theorem calm_farewell (exit : Exit Change) (pending : Nat) : Calm (farewell exit pending) := by
  cases exit with
  | stopped | drained => exact calm_nil.cons rfl
  | crashed => exact calm_nil

end Controller

namespace Simulation.Cluster

variable {α : Type} {read : Event → Option α} {allowed : Event → Prop}
  {cluster before after : Cluster}

/-! ### The trace -/

theorem noteAll_eq (cluster : Cluster) (notices : List Notice) :
    cluster.noteAll notices =
      { cluster with
        trace := (notices.map fun notice =>
          ⟨cluster.now, .noted cluster.controller.name notice⟩).reverse ++ cluster.trace } := by
  induction notices generalizing cluster with
  | nil => rfl
  | cons notice rest ih =>
    have one : cluster.noteAll (notice :: rest) = (cluster.note notice).noteAll rest := rfl
    rw [one, ih]
    simp [note, record]

theorem readings_record (read : Event → Option α) (cluster : Cluster) (event : Event) :
    (cluster.record event).readings read = cluster.readings read ++ (read event).toList := by
  cases reads : read event <;> simp [readings, record, reads]

theorem readings_noteAll (read : Event → Option α) (cluster : Cluster) (notices : List Notice) :
    (cluster.noteAll notices).readings read = cluster.readings read ++
      notices.filterMap fun notice => read (.noted cluster.controller.name notice) := by
  rw [noteAll_eq]
  simp only [readings, List.filterMap_append, List.filterMap_reverse, List.filterMap_map,
    List.reverse_append, List.reverse_reverse]
  rfl

theorem readings_adopt (read : Event → Option α) (cluster : Cluster)
    (result : List Notice × Controller Call) :
    (cluster.adopt result).readings read = cluster.readings read ++
      result.1.filterMap fun notice => read (.noted result.2.name notice) :=
  readings_noteAll read { cluster with controller := result.2 } result.1

/-- Only such events happen between the two. -/
def Only (allowed : Event → Prop) (before after : Cluster) : Prop :=
  ∃ later, after.trace = later ++ before.trace ∧ ∀ entry ∈ later, allowed entry.event

theorem Only.of_eq (same : after.trace = before.trace) : before.Only allowed after :=
  ⟨[], same, by simp⟩

theorem Only.trans (first : before.Only allowed cluster) (second : cluster.Only allowed after) :
    before.Only allowed after := by
  obtain ⟨early, earlyTrace, earlyAllowed⟩ := first
  obtain ⟨late, lateTrace, lateAllowed⟩ := second
  refine ⟨late ++ early, by rw [lateTrace, earlyTrace, List.append_assoc], ?_⟩
  intro entry member
  exact (List.mem_append.mp member).elim (lateAllowed entry) (earlyAllowed entry)

theorem Only.mono {also : Event → Prop} (only : before.Only allowed after)
    (allows : ∀ event, allowed event → also event) : before.Only also after := by
  obtain ⟨later, trace, inside⟩ := only
  exact ⟨later, trace, fun entry member => allows _ (inside entry member)⟩

/-- Where nothing happens that is read, nothing is read. -/
theorem Only.unread (only : before.Only (fun event => read event = none) after) :
    after.readings read = before.readings read := by
  obtain ⟨later, trace, unread⟩ := only
  have none : later.filterMap (fun entry => read entry.event) = [] :=
    List.filterMap_eq_nil_iff.mpr unread
  simp [readings, trace, none]

theorem only_record (cluster : Cluster) {event : Event} (allows : allowed event) :
    cluster.Only allowed (cluster.record event) :=
  ⟨[⟨cluster.now, event⟩], rfl, by simpa using allows⟩

theorem only_noteAll (cluster : Cluster) {notices : List Notice}
    (allows : ∀ notice ∈ notices, allowed (.noted cluster.controller.name notice)) :
    cluster.Only allowed (cluster.noteAll notices) := by
  refine ⟨_, by rw [noteAll_eq], ?_⟩
  intro entry member
  obtain ⟨notice, noted, rfl⟩ := List.mem_map.mp (List.mem_reverse.mp member)
  exact allows notice noted

theorem only_adopt (cluster : Cluster) {result : List Notice × Controller Call}
    (allows : ∀ notice ∈ result.1, allowed (.noted result.2.name notice)) :
    cluster.Only allowed (cluster.adopt result) :=
  only_noteAll { cluster with controller := result.2 } allows

section Worker

-- What a worker does may bring about any record but that of a crash.
variable (noted : ∀ name notice, notice.crash? = none → allowed (.noted name notice))
include noted

theorem only_conclude (cluster : Cluster) (job : Job Change) (outcome : Outcome) :
    cluster.Only allowed (cluster.conclude job outcome) :=
  only_adopt cluster fun notice told =>
    noted _ notice (Controller.calm_conclude _ _ _ _ notice told)

theorem only_answered (cluster : Cluster) (job : Job Change) (via : Member)
    (answer : StoreAnswer) : cluster.Only allowed (cluster.answered job via answer) := by
  have adopts : cluster.Only allowed
      (cluster.adopt (cluster.controller.answered job.task via answer).2) :=
    only_adopt cluster fun notice told =>
      noted _ notice (Controller.calm_answered _ _ _ _ notice told)
  exact adopts.trans (only_conclude noted _ job _)

theorem only_leave (cluster : Cluster) (exit : Exit Change) :
    cluster.Only allowed (cluster.leave exit) :=
  only_noteAll (cluster.withQueue _) fun notice told =>
    noted _ notice (Controller.calm_farewell _ _ notice told)

theorem only_call (cluster : Cluster) (job : Job Change) (via : Member) (request : Request) :
    (cluster.record (.called via.handle request)).Only allowed (cluster.call job via request) := by
  unfold call
  split
  · exact (Only.of_eq rfl).trans (only_answered noted _ job via _)
  · exact Only.of_eq rfl

end Worker

/-! ### Requests -/

/-- No request is made between the two. -/
abbrev Silent (before after : Cluster) : Prop :=
  before.Only (fun event => event.request? = none) after

theorem Silent.requests_eq (silent : before.Silent after) : after.requests = before.requests :=
  Only.unread silent

theorem news_eq (later : List Entry) (trace : after.trace = later ++ cluster.trace) :
    cluster.news after = later.reverse := by
  simp [news, trace]

theorem Silent.news (silent : cluster.Silent after) {time : Nat} {via : Handle}
    {request : Request} : ⟨time, .called via request⟩ ∉ cluster.news after := by
  obtain ⟨later, trace, quiet⟩ := silent
  rw [news_eq later trace, List.mem_reverse]
  intro called
  cases quiet _ called

theorem silent_note (cluster : Cluster) (notice : Notice) : cluster.Silent (cluster.note notice) :=
  only_record cluster rfl

theorem silent_adopt (cluster : Cluster) (result : List Notice × Controller Call) :
    cluster.Silent (cluster.adopt result) :=
  only_adopt cluster fun _ _ => rfl

theorem silent_conclude (cluster : Cluster) (job : Job Change) (outcome : Outcome) :
    cluster.Silent (cluster.conclude job outcome) :=
  only_conclude (fun _ _ _ => rfl) cluster job outcome

theorem silent_answered (cluster : Cluster) (job : Job Change) (via : Member)
    (answer : StoreAnswer) : cluster.Silent (cluster.answered job via answer) :=
  only_answered (fun _ _ _ => rfl) cluster job via answer

theorem silent_leave (cluster : Cluster) (exit : Exit Change) :
    cluster.Silent (cluster.leave exit) :=
  only_leave (fun _ _ _ => rfl) cluster exit

theorem silent_call (cluster : Cluster) (job : Job Change) (via : Member) (request : Request) :
    (cluster.record (.called via.handle request)).Silent (cluster.call job via request) :=
  only_call (fun _ _ _ => rfl) cluster job via request

end Simulation.Cluster

end ReplicaSet
