import ReplicaSet.Proofs.CallRuns
import ReplicaSet.Proofs.TaskPlaces

/-!
The numbers of admissions. A member is added under the number that it was given when word of it
came, no other admission has that number, and when the store has agreed there is an end of it.
-/
namespace ReplicaSet.Simulation.Cluster

variable {cluster after next : Cluster} {deed : Deed} {deeds : List Deed} {job : Job Change}
  {member : Member} {change : Change} {request : Request} {answer : StoreAnswer}

/-! ### Admissions -/

/-- In the course of the deeds word of the member came, it was admitted, and this was the next
number then. -/
def Admitted (deeds : List Deed) (cluster : Cluster) (member : Member) : Prop :=
  ∃ earlier later before after, deeds = earlier ++ .up member.handle :: later ∧
    Run earlier before ∧ Step before (.up member.handle) after ∧ Onward after later cluster ∧
    before.controller.roster.closed = false ∧
    before.controller.roster.tracks member.key = false ∧
    before.controller.roster.nextId = member.id

/-- Only an admission creates a task that brings a member in. -/
theorem entrant_of_commission {roster : Roster} {task : Change}
    (isCreated : task ∈ commissions roster deed) (entrant : task.entrant? = some member) :
    deed = .up member.handle ∧ roster.closed = false ∧ roster.tracks member.key = false ∧
      roster.nextId = member.id := by
  cases deed with
  | up handle =>
    have created : task ∈ if roster.closed || roster.tracks handle.key then []
        else [Controller.entrance roster handle] := isCreated
    split at created
    · cases created
    · rename_i new
      rw [List.mem_singleton.mp created, entrant?_entrance] at entrant
      obtain rfl := Option.some.inj entrant
      simp only [Bool.or_eq_true, not_or, Bool.not_eq_true] at new
      exact ⟨rfl, new.1, new.2, rfl⟩
  | down handle =>
    have created : task ∈ if roster.closed then []
        else (roster.find? handle.key).toList.map Change.leave := isCreated
    split at created
    · cases created
    · obtain ⟨gone, -, rfl⟩ := List.mem_map.mp created
      cases entrant
  | _ => cases isCreated

theorem Run.admitted (run : Run deeds cluster) {task : Change} (isCreated : task ∈ created deeds)
    (entrant : task.entrant? = some member) : Admitted deeds cluster member := by
  induction run with
  | start fresh => cases isCreated
  | @next deeds cluster deed after run step ih =>
    rw [run.created_next] at isCreated
    rcases List.mem_append.mp isCreated with old | new
    · obtain ⟨earlier, later, before, middle, rfl, first, up, onward, facts⟩ := ih old
      exact ⟨earlier, later ++ [deed], before, middle, by simp, first, up, onward.next step, facts⟩
    · obtain ⟨rfl, isOpen, untracked, number⟩ := entrant_of_commission new entrant
      exact ⟨deeds, [], cluster, after, rfl, run, step, .rest, isOpen, untracked, number⟩

/-- Whoever is added was admitted under the number that is asked for. -/
theorem Run.add_called (run : Run deeds cluster) (step : Step cluster deed after) {time : Nat}
    {via : Handle} {key : String} {id : Nat}
    (called : ⟨time, .called via (.add key id)⟩ ∈ cluster.news after) :
    ∃ job queue handle, cluster.controller.queue.turn cluster.now = .start job queue ∧
      job.task = .join ⟨id, handle⟩ ∧ handle.key = key ∧ .join ⟨id, handle⟩ ∈ created deeds := by
  obtain ⟨job, queue, available, asked, primary, later, started, -, -, ordered, -, -⟩ :=
    step.called called
  obtain ⟨⟨number, handle⟩, task, rfl, rfl, -, -⟩ := Controller.order_add ordered
  have waits := run.created_of_held (Queue.mem_held_of_start started)
  exact ⟨job, queue, handle, started, task, rfl, task ▸ waits⟩

/-! ### Answers -/

/-- Whoever hears that the store agreed is done. -/
theorem answered_ok (cluster : Cluster) (job : Job Change) (via : Member) :
    (.completed, job.task) ∈ (cluster.answered job via (.ok ())).fates := by
  have done : (cluster.controller.answered job.task via (.ok ())).1 = .done := by
    cases job.task <;> rfl
  rw [fates_answered, done]
  exact List.mem_append_right _ List.mem_cons_self

theorem Hears.completed (hears : cluster.Hears change request (.ok ()) next) :
    (.completed, change) ∈ next.fates := by
  generalize agreed : Except.ok () = answer at hears
  cases hears with
  | @atOnce job queue available asked via request answer started current asks ordered node served =>
    have site : asked.site = cluster.site := asks.frame.2.1
    rw [call_node node, site, served, ← agreed]
    exact answered_ok _ job via
  | later =>
    rw [← agreed]
    exact answered_ok cluster _ _

/-- A change to which the store agreed is not run again. -/
theorem Run.agreed (run : Run deeds cluster) (hears : cluster.Hears change request (.ok ()) next)
    {more : List Deed} (onward : Onward next more after) :
    change ∈ created (deeds ++ [.work] ++ more) ∧ change ∉ after.controller.queue.held := by
  have agreed := run.next (.work hears.worked)
  obtain ⟨still, released⟩ := agreed.rests hears.completed onward
  exact ⟨(agreed.onward onward).created_of_rested still, released⟩

/-- Members are admitted under the numbers from zero on. Each addition is asked for by the task of
an admission, under the number that the admission was given, whatever came in between. When the
store has agreed to an addition no other one is asked for under its number, and when it has agreed
to a removal the change that asked for it is not run again. -/
theorem Run.numbers_kept (run : Run deeds cluster) :
    ((created deeds).filterMap Change.entrant?).map Member.id =
      List.range cluster.controller.roster.nextId ∧
    (∀ deed after, Step cluster deed after →
      ∀ time via key id, ⟨time, .called via (.add key id)⟩ ∈ cluster.news after →
        ∃ job queue handle, cluster.controller.queue.turn cluster.now = .start job queue ∧
          job.task = .join ⟨id, handle⟩ ∧ handle.key = key ∧
          Admitted deeds cluster ⟨id, handle⟩) ∧
    (∀ change key id next, cluster.Hears change (.add key id) (.ok ()) next →
      ∀ more after, Onward next more after → ∀ deed later, Step after deed later →
        ∀ time via other, ⟨time, .called via (.add other id)⟩ ∉ after.news later) ∧
    ∀ departed key next, cluster.Hears (.leave departed) (.remove key) (.ok ()) next →
      ∀ more after, Onward next more after →
        ∀ job queue, after.controller.queue.turn after.now = .start job queue →
          job.task ≠ .leave departed := by
  refine ⟨?_, ?_, ?_, ?_⟩
  · have numbers := (chronicled_created deeds).numbers
    rw [run.heard_eq] at numbers
    exact numbers
  · intro deed after step time via key id called
    obtain ⟨job, queue, handle, started, task, sameKey, isCreated⟩ := run.add_called step called
    exact ⟨job, queue, handle, started, task, sameKey, run.admitted isCreated rfl⟩
  · intro change key id next hears more after onward deed later step time via other called
    obtain ⟨wasCreated, released⟩ := run.agreed hears onward
    have laterRun := (run.next (.work hears.worked)).onward onward
    obtain ⟨job, queue, handle, started, task, -, isCreated⟩ := laterRun.add_called step called
    obtain ⟨name, made⟩ := hears.request_eq run
    -- Both changes bring in the member of that number, so that they are the same.
    cases change with
    | found => cases made
    | leave => cases made
    | join candidate =>
      obtain ⟨-, rfl⟩ := Request.add.inj made
      have same : candidate = ⟨candidate.id, handle⟩ :=
        (chronicled_created _).eq_of_id (List.mem_filterMap.mpr ⟨_, wasCreated, rfl⟩)
          (List.mem_filterMap.mpr ⟨_, isCreated, rfl⟩) rfl
      have waits := Queue.mem_held_of_start started
      rw [task, ← same] at waits
      exact released waits
  · intro departed key next hears more after onward job queue started same
    have waits := Queue.mem_held_of_start started
    exact (run.agreed hears onward).2 (same ▸ waits)

/-- Two nodes are admitted as numbers zero and one. The second one is added once and for all, and
after it has stopped it is removed once and for all. -/
theorem numbers_kept_twoNodes :
    (∃ deeds added, Run deeds joining ∧
      joining.Hears (.join ⟨1, ⟨"b", .node⟩⟩) (.add "b" 1) (.ok ()) added ∧
      ((created deeds).filterMap Change.entrant?).map Member.id = [0, 1] ∧
      Admitted deeds joining ⟨1, ⟨"b", .node⟩⟩ ∧
      ∀ more after, Onward added more after → ∀ deed later, Step after deed later →
        ∀ time via other, ⟨time, .called via (.add other 1)⟩ ∉ after.news later) ∧
    ∃ deeds removed, Run deeds leaving ∧
      leaving.Hears (.leave ⟨1, ⟨"b", .node⟩⟩) (.remove "b") (.ok ()) removed ∧
      ∀ more after, Onward removed more after →
        ∀ job queue, after.controller.queue.turn after.now = .start job queue →
          job.task ≠ .leave ⟨1, ⟨"b", .node⟩⟩ := by
  refine ⟨?_, ?_⟩
  · obtain ⟨deeds, run⟩ := joining_run
    obtain ⟨numbers, admitted, added, -⟩ := run.numbers_kept
    have started : joining.controller.queue.turn joining.now =
        .start ⟨.join ⟨1, ⟨"b", .node⟩⟩, 0⟩ { joining.controller.queue with ready := [] } := rfl
    have ordered : joining.controller.order true (.join ⟨1, ⟨"b", .node⟩⟩) =
        .ok (⟨0, ⟨"a", .node⟩⟩, .add "b" 1) := rfl
    have hears : joining.Hears (.join ⟨1, ⟨"b", .node⟩⟩) (.add "b" 1) (.ok ()) _ :=
      .atOnce started rfl .join ordered rfl rfl
    obtain ⟨job, queue, handle, startedToo, task, -, isAdmitted⟩ :=
      admitted .work _ (.work hears.worked) 0 ⟨"a", .node⟩ "b" 1 (by decide)
    obtain ⟨rfl, rfl⟩ := Queue.Turn.start.inj (started.symm.trans startedToo)
    cases task
    exact ⟨deeds, _, run, hears, numbers, isAdmitted, added _ "b" 1 _ hears⟩
  · obtain ⟨deeds, run⟩ := leaving_run
    obtain ⟨-, -, -, removed⟩ := run.numbers_kept
    have started : leaving.controller.queue.turn leaving.now =
        .start ⟨.leave ⟨1, ⟨"b", .node⟩⟩, 0⟩ { leaving.controller.queue with ready := [] } := rfl
    have ordered : leaving.controller.order false (.leave ⟨1, ⟨"b", .node⟩⟩) =
        .ok (⟨0, ⟨"a", .node⟩⟩, .remove "b") := rfl
    have hears : leaving.Hears (.leave ⟨1, ⟨"b", .node⟩⟩) (.remove "b") (.ok ()) _ :=
      .atOnce started rfl .leave ordered rfl rfl
    exact ⟨deeds, _, run, hears, removed _ "b" _ hears⟩

end ReplicaSet.Simulation.Cluster
