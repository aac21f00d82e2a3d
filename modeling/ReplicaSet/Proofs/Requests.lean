import ReplicaSet.Proofs.ClusterClock
import ReplicaSet.Proofs.Founding

/-!
Which requests a controller makes, and the state in which it makes each of them. What a request
needs is looked at in the move that makes it, however long the change had to wait for its turn.
-/
namespace ReplicaSet

namespace Simulation.Cluster

variable {cluster after next : Cluster} {deeds : List Deed} {deed : Deed} {job : Job Change}

/-- The one who is asked before a request is made, and the answer. -/
def questions (now : Nat) (available : Bool) : Change → List Entry
  | .found _ => []
  | .join member | .leave member => [⟨now, .asked member.handle available⟩]

theorem Asks.trace {change : Change} {available : Bool}
    (asks : cluster.Asks change available after) :
    after.trace = questions cluster.now available change ++ cluster.trace := by
  cases asks <;> rfl

theorem call_news (cluster : Cluster) (job : Job Change) (via : Member) (request : Request) :
    ∃ later, (cluster.call job via request).trace =
      later ++ ⟨cluster.now, .called via.handle request⟩ :: cluster.trace ∧
        ∀ entry ∈ later, entry.event.request? = none :=
  silent_call cluster job via request

/-- A request is only made when a run begins, by a change that is not outdated, right after the
question that comes before it. -/
theorem Step.called (step : Step cluster deed after) {time : Nat} {via : Handle} {request : Request}
    (called : ⟨time, .called via request⟩ ∈ cluster.news after) :
    ∃ job queue available asked member later,
      cluster.controller.queue.turn cluster.now = .start job queue ∧
      cluster.controller.outdated? job.task = none ∧
      (cluster.withQueue queue).Asks job.task available asked ∧
      cluster.controller.order available job.task = .ok (member, request) ∧
      via = member.handle ∧ cluster.news after =
        questions cluster.now available job.task ++ ⟨cluster.now, .called via request⟩ :: later := by
  by_cases outside : deed = .work
  · cases step <;> cases outside
    rename_i worked
    rcases work?_cases worked with ⟨job, call, running, wentOn⟩ | ⟨queue, moved, rfl⟩ |
      ⟨job, queue, started, starts⟩ | ⟨exit, queue, left, rfl⟩
    · rcases goOn?_cases wentOn with ⟨answer, rfl⟩ | ⟨exit, rfl⟩ | ⟨stage, -, rfl⟩
      · exact absurd called (silent_answered _ _ _ _).news
      · exact absurd called (silent_leave _ _).news
      · exact absurd called (Silent.news (.of_eq rfl))
    · exact absurd called (Silent.news (.of_eq rfl))
    · have before : cluster.Silent (cluster.withQueue queue) := .of_eq rfl
      cases starts with
      | outdated =>
        exact absurd called (Silent.news
          (before.trans ((silent_note _ _).trans (silent_conclude _ _ _))))
      | waits current asks =>
        exact absurd called (Silent.news (before.trans
          (asks.frame.2.2.2.trans ((silent_note _ _).trans (silent_conclude _ _ _)))))
      | @calls available asked member made current asks ordered =>
        obtain ⟨later, trace, quiet⟩ := call_news asked job member made
        have since : (asked.call job member made).trace = (later ++
            ⟨cluster.now, .called member.handle made⟩ ::
              questions cluster.now available job.task) ++ cluster.trace := by
          rw [trace, asks.trace, asks.frame.2.2.1, List.append_assoc, List.cons_append]
          rfl
        have news := news_eq _ since
        have same : (⟨time, .called via request⟩ : Entry) =
            ⟨cluster.now, .called member.handle made⟩ := by
          rw [news, List.mem_reverse, List.mem_append, List.mem_cons] at called
          rcases called with inLater | same | question
          · cases quiet _ inLater
          · exact same
          · cases task : job.task <;> simp [task, questions] at question
        cases same
        refine ⟨job, queue, available, asked, member, later.reverse, started, current, asks,
          ordered, rfl, ?_⟩
        rw [news, List.reverse_append, List.reverse_cons, List.append_assoc]
        cases job.task <;> rfl
    · exact absurd called (silent_leave _ _).news
  · exact absurd called (step.silent outside).news

/-- A set is founded once, as number zero, through the member that was admitted first, and before
any other request. Whoever is added is the current admission of its key and was just found
available; whoever is removed is tracked no more and was just found unavailable. Both go through
the primary. -/
theorem Run.requests_guarded (run : Run deeds cluster) :
    (cluster.requests = [] ∨ ∃ first later, firstAdmitted? deeds = some first ∧
      cluster.requests = (first, .found cluster.controller.name 0) :: later ∧
      ∀ via setName id, (via, .found setName id) ∉ later) ∧
    ∀ deed after, Step cluster deed after →
      (∀ time via key id, ⟨time, .called via (.add key id)⟩ ∈ cluster.news after →
        ∃ (candidate primary : Member) (later : List Entry), candidate.key = key ∧
          candidate.id = id ∧
          cluster.controller.roster.find? key = some candidate ∧
          cluster.controller.roster.primary? = some primary ∧ via = primary.handle ∧
          (cluster.site.look candidate.handle).available = true ∧
          cluster.news after = ⟨cluster.now, .asked candidate.handle true⟩ ::
            ⟨cluster.now, .called via (.add key id)⟩ :: later) ∧
      (∀ time via key, ⟨time, .called via (.remove key)⟩ ∈ cluster.news after →
        ∃ (departed primary : Member) (later : List Entry), departed.key = key ∧
          cluster.controller.roster.tracks key = false ∧
          cluster.controller.roster.primary? = some primary ∧ via = primary.handle ∧
          via.key ≠ key ∧ (cluster.site.look departed.handle).available = false ∧
          cluster.news after = ⟨cluster.now, .asked departed.handle false⟩ ::
            ⟨cluster.now, .called via (.remove key)⟩ :: later) := by
  have accounted := run.accounted
  refine ⟨?_, fun deed after step => ⟨?_, ?_⟩⟩
  · cases run.founding with
    | ahead _ _ silent => exact .inl silent
    | lined _ _ _ _ _ _ silent => exact .inl silent
    | never _ _ silent => exact .inl silent
    | @made first later _ _ requests only admitted =>
      exact .inr ⟨first, later, admitted, requests, only⟩
  · intro time via key id called
    obtain ⟨job, queue, available, asked, primary, later, started, current, asks, ordered, rfl,
      news⟩ := step.called called
    obtain ⟨candidate, task, rfl, rfl, rfl, isPrimary⟩ := Controller.order_add ordered
    rw [task] at current asks news
    have waiting : Change.join candidate ∈ cluster.controller.queue.unfinished :=
      (Queue.unfinished_start started).mem_iff.mpr (task ▸ List.mem_cons_self)
    have tracked := accounted.eq_of_current waiting (Controller.current_of_outdated? current)
    exact ⟨candidate, primary, later, rfl, rfl, accounted.sound.find?_of_mem tracked, isPrimary, rfl,
      (asks.answer (by simp)).symm, news⟩
  · intro time via key called
    obtain ⟨job, queue, available, asked, primary, later, started, current, asks, ordered, rfl,
      news⟩ := step.called called
    obtain ⟨departed, task, rfl, rfl, isPrimary⟩ := Controller.order_remove ordered
    rw [task] at current asks news
    have gone := Controller.untracked_of_outdated? current
    -- The primary is tracked, and who is to be removed is not.
    have other : primary.handle.key ≠ departed.key :=
      Roster.tracks_eq_false_iff.mp gone primary (Roster.mem_of_primary? isPrimary).1
    exact ⟨departed, primary, later, rfl, gone, isPrimary, rfl, other,
      (asks.answer (by simp)).symm, news⟩

/-- Two nodes that run. -/
def twoNodes : Site where
  store := (({} : Store).startNode "a" "a:1").startNode "b" "b:1"
  scaler := ⟨1, none⟩

/-- A set was founded on the one node, and the other one is about to be added. -/
def joining : Cluster :=
  let founded := Clockwork.settle ((create "rs" tireless twoNodes).memberUp ⟨"a", .node⟩)
  Clockwork.run 1 (founded.memberUp ⟨"b", .node⟩)

/-- The other node was added and has stopped since. -/
def stopped : Site :=
  { twoNodes with store := (Clockwork.settle joining).site.store.setAvailable "b" false }

/-- The other node went down and is about to be removed. -/
def leaving : Cluster :=
  Clockwork.run 1 (memberDown { Clockwork.settle joining with site := stopped } ⟨"b", .node⟩)

theorem joining_run : ∃ deeds, Run deeds joining := by
  have named : Text.isBlank "rs" = false := by decide
  have new := Run.start (fresh_create named tireless twoNodes)
  obtain ⟨moves, founded⟩ := (new.next (.up rfl ⟨"a", .node⟩)).settle
  obtain ⟨more, received⟩ := (founded.next (.up (by decide) ⟨"b", .node⟩)).work 1
  exact ⟨_, received⟩

theorem leaving_run : ∃ deeds, Run deeds leaving := by
  obtain ⟨deeds, run⟩ := joining_run
  obtain ⟨moves, added⟩ := run.settle
  have down := (added.next (.surround stopped)).next (.down (by decide) ⟨"b", .node⟩)
  obtain ⟨more, received⟩ := down.work 1
  exact ⟨_, received⟩

/-- The other node is added while it runs, and removed after it has stopped. -/
theorem requests_guarded_twoNodes :
    ∃ deeds added more removed, Run deeds joining ∧ Step joining .work added ∧ Run more leaving ∧
      Step leaving .work removed ∧ joining.requests = [(⟨"a", .node⟩, .found "rs" 0)] ∧
      (∃ candidate, joining.controller.roster.find? "b" = some candidate ∧ candidate.id = 1) ∧
      leaving.controller.roster.tracks "b" = false := by
  obtain ⟨deeds, run⟩ := joining_run
  obtain ⟨more, laterRun⟩ := leaving_run
  have addition : Step joining .work (joining.work?.get (by decide)) := .work (Option.some_get _).symm
  have removal : Step leaving .work (leaving.work?.get (by decide)) := .work (Option.some_get _).symm
  obtain ⟨candidate, -, -, -, number, current, -⟩ :=
    (run.requests_guarded.2 _ _ addition).1 0 ⟨"a", .node⟩ "b" 1 (by decide)
  obtain ⟨-, -, -, -, gone, -⟩ :=
    (laterRun.requests_guarded.2 _ _ removal).2 0 ⟨"a", .node⟩ "b" (by decide)
  exact ⟨deeds, _, more, _, run, addition, laterRun, removal, by decide,
    ⟨candidate, current, number⟩, gone⟩

end Simulation.Cluster

end ReplicaSet
