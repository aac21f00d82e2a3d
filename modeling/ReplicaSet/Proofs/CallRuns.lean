import ReplicaSet.Proofs.NodeRuns

/-!
What becomes of a request that is under way, and which request that can be.
-/
namespace ReplicaSet

/-- The request that a change of the set `name` makes. -/
def Change.request (name : String) : Change → Request
  | .found member => .found name member.id
  | .join member => .add member.key member.id
  | .leave member => .remove member.key

theorem Controller.order_request {ρ : Type} {controller : Controller ρ} {available : Bool}
    {change : Change} {via : Member} {request : Request}
    (ordered : controller.order available change = .ok (via, request)) :
    request = change.request controller.name := by
  cases change with
  | found => exact (Prod.mk.inj (Except.ok.inj ordered)).2.symm
  | join => exact (Controller.order_join ordered).2.2
  | leave => exact (Controller.order_leave ordered).2.2

namespace Simulation

/-- Whether a deed passes by what a set knows and publishes: nobody speaks to it, and its worker
makes no move. -/
def Deed.isAside : Deed → Bool
  | .up _ | .down _ | .signal _ _ | .beginShutdown | .endShutdown | .work => false
  | _ => true

namespace Cluster

variable {cluster after next : Cluster} {deed : Deed} {deeds : List Deed} {job : Job Change}
  {call : Call} {change : Change} {request : Request} {answer : StoreAnswer}

theorem Step.aside (step : Step cluster deed after) (aside : deed.isAside = true) :
    after.controller.roster = cluster.controller.roster ∧
      after.controller.bulletin = cluster.controller.bulletin := by
  cases step with
  | peek | surround | wait | letGo => exact ⟨rfl, rfl⟩
  | release =>
    rcases cluster.release_cases with same | ⟨job, call, later, -, same⟩
    · rw [same]
      exact ⟨rfl, rfl⟩
    · rw [same]
      exact ⟨rfl, rfl⟩
  | resize held desired =>
    rw [(cluster.resize_frame desired).1]
    exact ⟨rfl, rfl⟩
  | survey =>
    rw [cluster.survey_frame.1]
    exact ⟨rfl, rfl⟩
  | interject interjected =>
    obtain ⟨job, call, later, -, rfl⟩ := interjection?_cases interjected
    exact ⟨rfl, rfl⟩
  | _ => cases aside

/-- What a deed from outside does to what the worker is at. -/
inductive Meddles (phase : Phase Change Call) : Deed → Phase Change Call → Prop
  | keep {deed : Deed} : Meddles phase deed phase
  | release {job : Job Change} {call : Call} (running : phase = .running job call) :
      Meddles phase .release (.running job { call with stage := call.stage.release })
  | interject {job : Job Change} {call : Call} (running : phase = .running job call)
      (answering : call.stage = .answering) :
      Meddles phase .interject (.running job { call with during := [] })

theorem Step.meddles (step : Step cluster deed after) (outside : deed ≠ .work) :
    Meddles cluster.controller.queue.phase deed after.controller.queue.phase := by
  cases step with
  | up held handle =>
    rw [Cluster.memberUp, adopt_controller]
    rcases cluster.controller.memberUp_cases handle with same | ⟨isOpen, new⟩
    · rw [same]
      exact .keep
    · rw [(Controller.memberUp_new isOpen new).2.1, (Queue.offered_frame _ _).1]
      exact .keep
  | down held handle =>
    rw [Cluster.memberDown, adopt_controller]
    rcases cluster.controller.memberDown_cases handle.key with
      same | ⟨member, wasPrimary, left, dismissed, same⟩
    · rw [same]
      exact .keep
    · rw [same]
      exact (Queue.offered_frame _ _).1.symm ▸ .keep
  | signal held handle isPrimary =>
    rw [Cluster.primarySignal, adopt_controller]
    rcases cluster.controller.primarySignal_frame handle.key isPrimary with same | same
    · rw [same]
      exact .keep
    · rw [same]
      exact .keep
  | peek | surround | wait | beginShutdown | letGo => exact .keep
  | release =>
    unfold Cluster.release
    split
    · rename_i job call running
      exact .release running
    · exact .keep
  | resize held desired =>
    rw [(cluster.resize_frame desired).1]
    exact .keep
  | survey =>
    rw [cluster.survey_frame.1]
    exact .keep
  | endShutdown =>
    rw [Cluster.endShutdown, adopt_controller]
    exact .keep
  | work worked => exact absurd rfl outside
  | @interject _ actions interjected =>
    unfold interjection? at interjected
    split at interjected
    · rename_i job call running
      split at interjected
      · rename_i answering during
        cases interjected
        exact .interject running answering
      · cases interjected
    · cases interjected

theorem conclude_awake (cluster : Cluster) (job : Job Change) (outcome : Outcome) :
    (cluster.conclude job outcome).controller.queue.phase = .awake := by
  rw [conclude_controller]
  exact (Queue.conclude_frame _ _ _ _).1

theorem answered_awake (cluster : Cluster) (job : Job Change) (via : Member)
    (answer : StoreAnswer) :
    (cluster.answered job via answer).controller.queue.phase = .awake := by
  rw [answered_controller]
  exact (Queue.conclude_frame _ _ _ _).1

/-- After a move of the worker a request is under way if it was before, or if a run has begun that
makes it. -/
theorem work?_running (worked : cluster.work? = some next)
    (running : next.controller.queue.phase = .running job call) :
    (∃ earlier, cluster.controller.queue.phase = .running job earlier ∧
      call.request = earlier.request) ∨
    ∃ available via, cluster.controller.order available job.task = .ok (via, call.request) := by
  rcases work?_cases worked with ⟨current, before, isRunning, wentOn⟩ | ⟨queue, moved, rfl⟩ |
    ⟨current, queue, started, starts⟩ | ⟨exit, queue, left, rfl⟩
  · cases goes_goOn? wentOn with
    | hears => cases (answered_awake _ _ _ _).symm.trans running
    | crashes | stops =>
      simp only [leave_controller, Queue.exitWith] at running
      cases running
    | resumes =>
      cases running
      exact .inl ⟨before, isRunning, rfl⟩
  · simp only [withQueue] at running
    rcases Queue.turn_move moved with ⟨-, -, -, rfl⟩ | ⟨-, _, _, -, rfl⟩ | ⟨-, -, rfl⟩ <;> cases running
  · cases starts with
    | outdated | waits => cases (conclude_awake _ _ _).symm.trans running
    | @calls available asked via request _ asks ordered =>
      unfold Cluster.call at running
      split at running
      · cases (answered_awake _ _ _ _).symm.trans running
      · cases running
        exact .inr ⟨available, via, ordered⟩
  · simp only [leave_controller, Queue.exitWith] at running
    cases running

/-- A request that is under way is the one that its change makes. -/
theorem Run.call_request (run : Run deeds cluster)
    (running : cluster.controller.queue.phase = .running job call) :
    ∃ name, call.request = job.task.request name := by
  induction run generalizing call with
  | start fresh =>
    obtain ⟨name, settings, same⟩ := fresh.controller_eq
    rw [same] at running
    cases running
  | @next deeds cluster deed after run step ih =>
    by_cases outside : deed = .work
    · cases step <;> cases outside
      rename_i worked
      rcases work?_running worked running with ⟨earlier, before, same⟩ | ⟨available, via, ordered⟩
      · exact same ▸ ih before
      · exact ⟨_, Controller.order_request ordered⟩
    · have meddles := step.meddles outside
      generalize after.controller.queue.phase = phase at meddles running
      cases meddles with
      | keep => exact ih running
      | release before =>
        cases running
        have fits := ih before
        exact fits
      | interject before =>
        cases running
        have fits := ih before
        exact fits

/-! ### Answers -/

/-- In the next move the worker hears the answer to the request of a change, and ends the run. A
node answers at once, a stand-in when its request waits for nothing any more. -/
inductive Hears (cluster : Cluster) : Change → Request → StoreAnswer → Cluster → Prop
  | atOnce {job : Job Change} {queue : Queue Queue.WakeHeap Change Call} {available : Bool}
      {asked : Cluster} {via : Member} {request : Request} {answer : StoreAnswer}
      (started : cluster.controller.queue.turn cluster.now = .start job queue)
      (current : cluster.controller.outdated? job.task = none)
      (asks : (cluster.withQueue queue).Asks job.task available asked)
      (ordered : cluster.controller.order available job.task = .ok (via, request))
      (node : via.handle.origin = .node)
      (served : (cluster.site.store.serve via.key request).1 = answer) :
      Hears cluster job.task request answer (asked.call job via request)
  | later {job : Job Change} {call : Call} {answer : StoreAnswer}
      (running : cluster.controller.queue.phase = .running job call)
      (waited : call.stage = .answering) (ending : call.ending.answer? = some answer) :
      Hears cluster job.task call.request answer (cluster.answered job call.via answer)

theorem start_calls {available : Bool} {asked : Cluster} {via : Member}
    (current : cluster.controller.outdated? job.task = none)
    (asks : cluster.Asks job.task available asked)
    (ordered : cluster.controller.order available job.task = .ok (via, request)) :
    cluster.start job = asked.call job via request := by
  have same : asked.controller = cluster.controller := asks.frame.1
  rw [← pursue_ordered (same ▸ ordered)]
  unfold start
  rw [current]
  generalize job.task = task at asks
  cases asks <;> rfl

/-- The answer is heard in the move that the worker makes. -/
theorem Hears.worked (hears : cluster.Hears change request answer next) :
    cluster.work? = some next := by
  cases hears with
  | @atOnce job queue available asked via request answer started current asks ordered =>
    have worked : cluster.work? = some ((cluster.withQueue queue).start job) := by
      simp [work?, (Queue.turn_start started).1, started]
    have calls : (cluster.withQueue queue).start job = asked.call job via request :=
      start_calls current asks ordered
    rw [worked, calls]
  | @later job call answer running waited ending =>
    have wentOn : cluster.goOn? job call = some (cluster.answered job call.via answer) := by
      unfold goOn?
      rw [waited]
      cases isEnding : call.ending with
      | succeeds | fails =>
        rw [isEnding] at ending
        cases ending
        rfl
      | crashes =>
        rw [isEnding] at ending
        cases ending
    simp [work?, running, wentOn]

theorem answered_queue {ρ : Type} (controller : Controller ρ)
    (queue : Queue Queue.WakeHeap Change ρ) (change : Change) (via : Member)
    (answer : StoreAnswer) :
    ({ controller with queue := queue }.answered change via answer).2.2 =
      { (controller.answered change via answer).2.2 with queue := queue } := by
  cases change <;> cases answer <;> rfl

theorem Hears.tells (hears : cluster.Hears change request answer next) :
    ∃ via, next.controller.roster = (cluster.controller.answered change via answer).2.2.roster ∧
      next.controller.bulletin = (cluster.controller.answered change via answer).2.2.bulletin := by
  cases hears with
  | @atOnce job queue available asked via request answer started current asks ordered node served =>
    have controller : asked.controller = { cluster.controller with queue := queue } :=
      asks.frame.1
    have site : asked.site = cluster.site := asks.frame.2.1
    refine ⟨via, ?_⟩
    rw [call_node node, site, served, answered_controller, withStore, record, controller]
    simp only [answered_queue, and_self]
  | @later job call answer running waited ending =>
    refine ⟨call.via, ?_⟩
    rw [answered_controller]
    exact ⟨rfl, rfl⟩

theorem Hears.founded {founder : Member}
    (hears : cluster.Hears (.found founder) request (.ok ()) next) :
    next.controller.roster = (cluster.controller.roster.follow founder.key).2 ∧
      next.controller.bulletin = cluster.controller.bulletin.publish .stable true := by
  obtain ⟨via, roster, bulletin⟩ := hears.tells
  exact ⟨roster, bulletin⟩

theorem Hears.unfounded {founder : Member} {cause : StoreError}
    (hears : cluster.Hears (.found founder) request (.error cause) next) :
    next.controller.roster = cluster.controller.roster ∧
      next.controller.bulletin = cluster.controller.bulletin.publish .degraded false := by
  obtain ⟨via, roster, bulletin⟩ := hears.tells
  exact ⟨roster, bulletin⟩

/-- What the worker does changes neither the roster nor what is published, unless it hears the
answer to the request to found the set. -/
theorem work?_quiet (worked : cluster.work? = some next) :
    (next.controller.roster = cluster.controller.roster ∧
      next.controller.bulletin = cluster.controller.bulletin) ∨
    ∃ founder request answer, cluster.Hears (.found founder) request answer next := by
  have heard {change : Change} {request : Request} {answer : StoreAnswer}
      (hears : cluster.Hears change request answer next) :
      (next.controller.roster = cluster.controller.roster ∧
        next.controller.bulletin = cluster.controller.bulletin) ∨
      ∃ founder request answer, cluster.Hears (.found founder) request answer next := by
    cases change with
    | found founder => exact .inr ⟨founder, request, answer, hears⟩
    | join | leave =>
      obtain ⟨via, roster, bulletin⟩ := hears.tells
      rw [roster, bulletin]
      cases answer <;> exact .inl ⟨rfl, rfl⟩
  rcases work?_cases worked with ⟨job, call, running, wentOn⟩ | ⟨queue, moved, rfl⟩ |
    ⟨job, queue, started, starts⟩ | ⟨exit, queue, left, rfl⟩
  · cases goes_goOn? wentOn with
    | hears waited ending => exact heard (.later running waited ending)
    | crashes | stops =>
      rw [leave_controller]
      exact .inl ⟨rfl, rfl⟩
    | resumes => exact .inl ⟨rfl, rfl⟩
  · exact .inl ⟨rfl, rfl⟩
  · cases starts with
    | outdated =>
      rw [conclude_controller]
      exact .inl ⟨rfl, rfl⟩
    | waits current asks =>
      rw [conclude_controller, note, record, asks.frame.1]
      exact .inl ⟨rfl, rfl⟩
    | @calls available asked via request current asks ordered =>
      cases origin : via.handle.origin with
      | node => exact heard (.atOnce started current asks ordered origin rfl)
      | standIn index =>
        have same : (asked.call job via request).controller.roster = asked.controller.roster ∧
            (asked.call job via request).controller.bulletin = asked.controller.bulletin := by
          unfold Cluster.call
          rw [origin]
          exact ⟨rfl, rfl⟩
        rw [same.1, same.2, asks.frame.1]
        exact .inl ⟨rfl, rfl⟩
  · rw [leave_controller]
    exact .inl ⟨rfl, rfl⟩

theorem Hears.request_eq (hears : cluster.Hears change request answer next)
    (run : Run deeds cluster) : ∃ name, request = change.request name := by
  cases hears with
  | atOnce _ _ _ ordered => exact ⟨_, Controller.order_request ordered⟩
  | later running => exact run.call_request running

end Cluster

end Simulation

end ReplicaSet
