import ReplicaSet.Proofs.Commissions
import ReplicaSet.Proofs.QueueHistory

/-!
What the log says of the queue of a set. Each move of the worker writes down what becomes of the
task whose run it ends, or that the worker leaves. Apart from that only a task that is dropped is
written down.
-/
namespace ReplicaSet

/-- Whether the record says what becomes of a task or of the worker. -/
def Notice.isOfQueue : Notice → Bool
  | changeDropped _ | completed _ _ | gaveUp _ _ | joinExhausted _ | leaveExhausted _
  | workerStopped _ _ _ | workerDrained => true
  | _ => false

namespace Queue

/-- The records of what becomes of a job after a run. -/
def Verdict.records (job : Job Change) : Verdict → List Notice
  | completed => [.completed job.task (job.attempts + 1)]
  | gaveUp => .gaveUp job.task (job.attempts + 1) :: Controller.lastWord job.task
  | putOff => []

/-- The records of what is told of a queue, where the worker holds so many jobs when it leaves. -/
def Mark.records (pending : Nat) : Mark Change → List Notice
  | ended job verdict => verdict.records job
  | left exit => Controller.farewell exit pending
  | _ => []

theorem records_closing {ρ : Type} (queue : Queue WakeHeap Change ρ) (now : Nat) (job : Job Change)
    (outcome : Outcome) (pending : Nat) :
    (queue.closing now job outcome).flatMap (Mark.records pending) =
      (queue.conclude now job outcome).1.records job := by
  have received : (queue.inbox.map Mark.received).flatMap (Mark.records pending) = [] := by
    simp [List.flatMap_eq_nil_iff, Mark.records]
  rw [closing, List.flatMap_cons, received, List.append_nil, Mark.records]

end Queue

namespace Simulation

/-- The record of the event, if it says what becomes of a task or of the worker. -/
def Event.ofQueue? : Event → Option Notice
  | .noted _ notice => if notice.isOfQueue then some notice else none
  | _ => none

namespace Cluster

variable {cluster after next : Cluster} {job : Job Change}

/-- The records of what became of tasks and of the worker, in the order in which they were
written. -/
def queueRecords (cluster : Cluster) : List Notice :=
  cluster.readings Event.ofQueue?

/-! ### Single operations -/

theorem ofQueue?_noted (name : String) (notices : List Notice) :
    (notices.filterMap fun notice => (Event.noted name notice).ofQueue?) =
      notices.filter Notice.isOfQueue := by
  rw [← List.filterMap_eq_filter]
  rfl

theorem queueRecords_note (cluster : Cluster) {notice : Notice} (quiet : notice.isOfQueue = false) :
    (cluster.note notice).queueRecords = cluster.queueRecords :=
  Only.unread (only_record cluster (by simp [Event.ofQueue?, quiet]))

theorem queueRecords_adopt (cluster : Cluster) (result : List Notice × Controller Call) :
    (cluster.adopt result).queueRecords =
      cluster.queueRecords ++ result.1.filter Notice.isOfQueue := by
  rw [queueRecords, readings_adopt, ofQueue?_noted]
  rfl

theorem queueRecords_conclude (cluster : Cluster) (job : Job Change) (outcome : Outcome) :
    (cluster.conclude job outcome).queueRecords = cluster.queueRecords ++
      (cluster.controller.queue.conclude cluster.now job outcome).1.records job := by
  have told : (cluster.controller.conclude cluster.now job outcome).1.filter Notice.isOfQueue =
      (cluster.controller.queue.conclude cluster.now job outcome).1.records job := by
    unfold Controller.conclude
    cases cluster.controller.queue.conclude cluster.now job outcome with
    | mk verdict queue =>
      cases verdict with
      | completed | putOff => rfl
      | gaveUp =>
        obtain ⟨task, attempts⟩ := job
        cases task <;> rfl
  rw [conclude, queueRecords_adopt, told]

/-- What a change has to say of an answer is not about the queue. -/
theorem answered_quiet {ρ : Type} (controller : Controller ρ) (change : Change) (via : Member)
    (answer : StoreAnswer) :
    (controller.answered change via answer).2.1.filter Notice.isOfQueue = [] := by
  cases change with
  | found member =>
    cases answer with
    | ok =>
      simp only [Controller.answered]
      split <;> rfl
    | error => rfl
  | join | leave => cases answer <;> rfl

theorem queueRecords_answered (cluster : Cluster) (job : Job Change) (via : Member)
    (answer : StoreAnswer) :
    (cluster.answered job via answer).queueRecords = cluster.queueRecords ++
      (cluster.controller.queue.conclude cluster.now job
        (cluster.controller.answered job.task via answer).1).1.records job := by
  have queue := (cluster.controller.answered_frame job.task via answer).1
  rw [answered, queueRecords_conclude, queueRecords_adopt, answered_quiet, List.append_nil,
    adopt_controller, adopt_now, queue]

theorem queueRecords_leave (cluster : Cluster) (exit : Exit Change) :
    (cluster.leave exit).queueRecords =
      cluster.queueRecords ++ Controller.farewell exit cluster.controller.queue.pending := by
  have told : (Controller.farewell exit cluster.controller.queue.pending).filter Notice.isOfQueue =
      Controller.farewell exit cluster.controller.queue.pending := by
    cases exit <;> rfl
  rw [queueRecords, leave, readings_noteAll, ofQueue?_noted, told]
  rfl

theorem outdated?_quiet {ρ : Type} {controller : Controller ρ} {change : Change} {notice : Notice}
    (outdated : controller.outdated? change = some notice) : notice.isOfQueue = false := by
  rcases Controller.outdated?_notice outdated with ⟨_, rfl⟩ | ⟨_, _, rfl⟩ <;> rfl

theorem order_quiet {ρ : Type} {controller : Controller ρ} {available : Bool} {change : Change}
    {notice : Notice} (waits : controller.order available change = .error notice) :
    notice.isOfQueue = false := by
  rcases Controller.order_notice waits with ⟨_, _, _, rfl⟩ | ⟨_, _, _, rfl⟩ <;> rfl

/-! ### Moves of the worker -/

/-- The records after a move are those before it and those of what is told of the queue. -/
def Writes (before after : Cluster) (news : List (Queue.Mark Change)) : Prop :=
  after.queueRecords = before.queueRecords ++
    news.flatMap (Queue.Mark.records after.controller.queue.pending)

/-- The end of a run, as the second half of a longer move. -/
theorem writes_closing {news : List (Queue.Mark Change)} {first : Queue Queue.WakeHeap Change Call}
    {outcome : Outcome} (silent : news.flatMap (Queue.Mark.records after.controller.queue.pending) = [])
    (told : after.queueRecords = cluster.queueRecords ++
      (first.conclude cluster.now job outcome).1.records job) :
    cluster.Writes after (news ++ first.closing cluster.now job outcome) := by
  rw [Writes, List.flatMap_append, silent, Queue.records_closing, List.nil_append, told]

theorem Writes.of_quiet {news : List (Queue.Mark Change)}
    (same : after.queueRecords = cluster.queueRecords)
    (silent : news.flatMap (Queue.Mark.records after.controller.queue.pending) = []) :
    cluster.Writes after news := by
  rw [Writes, same, silent, List.append_nil]

theorem Writes.of_same {middle : Cluster} {news : List (Queue.Mark Change)}
    (writes : middle.Writes after news) (same : middle.queueRecords = cluster.queueRecords) :
    cluster.Writes after news := by
  rw [Writes, ← same]
  exact writes

theorem conclude_writes (cluster : Cluster) {queue : Queue Queue.WakeHeap Change Call}
    (started : queue.turn cluster.now = .start job cluster.controller.queue) (outcome : Outcome) :
    ∃ news, queue.Does cluster.now news (cluster.conclude job outcome).controller.queue ∧
      cluster.Writes (cluster.conclude job outcome) news := by
  rw [conclude_controller]
  refine ⟨_, .run started outcome, ?_⟩
  show cluster.Writes _ ([_, _] ++ _)
  exact writes_closing rfl (queueRecords_conclude cluster job outcome)

theorem call_writes {queue : Queue Queue.WakeHeap Change Call}
    (started : queue.turn cluster.now = .start job cluster.controller.queue) (via : Member)
    (request : Request) :
    ∃ news, queue.Does cluster.now news (cluster.call job via request).controller.queue ∧
      cluster.Writes (cluster.call job via request) news := by
  have made : (cluster.record (.called via.handle request)).queueRecords = cluster.queueRecords :=
    Only.unread (only_record cluster rfl)
  unfold call
  split
  · simp only [answered_controller]
    refine ⟨_, .run started _, ?_⟩
    show cluster.Writes _ ([_, _] ++ _)
    exact writes_closing rfl ((queueRecords_answered _ job via _).trans (made ▸ rfl))
  · exact ⟨_, .start started _, .of_quiet made rfl⟩

theorem Starts.writes {queue : Queue Queue.WakeHeap Change Call} (starts : cluster.Starts job next)
    (started : queue.turn cluster.now = .start job cluster.controller.queue) :
    ∃ news, queue.Does cluster.now news next.controller.queue ∧ cluster.Writes next news := by
  cases starts with
  | @outdated notice outdated =>
    obtain ⟨news, does, writes⟩ := conclude_writes (cluster.note notice) started .done
    exact ⟨news, does, writes.of_same (queueRecords_note cluster (outdated?_quiet outdated))⟩
  | @waits available asked notice current asks waits =>
    obtain ⟨controller, -, now, -⟩ := asks.frame
    have startedAsked : queue.turn asked.now = .start job asked.controller.queue := by
      rw [controller, now]
      exact started
    obtain ⟨news, does, writes⟩ := conclude_writes (asked.note notice) startedAsked .retry
    have quiet := (queueRecords_note asked (order_quiet waits)).trans
      (Only.unread (asks.only fun _ _ => rfl))
    exact ⟨news, now ▸ does, writes.of_same quiet⟩
  | @calls available asked via request current asks ordered =>
    obtain ⟨controller, -, now, -⟩ := asks.frame
    have startedAsked : queue.turn asked.now = .start job asked.controller.queue := by
      rw [controller, now]
      exact started
    obtain ⟨news, does, writes⟩ := call_writes startedAsked via request
    exact ⟨news, now ▸ does, writes.of_same (Only.unread (asks.only fun _ _ => rfl))⟩

/-- What the worker does to its queue, and what it writes down about it. -/
theorem work?_writes (worked : cluster.work? = some next) :
    ∃ news, cluster.controller.queue.Does cluster.now news next.controller.queue ∧
      cluster.Writes next news := by
  have leaves (before : Cluster) (exit : Exit Change) :
      before.Writes (before.leave exit) [.left exit] := by
    rw [Writes, queueRecords_leave]
    simp [Queue.Mark.records, Queue.pending, Queue.exitWith]
  rcases work?_cases worked with ⟨job, call, running, wentOn⟩ | ⟨queue, moved, rfl⟩ |
    ⟨job, queue, started, starts⟩ | ⟨exit, queue, left, rfl⟩
  · cases goes_goOn? wentOn with
    | @hears answer waited ending =>
      have told := queueRecords_answered cluster job call.via answer
      simp only [answered_controller]
      refine ⟨_, .conclude running _, ?_⟩
      show cluster.Writes _ ([] ++ _)
      exact writes_closing rfl told
    | crashes waited ending =>
      simp only [leave_controller]
      exact ⟨_, .breakOff running rfl, leaves cluster _⟩
    | stops waits told =>
      simp only [leave_controller]
      exact ⟨_, .breakOff running rfl, leaves cluster _⟩
    | resumes waits untold resumed => exact ⟨_, .goOn running _, .of_quiet rfl rfl⟩
  · obtain ⟨news, does, quiet⟩ := Queue.does_move moved
    refine ⟨news, does, .of_quiet rfl (List.flatMap_eq_nil_iff.mpr fun mark member => ?_)⟩
    rcases quiet mark member with rfl | ⟨task, rfl⟩
    · rfl
    · rfl
  · exact starts.writes started
  · simp only [leave_controller]
    exact ⟨_, .leave left, leaves (cluster.withQueue queue) exit⟩

/-! ### Word from outside -/

/-- What happens to a queue from outside, where these tasks are created, with the records of it. -/
inductive Outside (queue : Queue Queue.WakeHeap Change Call) :
    List Change → Queue Queue.WakeHeap Change Call → List Notice → Prop
  | keep : Outside queue [] queue []
  | handed (alive : queue.exit? = none) (task : Change) :
      Outside queue [task] { queue with inbox := queue.inbox ++ [task] } []
  | dropped (ended : queue.exit?.isSome = true) (task : Change) :
      Outside queue [task] queue [.changeDropped task]
  | told (cause : StopCause) : Outside queue [] (queue.tellToStop cause) []
  /-- The request that is under way is meddled with. -/
  | goOn {job : Job Change} {call : Call} (running : queue.phase = .running job call)
      (later : Call) : Outside queue [] (queue.runOn job later) []

/-- A change that is scheduled is handed in, or it is dropped. -/
theorem schedule_outside (controller : Controller Call) (change : Change) :
    Outside controller.queue [change] (controller.schedule change).2.queue
      ((controller.schedule change).1.filter Notice.isOfQueue) := by
  unfold Controller.schedule
  cases submitted : controller.queue.submit? change with
  | none => exact .dropped (Queue.submit?_eq_none.mp submitted) change
  | some queue =>
    obtain ⟨alive, rfl⟩ := Queue.submit?_eq_some.mp submitted
    exact .handed alive change

theorem memberUp_outside (controller : Controller Call) (handle : Handle) :
    Outside controller.queue (commissions controller.roster (.up handle))
      (controller.memberUp handle).2.queue
      ((controller.memberUp handle).1.filter Notice.isOfQueue) := by
  cases closed : controller.roster.closed with
  | true => simpa [Controller.memberUp, commissions, closed, Notice.isOfQueue] using .keep
  | false =>
    cases tracked : controller.roster.tracks handle.key with
    | true =>
      simpa [Controller.memberUp, commissions, closed, tracked, Roster.enrol_tracked tracked,
        Notice.isOfQueue] using .keep
    | false =>
      -- Whatever is published, the entrance is scheduled on the same queue.
      have enters (between : Controller Call) (same : between.queue = controller.queue) :=
        same ▸ schedule_outside between (Controller.entrance controller.roster handle)
      have created : commissions controller.roster (.up handle) =
          [Controller.entrance controller.roster handle] := by
        simp [commissions, closed, tracked]
      rw [created]
      unfold Controller.entrance at enters ⊢
      cases founded : controller.roster.founded with
      | true =>
        have joins := enters { controller with roster := (controller.roster.enrol handle).2 } rfl
        simpa [Controller.memberUp, closed, Roster.enrol_new tracked, founded, List.filter_cons,
          Notice.isOfQueue] using joins
      | false =>
        by_cases empty : controller.bulletin.latest.stage = .empty
        · have founds := enters (Controller.publish
            { controller with roster := (controller.roster.enrol handle).2 } .bootstrapping false) rfl
          simpa [Controller.memberUp, closed, Roster.enrol_new tracked, founded, empty,
            List.filter_cons, Notice.isOfQueue] using founds
        · have founds := enters { controller with roster := (controller.roster.enrol handle).2 } rfl
          simpa [Controller.memberUp, closed, Roster.enrol_new tracked, founded, empty,
            List.filter_cons, Notice.isOfQueue] using founds

theorem memberDown_outside (controller : Controller Call) (handle : Handle) :
    Outside controller.queue (commissions controller.roster (.down handle))
      (controller.memberDown handle.key).2.queue
      ((controller.memberDown handle.key).1.filter Notice.isOfQueue) := by
  cases closed : controller.roster.closed with
  | true => simpa [Controller.memberDown, commissions, closed, Notice.isOfQueue] using .keep
  | false =>
    cases dismissed : controller.roster.dismiss? handle.key with
    | none =>
      have absent := Option.map_eq_none_iff.mp dismissed
      simpa [Controller.memberDown, commissions, closed, dismissed, absent, Notice.isOfQueue]
        using .keep
    | some dismissal =>
      obtain ⟨member, wasPrimary, left⟩ := dismissal
      obtain ⟨found, isFound, same⟩ := Option.map_eq_some_iff.mp dismissed
      obtain rfl := (Prod.mk.inj same).1
      have leaves := schedule_outside { controller with roster := left } (.leave found)
      cases wasPrimary <;>
        simpa [Controller.memberDown, commissions, closed, dismissed, isFound, List.filter_cons,
          Notice.isOfQueue] using leaves

theorem primarySignal_quiet {ρ : Type} (controller : Controller ρ) (key : String)
    (isPrimary : Bool) :
    (controller.primarySignal key isPrimary).1.filter Notice.isOfQueue = [] := by
  unfold Controller.primarySignal
  split
  · rfl
  · cases controller.roster.follow key with
    | mk update roster => cases update <;> rfl

theorem endShutdown_quiet {ρ : Type} (controller : Controller ρ) :
    controller.endShutdown.1.filter Notice.isOfQueue = [] := by
  unfold Controller.endShutdown
  dsimp only
  split
  · split <;> rfl
  · rfl

/-- What a deed that is no move of the worker does to the queue, and what is written about it. -/
theorem Step.outside {deed : Deed} (step : Step cluster deed after) (outside : deed ≠ .work) :
    ∃ records, Outside cluster.controller.queue (commissions cluster.controller.roster deed)
        after.controller.queue records ∧
      after.queueRecords = cluster.queueRecords ++ records := by
  have adopts (result : List Notice × Controller Call) (tasks : List Change)
      (does : Outside cluster.controller.queue tasks result.2.queue
        (result.1.filter Notice.isOfQueue)) :
      ∃ records, Outside cluster.controller.queue tasks (cluster.adopt result).controller.queue records ∧
        (cluster.adopt result).queueRecords = cluster.queueRecords ++ records :=
    ⟨_, adopt_controller cluster result ▸ does, queueRecords_adopt cluster result⟩
  have quiet {after : Cluster} (same : after.queueRecords = cluster.queueRecords)
      (does : Outside cluster.controller.queue [] after.controller.queue []) :
      ∃ records, Outside cluster.controller.queue [] after.controller.queue records ∧
        after.queueRecords = cluster.queueRecords ++ records :=
    ⟨[], does, same.trans (List.append_nil _).symm⟩
  cases step with
  | up held handle => exact adopts _ _ (memberUp_outside cluster.controller handle)
  | down held handle => exact adopts _ _ (memberDown_outside cluster.controller handle)
  | signal held handle isPrimary =>
    have queue : (cluster.controller.primarySignal handle.key isPrimary).2.queue =
        cluster.controller.queue := by
      rcases cluster.controller.primarySignal_frame handle.key isPrimary with same | same
      · rw [same]
      · rw [same]
    refine adopts _ [] ?_
    rw [queue, primarySignal_quiet]
    exact .keep
  | peek handle => exact quiet (Only.unread (only_record cluster rfl)) .keep
  | surround | wait => exact quiet rfl .keep
  | beginShutdown => exact quiet rfl (.told .requested)
  | letGo => exact quiet rfl (.told .handleDropped)
  | release =>
    rcases cluster.release_cases with same | ⟨job, call, later, running, same⟩
    · rw [same]
      exact quiet rfl .keep
    · rw [same]
      exact quiet rfl (.goOn running later)
  | resize held desired =>
    have same : (cluster.resize desired).2.queueRecords = cluster.queueRecords :=
      Only.unread (cluster.resize_only desired (fun _ _ => rfl) (fun _ _ => rfl) rfl)
    exact quiet same ((cluster.resize_frame desired).1.symm ▸ .keep)
  | survey =>
    have same : cluster.survey.2.queueRecords = cluster.queueRecords :=
      Only.unread (cluster.survey_only fun _ _ => rfl)
    exact quiet same (cluster.survey_frame.1.symm ▸ .keep)
  | endShutdown =>
    refine adopts cluster.controller.endShutdown [] ?_
    rw [endShutdown_quiet]
    exact .keep
  | work => exact absurd rfl outside
  | interject interjected =>
    obtain ⟨job, call, later, running, rfl⟩ := interjection?_cases interjected
    exact quiet rfl (.goOn running later)

end Cluster

end Simulation

end ReplicaSet
