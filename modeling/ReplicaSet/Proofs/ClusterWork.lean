import ReplicaSet.Proofs.ClusterMoves

/-!
What a move of a worker can be, and what any deed does to the roster and the queue.
-/
namespace ReplicaSet.Simulation

/-- The answer that is heard when a request ends so, unless it breaks down. -/
def Ending.answer? : Ending → Option StoreAnswer
  | succeeds => some (.ok ())
  | fails cause => some (.error cause)
  | crashes _ => none

/-- What can happen in a deed. Only a worker makes requests, only a request to resize a set reaches
its scaler, and only a shutdown that returns reports a crash. -/
inductive Deed.Brings : Deed → Event → Prop
  | asked {deed : Deed} (handle : Handle) (available : Bool) : Brings deed (.asked handle available)
  | called (via : Handle) (request : Request) : Brings .work (.called via request)
  | scaled (desired : Nat) : Brings (.resize desired) (.scaled desired)
  | noted {deed : Deed} (name : String) (notice : Notice) (calm : notice.crash? = none) :
      Brings deed (.noted name notice)
  | report (name : String) (notice : Notice) : Brings .endShutdown (.noted name notice)

namespace Cluster

variable {cluster after next : Cluster} {job : Job Change}

/-- The question that a run of the change asks first, with its answer and the cluster after it. A
set is founded without a question. -/
inductive Asks (cluster : Cluster) : Change → Bool → Cluster → Prop
  | found {member} : Asks cluster (.found member) true cluster
  | join {member} : Asks cluster (.join member) (cluster.site.look member.handle).available
      (cluster.ask member.handle).2
  | leave {member} : Asks cluster (.leave member) (cluster.site.look member.handle).available
      (cluster.ask member.handle).2

theorem Asks.only {change : Change} {available : Bool}
    (asks : cluster.Asks change available after) {allowed : Event → Prop}
    (asked : ∀ handle available, allowed (.asked handle available)) :
    cluster.Only allowed after := by
  cases asks with
  | found => exact .of_eq rfl
  | join | leave => exact only_record cluster (asked _ _)

theorem Asks.frame {change : Change} {available : Bool}
    (asks : cluster.Asks change available after) :
    after.controller = cluster.controller ∧ after.site = cluster.site ∧ after.now = cluster.now ∧
      cluster.Silent after := by
  have silent : cluster.Silent after := asks.only fun _ _ => rfl
  cases asks with
  | found | join | leave => exact ⟨rfl, rfl, rfl, silent⟩

theorem Asks.answer {change : Change} {available : Bool}
    (asks : cluster.Asks change available after) (question : ∀ founder, change ≠ .found founder) :
    available = (cluster.site.look change.member.handle).available := by
  cases asks with
  | found => exact absurd rfl (question _)
  | join => rfl
  | leave => rfl

/-- How a run of a change begins: nothing is left to do for it, it waits for something, or it makes
its request. -/
inductive Starts (cluster : Cluster) (job : Job Change) : Cluster → Prop
  | outdated {notice} (outdated : cluster.controller.outdated? job.task = some notice) :
      Starts cluster job ((cluster.note notice).conclude job .done)
  | waits {available asked notice} (current : cluster.controller.outdated? job.task = none)
      (asks : cluster.Asks job.task available asked)
      (waits : cluster.controller.order available job.task = .error notice) :
      Starts cluster job ((asked.note notice).conclude job .retry)
  | calls {available asked via request} (current : cluster.controller.outdated? job.task = none)
      (asks : cluster.Asks job.task available asked)
      (ordered : cluster.controller.order available job.task = .ok (via, request)) :
      Starts cluster job (asked.call job via request)

theorem pursue_ordered {available : Bool} {via : Member} {request : Request}
    (ordered : cluster.controller.order available job.task = .ok (via, request)) :
    cluster.pursue job available = cluster.call job via request := by
  simp [pursue, ordered]

theorem pursue_waits {available : Bool} {notice : Notice}
    (waits : cluster.controller.order available job.task = .error notice) :
    cluster.pursue job available = (cluster.note notice).conclude job .retry := by
  simp [pursue, waits]

theorem starts_of_asks {available : Bool} {asked : Cluster}
    (current : cluster.controller.outdated? job.task = none)
    (asks : cluster.Asks job.task available asked) :
    cluster.Starts job (asked.pursue job available) := by
  have same := asks.frame.1
  cases order : cluster.controller.order available job.task with
  | error notice =>
    rw [pursue_waits (same ▸ order)]
    exact .waits current asks order
  | ok ordered =>
    rw [pursue_ordered (same ▸ order)]
    exact .calls current asks order

theorem starts_start (cluster : Cluster) (job : Job Change) :
    cluster.Starts job (cluster.start job) := by
  unfold start
  cases outdated : cluster.controller.outdated? job.task with
  | some notice => exact .outdated outdated
  | none =>
    cases task : job.task with
    | found member =>
      have asks : cluster.Asks job.task true cluster := by rw [task]; exact .found
      exact starts_of_asks outdated asks
    | join member =>
      have asks : cluster.Asks job.task (cluster.site.look member.handle).available
          (cluster.ask member.handle).2 := by rw [task]; exact .join
      exact starts_of_asks outdated asks
    | leave member =>
      have asks : cluster.Asks job.task (cluster.site.look member.handle).available
          (cluster.ask member.handle).2 := by rw [task]; exact .leave
      exact starts_of_asks outdated asks

/-- What a move of the worker can be. -/
theorem work?_cases (worked : cluster.work? = some next) :
    (∃ job call, cluster.controller.queue.phase = .running job call ∧
      cluster.goOn? job call = some next) ∨
    (∃ queue, cluster.controller.queue.turn cluster.now = .move queue ∧
      next = cluster.withQueue queue) ∨
    (∃ job queue, cluster.controller.queue.turn cluster.now = .start job queue ∧
      (cluster.withQueue queue).Starts job next) ∨
    (∃ exit queue, cluster.controller.queue.turn cluster.now = .leave exit queue ∧
      next = (cluster.withQueue queue).leave exit) := by
  unfold work? at worked
  split at worked
  · rename_i job call running
    exact .inl ⟨job, call, running, worked⟩
  · cases turn : cluster.controller.queue.turn cluster.now with
    | rest => simp [turn] at worked
    | move queue =>
      simp only [turn, Option.some.injEq] at worked
      exact .inr (.inl ⟨queue, rfl, worked.symm⟩)
    | start job queue =>
      simp only [turn, Option.some.injEq] at worked
      exact .inr (.inr (.inl ⟨job, queue, rfl, worked ▸ starts_start _ job⟩))
    | leave exit queue =>
      simp only [turn, Option.some.injEq] at worked
      exact .inr (.inr (.inr ⟨exit, queue, rfl, worked.symm⟩))

/-- How a run goes on whose request is under way: an answer is heard, the request breaks down, a
request that still waits is abandoned because of a stop, or it waits no longer for one thing. -/
inductive Goes (cluster : Cluster) (job : Job Change) (call : Call) : Cluster → Prop
  | hears {answer} (waited : call.stage = .answering) (ending : call.ending.answer? = some answer) :
      Goes cluster job call (cluster.answered job call.via answer)
  | crashes {message} (waited : call.stage = .answering) (ending : call.ending = .crashes message) :
      Goes cluster job call (cluster.leave (.crashed job message))
  | stops {cause} (waits : call.stage ≠ .answering)
      (told : cluster.controller.queue.stop = some cause) :
      Goes cluster job call (cluster.leave (.stopped cause (some job)))
  | resumes {stage} (waits : call.stage ≠ .answering)
      (untold : cluster.controller.queue.stop = none)
      (resumed : call.stage.resume? cluster.now = some stage) :
      Goes cluster job call
        (cluster.withQueue (cluster.controller.queue.runOn job { call with stage := stage }))

theorem goes_goOn? {call : Call} (wentOn : cluster.goOn? job call = some next) :
    cluster.Goes job call next := by
  unfold goOn? at wentOn
  split at wentOn
  · rename_i waited
    split at wentOn
    · rename_i ending
      cases wentOn
      exact .hears waited (by rw [ending, Ending.answer?])
    · rename_i cause ending
      cases wentOn
      exact .hears waited (by rw [ending, Ending.answer?])
    · rename_i message ending
      cases wentOn
      exact .crashes waited ending
  · rename_i waits
    split at wentOn
    · rename_i cause told
      cases wentOn
      exact .stops waits told
    · rename_i untold
      obtain ⟨stage, resumed, rfl⟩ := Option.map_eq_some_iff.mp wentOn
      exact .resumes waits untold resumed

theorem goOn?_cases {call : Call} (wentOn : cluster.goOn? job call = some next) :
    (∃ answer, next = cluster.answered job call.via answer) ∨ (∃ exit, next = cluster.leave exit) ∨
    ∃ stage, call.stage.resume? cluster.now = some stage ∧ next =
      cluster.withQueue (cluster.controller.queue.runOn job { call with stage := stage }) := by
  cases goes_goOn? wentOn with
  | hears => exact .inl ⟨_, rfl⟩
  | crashes | stops => exact .inr (.inl ⟨_, rfl⟩)
  | resumes _ _ resumed => exact .inr (.inr ⟨_, resumed, rfl⟩)

/-- What a move of the worker leaves as it is. -/
structure Keeps (cluster next : Cluster) : Prop where
  roster : next.controller.roster = cluster.controller.roster ∨
    ∃ key, next.controller.roster = (cluster.controller.roster.follow key).2
  name : next.controller.name = cluster.controller.name
  held : next.controller.held = cluster.controller.held
  now : next.now = cluster.now

theorem answered_keeps (cluster : Cluster) (job : Job Change) (via : Member)
    (answer : StoreAnswer) : cluster.Keeps (cluster.answered job via answer) := by
  obtain ⟨-, name, held, roster⟩ := cluster.controller.answered_frame job.task via answer
  refine ⟨?_, ?_, ?_, by simp⟩ <;> simp only [answered_controller]
  · exact roster
  · exact name
  · exact held

theorem leave_keeps (cluster : Cluster) (exit : Exit Change) :
    cluster.Keeps (cluster.leave exit) := by
  refine ⟨.inl ?_, ?_, ?_, by simp⟩ <;> simp

theorem call_keeps (cluster : Cluster) (job : Job Change) (via : Member) (request : Request) :
    cluster.Keeps (cluster.call job via request) := by
  unfold call
  split
  · obtain ⟨roster, name, held, now⟩ := answered_keeps { cluster.record (.called via.handle request)
      with site := _ } job via _
    exact ⟨roster, name, held, now⟩
  · exact ⟨.inl rfl, rfl, rfl, rfl⟩

theorem Starts.keeps (starts : cluster.Starts job next) : cluster.Keeps next := by
  cases starts with
  | outdated => refine ⟨.inl ?_, ?_, ?_, ?_⟩ <;> simp [note, record]
  | waits current asks =>
    obtain ⟨controller, -, now, -⟩ := asks.frame
    refine ⟨.inl ?_, ?_, ?_, ?_⟩ <;> simp [note, record, controller, now]
  | @calls available asked via request current asks =>
    obtain ⟨controller, -, now, -⟩ := asks.frame
    obtain ⟨roster, name, held, time⟩ := call_keeps asked job via request
    rw [controller] at roster name held
    exact ⟨roster, name, held, time.trans now⟩

theorem work?_keeps (worked : cluster.work? = some next) : cluster.Keeps next := by
  rcases work?_cases worked with ⟨job, call, -, wentOn⟩ | ⟨queue, -, rfl⟩ |
    ⟨job, queue, -, starts⟩ | ⟨exit, queue, -, rfl⟩
  · rcases goOn?_cases wentOn with ⟨answer, rfl⟩ | ⟨exit, rfl⟩ | ⟨stage, -, rfl⟩
    · exact answered_keeps cluster job _ answer
    · exact leave_keeps cluster exit
    · exact ⟨.inl rfl, rfl, rfl, rfl⟩
  · exact ⟨.inl rfl, rfl, rfl, rfl⟩
  · obtain ⟨roster, name, held, now⟩ := starts.keeps
    exact ⟨roster, name, held, now⟩
  · obtain ⟨roster, name, held, now⟩ := leave_keeps (cluster.withQueue queue) exit
    exact ⟨roster, name, held, now⟩

theorem Starts.only (starts : cluster.Starts job next) : cluster.Only (Deed.Brings .work) next := by
  have noted (before : Cluster) {notice : Notice} (calm : notice.crash? = none) :
      before.Only (Deed.Brings .work) (before.note notice) :=
    only_record before (.noted _ notice calm)
  cases starts with
  | outdated outdated =>
    exact (noted cluster (Controller.outdated?_crash outdated)).trans
      (only_conclude .noted _ job .done)
  | @waits available asked notice current asks waits =>
    exact (asks.only .asked).trans ((noted asked (Controller.order_crash waits)).trans
      (only_conclude .noted _ job .retry))
  | @calls available asked via request current asks ordered =>
    exact (asks.only .asked).trans ((only_record asked (.called via.handle request)).trans
      (only_call .noted asked job via request))

theorem work?_only (worked : cluster.work? = some next) :
    cluster.Only (Deed.Brings .work) next := by
  have frame (queue : Queue Queue.WakeHeap Change Call) :
      cluster.Only (Deed.Brings .work) (cluster.withQueue queue) := .of_eq rfl
  rcases work?_cases worked with ⟨job, call, -, wentOn⟩ | ⟨queue, -, rfl⟩ |
    ⟨job, queue, -, starts⟩ | ⟨exit, queue, -, rfl⟩
  · rcases goOn?_cases wentOn with ⟨answer, rfl⟩ | ⟨exit, rfl⟩ | ⟨stage, -, rfl⟩
    · exact only_answered .noted cluster job _ answer
    · exact only_leave .noted cluster exit
    · exact frame _
  · exact frame queue
  · exact (frame queue).trans starts.only
  · exact (frame queue).trans (only_leave .noted _ exit)

/-- The beginning of a run is its end as well, unless its request takes time. -/
theorem Starts.queue_cases (starts : cluster.Starts job next) :
    (∃ outcome, next.controller.queue =
      (cluster.controller.queue.conclude cluster.now job outcome).2) ∨
    ∃ call, next.controller.queue = cluster.controller.queue.runOn job call := by
  cases starts with
  | outdated => exact .inl ⟨.done, by simp [note, record]⟩
  | waits current asks waits =>
    obtain ⟨controller, -, now, -⟩ := asks.frame
    exact .inl ⟨.retry, by simp [note, record, controller, now]⟩
  | calls current asks ordered =>
    obtain ⟨controller, -, now, -⟩ := asks.frame
    unfold call
    split
    · simp only [answered_controller, record, controller, now]
      exact .inl ⟨_, rfl⟩
    · simp only [withQueue, record, controller]
      exact .inr ⟨_, rfl⟩

theorem Starts.works {queue : Queue Queue.WakeHeap Change Call} (starts : cluster.Starts job next)
    (started : queue.turn cluster.now = .start job cluster.controller.queue) :
    queue.Works cluster.now next.controller.queue := by
  rcases starts.queue_cases with ⟨outcome, ended⟩ | ⟨call, going⟩
  · rw [ended]
    exact .run started outcome
  · rw [going]
    exact .start started call

theorem work?_works (worked : cluster.work? = some next) :
    cluster.controller.queue.Works cluster.now next.controller.queue := by
  rcases work?_cases worked with ⟨job, call, running, wentOn⟩ | ⟨queue, moved, rfl⟩ |
    ⟨job, queue, started, starts⟩ | ⟨exit, queue, left, rfl⟩
  · rcases goOn?_cases wentOn with ⟨answer, rfl⟩ | ⟨exit, rfl⟩ | ⟨stage, -, rfl⟩
    · simp only [answered_controller]
      exact .conclude running _
    · simp only [leave_controller]
      exact .breakOff running exit
    · exact .goOn running _
  · exact .move moved
  · exact starts.works started
  · simp only [leave_controller]
    exact .leave left

/-- What a deed does to the roster and the queue. -/
inductive Shift (now : Nat) (deed : Deed) (roster : Roster)
    (queue : Queue Queue.WakeHeap Change Call) : Roster → Queue Queue.WakeHeap Change Call → Prop
  | keep : Shift now deed roster queue roster queue
  | follow (key : String) : Shift now deed roster queue (roster.follow key).2 queue
  | close (shut : deed = .beginShutdown) :
      Shift now deed roster queue roster.close (queue.tellToStop .requested)
  | letGo : Shift now deed roster queue roster (queue.tellToStop .handleDropped)
  | enrol {handle : Handle} (told : deed = .up handle) (new : roster.tracks handle.key = false) :
      Shift now deed roster queue (roster.enrol handle).2
        ((queue.submit? (Controller.entrance roster handle)).getD queue)
  | dismiss {key : String} {member : Member} {wasPrimary : Bool} {left : Roster}
      (dismissed : roster.dismiss? key = some (member, wasPrimary, left)) :
      Shift now deed roster queue left ((queue.submit? (.leave member)).getD queue)
  /-- The request that is under way is meddled with. -/
  | goOn {job : Job Change} {call : Call} (running : queue.phase = .running job call)
      (later : Call) : Shift now deed roster queue roster (queue.runOn job later)
  | work {worked : Queue Queue.WakeHeap Change Call} {after : Roster} (isWork : deed = .work)
      (works : queue.Works now worked)
      (same : after = roster ∨ ∃ key, after = (roster.follow key).2) :
      Shift now deed roster queue after worked

/-- Whatever a deed does, only what it can bring about happens. -/
theorem Step.only {deed : Deed} (step : Step cluster deed after) :
    cluster.Only deed.Brings after := by
  have adopts {result : List Notice × Controller Call} (calm : Calm result.1) :
      cluster.Only deed.Brings (cluster.adopt result) :=
    only_adopt cluster fun notice told => .noted _ notice (calm notice told)
  cases step with
  | up held handle => exact adopts (Controller.calm_memberUp _ handle)
  | down held handle => exact adopts (Controller.calm_memberDown _ handle.key)
  | signal held handle isPrimary =>
    exact adopts (Controller.calm_primarySignal _ handle.key isPrimary)
  | peek handle => exact only_record cluster (.asked _ _)
  | surround | wait | beginShutdown | letGo => exact .of_eq rfl
  | release =>
    rcases cluster.release_cases with same | ⟨job, call, later, -, same⟩
    · exact .of_eq (by rw [same])
    · exact .of_eq (by rw [same]; rfl)
  | resize held desired =>
    exact cluster.resize_only desired (fun _ _ => .noted _ _ rfl) (fun _ _ => .noted _ _ rfl)
      (.scaled desired)
  | survey => exact cluster.survey_only fun _ _ => .noted _ _ rfl
  | endShutdown => exact only_adopt cluster fun _ _ => .report _ _
  | work worked => exact work?_only worked
  | interject interjected =>
    obtain ⟨job, call, later, -, rfl⟩ := interjection?_cases interjected
    exact .of_eq rfl

/-- Time does not go back. -/
theorem Step.now_le {deed : Deed} (step : Step cluster deed after) : cluster.now ≤ after.now := by
  cases step with
  | up | down | signal | endShutdown => exact (adopt_now _ _).ge
  | peek | surround | beginShutdown | letGo => exact le_rfl
  | release =>
    rcases cluster.release_cases with same | ⟨job, call, later, -, same⟩
    · rw [same]
    · rw [same]
      exact le_rfl
  | resize held desired => exact (cluster.resize_frame desired).2.2.ge
  | survey => exact cluster.survey_frame.2.2.ge
  | wait span => exact Nat.le_add_right _ _
  | work worked => exact (work?_keeps worked).now.ge
  | interject interjected =>
    obtain ⟨job, call, later, -, rfl⟩ := interjection?_cases interjected
    exact le_rfl

/-- What any deed does to the roster and the queue. -/
theorem Step.shift {deed : Deed} (step : Step cluster deed after) :
    Shift cluster.now deed cluster.controller.roster cluster.controller.queue
      after.controller.roster after.controller.queue := by
  cases step with
  | up held handle =>
    simp only [memberUp, adopt_controller]
    rcases cluster.controller.memberUp_cases handle with same | ⟨isOpen, new⟩
    · rw [same]
      exact .keep
    · obtain ⟨roster, queue, -⟩ := Controller.memberUp_new isOpen new
      rw [roster, queue]
      exact .enrol rfl new
  | down held handle =>
    simp only [memberDown, adopt_controller]
    rcases cluster.controller.memberDown_cases handle.key with
      same | ⟨member, wasPrimary, left, dismissed, same⟩
    · rw [same]
      exact .keep
    · rw [same]
      exact .dismiss dismissed
  | signal held handle isPrimary =>
    simp only [primarySignal, adopt_controller]
    rcases cluster.controller.primarySignal_frame handle.key isPrimary with same | same
    · rw [same]
      exact .keep
    · rw [same]
      exact .follow handle.key
  | peek | surround | wait => exact .keep
  | release =>
    rcases cluster.release_cases with same | ⟨job, call, later, running, same⟩
    · rw [same]
      exact .keep
    · rw [same]
      exact .goOn running later
  | resize held desired =>
    rw [(cluster.resize_frame desired).1]
    exact .keep
  | survey =>
    rw [cluster.survey_frame.1]
    exact .keep
  | beginShutdown => exact .close rfl
  | endShutdown =>
    simp only [Cluster.endShutdown, adopt_controller]
    exact .keep
  | letGo => exact .letGo
  | work worked => exact .work rfl (work?_works worked) (work?_keeps worked).roster
  | interject interjected =>
    obtain ⟨job, call, later, running, rfl⟩ := interjection?_cases interjected
    exact .goOn running later

end Cluster

end ReplicaSet.Simulation
