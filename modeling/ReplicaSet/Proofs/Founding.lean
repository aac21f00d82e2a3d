import ReplicaSet.Proofs.Admissions

/-!
The founding of a set. Its task is the first that is ever handed in and nothing runs before it, so
that the founding request comes before all others and is made once.
-/
namespace ReplicaSet.Simulation.Cluster

variable {cluster after next : Cluster} {first? : Option Handle}

/-! ### The requests of a run -/

theorem found_gone_conclude {queue : Queue Queue.WakeHeap Change Call} {job : Job Change}
    {outcome : Outcome} (now : Nat) (through : outcome = .done ∨ ∀ member, job.task ≠ .found member)
    (gone : ∀ member, .found member ∉ queue.waiting) :
    ∀ member, .found member ∉ (queue.conclude now job outcome).2.waiting := by
  intro member waits
  rcases through with rfl | other
  · exact gone member (Queue.waiting_conclude_done.mem_iff.mp waits)
  · rcases List.mem_cons.mp (Queue.waiting_conclude.subset waits) with same | old
    · exact other member same.symm
    · exact gone member old

theorem answered_through (controller : Controller Call) (change : Change) (via : Member)
    (answer : StoreAnswer) : (controller.answered change via answer).1 = .done ∨
      ∀ member, change ≠ .found member := by
  cases change with
  | found => cases answer <;> exact .inl rfl
  | join => exact .inr (by simp)
  | leave => exact .inr (by simp)

theorem found_gone_answered {job : Job Change} {via : Member} {answer : StoreAnswer}
    (gone : ∀ member, .found member ∉ cluster.controller.queue.waiting) :
    ∀ member, .found member ∉ (cluster.answered job via answer).controller.queue.waiting := by
  rw [answered_controller]
  exact found_gone_conclude _ (answered_through _ _ _ _) gone

theorem found_gone_starts {job : Job Change} (starts : cluster.Starts job next)
    (gone : ∀ member, .found member ∉ cluster.controller.queue.waiting) :
    ∀ member, .found member ∉ next.controller.queue.waiting := by
  cases starts with
  | outdated =>
    rw [conclude_controller]
    exact found_gone_conclude _ (.inl rfl) gone
  | waits current asks waits =>
    have other : ∀ member, job.task ≠ .found member := by
      intro member same
      simp [same, Controller.order] at waits
    rw [conclude_controller]
    refine found_gone_conclude _ (.inr other) ?_
    simpa only [note, record, asks.frame.1] using gone
  | calls current asks ordered =>
    unfold call
    split
    · refine found_gone_answered ?_
      simpa only [record, asks.frame.1] using gone
    · simpa only [withQueue, record, asks.frame.1, Queue.waiting_runOn] using gone

theorem requests_call (cluster : Cluster) (job : Job Change) (via : Member) (request : Request) :
    (cluster.call job via request).requests = cluster.requests ++ [(via.handle, request)] := by
  rw [(silent_call cluster job via request).requests_eq]
  exact readings_record Event.request? cluster _

/-- The beginning of a run makes one request or none. -/
theorem Starts.requests {job : Job Change} (starts : cluster.Starts job next) :
    next.requests = cluster.requests ∨ ∃ available via request,
      cluster.controller.order available job.task = .ok (via, request) ∧
        next.requests = cluster.requests ++ [(via.handle, request)] := by
  cases starts with
  | outdated =>
    exact .inl (Silent.requests_eq ((silent_note cluster _).trans (silent_conclude _ _ _)))
  | waits current asks =>
    exact .inl (Silent.requests_eq
      (asks.frame.2.2.2.trans ((silent_note _ _).trans (silent_conclude _ _ _))))
  | @calls available asked via request current asks ordered =>
    refine .inr ⟨available, via, request, ordered, ?_⟩
    rw [requests_call, asks.frame.2.2.2.requests_eq]

/-! ### The founding task -/

/-- How far the founding of a set has come, when `first?` was admitted first. -/
inductive Founding (first? : Option Handle) (cluster : Cluster) : Prop
  /-- Nobody was admitted. -/
  | ahead (unfounded : cluster.controller.roster.founded = false)
      (nothing : cluster.controller.queue.unfinished = []) (silent : cluster.requests = [])
      (nobody : first? = none)
  /-- The founding task is the first in line. -/
  | lined {first : Handle} (later : List Change) (founded : cluster.controller.roster.founded = true)
      (idle : cluster.controller.queue.phase = .awake ∨ cluster.controller.queue.phase = .parked)
      (undelayed : cluster.controller.queue.delayed.entries = [])
      (line : cluster.controller.queue.ready.map Job.task ++ cluster.controller.queue.inbox =
        .found ⟨0, first⟩ :: later)
      (only : ∀ member, .found member ∉ later) (silent : cluster.requests = [])
      (admitted : first? = some first)
  /-- The worker was gone before it came to the founding task. -/
  | never (founded : cluster.controller.roster.founded = true)
      (ended : cluster.controller.queue.exit?.isSome = true) (silent : cluster.requests = [])
  | made {first : Handle} (later : List (Handle × Request))
      (founded : cluster.controller.roster.founded = true)
      (gone : cluster.controller.queue.exit? = none →
        ∀ member, .found member ∉ cluster.controller.queue.waiting)
      (requests : cluster.requests = (first, .found cluster.controller.name 0) :: later)
      (only : ∀ via setName id, (via, .found setName id) ∉ later) (admitted : first? = some first)

namespace Founding

theorem founded_keeps {before after : Roster}
    (roster : after = before ∨ ∃ key, after = (before.follow key).2)
    (founded : before.founded = true) : after.founded = true := by
  rcases roster with rfl | ⟨key, rfl⟩
  · exact founded
  · rw [(before.follow_frame key).2.2.1]
    exact founded

theorem keep (founding : Founding first? cluster) (silent : cluster.Silent after)
    (founded : after.controller.roster.founded = cluster.controller.roster.founded)
    (name : after.controller.name = cluster.controller.name)
    (phase : after.controller.queue.phase = cluster.controller.queue.phase)
    (ready : after.controller.queue.ready = cluster.controller.queue.ready)
    (delayed : after.controller.queue.delayed = cluster.controller.queue.delayed)
    (inbox : after.controller.queue.inbox = cluster.controller.queue.inbox) :
    Founding first? after := by
  have requests := silent.requests_eq
  have waiting : after.controller.queue.waiting = cluster.controller.queue.waiting := by
    simp only [Queue.waiting, ready, delayed, inbox]
  have exit : after.controller.queue.exit? = cluster.controller.queue.exit? := by
    simp only [Queue.exit?, phase]
  have current : after.controller.queue.current? = cluster.controller.queue.current? := by
    simp only [Queue.current?, phase]
  have unfinished : after.controller.queue.unfinished = cluster.controller.queue.unfinished := by
    simp only [Queue.unfinished, exit, current, ready, delayed, inbox]
  cases founding with
  | ahead unfounded nothing silent nobody =>
    exact .ahead (founded.trans unfounded) (unfinished.trans nothing) (requests.trans silent) nobody
  | lined later isFounded idle undelayed line only silent admitted =>
    refine .lined later (founded.trans isFounded) ?_ ?_ ?_ only (requests.trans silent) admitted
    · rwa [phase]
    · rwa [delayed]
    · rwa [ready, inbox]
  | never isFounded ended silent =>
    exact .never (founded.trans isFounded) (exit ▸ ended) (requests.trans silent)
  | made later isFounded gone made only admitted =>
    refine .made later (founded.trans isFounded) ?_ ?_ only admitted
    · rwa [exit, waiting]
    · rw [requests, made, name]

theorem stay (founding : Founding first? cluster) (silent : cluster.Silent after)
    (same : after.controller = cluster.controller) : Founding first? after :=
  founding.keep silent (by rw [same]) (by rw [same]) (by rw [same]) (by rw [same]) (by rw [same])
    (by rw [same])

theorem goOn (founding : Founding first? cluster) {job : Job Change} {call later : Call}
    (running : cluster.controller.queue.phase = .running job call) :
    Founding first? (cluster.withQueue (cluster.controller.queue.runOn job later)) := by
  cases founding with
  | ahead _ nothing => simp [Queue.unfinished_of_running running] at nothing
  | lined _ _ idle => simp [running] at idle
  | never _ ended => simp [Queue.exit?, running] at ended
  | made later founded gone requests only admitted =>
    exact .made later founded (fun _ => gone (by simp [Queue.exit?, running])) requests only admitted

/-- What is handed in later goes behind the founding task. -/
theorem submit (founding : Founding first? cluster) (change : Change)
    (founded : cluster.controller.roster.founded = true) (other : ∀ member, change ≠ .found member)
    (silent : cluster.Silent after)
    (stays : after.controller.roster.founded = true)
    (name : after.controller.name = cluster.controller.name)
    (offered : after.controller.queue =
      (cluster.controller.queue.submit? change).getD cluster.controller.queue) :
    Founding first? after := by
  cases submitted : cluster.controller.queue.submit? change with
  | none =>
    have same : after.controller.queue = cluster.controller.queue := by
      rw [offered, submitted, Option.getD_none]
    exact founding.keep silent (stays.trans founded.symm) name (by rw [same]) (by rw [same])
      (by rw [same]) (by rw [same])
  | some queue =>
    obtain ⟨alive, rfl⟩ := Queue.submit?_eq_some.mp submitted
    rw [submitted, Option.getD_some] at offered
    have requests := silent.requests_eq
    cases founding with
    | ahead unfounded => simp [unfounded] at founded
    | lined later _ idle undelayed line only silent admitted =>
      refine .lined (later ++ [change]) stays ?_ ?_ ?_ ?_ (requests.trans silent) admitted
      · rwa [offered]
      · rwa [offered]
      · rw [offered]
        simp only [← List.append_assoc, line, List.cons_append]
      · intro member waits
        rcases List.mem_append.mp waits with before | new
        · exact only member before
        · exact other member (List.mem_singleton.mp new).symm
    | never _ ended => simp [alive] at ended
    | made later _ gone made only admitted =>
      refine .made later stays ?_ (by rw [requests, made, name]) only admitted
      intro _ member waits
      rw [offered] at waits
      simp only [Queue.waiting, ← List.append_assoc] at waits
      rcases List.mem_append.mp waits with before | new
      · exact gone alive member before
      · exact other member (List.mem_singleton.mp new).symm

/-- The first task ever handed in is the founding task. -/
theorem line_up {handle : Handle} (nothing : cluster.controller.queue.unfinished = [])
    (quiet : cluster.requests = []) (silent : cluster.Silent after)
    (founded : after.controller.roster.founded = true)
    (offered : after.controller.queue =
      (cluster.controller.queue.submit? (.found ⟨0, handle⟩)).getD cluster.controller.queue) :
    Founding (some handle) after := by
  have requests := silent.requests_eq.trans quiet
  cases submitted : cluster.controller.queue.submit? (.found ⟨0, handle⟩) with
  | none =>
    rw [submitted, Option.getD_none] at offered
    exact .never founded (by rw [offered]; exact Queue.submit?_eq_none.mp submitted) requests
  | some queue =>
    obtain ⟨alive, rfl⟩ := Queue.submit?_eq_some.mp submitted
    rw [submitted, Option.getD_some] at offered
    simp only [Queue.unfinished, alive, Option.isSome_none, Bool.false_eq_true, if_false,
      List.append_eq_nil_iff, List.map_eq_nil_iff, Option.toList_eq_nil_iff,
      Queue.WakeHeap.toList_eq] at nothing
    obtain ⟨⟨⟨current, ready⟩, delayed⟩, inbox⟩ := nothing
    have idle : cluster.controller.queue.phase = .awake ∨
        cluster.controller.queue.phase = .parked := by
      cases phase : cluster.controller.queue.phase with
      | awake => exact .inl rfl
      | parked => exact .inr rfl
      | running => simp [Queue.current?, phase] at current
      | exited => simp [Queue.exit?, phase] at alive
    refine .lined [] founded ?_ ?_ ?_ (by simp) requests rfl
    · rwa [offered]
    · rwa [offered]
    · rw [offered]
      simp [ready, inbox]

theorem goOn? (founding : Founding first? cluster) {job : Job Change} {call : Call}
    (running : cluster.controller.queue.phase = .running job call)
    (wentOn : cluster.goOn? job call = some next) : Founding first? next := by
  cases founding with
  | ahead _ nothing => simp [Queue.unfinished_of_running running] at nothing
  | lined _ _ idle => simp [running] at idle
  | never _ ended => simp [Queue.exit?, running] at ended
  | made later founded gone made only admitted =>
    have alive : cluster.controller.queue.exit? = none := by simp [Queue.exit?, running]
    rcases goOn?_cases wentOn with ⟨answer, rfl⟩ | ⟨exit, rfl⟩ | ⟨stage, -, rfl⟩
    · obtain ⟨roster, name, -, -⟩ := answered_keeps cluster job call.via answer
      refine .made later (founded_keeps roster founded)
        (fun _ => found_gone_answered (gone alive)) ?_ only admitted
      rw [(silent_answered _ _ _ _).requests_eq, made, name]
    · refine .made later ?_ ?_ ?_ only admitted
      · simpa using founded
      · simp [Queue.exitWith, Queue.exit?]
      · simp [(silent_leave cluster exit).requests_eq, made]
    · exact .made later founded (fun _ => gone alive) made only admitted

theorem move {queue : Queue Queue.WakeHeap Change Call} (founding : Founding first? cluster)
    (moved : cluster.controller.queue.turn cluster.now = .move queue) :
    Founding first? (cluster.withQueue queue) := by
  obtain ⟨alive, stays⟩ := Queue.exit?_move moved
  cases founding with
  | ahead unfounded nothing silent nobody =>
    refine .ahead unfounded ?_ silent nobody
    exact (nothing ▸ Queue.unfinished_move moved).eq_nil
  | lined later founded idle undelayed line only silent admitted =>
    rcases Queue.turn_move moved with ⟨-, -, -, rfl⟩ | ⟨-, task, inbox, submissions, rfl⟩ |
      ⟨-, -, rfl⟩
    · refine .lined later founded (.inr rfl) ?_ line only silent admitted
      obtain ⟨due, -, -, contents⟩ :=
        Queue.WakeHeap.takeDue_spec cluster.now cluster.controller.queue.delayed
      rw [undelayed] at contents
      exact (List.append_eq_nil_iff.mp contents.eq_nil).2
    · refine .lined later founded (.inl rfl) undelayed ?_ only silent admitted
      simpa [withQueue, submissions] using line
    · exact .lined later founded (.inl rfl) undelayed line only silent admitted
  | never _ ended => simp [alive] at ended
  | made later founded gone made only admitted =>
    refine .made later founded (fun _ member waits => ?_) made only admitted
    exact gone alive member ((Queue.waiting_move moved).mem_iff.mp waits)

theorem undelayed_start {queue : Queue Queue.WakeHeap Change Call} {job : Job Change}
    {tasks : List Change} (undelayed : cluster.controller.queue.delayed.entries = [])
    (line : cluster.controller.queue.ready.map Job.task ++ cluster.controller.queue.inbox = tasks)
    (started : cluster.controller.queue.turn cluster.now = .start job queue) :
    tasks = job.task :: queue.waiting := by
  obtain ⟨-, -, taken, -⟩ := Queue.turn_start started
  obtain ⟨-, -, -, inbox, delayed⟩ := Queue.start_frame started
  obtain ⟨due, items, -, contents⟩ :=
    Queue.WakeHeap.takeDue_spec cluster.now cluster.controller.queue.delayed
  rw [undelayed] at contents
  obtain ⟨noDue, empty⟩ := List.append_eq_nil_iff.mp contents.eq_nil
  rw [items, noDue, List.map_nil, List.append_nil] at taken
  rw [← line, taken, Queue.waiting, Queue.WakeHeap.toList_eq, delayed, empty, inbox]
  simp

theorem first {queue : Queue Queue.WakeHeap Change Call} {job : Job Change}
    (founding : Founding first? cluster)
    (started : cluster.controller.queue.turn cluster.now = .start job queue) :
    ∀ founder, .found founder ∉ queue.waiting := by
  have contents := Queue.unfinished_start started
  have alive := Queue.exit?_start started
  cases founding with
  | ahead _ nothing =>
    rw [nothing] at contents
    cases contents.symm.eq_nil
  | lined _ _ _ undelayed line only =>
    obtain ⟨-, rest⟩ := List.cons.inj (undelayed_start undelayed line started)
    exact rest ▸ only
  | never _ ended => simp [alive] at ended
  | made _ _ gone =>
    exact fun founder waits => gone alive founder
      ((Queue.waiting_start started).mem_iff.mpr (List.mem_cons_of_mem _ waits))

theorem start {queue : Queue Queue.WakeHeap Change Call} {job : Job Change}
    (founding : Founding first? cluster)
    (started : cluster.controller.queue.turn cluster.now = .start job queue)
    (starts : (cluster.withQueue queue).Starts job next) : Founding first? next := by
  have alive := Queue.exit?_start started
  have gone := founding.first started
  have before : (cluster.withQueue queue).requests = cluster.requests := rfl
  obtain ⟨roster, name, -, -⟩ := starts.keeps
  cases founding with
  | ahead _ nothing =>
    have contents := Queue.unfinished_start started
    rw [nothing] at contents
    cases contents.symm.eq_nil
  | lined later founded idle undelayed line only silent admitted =>
    -- Nothing is delayed, so that the job that starts is the first in line.
    obtain ⟨task, -⟩ := List.cons.inj (undelayed_start undelayed line started)
    refine .made [] (founded_keeps roster founded)
      (fun _ => found_gone_starts starts gone) ?_ (by simp) admitted
    rw [name]
    cases starts with
    | outdated outdated => simp [← task, Controller.outdated?] at outdated
    | waits current asks waits => simp [← task, Controller.order] at waits
    | calls current asks ordered =>
      simp only [← task, Controller.order, Except.ok.injEq, Prod.mk.injEq] at ordered
      obtain ⟨rfl, rfl⟩ := ordered
      rw [requests_call, asks.frame.2.2.2.requests_eq, before, silent]
      rfl
  | never _ ended => simp [alive] at ended
  | made later founded missing made only admitted =>
    have other : ∀ member, job.task ≠ .found member := by
      intro member same
      exact missing alive member
        ((Queue.waiting_start started).mem_iff.mpr (same ▸ List.mem_cons_self))
    rcases starts.requests with same | ⟨available, via, request, ordered, more⟩
    · refine .made later (founded_keeps roster founded)
        (fun _ => found_gone_starts starts gone) ?_ only admitted
      rw [same, before, made, name]
      rfl
    · refine .made (later ++ [(via.handle, request)]) (founded_keeps roster founded)
        (fun _ => found_gone_starts starts gone) ?_ ?_ admitted
      · rw [more, before, made, name]
        rfl
      · intro handle setName id requested
        rcases List.mem_append.mp requested with old | new
        · exact only handle setName id old
        · cases List.mem_singleton.mp new
          exact other via (Controller.order_found ordered).1

theorem leave (founding : Founding first? cluster)
    (queue : Queue Queue.WakeHeap Change Call) (exit : Exit Change) :
    Founding first? ((cluster.withQueue queue).leave exit) := by
  have requests := (silent_leave (cluster.withQueue queue) exit).requests_eq
  have before : (cluster.withQueue queue).requests = cluster.requests := rfl
  have ended : ((cluster.withQueue queue).leave exit).controller.queue.exit?.isSome = true := by
    simp [Queue.exitWith, Queue.exit?]
  have roster : ((cluster.withQueue queue).leave exit).controller.roster =
      cluster.controller.roster := by simp [withQueue]
  rw [before] at requests
  cases founding with
  | ahead unfounded nothing silent nobody =>
    exact .ahead (roster ▸ unfounded) (Queue.unfinished_of_exit ended) (requests.trans silent) nobody
  | lined _ founded idle undelayed line only silent admitted =>
    exact .never (roster ▸ founded) ended (requests.trans silent)
  | never founded _ silent => exact .never (roster ▸ founded) ended (requests.trans silent)
  | made later founded gone made only admitted =>
    refine .made later (roster ▸ founded) ?_ ?_ only admitted
    · simp [Queue.exitWith, Queue.exit?]
    · rw [requests, made]
      simp [withQueue]

theorem work (founding : Founding first? cluster) (worked : cluster.work? = some next) :
    Founding first? next := by
  rcases work?_cases worked with ⟨job, call, running, wentOn⟩ | ⟨queue, moved, rfl⟩ |
    ⟨job, queue, started, starts⟩ | ⟨exit, queue, -, rfl⟩
  · exact founding.goOn? running wentOn
  · exact founding.move moved
  · exact founding.start started starts
  · exact founding.leave queue exit

end Founding

/-! ### The founding of a run -/

theorem Step.silent {deed : Deed} (step : Step cluster deed after) (outside : deed ≠ .work) :
    cluster.Silent after :=
  step.only.mono fun event brings => by
    cases brings with
    | called => exact absurd rfl outside
    | _ => rfl

theorem Shift.closed {now : Nat} {deed : Deed} {roster roster' : Roster}
    {queue queue' : Queue Queue.WakeHeap Change Call}
    (shift : Shift now deed roster queue roster' queue') :
    roster'.closed = roster.closed ∨ deed = .beginShutdown ∧ roster'.closed = true := by
  cases shift with
  | keep | letGo | goOn => exact .inl rfl
  | follow key => exact .inl (roster.follow_frame key).2.2.2
  | close shut => exact .inr ⟨shut, rfl⟩
  | enrol told new => exact .inl (by rw [Roster.enrol_new new])
  | dismiss dismissed => exact .inl (Roster.dismiss?_frame dismissed).2.2.2.2.1
  | work _ works same =>
    rcases same with rfl | ⟨key, rfl⟩
    · exact .inl rfl
    · exact .inl (roster.follow_frame key).2.2.2

/-- Membership is frozen by a shutdown and by nothing else. -/
theorem Step.closed {deed : Deed} (step : Step cluster deed after) :
    after.controller.roster.closed = true ↔
      cluster.controller.roster.closed = true ∨ deed = .beginShutdown := by
  constructor
  · intro closed
    rcases step.shift.closed with same | ⟨shut, -⟩
    · exact .inl (same.symm.trans closed)
    · exact .inr shut
  · rintro (closed | rfl)
    · rcases step.shift.closed with same | ⟨-, isClosed⟩
      · exact same.trans closed
      · exact isClosed
    · cases step
      rfl

theorem Run.closed_iff {deeds : List Deed} (run : Run deeds cluster) :
    cluster.controller.roster.closed = true ↔ .beginShutdown ∈ deeds := by
  induction run with
  | start fresh =>
    obtain ⟨name, settings, same⟩ := fresh.controller_eq
    simp [same]
  | next _ step ih =>
    rw [step.closed, ih, List.mem_append, List.mem_singleton]
    exact or_congr_right eq_comm

/-- An admission that is not the first one, or none at all, leaves the founding task where it is. -/
theorem Founding.memberUp (founding : Founding first? cluster) (handle : Handle)
    (late : cluster.controller.roster.closed = true ∨ cluster.controller.roster.founded = true) :
    Founding first? (cluster.memberUp handle) := by
  have silent : cluster.Silent (cluster.memberUp handle) := silent_adopt cluster _
  have same : (cluster.memberUp handle).controller = (cluster.controller.memberUp handle).2 :=
    adopt_controller _ _
  rcases cluster.controller.memberUp_cases handle with nothing | ⟨isOpen, new⟩
  · exact founding.stay silent (same.trans nothing)
  · have founded : cluster.controller.roster.founded = true := by simpa [isOpen] using late
    obtain ⟨roster, queue, name, -⟩ := Controller.memberUp_new isOpen new
    refine founding.submit (Controller.entrance cluster.controller.roster handle) founded ?_
      silent ?_ ?_ ?_
    · simp [Controller.entrance, founded]
    · rw [same, roster, Roster.enrol_new new]
    · rw [same, name]
    · rw [same, queue]

theorem Founding.memberDown (founding : Founding first? cluster) (handle : Handle)
    (sound : cluster.controller.roster.Sound) : Founding first? (cluster.memberDown handle) := by
  have silent : cluster.Silent (cluster.memberDown handle) := silent_adopt cluster _
  have same : (cluster.memberDown handle).controller =
      (cluster.controller.memberDown handle.key).2 := adopt_controller _ _
  rcases cluster.controller.memberDown_cases handle.key with
    nothing | ⟨member, wasPrimary, left, dismissed, shape⟩
  · exact founding.stay silent (same.trans nothing)
  · obtain ⟨tracked, -, -, founded, -⟩ := Roster.dismiss?_frame dismissed
    have isFounded : cluster.controller.roster.founded = true :=
      sound.founded_iff.mpr (Nat.zero_lt_of_lt (sound.id_lt member tracked))
    rw [shape] at same
    refine founding.submit (.leave member) isFounded (by simp) silent ?_ ?_ ?_
    · rw [same, founded, isFounded]
    · rw [same]
    · rw [same]

/-- The first member that is admitted is the one to be founded on. -/
theorem Founding.welcome (founding : Founding first? cluster)
    (sound : cluster.controller.roster.Sound) (isOpen : cluster.controller.roster.closed = false)
    (nobody : first? = none) (handle : Handle) :
    Founding (some handle) (cluster.memberUp handle) := by
  have silent : cluster.Silent (cluster.memberUp handle) := silent_adopt cluster _
  have same : (cluster.memberUp handle).controller = (cluster.controller.memberUp handle).2 :=
    adopt_controller _ _
  cases founding with
  | ahead unfounded nothing quiet =>
    obtain ⟨nextId, new⟩ := sound.new_of_unfounded unfounded handle.key
    obtain ⟨roster, queue, -⟩ := Controller.memberUp_new isOpen new
    refine .line_up nothing quiet silent ?_ ?_
    · rw [same, roster, Roster.enrol_new new]
    · rw [same, queue, Controller.entrance, unfounded, nextId]
      rfl
  | never founded ended quiet =>
    have before : Founding (some handle) cluster := .never founded ended quiet
    exact before.memberUp handle (.inr founded)
  | lined _ _ _ _ _ _ _ admitted => cases admitted.symm.trans nobody
  | made _ _ _ _ _ admitted => cases admitted.symm.trans nobody

/-- Only the first admission moves the founding of a set on from where nobody was admitted. -/
theorem Step.founding {deed : Deed} (step : Step cluster deed after)
    (founding : Founding first? cluster) (sound : cluster.controller.roster.Sound)
    (late : ∀ handle, deed = .up handle →
      cluster.controller.roster.closed = true ∨ cluster.controller.roster.founded = true) :
    Founding first? after := by
  have silent := step.silent
  cases step with
  | up held handle => exact founding.memberUp handle (late handle rfl)
  | down held handle => exact founding.memberDown handle sound
  | signal held handle isPrimary =>
    have same : (cluster.primarySignal handle isPrimary).controller =
        (cluster.controller.primarySignal handle.key isPrimary).2 := adopt_controller _ _
    rcases cluster.controller.primarySignal_frame handle.key isPrimary with frame | frame
    · exact founding.stay (silent (by simp)) (same.trans frame)
    · rw [frame] at same
      have founded : (cluster.primarySignal handle isPrimary).controller.roster.founded =
          cluster.controller.roster.founded := by
        rw [same]
        exact (Roster.follow_frame _ _).2.2.1
      exact founding.keep (silent (by simp)) founded (by rw [same]) (by rw [same])
        (by rw [same]) (by rw [same]) (by rw [same])
  | peek | surround | wait | beginShutdown | letGo =>
    exact founding.keep (silent (by simp)) rfl rfl rfl rfl rfl rfl
  | release =>
    rcases cluster.release_cases with same | ⟨job, call, later, running, same⟩
    · exact same.symm ▸ founding
    · exact same.symm ▸ founding.goOn running
  | resize held desired =>
    exact founding.stay (silent (by simp)) (cluster.resize_frame desired).1
  | survey => exact founding.stay (silent (by simp)) cluster.survey_frame.1
  | endShutdown =>
    refine founding.keep (silent (by simp)) ?_ ?_ ?_ ?_ ?_ ?_ <;>
      simp [Cluster.endShutdown, Controller.endShutdown, Controller.publish]
  | work worked => exact founding.work worked
  | interject interjected =>
    obtain ⟨job, call, later, running, rfl⟩ := interjection?_cases interjected
    exact founding.goOn running

theorem Run.founding {deeds : List Deed} (run : Run deeds cluster) :
    Founding (firstAdmitted? deeds) cluster := by
  induction run with
  | start fresh =>
    obtain ⟨name, settings, same⟩ := fresh.controller_eq
    refine .ahead ?_ ?_ ?_ rfl
    · rw [same]
    · rw [same]
      rfl
    · exact fresh.readings _
  -- Who was admitted first changes only as long as nobody was and no shutdown was begun.
  | @next deeds cluster deed after run step ih =>
    have sound := run.accounted.sound
    cases admitted : firstAdmitted? deeds with
    | some first =>
      have founded : cluster.controller.roster.founded = true := by
        cases ih with
        | ahead _ _ _ nobody => cases admitted.symm.trans nobody
        | lined _ founded => exact founded
        | never founded => exact founded
        | made _ founded => exact founded
      rw [firstAdmitted?_append_of_some admitted, ← admitted]
      exact step.founding ih sound fun _ _ => .inr founded
    | none =>
      by_cases shut : .beginShutdown ∈ deeds
      · rw [firstAdmitted?_append_of_shut admitted shut, ← admitted]
        exact step.founding ih sound fun _ _ => .inl (run.closed_iff.mpr shut)
      · rw [firstAdmitted?_append_of_open admitted shut]
        by_cases entry : ∃ handle, deed = .up handle
        · obtain ⟨handle, rfl⟩ := entry
          have isOpen : cluster.controller.roster.closed = false :=
            Bool.eq_false_iff.mpr fun closed => shut (run.closed_iff.mp closed)
          cases step with
          | up held => exact ih.welcome sound isOpen admitted handle
        · rw [firstAdmitted?_single fun handle same => entry ⟨handle, same⟩, ← admitted]
          exact step.founding ih sound fun handle same => absurd ⟨handle, same⟩ entry

end ReplicaSet.Simulation.Cluster
