import ReplicaSet.Proofs.QueueHistory

/-!
A queue that is played to a script. What is done next may depend on all that can be seen of the
queue so far, but not on how the delayed jobs are kept. The histories of a queue are what comes of
the scripts (`Session.history_iff`).
-/
namespace ReplicaSet.Queue

variable {δ ε : Type → Type} [DelayLine δ] {τ ρ : Type} {now : Nat}

/-! ### What is done with a queue -/

/-- What becomes of a run that is under way. -/
inductive Sequel (ρ : Type) where
  | goesOn (run : ρ)
  | ends (outcome : Outcome)
  | isStopped (cause : StopCause)
  | crashes (message : String)

/-- What is done with a queue, from outside or by its worker. -/
inductive Act (τ ρ : Type) where
  | submit (task : τ)
  | tell (cause : StopCause)
  | wait (span : Nat)
  /-- The worker takes its turn. If it begins a run of a job, then that run ends at once or is under
  way. -/
  | turn (begun : Job τ → Outcome ⊕ ρ)
  | resume (sequel : Sequel ρ)

/-- A queue at an instant, and what has been told of it. -/
structure Session (δ : Type → Type) (τ ρ : Type) where
  now : Nat
  queue : Queue δ τ ρ
  marks : List (Nat × Mark τ)

/-- The same queue with what is put off in another place. -/
def moveTo (queue : Queue δ τ ρ) (delayed : ε (Job τ)) : Queue ε τ ρ where
  settings := queue.settings
  inbox := queue.inbox
  ready := queue.ready
  delayed := delayed
  phase := queue.phase
  stop := queue.stop
  sealed := queue.sealed

/-- When the worker would wake up by itself, whatever waits for it. -/
abbrev Timer (_ : Type) : Type := Option Nat

namespace Session

def create (settings : Settings) (start : Nat) : Session δ τ ρ where
  now := start
  queue := .create settings
  marks := []

/-- All that can be seen: of what is put off, no more than the timer that is set for it. -/
def seen (session : Session δ τ ρ) : Session Timer τ ρ where
  now := session.now
  queue := session.queue.moveTo (DelayLine.nextWake? session.queue.delayed)
  marks := session.marks

/-- Goes on with the queue at the same instant, and tells the news. -/
def turnTo (session : Session δ τ ρ) (queue : Queue δ τ ρ) (news : List (Mark τ)) :
    Session δ τ ρ where
  now := session.now
  queue := queue
  marks := session.marks ++ news.map fun mark => (session.now, mark)

/-- Ends a run of the job that was taken out of the queue, after what is told before. -/
def conclude (session : Session δ τ ρ) (queue : Queue δ τ ρ) (job : Job τ) (outcome : Outcome)
    (before : List (Mark τ)) : Session δ τ ρ :=
  session.turnTo (queue.conclude session.now job outcome).2
    (before ++ .ended job (queue.conclude session.now job outcome).1 :: queue.inbox.map .received)

def resume (session : Session δ τ ρ) (job : Job τ) : Sequel ρ → Session δ τ ρ
  | .goesOn run => session.turnTo (session.queue.runOn job run) []
  | .ends outcome => session.conclude session.queue job outcome []
  | .isStopped cause =>
    session.turnTo (session.queue.exitWith (.stopped cause (some job)))
      [.left (.stopped cause (some job))]
  | .crashes message =>
    session.turnTo (session.queue.exitWith (.crashed job message)) [.left (.crashed job message)]

/-- What cannot be done changes nothing. -/
def perform (session : Session δ τ ρ) : Act τ ρ → Session δ τ ρ
  | .submit task =>
    match session.queue.submit? task with
    | some queue => session.turnTo queue [.submitted task]
    | none => session
  | .tell cause => { session with queue := session.queue.tellToStop cause }
  | .wait span => { session with now := session.now + span }
  | .turn begun =>
    match session.queue.turn session.now with
    | .rest => session
    | .move queue => session.turnTo queue session.queue.moveMarks
    | .leave exit queue => session.turnTo (queue.exitWith exit) [.left exit]
    | .start job queue =>
      match begun job with
      | .inl outcome => session.conclude queue job outcome [.looked, .started job]
      | .inr run => session.turnTo (queue.runOn job run) [.looked, .started job]
  | .resume sequel =>
    match session.queue.phase with
    | .running job _ => session.resume job sequel
    | _ => session

/-- Plays the script: each line of it says what to do next, in view of all that can be seen. -/
def play (session : Session δ τ ρ) (script : List (Session Timer τ ρ → Act τ ρ)) : Session δ τ ρ :=
  script.foldl (fun session line => session.perform (line session.seen)) session

/-- What was come to by a script, and one more act, is come to by a longer script. -/
theorem play_next {first session : Session δ τ ρ} (played : ∃ script, first.play script = session)
    (act : Act τ ρ) : ∃ script, first.play script = session.perform act := by
  obtain ⟨script, rfl⟩ := played
  exact ⟨script ++ [fun _ => act], by simp [play, List.foldl_append]⟩

end Session

/-! ### Scripts and histories -/

namespace Session

variable {start : Nat} {first : Queue WakeHeap τ ρ} {session : Session WakeHeap τ ρ}

/-- What is told in the session is what has happened to its queue. -/
def Recounts (start : Nat) (first : Queue WakeHeap τ ρ) (session : Session WakeHeap τ ρ) : Prop :=
  Course start first session.marks session.now session.queue

theorem Recounts.perform (recounts : session.Recounts start first) (act : Act τ ρ) :
    (session.perform act).Recounts start first := by
  have work {news : List (Mark τ)} {queue : Queue WakeHeap τ ρ}
      (does : session.queue.Does session.now news queue) :
      (session.turnTo queue news).Recounts start first := Course.work recounts does
  cases act with
  | tell cause => exact Course.tell recounts cause
  | wait span => exact Course.wait recounts span
  | submit task =>
    cases submitted : session.queue.submit? task with
    | none => simpa only [Session.perform, submitted] using recounts
    | some queue =>
      simp only [Session.perform, submitted]
      exact Course.submit recounts submitted
  | resume sequel =>
    cases running : session.queue.phase with
    | running job run =>
      simp only [Session.perform, running]
      cases sequel with
      | goesOn later => exact work (.goOn running later)
      | ends outcome => exact work (.conclude running outcome)
      | isStopped cause => exact work (.breakOff running rfl)
      | crashes message => exact work (.breakOff running rfl)
    | _ => simpa only [Session.perform, running] using recounts
  | turn begun =>
    cases turn : session.queue.turn session.now with
    | rest => simpa only [Session.perform, turn] using recounts
    | leave exit queue =>
      simp only [Session.perform, turn]
      exact work (.leave turn)
    | start job queue =>
      simp only [Session.perform, turn]
      cases begun job with
      | inl outcome => exact work (.run turn outcome)
      | inr run => exact work (.start turn run)
    | move queue =>
      simp only [Session.perform, turn]
      exact work (does_moveMarks turn)

theorem Recounts.play (recounts : session.Recounts start first)
    (script : List (Session Timer τ ρ → Act τ ρ)) : (session.play script).Recounts start first := by
  induction script generalizing session with
  | nil => exact recounts
  | cons line script ih => exact ih (recounts.perform (line session.seen))

theorem recounts_play (settings : Settings) (start : Nat)
    (script : List (Session Timer τ ρ → Act τ ρ)) :
    ((create settings start).play script).Recounts start (Queue.create settings) := by
  have created : (create settings start : Session WakeHeap τ ρ).Recounts start (.create settings) :=
    .rest
  exact created.play script

/-- Whatever the worker does, it does when it is told to do so. -/
theorem perform_of_does (session : Session WakeHeap τ ρ) {news : List (Mark τ)}
    {queue : Queue WakeHeap τ ρ} (does : session.queue.Does session.now news queue) :
    ∃ act, session.perform act = session.turnTo queue news := by
  cases does with
  | park awake _ _ moved => exact ⟨.turn fun _ => .inl .done, by simp only [perform, moved, moveMarks, awake]⟩
  | receive parked submissions moved =>
    exact ⟨.turn fun _ => .inl .done, by simp only [perform, moved, moveMarks, parked, submissions]⟩
  | wake parked moved =>
    exact ⟨.turn fun _ => .inl .done,
      by simp only [perform, moved, moveMarks, parked, inbox_of_wake parked moved]⟩
  | leave left => exact ⟨.turn fun _ => .inl .done, by simp only [perform, left]⟩
  | run started outcome =>
    refine ⟨.turn fun _ => .inl outcome, ?_⟩
    simp only [perform, started]
    rfl
  | start started run => exact ⟨.turn fun _ => .inr run, by simp only [perform, started]⟩
  | goOn running later => exact ⟨.resume (.goesOn later), by simp only [perform, running, resume]⟩
  | conclude running outcome =>
    refine ⟨.resume (.ends outcome), ?_⟩
    simp only [perform, running]
    rfl
  | @breakOff job run running exit inHand =>
    cases exit with
    | drained => cases inHand
    | stopped cause held =>
      obtain rfl : held = some job := inHand
      exact ⟨.resume (.isStopped cause), by simp only [perform, running, resume]⟩
    | crashed held message =>
      obtain rfl : held = job := Option.some.inj inHand
      exact ⟨.resume (.crashes message), by simp only [perform, running, resume]⟩

theorem script_of_course {queue : Queue WakeHeap τ ρ} {marks : List (Nat × Mark τ)}
    (course : Course start first marks now queue) :
    ∃ script, play ⟨start, first, []⟩ script = ⟨now, queue, marks⟩ := by
  induction course with
  | rest => exact ⟨[], rfl⟩
  | @submit marks now queue next task course submitted ih =>
    have more := play_next ih (.submit task)
    simp only [perform, submitted] at more
    exact more
  | tell course cause ih => exact play_next ih (.tell cause)
  | wait course span ih => exact play_next ih (.wait span)
  | @work marks now queue next news course does ih =>
    obtain ⟨act, acts⟩ := perform_of_does ⟨now, queue, marks⟩ does
    have more := play_next ih act
    rw [acts] at more
    exact more

/-- The sessions on the heap are the histories of a queue. -/
theorem history_iff {marks : List (Nat × Mark τ)} {queue : Queue WakeHeap τ ρ} :
    History marks now queue ↔
      ∃ settings start script, (create settings start).play script = ⟨now, queue, marks⟩ := by
  constructor
  · rintro ⟨settings, start, course⟩
    exact ⟨settings, start, script_of_course course⟩
  · rintro ⟨settings, start, script, played⟩
    have recounts := recounts_play settings start script
    rw [played] at recounts
    exact ⟨settings, start, recounts⟩

end Session

end ReplicaSet.Queue
