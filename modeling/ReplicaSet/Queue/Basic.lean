import ReplicaSet.Queue.DelayLine
import ReplicaSet.Settings

/-!
A queue of tasks with one worker. The worker runs one task at a time. A task that does not get
done is put off and run again, up to a bound, and holds up no other task in the meantime.

The worker looks for what is due (`awake`), runs a task (`running`), or has nothing to run and
waits for a stop, a submission or the end of a delay (`parked`). The functions here are the single
moves between these phases; what a run does and how long it takes is up to the caller, who keeps
the state of the current run in the type `ρ`.
-/
namespace ReplicaSet

/-- A task that was received, and how often it ran. -/
structure Job (τ : Type) where
  task : τ
  attempts : Nat
deriving DecidableEq, Repr

/-- How a run of a task ends. -/
inductive Outcome where
  | done
  /-- The task has to run again. -/
  | retry
deriving DecidableEq, Repr

/-- Why a worker was told to stop. -/
inductive StopCause where
  | requested
  /-- The owner of the queue went away. -/
  | handleDropped
deriving DecidableEq, Repr

def StopCause.describe : StopCause → String
  | .requested => "Requested"
  | .handleDropped => "HandleDropped"

/-- How a worker came to its end. -/
inductive Exit (τ : Type) where
  /-- It was told to stop, with this job in hand. -/
  | stopped (cause : StopCause) (inHand : Option (Job τ))
  /-- Nothing was left to do, and nothing could be submitted any more. -/
  | drained
  /-- A run of this job broke down and took the worker with it. -/
  | crashed (job : Job τ) (message : String)
deriving DecidableEq, Repr

/-- What the worker is at. -/
inductive Phase (τ ρ : Type) where
  | awake
  | parked
  | running (job : Job τ) (run : ρ)
  | exited (exit : Exit τ)
deriving Repr

/-- A queue whose delayed jobs are kept in `δ`. A queue whose worker has exited keeps what it
abandoned, and nothing of it is ever run. -/
structure Queue (δ : Type → Type) (τ ρ : Type) where
  settings : Settings
  /-- What was submitted and not yet received, oldest first. -/
  inbox : List τ
  /-- What can be run, in the order in which it will be. -/
  ready : List (Job τ)
  /-- What waits to be run again. -/
  delayed : δ (Job τ)
  phase : Phase τ ρ
  /-- Why the worker is to stop, once it is. -/
  stop : Option StopCause
  /-- Whether the worker knows that nothing can be submitted any more. -/
  sealed : Bool

namespace Queue

/-- What the worker does when it is its turn. -/
inductive Turn (δ : Type → Type) (τ ρ : Type) where
  /-- Nothing can be done for now, or the current run has to go on first. -/
  | rest
  | move (queue : Queue δ τ ρ)
  /-- The job is taken out of the queue to be run. -/
  | start (job : Job τ) (queue : Queue δ τ ρ)
  /-- It is time to exit. -/
  | leave (exit : Exit τ) (queue : Queue δ τ ρ)

/-- What becomes of a job after a run. -/
inductive Verdict where
  | completed
  /-- It has run as often as it may. -/
  | gaveUp
  | putOff
deriving DecidableEq, Repr

variable {δ : Type → Type} {τ ρ : Type}

/-- A queue whose worker has not looked at anything yet. -/
def create [DelayLine δ] (settings : Settings) : Queue δ τ ρ where
  settings := settings
  inbox := []
  ready := []
  delayed := DelayLine.empty
  phase := .awake
  stop := none
  sealed := false

def exit? (queue : Queue δ τ ρ) : Option (Exit τ) :=
  match queue.phase with
  | .exited exit => some exit
  | _ => none

/-- Whether the worker waits for something to do. -/
def isParked (queue : Queue δ τ ρ) : Bool :=
  match queue.phase with
  | .parked => true
  | _ => false

/-- The job that is being run. -/
def current? (queue : Queue δ τ ρ) : Option (Job τ) :=
  match queue.phase with
  | .running job _ => some job
  | _ => none

/-- How many jobs the worker holds apart from one in hand. What it has not received is not
counted. -/
def pending [DelayLine δ] (queue : Queue δ τ ρ) : Nat :=
  queue.ready.length + (DelayLine.toList queue.delayed).length

/-- The tasks that may still be run. When the worker has exited there are none. -/
def unfinished [DelayLine δ] (queue : Queue δ τ ρ) : List τ :=
  if queue.exit?.isSome then []
  else queue.current?.toList.map Job.task ++ queue.ready.map Job.task ++
    (DelayLine.toList queue.delayed).map Job.task ++ queue.inbox

/-! ### From outside -/

/-- Hands in a task, unless the worker has exited. -/
def submit? (queue : Queue δ τ ρ) (task : τ) : Option (Queue δ τ ρ) :=
  if queue.exit?.isSome then none else some { queue with inbox := queue.inbox ++ [task] }

/-- Tells the worker to stop. It is told once: a later cause does not replace an earlier one. -/
def tellToStop (queue : Queue δ τ ρ) (cause : StopCause) : Queue δ τ ρ :=
  { queue with stop := queue.stop.or (some cause) }

/-! ### The worker -/

/-- Ends the worker. -/
def exitWith (queue : Queue δ τ ρ) (exit : Exit τ) : Queue δ τ ρ :=
  { queue with phase := .exited exit }

/-- Makes the jobs ready whose delay is over, in the order in which they were put off, and takes
the first ready job. A stop comes before any run. -/
def lookAround [DelayLine δ] (now : Nat) (queue : Queue δ τ ρ) : Turn δ τ ρ :=
  let (due, delayed) := DelayLine.takeDue now queue.delayed
  match queue.ready ++ due with
  | job :: ready =>
    let queue := { queue with ready := ready, delayed := delayed }
    match queue.stop with
    | some cause => .leave (.stopped cause (some job)) queue
    | none => .start job queue
  | [] =>
    let queue := { queue with delayed := delayed }
    if queue.sealed && (DelayLine.nextWake? delayed).isNone then .leave .drained queue
    else .move { queue with phase := .parked }

/-- Waits until something is to be done: first of all a stop, then a submission, of which one is
received, then a delay that is over. -/
def waitAround [DelayLine δ] (now : Nat) (queue : Queue δ τ ρ) : Turn δ τ ρ :=
  match queue.stop with
  | some cause => .leave (.stopped cause none) queue
  | none =>
    match queue.inbox with
    | task :: inbox =>
      .move { queue with inbox := inbox, ready := queue.ready ++ [⟨task, 0⟩], phase := .awake }
    | [] =>
      if (DelayLine.nextWake? queue.delayed).any (· ≤ now) then .move { queue with phase := .awake }
      else .rest

/-- The next move of the worker. -/
def turn [DelayLine δ] (now : Nat) (queue : Queue δ τ ρ) : Turn δ τ ρ :=
  match queue.phase with
  | .awake => queue.lookAround now
  | .parked => queue.waitAround now
  | .running _ _ => .rest
  | .exited _ => .rest

/-- Runs a job, or goes on running it. -/
def runOn (queue : Queue δ τ ρ) (job : Job τ) (run : ρ) : Queue δ τ ρ :=
  { queue with phase := .running job run }

/-- Receives all that was submitted. A worker that finds that the owner is gone knows that nothing
more will come. -/
def receive (queue : Queue δ τ ρ) : Queue δ τ ρ :=
  { queue with
    inbox := []
    ready := queue.ready ++ queue.inbox.map fun task => ⟨task, 0⟩
    sealed := queue.sealed || queue.stop = some .handleDropped }

/-- Whether a job that ran so often is not run again. -/
def isSpent (queue : Queue δ τ ρ) (attempts : Nat) : Bool :=
  queue.settings.maxAttempts.any (· ≤ attempts)

/-- Ends a run of the job. If it has to run again and may, it is put off by the retry delay. Then
the worker receives what was submitted in the meantime, behind what is ready already. -/
def conclude [DelayLine δ] (now : Nat) (job : Job τ) (outcome : Outcome) (queue : Queue δ τ ρ) :
    Verdict × Queue δ τ ρ :=
  let queue := { queue with phase := .awake }
  match outcome with
  | .done => (.completed, queue.receive)
  | .retry =>
    let job : Job τ := ⟨job.task, job.attempts + 1⟩
    if queue.isSpent job.attempts then (.gaveUp, queue.receive)
    else
      (.putOff,
        receive { queue with
          delayed := DelayLine.putOff (now + queue.settings.retryDelay) job queue.delayed })

end Queue

end ReplicaSet
