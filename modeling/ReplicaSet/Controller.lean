import ReplicaSet.Notice
import ReplicaSet.Queue.WakeHeap
import ReplicaSet.Roster
import ReplicaSet.Status

/-!
The controller of a set. It hears from the members that come and go, keeps the roster, and
schedules the changes by which the store's configuration follows the roster. Each operation gives
back the controller after it and the records that it writes to the log.
-/
namespace ReplicaSet

/-- A controller, with the state `ρ` of a request that a change has under way. -/
structure Controller (ρ : Type) where
  /-- The name of the set. -/
  name : String
  roster : Roster
  bulletin : Bulletin
  queue : Queue Queue.WakeHeap Change ρ
  /-- Whether anybody still holds the controller. -/
  held : Bool

/-- What is on view of a controller at any time. -/
structure View where
  members : List Member
  primary : Option Member
  status : Status
deriving DecidableEq, Repr

namespace Controller

variable {ρ : Type}

/-- A controller of an empty set. -/
def create (name : String) (options : Options) : Except CreationError (Controller ρ) :=
  match checkCreation name options with
  | .error fault => .error fault
  | .ok settings => .ok
    { name := name
      roster := {}
      bulletin := .blank
      queue := .create settings
      held := true }

def view (controller : Controller ρ) : View where
  members := controller.roster.members
  primary := controller.roster.primary?
  status := controller.bulletin.latest

def publish (controller : Controller ρ) (stage : Stage) (serviceUp : Bool) : Controller ρ :=
  { controller with bulletin := controller.bulletin.publish stage serviceUp }

/-- Whether anything that could still publish is left: somebody who holds the controller, or a
change that may still be run. -/
def isLive (controller : Controller ρ) : Bool :=
  controller.held || !controller.queue.unfinished.isEmpty

/-! ### Word from the members -/

/-- Puts a change on the queue. If the worker is gone, the change is dropped with a warning. -/
def schedule (controller : Controller ρ) (change : Change) : List Notice × Controller ρ :=
  match controller.queue.submit? change with
  | some queue => ([], { controller with queue := queue })
  | none => ([.changeDropped change], controller)

/-- A member came up. The first one ever founds the set, each later one joins it. -/
def memberUp (controller : Controller ρ) (handle : Handle) : List Notice × Controller ρ :=
  if controller.roster.closed then ([.additionIgnored handle.key], controller)
  else
    let (admission, roster) := controller.roster.enrol handle
    let controller := { controller with roster := roster }
    match admission with
    | .duplicate => ([.additionRepeated handle.key], controller)
    | .founder member =>
      let controller :=
        if controller.bulletin.latest.stage = .empty then controller.publish .bootstrapping false
        else controller
      let (notices, controller) := controller.schedule (.found member)
      (.founderUp member :: notices, controller)
    | .newcomer member =>
      let (notices, controller) := controller.schedule (.join member)
      (.joinScheduled member :: notices, controller)

/-- The member of this key went down. -/
def memberDown (controller : Controller ρ) (key : String) : List Notice × Controller ρ :=
  if controller.roster.closed then ([.removalIgnored key], controller)
  else match controller.roster.dismiss? key with
    | none => ([.removalUnknown key], controller)
    | some (member, wasPrimary, roster) =>
      let controller := { controller with roster := roster }
      let (notices, controller) := controller.schedule (.leave member)
      ((if wasPrimary then [.primaryLost member] else []) ++ .leaveScheduled member :: notices,
        controller)

/-- The member of this key calls itself primary, or says that it is not, which changes nothing. -/
def primarySignal (controller : Controller ρ) (key : String) (isPrimary : Bool) :
    List Notice × Controller ρ :=
  if !isPrimary || controller.roster.closed then ([], controller)
  else
    let (update, roster) := controller.roster.follow key
    match update with
    | .changed => ([.primaryNamed key], { controller with roster := roster })
    | .unchanged => ([], controller)
    | .unknownMember => ([.primaryUnknown key], controller)

/-! ### Runs of changes -/

/-- Why nothing is left to do for a change, if so: another admission of the same key has taken
its place. -/
def outdated? (controller : Controller ρ) : Change → Option Notice
  | .found _ => none
  | .join member => if controller.roster.isCurrent member then none else some (.joinStale member)
  | .leave member => (controller.roster.idOf? member.key).map (.leaveStale member)

/-- The request that a change makes, and the member it is made through: the first member itself
when the set is founded, else the primary. A member has to be available to be added, and must not
be to be removed. Without a request, the record that says what the change waits for. -/
def order (controller : Controller ρ) (available : Bool) :
    Change → Except Notice (Member × Request)
  | .found member => .ok (member, .found controller.name member.id)
  | .join member =>
    match controller.roster.primary?, available with
    | some primary, true => .ok (primary, .add member.key member.id)
    | primary, _ => .error (.joinWaits member available primary)
  | .leave member =>
    match controller.roster.primary?, available with
    | some primary, false => .ok (primary, .remove member.key)
    | primary, _ => .error (.leaveWaits member available primary)

/-- What follows from the answer to the request of a change. Founding is never tried again. The
member it was made through is the primary from then on, if it is still tracked. -/
def answered (controller : Controller ρ) (change : Change) (via : Member) (answer : StoreAnswer) :
    Outcome × List Notice × Controller ρ :=
  match change, answer with
  | .found member, .ok () =>
    let (update, roster) := controller.roster.follow member.key
    (.done, [if update = .unknownMember then .foundedWithout member else .founded member],
      { controller with roster := roster }.publish .stable true)
  | .found member, .error cause =>
    (.done, [.foundingFailed member cause], controller.publish .degraded false)
  | .join member, .ok () => (.done, [.joined member], controller)
  | .join member, .error cause => (.retry, [.joinFailed member via cause], controller)
  | .leave member, .ok () => (.done, [.departed member], controller)
  | .leave member, .error cause => (.retry, [.leaveFailed member via cause], controller)

/-- What a change has to say when it is not tried any more. -/
def lastWord : Change → List Notice
  | .found _ => []
  | .join member => [.joinExhausted member]
  | .leave member => [.leaveExhausted member]

/-- Ends a run of a change. -/
def conclude (controller : Controller ρ) (now : Nat) (job : Job Change) (outcome : Outcome) :
    List Notice × Controller ρ :=
  let (verdict, queue) := controller.queue.conclude now job outcome
  let attempts := job.attempts + 1
  let notices := match verdict with
    | .completed => [.completed job.task attempts]
    | .gaveUp => .gaveUp job.task attempts :: lastWord job.task
    | .putOff => []
  (notices, { controller with queue := queue })

/-- What the worker says when it exits. A crash is not told before somebody waits for the worker. -/
def farewell (exit : Exit Change) (pending : Nat) : List Notice :=
  match exit with
  | .stopped cause inHand => [.workerStopped cause (inHand.map Job.task) pending]
  | .drained => [.workerDrained]
  | .crashed _ _ => []

/-! ### Word from operators -/

/-- The first half of a shutdown: membership is frozen and the worker told to stop. -/
def beginShutdown (controller : Controller ρ) : Controller ρ :=
  { controller with
    roster := controller.roster.close
    queue := controller.queue.tellToStop .requested }

/-- The second half of a shutdown, when the worker has exited. The first shutdown tells if it had
crashed. -/
def endShutdown (controller : Controller ρ) : List Notice × Controller ρ :=
  let crash := match controller.queue.exit? with
    | some (.crashed _ message) =>
      if controller.bulletin.latest.stage = .stopped then [] else [.workerCrashed message]
    | _ => []
  (crash ++ [.stopped], controller.publish .stopped false)

/-- The last holder lets go of the controller. -/
def letGo (controller : Controller ρ) : Controller ρ :=
  { controller with held := false, queue := controller.queue.tellToStop .handleDropped }

end Controller

end ReplicaSet
