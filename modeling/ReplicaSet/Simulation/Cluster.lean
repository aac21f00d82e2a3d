import ReplicaSet.Controller
import ReplicaSet.Endpoints
import ReplicaSet.Simulation.Call
import ReplicaSet.Simulation.Event
import ReplicaSet.Simulation.Site
import ReplicaSet.Surplus

/-!
One controller in its surroundings. Whatever it does leaves a trace. `Cluster.work?` is the single
move of its worker, from one point at which something may happen outside to the next.
-/
namespace ReplicaSet.Simulation

structure Cluster where
  now : Nat
  controller : Controller Call
  site : Site
  /-- What happened so far, newest first. -/
  trace : List Entry

/-- What can be found out about a set at one time. -/
structure Survey where
  name : String
  members : List Member
  /-- The members that call themselves secondary. -/
  secondaries : List Member
  surplus : Except SurplusFault (Option Member)
  endpoints : List String
  primaryEndpoint : Option String

namespace Cluster

/-! ### The trace -/

def record (cluster : Cluster) (event : Event) : Cluster :=
  { cluster with trace := ⟨cluster.now, event⟩ :: cluster.trace }

def note (cluster : Cluster) (notice : Notice) : Cluster :=
  cluster.record (.noted cluster.controller.name notice)

def noteAll (cluster : Cluster) (notices : List Notice) : Cluster :=
  notices.foldl note cluster

/-- Goes on with the controller after an operation, and writes down what it reports. -/
def adopt (cluster : Cluster) (result : List Notice × Controller Call) : Cluster :=
  { cluster with controller := result.2 }.noteAll result.1

def withQueue (cluster : Cluster) (queue : Queue Queue.WakeHeap Change Call) : Cluster :=
  { cluster with controller := { cluster.controller with queue := queue } }

/-! ### Word from outside -/

def memberUp (cluster : Cluster) (handle : Handle) : Cluster :=
  cluster.adopt (cluster.controller.memberUp handle)

def memberDown (cluster : Cluster) (handle : Handle) : Cluster :=
  cluster.adopt (cluster.controller.memberDown handle.key)

def primarySignal (cluster : Cluster) (handle : Handle) (isPrimary : Bool) : Cluster :=
  cluster.adopt (cluster.controller.primarySignal handle.key isPrimary)

/-- Asks the scaler for a size, if it is one that a set can have. -/
def resize (cluster : Cluster) (desired : Nat) : Except ResizeError Nat × Cluster :=
  let current := cluster.site.scaler.size
  match refusal? desired current with
  | some refusal => (.error refusal, cluster.note (.resizeRefused refusal))
  | none =>
    let cluster := (cluster.note (.resizing current desired)).record (.scaled desired)
    let (answer, scaler) := cluster.site.scaler.resize desired
    (answer.mapError .scaler, { cluster with site := { cluster.site with scaler := scaler } })

/-- Looks at all members, in the order in which they are tracked. -/
def faces (cluster : Cluster) : List Face :=
  cluster.controller.roster.members.map fun member => cluster.site.look member.handle

/-- Finds out what can be found out. A disagreement about the primary is written down. -/
def survey (cluster : Cluster) : Survey × Cluster :=
  let members := cluster.controller.roster.members
  let look := cluster.site.look
  ({ name := cluster.controller.name
     members := members
     secondaries := members.filter fun member => (look member.handle).role = .secondary
     surplus := surplus? look members
     endpoints := Endpoints.reachable cluster.faces
     primaryEndpoint := Endpoints.primary? cluster.faces },
    cluster.noteAll ((Endpoints.disagreement? cluster.faces).toList.map .primariesDisagree))

/-- Whether a request waits at its gate. -/
def isAtGate (cluster : Cluster) : Bool :=
  match cluster.controller.queue.phase with
  | .running _ call => call.stage = .atGate false
  | _ => false

/-- Opens the gate at which a request waits, if one does. -/
def release (cluster : Cluster) : Cluster :=
  match cluster.controller.queue.phase with
  | .running job call =>
    cluster.withQueue
      (cluster.controller.queue.runOn job { call with stage := call.stage.release })
  | _ => cluster

def beginShutdown (cluster : Cluster) : Cluster :=
  { cluster with controller := cluster.controller.beginShutdown }

def endShutdown (cluster : Cluster) : Cluster :=
  cluster.adopt cluster.controller.endShutdown

def letGo (cluster : Cluster) : Cluster :=
  { cluster with controller := cluster.controller.letGo }

/-! ### The worker -/

/-- Asks a member whether it is available. -/
def ask (cluster : Cluster) (handle : Handle) : Bool × Cluster :=
  let available := (cluster.site.look handle).available
  (available, cluster.record (.asked handle available))

/-- Ends a run of a change. -/
def conclude (cluster : Cluster) (job : Job Change) (outcome : Outcome) : Cluster :=
  cluster.adopt (cluster.controller.conclude cluster.now job outcome)

/-- Draws the consequences of the answer to the request of a change, and ends its run. -/
def answered (cluster : Cluster) (job : Job Change) (via : Member) (answer : StoreAnswer) :
    Cluster :=
  let (outcome, result) := cluster.controller.answered job.task via answer
  (cluster.adopt result).conclude job outcome

/-- Makes the request of a change. A node answers at once, a stand-in as it is told to. -/
def call (cluster : Cluster) (job : Job Change) (via : Member) (request : Request) : Cluster :=
  let cluster := cluster.record (.called via.handle request)
  match via.handle.origin with
  | .node =>
    let (answer, store) := cluster.site.store.serve via.key request
    { cluster with site := { cluster.site with store := store } }.answered job via answer
  | .standIn _ =>
    let (behaviour, site) := cluster.site.takeBehaviour
    { cluster with site := site }.withQueue
      (cluster.controller.queue.runOn job (.enter cluster.now via request behaviour))

/-- Makes the request of a change if it can be made now. -/
def pursue (cluster : Cluster) (job : Job Change) (available : Bool) : Cluster :=
  match cluster.controller.order available job.task with
  | .ok (via, request) => cluster.call job via request
  | .error notice => (cluster.note notice).conclude job .retry

/-- Begins a run of a change. A member is asked whether it is available before it joins or leaves,
not before the set is founded on it. -/
def start (cluster : Cluster) (job : Job Change) : Cluster :=
  match cluster.controller.outdated? job.task with
  | some notice => (cluster.note notice).conclude job .done
  | none =>
    match job.task with
    | .found _ => cluster.pursue job true
    | .join member | .leave member =>
      let (available, cluster) := cluster.ask member.handle
      cluster.pursue job available

/-- Ends the worker. -/
def leave (cluster : Cluster) (exit : Exit Change) : Cluster :=
  (cluster.withQueue (cluster.controller.queue.exitWith exit)).noteAll
    (Controller.farewell exit cluster.controller.queue.pending)

/-- Goes on with a run whose request is under way. While the request waits, a stop comes before
anything else; when it waits no more, it comes to its end first. -/
def goOn? (cluster : Cluster) (job : Job Change) (call : Call) : Option Cluster :=
  match call.stage with
  | .answering =>
    match call.ending with
    | .succeeds => some (cluster.answered job call.via (.ok ()))
    | .fails cause => some (cluster.answered job call.via (.error cause))
    | .crashes message => some (cluster.leave (.crashed job message))
  | stage =>
    match cluster.controller.queue.stop with
    | some cause => some (cluster.leave (.stopped cause (some job)))
    | none =>
      (stage.resume? cluster.now).map fun stage =>
        cluster.withQueue (cluster.controller.queue.runOn job { call with stage := stage })

/-- Whether the worker waits for the end of a sleep alone. -/
def isAsleep (cluster : Cluster) : Bool :=
  match cluster.controller.queue.phase with
  | .running _ call => call.stage.isSleep && cluster.controller.queue.stop.isNone
  | _ => false

/-- The next move of the worker, if there is anything that it can do at this instant. -/
def work? (cluster : Cluster) : Option Cluster :=
  match cluster.controller.queue.phase with
  | .running job call => cluster.goOn? job call
  | _ =>
    match cluster.controller.queue.turn cluster.now with
    | .rest => none
    | .move queue => some (cluster.withQueue queue)
    | .start job queue => some ((cluster.withQueue queue).start job)
    | .leave exit queue => some ((cluster.withQueue queue).leave exit)

/-- What a stand-in does of its own accord before it answers, and the cluster in which that is
taken care of. -/
def interjection? (cluster : Cluster) : Option (List Action × Cluster) :=
  match cluster.controller.queue.phase with
  | .running job call =>
    match call.stage, call.during with
    | .answering, action :: rest =>
      some (action :: rest,
        cluster.withQueue (cluster.controller.queue.runOn job { call with during := [] }))
    | _, _ => none
  | _ => none

/-- When the timer fires that the worker waits for, if it waits for one. -/
def alarm? (cluster : Cluster) : Option Nat :=
  match cluster.controller.queue.phase with
  | .running _ call => call.stage.alarm?
  | .parked => (Queue.DelayLine.nextWake? cluster.controller.queue.delayed).map Time.tick
  | _ => none

end Cluster

end ReplicaSet.Simulation
