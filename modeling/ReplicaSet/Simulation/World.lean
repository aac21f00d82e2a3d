import ReplicaSet.Simulation.Clockwork
import ReplicaSet.Simulation.Cluster
import ReplicaSet.Simulation.Line

/-!
A world in which scripts are played: one controller after the other in the same surroundings, and
labels for members and for readers of the status. Workers go by the positions of their controllers.
-/
namespace ReplicaSet.Simulation

/-- A reader of the bulletin of one of the controllers. -/
structure Reader where
  controller : Nat
  listener : Listener
deriving DecidableEq, Repr

structure World where
  now : Nat := 0
  /-- Up to when timers have fired. When time has passed they catch up once no worker is due for a
  turn. -/
  timersAt : Nat := 0
  site : Site
  trace : List Entry := []
  /-- All controllers that were ever created. -/
  controllers : List (Controller Call)
  /-- The position of the controller that is held, if one is. -/
  active : Option Nat
  /-- The workers that are due for a turn. -/
  line : Line
  /-- Members by label, the latest label first. -/
  handles : List (String × Handle) := []
  /-- Readers by label, the latest label first. -/
  readers : List (String × Reader) := []

/-- What a step comes to. -/
inductive Answer where
  | nothing
  | noController
  /-- The step names something that does not exist. -/
  | unknown
  | face (key : String) (face : Face)
  | resized (result : Except ResizeError Nat)
  | survey (survey : Survey)
  | surplus (result : Except SurplusFault Member)
  | refused (fault : CreationError)
  | status (status : Status)
  | news (news : News)
  | served (answer : StoreAnswer)

namespace World

/-- A world with one new controller in it. -/
def create (name : String) (options : Options) (scaler : Scaler) : Except CreationError World :=
  match Controller.create name options with
  | .error fault => .error fault
  | .ok controller => .ok
    { site := { scaler := scaler }
      controllers := [controller]
      active := some 0
      line := { waiting := [0] } }

def handle? (world : World) (label : String) : Option Handle :=
  world.handles.lookup label

def reader? (world : World) (label : String) : Option Reader :=
  world.readers.lookup label

/-- The controller at the position, in the surroundings that it shares with the others. -/
def cluster? (world : World) (position : Nat) : Option Cluster :=
  world.controllers[position]?.map fun controller =>
    { now := world.now, controller := controller, site := world.site, trace := world.trace }

/-- The world after what happened around the controller at the position. -/
def install (world : World) (position : Nat) (cluster : Cluster) : World :=
  { world with
    controllers := world.controllers.set position cluster.controller
    site := cluster.site
    trace := cluster.trace }

/-- The controller that is held, if one is. -/
def controller? (world : World) : Option (Controller Call) :=
  world.active.bind fun position => world.controllers[position]?

/-- The positions of all controllers. -/
def positions (world : World) : List Nat :=
  List.range world.controllers.length

def view? (world : World) : Option View :=
  world.controller?.map Controller.view

/-- What an observer saw since the world was as it was `before`, oldest first. -/
def news (world before : World) : List Entry :=
  ((world.trace.take (world.trace.length - before.trace.length)).filter fun entry =>
    entry.event.isVisible).reverse

/-! ### Actions -/

/-- Does something with the controller that is held. -/
def withActive (world : World) (act : Cluster → Answer × Cluster) : Answer × World :=
  match world.active with
  | none => (.noController, world)
  | some position =>
    match world.cluster? position with
    | none => (.noController, world)
    | some cluster =>
      let (answer, cluster) := act cluster
      (answer, world.install position cluster)

/-- Gives a member a label. -/
def introduce (world : World) (label : String) (handle : Handle) : World :=
  { world with handles := (label, handle) :: world.handles }

/-- Does something with the member of that label. -/
def withHandle (world : World) (label : String) (act : Handle → Answer × World) : Answer × World :=
  match world.handle? label with
  | none => (.unknown, world)
  | some handle => act handle

/-- How many changes lie with the controller that is held which its worker has not received. -/
def submissions (world : World) : Nat :=
  (world.controller?.map fun controller => controller.queue.inbox.length).getD 0

/-- Calls the worker at the position to a turn. -/
def call (world : World) (position : Nat) : World :=
  { world with line := world.line.call position }

/-- Calls the worker of the controller that is held to a turn. -/
def callActive (world : World) : World :=
  world.active.elim world world.call

/-- Lets the worker of the controller that is held know that something was submitted. -/
def announce (world : World) : World :=
  world.active.elim world fun position => { world with line := world.line.announce position }

/-- Tells the controller that is held about the member of that label. It may submit a change. -/
def tell (world : World) (label : String) (word : Cluster → Handle → Cluster) : Answer × World :=
  world.withHandle label fun handle =>
    let (answer, told) := world.withActive fun cluster => (.nothing, word cluster handle)
    (answer, if world.submissions < told.submissions then told.announce else told)

/-- Opens the gate at which a request of the controller at the position waits, if one does. Its
worker can go on then. -/
def releaseAt (world : World) (position : Nat) : World :=
  match world.cluster? position with
  | none => world
  | some cluster =>
    if cluster.isAtGate then (world.install position cluster.release).call position else world

/-- The controller that is held is let go of. Its worker has to notice that it is not needed any
more. -/
def letGo (world : World) : World :=
  let (_, released) := world.callActive.withActive fun cluster => (.nothing, cluster.letGo)
  { released with active := none }

/-- Creates a controller in place of the one that is held. It is there before the other one is let
go of, so that its worker comes first unless the other one is due for a turn already. -/
def restart (world : World) (name : String) (options : Options) : Answer × World :=
  match Controller.create name options with
  | .error fault => (.refused fault, world)
  | .ok controller =>
    let position := world.controllers.length
    let world := { world with controllers := world.controllers ++ [controller] }
    (.nothing, { (world.call position).letGo with active := some position })

/-- Makes a request of the store through a node. -/
def request (world : World) (via : String) (request : DirectRequest) : Answer × World :=
  let resolved := match request with
    | .found setName id => some (Request.found setName id)
    | .add label id => (world.handle? label).map fun handle => .add handle.key id
    | .remove label => (world.handle? label).map fun handle => .remove handle.key
  match world.handle? via, resolved with
  | some ⟨key, .node⟩, some request =>
    let (answer, store) := world.site.store.serve key request
    (.served answer, { world with site := { world.site with store := store } })
  | _, _ => (.unknown, world)

/-- Adds a reader under a label. -/
def addReader (world : World) (label : String) (reader : Reader) : World :=
  { world with readers := (label, reader) :: world.readers }

/-- Does something with the reader of that label and the controller that it listens to. -/
def withReader (world : World) (label : String)
    (act : Reader → Controller Call → Answer × World) : Answer × World :=
  match world.reader? label with
  | none => (.unknown, world)
  | some reader =>
    match world.controllers[reader.controller]? with
    | none => (.unknown, world)
    | some controller => act reader controller

/-- Does one action. -/
def act (world : World) : Action → Answer × World
  | .standIn label key face isBare =>
    let handle : Handle := ⟨key, .standIn world.site.standIns.length⟩
    let standIns := world.site.standIns ++ [⟨face, isBare⟩]
    (.nothing,
      { world with site := { world.site with standIns := standIns } }.introduce label handle)
  | .node label key endpoint =>
    let store := world.site.store.startNode key endpoint
    (.nothing, { world with site := { world.site with store := store } }.introduce label ⟨key, .node⟩)
  | .adjust label adjustment =>
    world.withHandle label fun handle =>
      (.nothing, { world with site := world.site.adjust handle adjustment })
  | .peek label =>
    world.withHandle label fun handle =>
      let face := world.site.look handle
      (.face handle.key face,
        { world with trace := ⟨world.now, .asked handle face.available⟩ :: world.trace })
  | .plan behaviours =>
    (.nothing, { world with site := { world.site with plan := world.site.plan ++ behaviours } })
  | .release =>
    (.nothing, world.positions.foldl releaseAt world)
  | .scaler size reply =>
    let scaler : Scaler := ⟨size.getD world.site.scaler.size, reply⟩
    (.nothing, { world with site := { world.site with scaler := scaler } })
  | .memberUp label => world.tell label Cluster.memberUp
  | .memberDown label => world.tell label Cluster.memberDown
  | .primarySignal label isPrimary =>
    world.tell label fun cluster handle => cluster.primarySignal handle isPrimary
  | .resize desired =>
    world.withActive fun cluster =>
      let (result, cluster) := cluster.resize desired
      (.resized result, cluster)
  | .survey =>
    world.withActive fun cluster =>
      let (survey, cluster) := cluster.survey
      (.survey survey, cluster)
  | .surplus positions =>
    world.withActive fun cluster =>
      let members := cluster.controller.roster.members
      (match positions.mapM fun position => members[position]? with
        | none => .unknown
        | some chosen => .surplus (surplusOf cluster.site.look chosen),
        cluster)
  | .letGo => (.nothing, world.letGo)
  | .restart name options => world.restart name options
  | .listen label =>
    match world.active with
    | none => (.noController, world)
    | some position => (.nothing, world.addReader label ⟨position, .fresh⟩)
  | .fork label other =>
    match world.reader? other with
    | none => (.unknown, world)
    | some reader => (.nothing, world.addReader label reader)
  | .current label =>
    world.withReader label fun _ controller => (.status controller.bulletin.latest, world)
  | .next label =>
    world.withReader label fun reader controller =>
      let (news, listener) := reader.listener.next controller.bulletin controller.isLive
      (.news news, world.addReader label { reader with listener := listener })
  | .elect key =>
    let (answer, store) := world.site.store.elect key
    (.served answer, { world with site := { world.site with store := store } })
  | .request via request => world.request via request

/-- Does actions one after the other, whatever they come to. -/
def actAll (world : World) (actions : List Action) : World :=
  actions.foldl (fun world action => (world.act action).2) world

/-! ### The passage of time -/

/-- The next move of the worker at the position. What a stand-in does of its own accord comes
before its answer. A request that sleeps goes on when its timer has fired, and a sleep that takes
no time has to wait for that as well while the timers are late. -/
def workAt? (world : World) (position : Nat) : Option World :=
  (world.cluster? position).bind fun cluster =>
    match cluster.interjection? with
    | some (actions, cluster) => some ((world.install position cluster).actAll actions)
    | none =>
      if cluster.isAsleep && world.timersAt < world.now then none
      else cluster.work?.map (world.install position)

/-- Ends the turn of the worker at the position. A worker that is parked asks to be called at the
next submission. -/
def endTurn (world : World) (position : Nat) : World :=
  let asks := (world.cluster? position).any fun cluster => cluster.controller.queue.isParked
  { world with line := world.line.endTurn position asks }

/-- When the timer fires that the worker at the position waits for, if it waits for one. -/
def alarmAt? (world : World) (position : Nat) : Option Nat :=
  (world.cluster? position).bind Cluster.alarm?

/-- The timers catch up, and whoever waits for one that is due is called. -/
def fireTimers (world : World) : World :=
  let due := world.positions.filter fun position => (world.alarmAt? position).any (· ≤ world.now)
  due.foldl call { world with timersAt := world.now }

/-- The next move in the world. The first worker in line makes its moves until it has none left, and
its turn is over. When the line is empty the timers catch up. -/
def work? (world : World) : Option World :=
  match world.line.waiting with
  | position :: _ => some ((world.workAt? position).getD (world.endTurn position))
  | [] => if world.timersAt < world.now then some world.fireTimers else none

/-- How many actions are still to come out of a request that is under way. -/
def actionsUnderWay (controller : Controller Call) : Nat :=
  match controller.queue.phase with
  | .running _ call => countActions call.during
  | _ => 0

/-- A bound for the moves that can be made at one instant. A change takes a handful of moves and
is run once at an instant; so do the life of a worker and its turns. An action adds at most one
change or one worker. -/
def workload (world : World) : Nat :=
  let perController := world.controllers.map fun controller =>
    controller.queue.inbox.length + controller.queue.pending + 3 * actionsUnderWay controller + 3
  16 * (perController.foldr (· + ·) 0 + 3 * countBehaviours world.site.plan)

/-- The least of two instants, if there is one. -/
def earlier? : Option Nat → Option Nat → Option Nat
  | some a, some b => some (min a b)
  | some a, none => some a
  | none, b => b

instance : Clockwork World where
  now := World.now
  atInstant world time := { world with now := time }
  work? := work?
  alarm? world := (world.positions.map world.alarmAt?).foldl earlier? none
  workload := workload

/-- Shuts down the controller that is held. Its worker gets the turns it needs to exit, and those
of other controllers theirs. -/
def shutdown (world : World) : Answer × World :=
  let (answer, world) :=
    world.callActive.withActive fun cluster => (.nothing, cluster.beginShutdown)
  match answer with
  | .noController => (.noController, world)
  | _ =>
    (Clockwork.settle world).withActive fun cluster => (.nothing, cluster.endShutdown)

/-- Plays one step of a script. -/
def play (world : World) : Step → Answer × World
  | .act action => world.act action
  | .settle => (.nothing, Clockwork.settle world)
  | .advance span => (.nothing, Clockwork.advance span world)
  | .jump span => (.nothing, Clockwork.jump span world)
  | .shutdown => world.shutdown

end World

end ReplicaSet.Simulation
