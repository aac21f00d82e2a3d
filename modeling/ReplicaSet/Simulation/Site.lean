import ReplicaSet.Simulation.Script
import ReplicaSet.Store.Memory

/-!
The surroundings of a set: the store with its nodes, the stand-ins with what they are to do, and
the scaler.
-/
namespace ReplicaSet.Simulation

/-- A member whose answers are scripted. -/
structure StandIn where
  face : Face
  /-- Whether it never tells an address. -/
  isBare : Bool
deriving DecidableEq, Repr

namespace StandIn

/-- What it says of itself. -/
def shown (standIn : StandIn) : Face :=
  if standIn.isBare then { standIn.face with endpoint := none, primaryEndpoint := none }
  else standIn.face

def adjust (standIn : StandIn) (adjustment : Adjustment) : StandIn :=
  { standIn with
    face :=
      { available := adjustment.available.getD standIn.face.available
        role := adjustment.role.getD standIn.face.role
        endpoint := adjustment.endpoint.getD standIn.face.endpoint
        primaryEndpoint := adjustment.primaryEndpoint.getD standIn.face.primaryEndpoint } }

end StandIn

structure Site where
  store : Store := {}
  /-- All stand-ins that were ever made. -/
  standIns : List StandIn := []
  /-- What stand-ins do with the next requests. -/
  plan : List (Behaviour Action) := []
  scaler : Scaler

namespace Site

/-- What a member says of itself. -/
def look (site : Site) (handle : Handle) : Face :=
  match handle.origin with
  | .node => site.store.face handle.key
  | .standIn index => (site.standIns[index]?.map StandIn.shown).getD .absent

/-- Changes what a member says of itself. Of a node only the availability can be set; the rest
follows from the store. -/
def adjust (site : Site) (handle : Handle) (adjustment : Adjustment) : Site :=
  match handle.origin with
  | .node =>
    match adjustment.available with
    | some available => { site with store := site.store.setAvailable handle.key available }
    | none => site
  | .standIn index =>
    { site with standIns := site.standIns.modify index fun standIn => standIn.adjust adjustment }

/-- What a stand-in does with a request: the first behaviour planned, else it succeeds at once. -/
def takeBehaviour (site : Site) : Behaviour Action × Site :=
  match site.plan with
  | [] => ({}, site)
  | behaviour :: plan => (behaviour, { site with plan := plan })

end Site

end ReplicaSet.Simulation
