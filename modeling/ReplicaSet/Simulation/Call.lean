import ReplicaSet.Simulation.Script

/-!
Requests to stand-ins that are under way.
-/
namespace ReplicaSet.Simulation

/-- How far a request has come. -/
inductive CallStage where
  /-- It takes its time until a timer fires, and then waits at a gate if there is one. -/
  | sleeping (wakeAt : Nat) (gated : Bool)
  | atGate (isOpen : Bool)
  /-- It waits for nothing any more. -/
  | answering
deriving DecidableEq, Repr

namespace CallStage

/-- The stage after the sleep. -/
def rested (gated : Bool) : CallStage :=
  if gated then .atGate false else .answering

/-- The stage in which a request is when it was made at `now`. -/
def enter (now : Nat) (delay : Option Nat) (gated : Bool) : CallStage :=
  match delay with
  | some span => .sleeping (Time.tick (now + span)) gated
  | none => rested gated

/-- The next stage, if nothing keeps the request in this one. -/
def resume? (now : Nat) : CallStage → Option CallStage
  | sleeping wakeAt gated => if wakeAt ≤ now then some (rested gated) else none
  | atGate isOpen => if isOpen then some answering else none
  | answering => none

def isSleep : CallStage → Bool
  | sleeping _ _ => true
  | _ => false

/-- When the timer fires that the request waits for, if it waits for one. -/
def alarm? : CallStage → Option Nat
  | sleeping wakeAt _ => some wakeAt
  | _ => none

/-- Opens the gate if the request waits there. -/
def release : CallStage → CallStage
  | atGate _ => atGate true
  | stage => stage

end CallStage

/-- A request to a stand-in that is under way. -/
structure Call where
  /-- The member through which it is made. -/
  via : Member
  request : Request
  stage : CallStage
  during : List Action
  ending : Ending

namespace Call

/-- A request made at `now` of a stand-in that behaves so. -/
def enter (now : Nat) (via : Member) (request : Request) (behaviour : Behaviour Action) : Call where
  via := via
  request := request
  stage := .enter now behaviour.delay behaviour.gated
  during := behaviour.during
  ending := behaviour.ending

end Call

end ReplicaSet.Simulation
