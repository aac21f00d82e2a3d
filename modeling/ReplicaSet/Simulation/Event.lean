import ReplicaSet.Notice

/-!
What happens around a set, as far as it leaves a trace.
-/
namespace ReplicaSet.Simulation

inductive Event where
  /-- A record was written to the log of the set of that name. -/
  | noted (setName : String) (notice : Notice)
  /-- A member was asked whether it is available. -/
  | asked (handle : Handle) (available : Bool)
  /-- A request was made through a member. -/
  | called (via : Handle) (request : Request)
  /-- The scaler was asked for a size. -/
  | scaled (desired : Nat)
deriving DecidableEq, Repr

/-- Whether the event shows to an observer. Of what goes to members an observer sees only what
goes to stand-ins. -/
def Event.isVisible : Event → Bool
  | .noted _ _ => true
  | .asked handle _ => handle.origin ≠ .node
  | .called via _ => via.origin ≠ .node
  | .scaled _ => true

/-- An event and the instant at which it happened. -/
structure Entry where
  time : Nat
  event : Event
deriving DecidableEq, Repr

end ReplicaSet.Simulation
