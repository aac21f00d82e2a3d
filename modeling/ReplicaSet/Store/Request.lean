import ReplicaSet.Member

/-!
Requests that change the configuration of a replicated store, and how a store turns them down.
-/
namespace ReplicaSet

/-- A request to a store. It is made through one member, which is not part of it. -/
inductive Request where
  /-- Found a set of this name, with the addressed member as its only member. -/
  | found (setName : String) (id : Nat)
  /-- Add the member of this key. Only the primary can do that. -/
  | add (key : String) (id : Nat)
  /-- Remove the member of this key. Only the primary can do that. -/
  | remove (key : String)
deriving DecidableEq, Repr

/-- Why a store that was reached will not do what it was asked. -/
inductive Rejection where
  | alreadyFounded (setName : String)
  | notPrimary (key : String)
  | unreachable (key : String)
  | alreadyMember (key : String)
  | idTaken (id : Nat) (holder : String)
  | stillRunning (key : String)
  | notMember (key : String)
  | other (reason : String)
deriving DecidableEq, Repr

def Rejection.message : Rejection → String
  | .alreadyFounded setName => s!"Already initialized as {setName}"
  | .notPrimary key => s!"{key} is not primary"
  | .unreachable key => s!"{key} is unreachable"
  | .alreadyMember key => s!"{key} is already a member"
  | .idTaken id holder => s!"ID {id} is already taken by {holder}"
  | .stillRunning key => s!"{key} is still running"
  | .notMember key => s!"{key} is not a member of the set"
  | .other reason => reason

/-- How a request fails. -/
inductive StoreError where
  | timeout
  | connectionRefused (target : String)
  | rejected (rejection : Rejection)
deriving DecidableEq, Repr

def StoreError.message : StoreError → String
  | .timeout => "Timed out waiting for the store to respond"
  | .connectionRefused target => s!"Connection to {target} refused"
  | .rejected rejection => s!"Store rejected reconfiguration: {rejection.message}"

/-- The answer to a request. -/
abbrev StoreAnswer := Except StoreError Unit

end ReplicaSet
