import ReplicaSet.Member
import ReplicaSet.Scaling
import ReplicaSet.Settings
import ReplicaSet.Store.Request

/-!
Scripts: what can be done to a set and its surroundings, step by step. Members, and the readers of
the status, go by labels.
-/
namespace ReplicaSet.Simulation

/-- How a request to a stand-in ends. -/
inductive Ending where
  | succeeds
  | fails (cause : StoreError)
  /-- It breaks down, and with it the worker that made it. -/
  | crashes (message : String)
deriving DecidableEq, Repr

/-- How a stand-in deals with one request: it takes its time, waits at a gate if it has one, does
something of its own accord, and comes to an end. -/
structure Behaviour (α : Type) where
  /-- How long it sleeps first. A sleep of no time is one as well. -/
  delay : Option Nat := none
  gated : Bool := false
  during : List α := []
  ending : Ending := .succeeds

/-- New values for what a member says of itself. What is left open stays as it is. -/
structure Adjustment where
  available : Option Bool := none
  role : Option Role := none
  endpoint : Option (Option String) := none
  primaryEndpoint : Option (Option String) := none
deriving DecidableEq, Repr

/-- A request to the store in which members go by their labels. -/
inductive DirectRequest where
  | found (setName : String) (id : Nat)
  | add (label : String) (id : Nat)
  | remove (label : String)
deriving DecidableEq, Repr

/-- What can be done without the workers getting their turn. -/
inductive Action where
  -- Members and the other parties around a set.
  /-- Makes a stand-in. A bare one never tells an address. -/
  | standIn (label key : String) (face : Face) (isBare : Bool)
  | node (label key endpoint : String)
  | adjust (label : String) (adjustment : Adjustment)
  | peek (label : String)
  /-- Appends to what stand-ins do with the requests to come, whichever of them gets one. -/
  | plan (behaviours : List (Behaviour Action))
  /-- Opens the gate at which a request waits. -/
  | release
  /-- Sets how the scaler answers, and its size if one is given. -/
  | scaler (size : Option Nat) (reply : Option ScaleReply)
  -- Word to the controller.
  | memberUp (label : String)
  | memberDown (label : String)
  | primarySignal (label : String) (isPrimary : Bool)
  | resize (desired : Nat)
  | survey
  /-- Asks which of the members at these positions is the surplus one. -/
  | surplus (positions : List Nat)
  | letGo
  /-- Creates a new controller in place of the present one. -/
  | restart (name : String) (options : Options)
  -- Readers of the status.
  | listen (label : String)
  | fork (label other : String)
  | current (label : String)
  | next (label : String)
  -- Word to the store.
  | elect (key : String)
  | request (via : String) (request : DirectRequest)

/-- A step of a script. Spans are in nanoseconds. -/
inductive Step where
  | act (action : Action)
  /-- The workers get their turn until nothing is left to do at this instant. -/
  | settle
  /-- Time passes, and the workers get their turn whenever a timer fires. -/
  | advance (span : Nat)
  /-- Time passes at once, and then the workers get their turn. -/
  | jump (span : Nat)
  /-- Shuts the set down and waits for its worker. -/
  | shutdown

mutual

/-- How many actions there are in an action: itself, and those within the behaviours it plans. -/
def Action.count : Action → Nat
  | .plan behaviours => 1 + countBehaviours behaviours
  | _ => 1

/-- How many actions there are within behaviours. -/
def countBehaviours : List (Behaviour Action) → Nat
  | [] => 0
  | ⟨_, _, during, _⟩ :: rest => countActions during + countBehaviours rest

/-- How many actions there are in a list of actions. -/
def countActions : List Action → Nat
  | [] => 0
  | action :: rest => action.count + countActions rest

end

end ReplicaSet.Simulation
