/-!
Growing and shrinking the group of nodes behind a set. Every member votes, so that a set has an
odd number of members or none at all.
-/
namespace ReplicaSet

/-- The smallest set that can still elect a primary after it lost a member. -/
def minMembers : Nat := 3

/-- The largest set in which every member votes. -/
def maxMembers : Nat := 7

/-- Why the scaler did not do what it was asked. -/
inductive ScaleError where
  | provisioning (reason : String)
deriving DecidableEq, Repr

def ScaleError.message : ScaleError → String
  | .provisioning reason => "Failed to provision members: " ++ reason

/-- Why a set was not resized. -/
inductive ResizeError where
  | evenMemberCount (desired current : Nat)
  | belowMinimum (desired current : Nat)
  | aboveMaximum (desired current : Nat)
  | scaler (cause : ScaleError)
deriving DecidableEq, Repr

namespace ResizeError

def message : ResizeError → String
  | evenMemberCount desired current =>
    s!"Ignored request to resize replica set to even number of members ({desired}); only voting members are supported. Size stays {current}."
  | belowMinimum desired current =>
    s!"Ignored request to resize replica set to {desired}, below the minimum of {minMembers}. Size stays {current}."
  | aboveMaximum desired current =>
    s!"Ignored request to resize replica set to {desired}, above the maximum of {maxMembers}. Size stays {current}."
  | scaler _ => "Failed to resize replica set"

/-- The text of what lies behind the error. -/
def cause? : ResizeError → Option String
  | scaler cause => some cause.message
  | _ => none

end ResizeError

/-- Why a set of the current size is not asked to take the desired size. It may be given up, or
have an odd size within the bounds. An even size is refused for being even, whatever the bounds. -/
def refusal? (desired current : Nat) : Option ResizeError :=
  if desired = 0 ∨ (minMembers ≤ desired ∧ desired ≤ maxMembers ∧ desired % 2 = 1) then none
  else if desired % 2 = 0 then some (.evenMemberCount desired current)
  else if desired < minMembers then some (.belowMinimum desired current)
  else some (.aboveMaximum desired current)

/-- How a scaler answers when it is not to do exactly what it is asked. -/
inductive ScaleReply where
  /-- It ends up with this size. -/
  | reaches (size : Nat)
  | fails (reason : String)
deriving DecidableEq, Repr

/-- The party that starts and stops nodes. -/
structure Scaler where
  /-- The size that the group has. -/
  size : Nat
  /-- The answer to every request. Without one, the scaler does what it is asked. -/
  reply : Option ScaleReply := none
deriving DecidableEq, Repr

namespace Scaler

def answer (scaler : Scaler) (desired : Nat) : Except ScaleError Nat :=
  match scaler.reply with
  | none => .ok desired
  | some (.reaches size) => .ok size
  | some (.fails reason) => .error (.provisioning reason)

/-- Asks for a size, and gives back the answer. A size that was reached becomes the group's. -/
def resize (scaler : Scaler) (desired : Nat) : Except ScaleError Nat × Scaler :=
  match scaler.answer desired with
  | .ok size => (.ok size, { scaler with size := size })
  | .error cause => (.error cause, scaler)

end Scaler

end ReplicaSet
