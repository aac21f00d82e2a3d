import ReplicaSet.Text.Blank
import ReplicaSet.Time

/-!
What can be chosen about a set when it is created, and which choices are refused.
-/
namespace ReplicaSet

/-- What a caller may choose. What is left open takes its default. -/
structure Options where
  /-- How long a change waits before it is tried again. -/
  retryDelay : Option Nat := none
  /-- How often a change is tried at most. Without a bound it is tried until it succeeds. -/
  maxAttempts : Option Nat := none
deriving DecidableEq, Repr

/-- Choices that were checked. -/
structure Settings where
  retryDelay : Nat
  maxAttempts : Option Nat
  retryDelay_pos : 0 < retryDelay
  maxAttempts_pos : ∀ bound, maxAttempts = some bound → 0 < bound

inductive OptionFault where
  | zeroRetryDelay
  | zeroMaxAttempts
deriving DecidableEq, Repr

def OptionFault.message : OptionFault → String
  | .zeroRetryDelay => "Retry delay must be greater than zero"
  | .zeroMaxAttempts => "Maximum task attempts must be greater than zero when set"

/-- Why a set could not be created. -/
inductive CreationError where
  | blankName
  | illegalOptions (fault : OptionFault)
deriving DecidableEq, Repr

def CreationError.message : CreationError → String
  | .blankName => "Replica set name must not be blank"
  | .illegalOptions fault => "Illegal options for configuring replica set: " ++ fault.message

/-- A change that was not chosen otherwise is tried again after three seconds. -/
def defaultRetryDelay : Nat := Time.ofMillis 3000

/-- Checks the options. Of two faults the retry delay is the one that is told. -/
def Options.check (options : Options) : Except OptionFault Settings :=
  let delay := options.retryDelay.getD defaultRetryDelay
  if positive : 0 < delay then
    if bounded : options.maxAttempts = some 0 then .error .zeroMaxAttempts
    else .ok
      { retryDelay := delay
        maxAttempts := options.maxAttempts
        retryDelay_pos := positive
        maxAttempts_pos := fun _ isBound =>
          Nat.pos_of_ne_zero fun isZero => bounded (isZero ▸ isBound) }
  else .error .zeroRetryDelay

/-- Checks the name and then the options of a new set. -/
def checkCreation (name : String) (options : Options) : Except CreationError Settings :=
  if Text.isBlank name then .error .blankName
  else match options.check with
    | .error fault => .error (.illegalOptions fault)
    | .ok settings => .ok settings

end ReplicaSet
