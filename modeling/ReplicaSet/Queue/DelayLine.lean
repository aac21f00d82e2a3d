/-!
What a queue needs of the place where it keeps things that wait for their time.
-/
namespace ReplicaSet.Queue

/-- A place where things wait, each for an instant of its own. -/
class DelayLine (δ : Type → Type) where
  /-- Nothing waits. -/
  empty {α : Type} : δ α
  /-- Puts one thing in, to wait until the instant. -/
  putOff {α : Type} (wakeAt : Nat) (item : α) (line : δ α) : δ α
  /-- Takes out all that waited long enough, in the order in which it is to go on. -/
  takeDue {α : Type} (now : Nat) (line : δ α) : List α × δ α
  /-- When the first wait is over. -/
  nextWake? {α : Type} (line : δ α) : Option Nat
  /-- All that waits, in no particular order. -/
  toList {α : Type} (line : δ α) : List α

end ReplicaSet.Queue
