/-!
Systems that run in virtual time: they make moves that take no time, and time passes between
them.
-/
namespace ReplicaSet.Simulation

/-- A system with a clock. -/
class Clockwork (σ : Type) where
  now : σ → Nat
  /-- The same system at another instant. -/
  atInstant : σ → Nat → σ
  /-- The next move that can be made at this instant. -/
  work? : σ → Option σ
  /-- When the next timer fires. -/
  alarm? : σ → Option Nat
  /-- More moves than that are not made at one instant. -/
  workload : σ → Nat

namespace Clockwork

variable {σ : Type} [Clockwork σ]

/-- Makes moves until none is left, and at most so many. -/
def run : Nat → σ → σ
  | 0, system => system
  | count + 1, system =>
    match work? system with
    | none => system
    | some next => run count next

/-- Makes moves until none is left at this instant. -/
def settle (system : σ) : σ :=
  run (workload system) system

/-- Settles, and goes from timer to timer up to the target, at most so often. -/
def hop (target : Nat) : Nat → σ → σ
  | 0, system => settle (atInstant system target)
  | count + 1, system =>
    let system := settle system
    match alarm? system with
    | none => settle (atInstant system target)
    | some time =>
      if time ≤ target then hop target count (atInstant system time)
      else settle (atInstant system target)

/-- Lets the span pass. Each timer fires at its time, also one that fires at the very end. Timers
lie in the future when the system is settled, so that there are no more hops than instants. -/
def advance (span : Nat) (system : σ) : σ :=
  hop (now system + span) (span + 1) system

/-- Lets the span pass at once, and then settles. -/
def jump (span : Nat) (system : σ) : σ :=
  settle (atInstant system (now system + span))

end Clockwork

end ReplicaSet.Simulation
