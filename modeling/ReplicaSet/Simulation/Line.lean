/-!
The line in which workers wait for their turn. Whoever is called goes to its end, and whoever stands
in it already keeps the place. A worker without anything to do may ask to be called at the next
submission, and is called once for having asked. Nobody stands in the line twice (`nodup_call`).
-/
namespace ReplicaSet.Simulation

/-- Workers go by their numbers. -/
structure Line where
  /-- Those that are due for a turn, in the order in which they get it. -/
  waiting : List Nat := []
  /-- Those that asked to be called when something is submitted to them. -/
  attentive : List Nat := []
deriving DecidableEq, Repr

namespace Line

/-- Calls the worker to a turn. -/
def call (line : Line) (worker : Nat) : Line :=
  if worker ∈ line.waiting then line
  else { line with waiting := line.waiting ++ [worker] }

/-- Lets the worker know that something was submitted to it. It is called if it asked for that, and
not another time before it asks again, whether or not it can do anything in the turn it gets. -/
def announce (line : Line) (worker : Nat) : Line :=
  if worker ∈ line.attentive then
    { line with attentive := line.attentive.filter (· ≠ worker) }.call worker
  else line

/-- Ends the turn of the worker, which may ask to be called at the next submission. -/
def endTurn (line : Line) (worker : Nat) (asks : Bool) : Line where
  waiting := line.waiting.filter (· ≠ worker)
  attentive :=
    if asks && !line.attentive.contains worker then worker :: line.attentive else line.attentive

theorem nodup_call {line : Line} (distinct : line.waiting.Nodup) (worker : Nat) :
    (line.call worker).waiting.Nodup := by
  unfold call
  split
  next => exact distinct
  next absent =>
    refine List.nodup_append.mpr ⟨distinct, by simp, ?_⟩
    intro other there new isWorker same
    rw [List.mem_singleton] at isWorker
    exact absent (isWorker ▸ same ▸ there)

end Line

end ReplicaSet.Simulation
