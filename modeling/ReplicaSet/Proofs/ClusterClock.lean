import ReplicaSet.Proofs.ClockRuns
import ReplicaSet.Proofs.ClusterWork
import ReplicaSet.Proofs.QueueEffort

/-!
A cluster with its clock. Left to itself, its worker makes all the moves there are at each timer:
every move lowers the effort that is left at an instant.
-/
namespace ReplicaSet.Simulation

namespace CallStage

/-- How many moves a request that is under way needs at most before its run ends, and more. -/
def effort : CallStage → Nat
  | .sleeping _ _ => 6
  | .atGate _ => 5
  | .answering => 4

theorem effort_bounds (stage : CallStage) : 2 < stage.effort ∧ stage.effort < 7 := by
  cases stage <;> simp [effort]

theorem effort_resume? {stage later : CallStage} {now : Nat}
    (resumed : stage.resume? now = some later) : later.effort < stage.effort := by
  cases stage with
  | sleeping wakeAt gated =>
    have rests := (Option.ite_none_right_eq_some.mp resumed).2
    cases gated with
    | false =>
      cases rests
      simp [rested, effort]
    | true =>
      cases rests
      simp [rested, effort]
  | atGate isOpen =>
    cases (Option.ite_none_right_eq_some.mp resumed).2
    simp [effort]
  | answering => cases resumed

end CallStage

/-- What is left of a run while its request is under way. -/
def Call.effort (call : Call) : Nat :=
  call.stage.effort

theorem Call.effort_bounds (call : Call) : 2 < call.effort ∧ call.effort < 7 :=
  call.stage.effort_bounds

namespace Cluster

variable {cluster next : Cluster}

instance : Clockwork Cluster where
  now := Cluster.now
  atInstant cluster time := { cluster with now := time }
  work? := Cluster.work?
  alarm? := Cluster.alarm?
  workload cluster :=
    7 * (cluster.controller.queue.inbox.length + cluster.controller.queue.pending) + 6

/-- A request that is under way and goes on has less of its way before it. -/
theorem effort_goOn {job later : Job Change} {call following : Call}
    (worked : cluster.work? = some next)
    (running : cluster.controller.queue.phase = .running job call)
    (going : next.controller.queue.phase = .running later following) :
    following.effort < call.effort := by
  have wentOn : cluster.goOn? job call = some next := by simpa [work?, running] using worked
  rcases goOn?_cases wentOn with ⟨answer, rfl⟩ | ⟨exit, rfl⟩ | ⟨stage, resumed, rfl⟩
  · simp only [answered_controller, (Queue.conclude_frame _ _ _ _).1] at going
    cases going
  · simp only [leave_controller] at going
    cases going
  · cases going
    exact CallStage.effort_resume? resumed

/-- At each instant the worker makes all the moves there are, since every move lowers the effort
that is left. -/
theorem work?_settle (cluster : Cluster) : (Clockwork.settle cluster).work? = none := by
  refine Clockwork.work?_run
    (fun cluster : Cluster => cluster.controller.queue.effort Call.effort cluster.now)
    (fun {cluster next} worked => ?_) (Queue.effort_le Call.effort_bounds _ _)
  rw [(work?_keeps worked).now]
  exact (work?_works worked).effort_lt Call.effort_bounds fun job call later running going =>
    effort_goOn worked running going

theorem Run.work {deeds : List Deed} (run : Run deeds cluster) (count : Nat) :
    ∃ moves, Run (deeds ++ List.replicate moves .work) (Clockwork.run count cluster) := by
  induction count generalizing deeds cluster with
  | zero => exact ⟨0, (List.append_nil deeds).symm ▸ run⟩
  | succ count ih =>
    unfold Clockwork.run
    split
    · exact ⟨0, (List.append_nil deeds).symm ▸ run⟩
    · rename_i next worked
      obtain ⟨moves, later⟩ := ih (run.next (.work worked))
      exact ⟨moves + 1, by simpa [List.replicate_succ] using later⟩

theorem Run.settle {deeds : List Deed} (run : Run deeds cluster) :
    ∃ moves, Run (deeds ++ List.replicate moves .work) (Clockwork.settle cluster) :=
  run.work _

end Cluster

end ReplicaSet.Simulation
