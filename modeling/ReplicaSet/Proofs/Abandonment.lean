import ReplicaSet.Proofs.Shutdown
import ReplicaSet.Proofs.TaskPlaces

/-!
What the log says of the tasks that a worker abandons when it is told to stop. It counts those that
the worker has received. What was handed in and not yet received is abandoned as well.
-/
namespace ReplicaSet

/-- Whether the record says that the worker left. -/
def Notice.isFarewell : Notice → Bool
  | workerStopped _ _ _ | workerDrained => true
  | _ => false

/-- How many tasks were abandoned, as the record tells. -/
def Notice.abandoned : Notice → Nat
  | workerStopped _ inHand pending => inHand.toList.length + pending
  | _ => 0

namespace Queue

variable {τ ρ : Type} {now : Nat} {queue next : Queue WakeHeap τ ρ} {news : List (Mark τ)}

/-- Of the move by which a worker leaves nothing is told but that it left. -/
theorem Does.news_of_exit (does : queue.Does now news next) {exit : Exit τ}
    (ended : next.exit? = some exit) : news = [.left exit] := by
  cases does with
  | park | receive | wake | start | goOn => cases ended
  | leave left | breakOff running inHand =>
    cases ended
    rfl
  | run started | conclude running => simp [exit?, (conclude_frame _ _ _ _).1] at ended

theorem Does.not_left (does : queue.Does now news next) (alive : next.exit? = none)
    (exit : Exit τ) : .left exit ∉ news := by
  cases does with
  | leave | breakOff => cases alive
  | run | conclude => simp [closing]
  | _ => simp

/-- The records of the end of the worker, once it has come. -/
def farewell (queue : Queue WakeHeap Change ρ) : List Notice :=
  match queue.exit? with
  | none => []
  | some exit => Controller.farewell exit queue.pending

theorem farewell_of_alive {queue : Queue WakeHeap Change ρ} (alive : queue.exit? = none) :
    queue.farewell = [] := by
  rw [farewell, alive]

theorem farewell_of_exit {queue : Queue WakeHeap Change ρ} {exit : Exit Change}
    (ended : queue.exit? = some exit) : queue.farewell = Controller.farewell exit queue.pending := by
  rw [farewell, ended]

theorem held_of_exit {exit : Exit τ} (ended : queue.exit? = some exit) :
    queue.held = exit.inHand?.toList.map Job.task ++ queue.waiting := by
  simp [held, abandoned, unfinished, ended]

theorem length_waiting (queue : Queue WakeHeap τ ρ) :
    queue.waiting.length = queue.pending + queue.inbox.length := by
  simp [waiting, pending, Nat.add_assoc]

theorem Mark.noFarewell {mark : Mark Change} (stays : ∀ exit, mark ≠ .left exit) (pending : Nat) :
    (mark.records pending).filter Notice.isFarewell = [] := by
  cases mark with
  | left exit => exact absurd rfl (stays exit)
  | ended job verdict =>
    obtain ⟨task, attempts⟩ := job
    cases verdict with
    | completed | putOff => rfl
    | gaveUp => cases task <;> rfl
  | _ => rfl

/-- A move of the worker writes down its end exactly if it leaves by it. -/
theorem Does.farewell_eq {queue next : Queue WakeHeap Change ρ} {news : List (Mark Change)}
    (does : queue.Does now news next) :
    (news.flatMap (Mark.records next.pending)).filter Notice.isFarewell = next.farewell := by
  cases ended : next.exit? with
  | none =>
    rw [farewell_of_alive ended, List.filter_flatMap]
    refine List.flatMap_eq_nil_iff.mpr fun mark member => Mark.noFarewell (fun exit isLeft => ?_) _
    exact does.not_left ended exit (isLeft ▸ member)
  | some exit =>
    rw [does.news_of_exit ended, farewell_of_exit ended]
    cases exit <;> rfl

end Queue

namespace Simulation.Cluster

variable {cluster after : Cluster} {deed : Deed} {deeds : List Deed}

/-! ### The record of the end -/

theorem Outside.farewell_eq {queue later : Queue Queue.WakeHeap Change Call} {tasks : List Change}
    {records : List Notice} (outside : Outside queue tasks later records) :
    queue.farewell ++ records.filter Notice.isFarewell = later.farewell := by
  cases outside with
  | keep | dropped | told => exact List.append_nil _
  | handed alive =>
    rw [Queue.farewell_of_alive alive]
    exact (Queue.farewell_of_alive alive).symm
  | goOn running => simp [Queue.farewell, Queue.exit?, running, Queue.runOn]

/-- That the worker left is written down when it does, once, and never else. -/
theorem Run.farewell_eq (run : Run deeds cluster) :
    cluster.queueRecords.filter Notice.isFarewell = cluster.controller.queue.farewell := by
  induction run with
  | start fresh =>
    obtain ⟨name, settings, same⟩ := fresh.controller_eq
    rw [queueRecords, fresh.readings, same]
    rfl
  | @next deeds cluster deed after run step ih =>
    by_cases isWork : deed = .work
    · subst isWork
      cases step with
      | work worked =>
        obtain ⟨news, does, writes⟩ := work?_writes worked
        rw [writes, List.filter_append, ih, Queue.farewell_of_alive does.works.alive,
          does.farewell_eq, List.nil_append]
    · obtain ⟨records, does, written⟩ := step.outside isWork
      rw [written, List.filter_append, ih, does.farewell_eq]

/-! ### What is abandoned -/

/-- The tasks that were handed in and neither completed nor given up. What was dropped was never
handed in. -/
def outstanding (deeds : List Deed) (cluster : Cluster) : List Change :=
  (created deeds).filter fun task => task ∉ cluster.fates.map Prod.snd

theorem Run.outstanding_perm (run : Run deeds cluster) :
    (outstanding deeds cluster).Perm cluster.controller.queue.held := by
  have whole := run.placed_perm
  have distinct := run.placed_nodup
  rw [placed_tasks] at whole distinct
  have apart := (List.nodup_append.mp distinct).2.2
  have kept : cluster.controller.queue.held.filter (fun task => task ∉ cluster.fates.map Prod.snd) =
      cluster.controller.queue.held :=
    List.filter_eq_self.mpr fun task held => decide_eq_true fun rested => apart task held task rested rfl
  have gone : (cluster.fates.map Prod.snd).filter
      (fun task => task ∉ cluster.fates.map Prod.snd) = [] :=
    List.filter_eq_nil_iff.mpr fun task rested => by simpa using rested
  refine (whole.symm.filter _).trans ?_
  rw [List.filter_append, kept, gone, List.append_nil]

/-- A worker that was told to stop says once how many tasks it abandons. It says too few exactly if
some were handed in that it had not received. -/
theorem Run.abandoned_eq_iff (run : Run deeds cluster) {cause : StopCause}
    {inHand : Option (Job Change)}
    (stopped : cluster.controller.queue.exit? = some (.stopped cause inHand)) :
    (outstanding deeds cluster).Perm
      (inHand.toList.map Job.task ++ cluster.controller.queue.waiting) ∧
    ∃ record, cluster.queueRecords.filter Notice.isFarewell = [record] ∧
      record = .workerStopped cause (inHand.map Job.task) cluster.controller.queue.pending ∧
      record.abandoned + cluster.controller.queue.inbox.length =
        (outstanding deeds cluster).length ∧
      (record.abandoned = (outstanding deeds cluster).length ↔
        cluster.controller.queue.inbox = []) := by
  have contents := run.outstanding_perm
  rw [Queue.held_of_exit stopped, Exit.inHand?] at contents
  have written := run.farewell_eq.trans (Queue.farewell_of_exit stopped)
  have counted := contents.length_eq
  rw [List.length_append, List.length_map, Queue.length_waiting] at counted
  have told : Notice.abandoned (.workerStopped cause (inHand.map Job.task)
      cluster.controller.queue.pending) = inHand.toList.length + cluster.controller.queue.pending := by
    cases inHand <;> rfl
  refine ⟨contents, _, written, rfl, by omega, ?_⟩
  rw [told, counted, ← List.length_eq_zero_iff]
  omega

/-- The one task that was abandoned was in hand, and is told of. -/
theorem abandoned_eq_iff_interrupted :
    ∃ deeds record, Run deeds abandoned ∧
      abandoned.queueRecords.filter Notice.isFarewell = [record] ∧ record.abandoned = 1 ∧
      (outstanding deeds abandoned).length = 1 := by
  obtain ⟨deeds, -, run⟩ := interrupted_run
  have further : Run (deeds ++ [.work]) abandoned := run.next (.work rfl)
  have stopped : abandoned.controller.queue.exit? =
      some (.stopped .requested (some ⟨.found ⟨0, ⟨"a", .standIn 0⟩⟩, 0⟩)) := rfl
  obtain ⟨-, record, written, rfl, -, exactly⟩ := further.abandoned_eq_iff stopped
  exact ⟨_, _, further, written, rfl, (exactly.mpr rfl).symm⟩

/-- While a set was being founded another member came up, and a shutdown was begun. The worker has
noticed it. -/
def unheard : Cluster :=
  let site := { unhurried with standIns := unhurried.standIns ++ unhurried.standIns }
  let founding := Clockwork.settle ((create "rs" tireless site).memberUp ⟨"a", .standIn 0⟩)
  Clockwork.run 1 (founding.memberUp ⟨"b", .standIn 1⟩).beginShutdown

/-- The worker says that it abandons the founding and nothing else, but what the other member was to
join by is abandoned as well. -/
theorem unheard_uncounted :
    ∃ deeds record, Run deeds unheard ∧ .beginShutdown ∈ deeds ∧
      unheard.controller.queue.exit? =
        some (.stopped .requested (some ⟨.found ⟨0, ⟨"a", .standIn 0⟩⟩, 0⟩)) ∧
      unheard.queueRecords.filter Notice.isFarewell = [record] ∧ record.abandoned = 1 ∧
      (outstanding deeds unheard).Perm
        [.found ⟨0, ⟨"a", .standIn 0⟩⟩, .join ⟨1, ⟨"b", .standIn 1⟩⟩] ∧
      record.abandoned ≠ (outstanding deeds unheard).length := by
  have named : Text.isBlank "rs" = false := by decide
  have new := Run.start (fresh_create named tireless
    { unhurried with standIns := unhurried.standIns ++ unhurried.standIns })
  obtain ⟨moves, founding⟩ := (new.next (.up rfl ⟨"a", .standIn 0⟩)).settle
  have begun := (founding.next (.up (by decide) ⟨"b", .standIn 1⟩)).next
    (.beginShutdown (by decide))
  obtain ⟨more, run⟩ := begun.work 1
  have stopped : unheard.controller.queue.exit? =
    some (.stopped .requested (some ⟨.found ⟨0, ⟨"a", .standIn 0⟩⟩, 0⟩)) := rfl
  have contents : (outstanding _ unheard).Perm
      [.found ⟨0, ⟨"a", .standIn 0⟩⟩, .join ⟨1, ⟨"b", .standIn 1⟩⟩] := run.outstanding_perm
  have written := run.farewell_eq
  refine ⟨_, _, run, by simp, stopped, written, rfl, contents, ?_⟩
  rw [contents.length_eq]
  decide

end Simulation.Cluster

end ReplicaSet
