import ReplicaSet.Proofs.QueueAttempts
import ReplicaSet.Proofs.QueueRecords

/-!
The runs of changes. What happens to the queue of a set in the course of the deeds is a history of
that queue, where changes are handed in as they are created, and the log says how their runs ended.
-/
namespace ReplicaSet

/-- The change whose last run has ended, as the record tells. -/
def Notice.judged? : Notice → Option Change
  | completed change _ | gaveUp change _ => some change
  | joinExhausted member => some (.join member)
  | leaveExhausted member => some (.leave member)
  | _ => none

/-- Whether the record says how the last run of a change ended. -/
def Notice.isVerdict (notice : Notice) : Bool :=
  notice.judged?.isSome

namespace Queue

/-- The job of which a run begins by the turn. -/
def Turn.job? {δ : Type → Type} {τ ρ : Type} : Turn δ τ ρ → Option (Job τ)
  | start job _ => some job
  | _ => none

/-- The records of how the last run of a task ended. -/
def Mark.verdicts : Mark Change → List Notice
  | ended job verdict => verdict.records job
  | _ => []

/-- What becomes of a job is told of its own task, and nothing is told of one that is put off. -/
theorem Verdict.judged_records {verdict : Verdict} {job : Job Change} {notice : Notice}
    (told : notice ∈ verdict.records job) : notice.judged? = some job.task ∧ verdict ≠ .putOff := by
  obtain ⟨task, attempts⟩ := job
  cases verdict with
  | completed =>
    obtain rfl := List.mem_singleton.mp told
    exact ⟨rfl, nofun⟩
  | gaveUp =>
    refine ⟨?_, nofun⟩
    rcases List.mem_cons.mp told with rfl | lastWord
    · rfl
    · cases task with
      | found => cases lastWord
      | join | leave =>
        obtain rfl := List.mem_singleton.mp lastWord
        rfl
  | putOff => cases told

variable {τ ρ : Type} {now : Nat} {queue next : Queue WakeHeap τ ρ} {news : List (Mark τ)}

theorem starts_at (now : Nat) (news : List (Mark τ)) :
    starts (news.map fun mark => (now, mark)) = news.filterMap Mark.started? := by
  simp [starts, List.filterMap_map]

/-- A run of a job begins exactly when it is the turn of the job. -/
theorem Does.starts_eq (does : queue.Does now news next) :
    news.filterMap Mark.started? = (queue.turn now).job?.toList := by
  have received (queue : Queue WakeHeap τ ρ) (job : Job τ) (outcome : Outcome) :
      (queue.closing now job outcome).filterMap Mark.started? = [] := by
    simp [closing, List.filterMap_cons, Mark.started?, List.filterMap_eq_nil_iff]
  have noTurn {job : Job τ} {run : ρ} (running : queue.phase = .running job run) :
      queue.turn now = .rest := by
    simp [turn, running]
  cases does with
  | park _ _ _ moved | receive _ _ moved | wake _ moved => rw [moved]; rfl
  | leave left => rw [left]; rfl
  | run started outcome =>
    rw [started, List.filterMap_cons, List.filterMap_cons, received]
    rfl
  | start started => rw [started]; rfl
  | goOn running | breakOff running => rw [noTurn running]; rfl
  | conclude running outcome =>
    rw [noTurn running, received]
    rfl

/-- Whatever the worker writes of a task is how its last run ended. -/
theorem verdicts_of_records (pending : Nat) (news : List (Mark Change)) :
    (news.flatMap (Mark.records pending)).filter Notice.isVerdict = news.flatMap Mark.verdicts := by
  rw [List.filter_flatMap]
  refine List.flatMap_congr fun mark _ => ?_
  cases mark with
  | ended job verdict =>
    refine List.filter_eq_self.mpr fun notice told => ?_
    rw [Notice.isVerdict, (Verdict.judged_records told).1]
    rfl
  | left exit => cases exit <;> rfl
  | _ => rfl

end Queue

namespace Simulation.Cluster

variable {cluster after : Cluster} {deed : Deed} {deeds : List Deed} {jobs : List (Job Change)}
  {marks : List (Nat × Queue.Mark Change)}

/-- The jobs of which a run begins by the deed: the one whose turn it is, if the worker makes a
move. -/
def begun (cluster : Cluster) : Deed → List (Job Change)
  | .work => (cluster.controller.queue.turn cluster.now).job?.toList
  | _ => []

/-- What a run of the deeds makes of a new controller, with the jobs of which a run began in the
meantime, in the order in which they did. -/
inductive Begins : List Deed → List (Job Change) → Cluster → Prop
  | start {cluster : Cluster} (fresh : cluster.Fresh) : Begins [] [] cluster
  | next {deeds : List Deed} {jobs : List (Job Change)} {cluster after : Cluster} {deed : Deed}
      (begins : Begins deeds jobs cluster) (step : Step cluster deed after) :
      Begins (deeds ++ [deed]) (jobs ++ cluster.begun deed) after

theorem Begins.run (begins : Begins deeds jobs cluster) : Run deeds cluster := by
  induction begins with
  | start fresh => exact .start fresh
  | next _ step ih => exact ih.next step

theorem Run.begins (run : Run deeds cluster) : ∃ jobs, Begins deeds jobs cluster := by
  induction run with
  | start fresh => exact ⟨[], .start fresh⟩
  | next _ step ih =>
    obtain ⟨jobs, begins⟩ := ih
    exact ⟨_, begins.next step⟩

/-! ### The history of the queue -/

/-- What is told of the queue of a set. The tasks were handed in as they were created, as long as
there was a worker. -/
structure Told (deeds : List Deed) (jobs : List (Job Change)) (cluster : Cluster)
    (marks : List (Nat × Queue.Mark Change)) : Prop where
  history : Queue.History marks cluster.now cluster.controller.queue
  starts : Queue.starts marks = jobs
  handed : Queue.submissions marks <+: created deeds
  created : cluster.controller.queue.exit? = none → Queue.submissions marks = created deeds
  verdicts : cluster.queueRecords.filter Notice.isVerdict =
    marks.flatMap fun mark => mark.2.verdicts

theorem Told.work {next : Cluster} (told : Told deeds jobs cluster marks) (run : Run deeds cluster)
    (worked : cluster.work? = some next) :
    ∃ more, Told (deeds ++ [.work]) (jobs ++ cluster.begun .work) next more := by
  obtain ⟨news, does, writes⟩ := work?_writes worked
  obtain ⟨settings, start, course⟩ := told.history
  have handed : Queue.submissions (marks ++ news.map fun mark => (cluster.now, mark)) =
      Queue.submissions marks := by
    rw [Queue.submissions_append, does.submissions_eq, List.append_nil]
  have nothing : Simulation.created (deeds ++ [.work]) = Simulation.created deeds := by
    rw [run.created_next]
    exact List.append_nil _
  refine ⟨marks ++ news.map fun mark => (cluster.now, mark),
    ⟨settings, start, (work?_keeps worked).now ▸ course.work does⟩, ?_, ?_, fun alive => ?_, ?_⟩
  · rw [Queue.starts_append, Queue.starts_at, does.starts_eq, told.starts]
    rfl
  · rw [handed, nothing]
    exact told.handed
  · rw [handed, nothing]
    exact told.created does.works.alive
  · rw [writes, List.filter_append, Queue.verdicts_of_records, told.verdicts, List.flatMap_append,
      List.flatMap_map]

/-- What happens to a queue from outside goes on with its history. What is created is handed in as
long as there is a worker. -/
theorem Outside.course {queue later first : Queue Queue.WakeHeap Change Call} {tasks : List Change}
    {records : List Notice} {start now : Nat} (outside : Outside queue tasks later records)
    (course : Queue.Course start first marks now queue) :
    ∃ handed, Queue.Course start first (marks ++ handed.map fun task => (now, .submitted task)) now
        later ∧
      (handed = [] ∨ handed = tasks ∧ queue.exit? = none) ∧
      (later.exit? = none → handed = tasks ∧ queue.exit? = none) := by
  have silent : marks ++ ([] : List Change).map (fun task => (now, .submitted task)) = marks :=
    List.append_nil _
  cases outside with
  | keep => exact ⟨[], silent.symm ▸ course, .inl rfl, fun alive => ⟨rfl, alive⟩⟩
  | handed alive task =>
    exact ⟨[task], course.submit (Queue.submit?_eq_some.mpr ⟨alive, rfl⟩), .inr ⟨rfl, alive⟩,
      fun _ => ⟨rfl, alive⟩⟩
  | dropped ended task =>
    refine ⟨[], silent.symm ▸ course, .inl rfl, fun alive => ?_⟩
    simp [alive] at ended
  | told cause => exact ⟨[], silent.symm ▸ course.tell cause, .inl rfl, fun alive => ⟨rfl, alive⟩⟩
  | goOn running later =>
    exact ⟨[], course.work (.goOn running later), .inl rfl,
      fun _ => ⟨rfl, by simp [Queue.exit?, running]⟩⟩

theorem Outside.noVerdict {queue later : Queue Queue.WakeHeap Change Call} {tasks : List Change}
    {records : List Notice} (outside : Outside queue tasks later records) :
    records.filter Notice.isVerdict = [] := by
  cases outside <;> rfl

theorem Told.outside (told : Told deeds jobs cluster marks) (run : Run deeds cluster)
    (step : Step cluster deed after) (outside : deed ≠ .work) :
    ∃ more, Told (deeds ++ [deed]) jobs after more := by
  obtain ⟨records, does, written⟩ := step.outside outside
  obtain ⟨settings, start, course⟩ := told.history
  obtain ⟨handed, further, wasAlive, isAlive⟩ := does.course course
  obtain ⟨span, later⟩ := Nat.exists_eq_add_of_le step.now_le
  have noStart (task : Change) : (Queue.Mark.submitted task).started? = none := rfl
  have noEnd (task : Change) : (Queue.Mark.submitted task).verdicts = [] := rfl
  have submitted : Queue.submissions (marks ++ handed.map fun task => (cluster.now, .submitted task)) =
      Queue.submissions marks ++ handed := by
    simp [Queue.submissions, List.filterMap_map, Queue.Mark.submitted?]
  refine ⟨_, ⟨settings, start, later ▸ further.wait span⟩, ?_, ?_, fun alive => ?_, ?_⟩
  · rw [Queue.starts_append, ← told.starts]
    simp [Queue.starts, List.filterMap_map, noStart]
  · rw [submitted, run.created_next]
    rcases wasAlive with rfl | ⟨rfl, alive⟩
    · rw [List.append_nil]
      exact told.handed.trans (List.prefix_append _ _)
    · exact told.created alive ▸ List.prefix_rfl
  · obtain ⟨rfl, alive⟩ := isAlive alive
    rw [submitted, run.created_next, told.created alive]
  · rw [written, List.filter_append, does.noVerdict, List.append_nil, told.verdicts]
    simp [List.flatMap_map, noEnd]

/-- All that happens to the queue of a set is a history of that queue. -/
theorem Begins.told (begins : Begins deeds jobs cluster) : ∃ marks, Told deeds jobs cluster marks := by
  induction begins with
  | @start cluster fresh =>
    obtain ⟨name, settings, same⟩ := fresh.controller_eq
    refine ⟨[], ⟨settings, cluster.now, same ▸ .rest⟩, rfl, List.prefix_rfl, fun _ => rfl, ?_⟩
    simp [queueRecords, fresh.readings]
  | @next deeds jobs cluster after deed begins step ih =>
    obtain ⟨marks, told⟩ := ih
    by_cases isWork : deed = .work
    · subst isWork
      cases step with
      | work worked => exact told.work begins.run worked
    · have nothing : cluster.begun deed = [] := by
        cases deed with
        | work => exact absurd rfl isWork
        | _ => rfl
      rw [nothing, List.append_nil]
      exact told.outside begins.run step isWork

end Simulation.Cluster

end ReplicaSet
