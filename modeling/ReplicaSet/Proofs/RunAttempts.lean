import ReplicaSet.Proofs.ChangeRuns
import ReplicaSet.Proofs.Requests

/-!
How often a set runs a change. The log tells so when the last run has ended, and says once at most
that a change was given up.
-/
namespace ReplicaSet.Simulation.Cluster

variable {deeds : List Deed} {jobs : List (Job Change)} {cluster : Cluster}
  {marks : List (Nat × Queue.Mark Change)} {settings : Settings} {notice : Notice} {change : Change}
  {count : Nat}

/-! ### What is told of the last runs -/

/-- Whatever the log tells of a last run, that run has ended. -/
theorem Told.ended (told : Told deeds jobs cluster marks) (verdict : notice.isVerdict = true)
    (noted : notice ∈ cluster.queueRecords) :
    ∃ before time job verdict after, marks = before ++ (time, .ended job verdict) :: after ∧
      notice ∈ verdict.records job := by
  have written : notice ∈ marks.flatMap fun mark => mark.2.verdicts :=
    told.verdicts ▸ List.mem_filter.mpr ⟨noted, verdict⟩
  obtain ⟨⟨time, mark⟩, member, written⟩ := List.mem_flatMap.mp written
  obtain ⟨before, after, whole⟩ := List.append_of_mem member
  cases mark with
  | ended job verdict => exact ⟨before, time, job, verdict, after, whole, written⟩
  | _ => cases written

/-- Whatever is told of a last run is in the log. -/
theorem Told.noted (told : Told deeds jobs cluster marks) {time : Nat} {job : Job Change}
    {verdict : Queue.Verdict} (ended : (time, .ended job verdict) ∈ marks)
    (written : notice ∈ verdict.records job) : notice ∈ cluster.queueRecords := by
  have isTold : notice ∈ marks.flatMap fun mark => mark.2.verdicts :=
    List.mem_flatMap.mpr ⟨_, ended, written⟩
  exact (List.mem_filter.mp (told.verdicts.symm ▸ isTold)).1

theorem Told.obeys (told : Told deeds jobs cluster marks) :
    Queue.Obeys cluster.controller.queue.settings marks :=
  told.history.obeys ((chronicled_created deeds).nodup.sublist told.handed.sublist)

theorem nodup_verdicts (mark : Queue.Mark Change) : mark.verdicts.Nodup := by
  cases mark with
  | ended job verdict =>
    obtain ⟨task, attempts⟩ := job
    cases verdict with
    | completed | putOff => simp [Queue.Mark.verdicts, Queue.Verdict.records]
    | gaveUp =>
      cases task <;> simp [Queue.Mark.verdicts, Queue.Verdict.records, Controller.lastWord]
  | _ => exact .nil

/-- After the last run of a task nothing more is told of the runs of that task. -/
theorem disjoint_verdicts {before after : List (Nat × Queue.Mark Change)} {time later : Nat}
    {mark other : Queue.Mark Change} (obeys : Queue.Obeys settings (before ++ (time, mark) :: after))
    (isLater : (later, other) ∈ after) : mark.verdicts.Disjoint other.verdicts := by
  intro notice told toldAgain
  cases mark with
  | ended job verdict =>
    cases other with
    | ended again fate =>
      obtain ⟨isJob, settled⟩ := Queue.Verdict.judged_records told
      obtain ⟨isAgain, -⟩ := Queue.Verdict.judged_records toldAgain
      exact obeys.settled before time job verdict after rfl settled _ isLater
        (isAgain.symm.trans isJob)
    | _ => cases toldAgain
  | _ => cases told

/-- No run is told to have been the last one of its task twice. -/
theorem verdicts_nodup (obeys : Queue.Obeys settings marks) :
    (marks.flatMap fun mark => mark.2.verdicts).Nodup := by
  have apart (later : List (Nat × Queue.Mark Change)) :
      ∀ earlier, marks = earlier ++ later →
        later.Pairwise fun one two => one.2.verdicts.Disjoint two.2.verdicts := by
    induction later with
    | nil => exact fun _ _ => .nil
    | cons mark later ih =>
      rintro earlier rfl
      exact .cons (fun other isLater => disjoint_verdicts obeys isLater)
        (ih (earlier ++ [mark]) (List.append_cons _ _ _))
  exact List.nodup_flatMap.mpr ⟨fun mark _ => nodup_verdicts mark.2, apart marks [] rfl⟩

theorem completed_of_records {verdict : Queue.Verdict} {job : Job Change}
    (written : .completed change count ∈ verdict.records job) :
    verdict = .completed ∧ job.task = change ∧ job.attempts + 1 = count := by
  cases verdict with
  | completed =>
    cases List.mem_singleton.mp written
    exact ⟨rfl, rfl, rfl⟩
  | gaveUp =>
    obtain ⟨task, attempts⟩ := job
    cases task <;> simp [Queue.Verdict.records, Controller.lastWord] at written
  | putOff => cases written

theorem gaveUp_of_records {verdict : Queue.Verdict} {job : Job Change}
    (written : .gaveUp change count ∈ verdict.records job) :
    verdict = .gaveUp ∧ job.task = change ∧ job.attempts + 1 = count := by
  cases verdict with
  | completed => cases List.mem_singleton.mp written
  | gaveUp =>
    obtain ⟨task, attempts⟩ := job
    cases task <;>
      simpa [Queue.Verdict.records, Controller.lastWord, eq_comm] using written
  | putOff => cases written

theorem judged_lastWord (last : notice ∈ Controller.lastWord change) :
    notice.judged? = some change := by
  have written : notice ∈ Queue.Verdict.records ⟨change, 0⟩ .gaveUp := List.mem_cons_of_mem _ last
  exact (Queue.Verdict.judged_records written).1

/-- Only what is given up has a last word. -/
theorem gaveUp_of_lastWord {verdict : Queue.Verdict} {job : Job Change}
    (last : notice ∈ Controller.lastWord change) (written : notice ∈ verdict.records job) :
    verdict = .gaveUp ∧ job.task = change := by
  refine ⟨?_, Option.some.inj
    ((Queue.Verdict.judged_records written).1.symm.trans (judged_lastWord last))⟩
  cases verdict with
  | completed =>
    obtain rfl := List.mem_singleton.mp written
    cases change <;> simp [Controller.lastWord] at last
  | gaveUp => rfl
  | putOff => cases written

/-! ### How often changes are run -/

/-- What the log says of the runs of changes is true. With the last run of a change it tells how
often the change was run. A change is given up when it has run as often as it may, and has its last
word then and only then. Nothing of this is told twice. -/
structure Tallies (jobs : List (Job Change)) (cluster : Cluster) : Prop where
  completed : ∀ change count, .completed change count ∈ cluster.queueRecords →
    (jobs.map Job.task).count change = count
  gaveUp : ∀ change count, .gaveUp change count ∈ cluster.queueRecords →
    (jobs.map Job.task).count change = count ∧
      cluster.controller.queue.settings.maxAttempts = some count
  lastWord : ∀ change, ∀ notice ∈ Controller.lastWord change,
    (notice ∈ cluster.queueRecords ↔ ∃ count, .gaveUp change count ∈ cluster.queueRecords)
  once : (cluster.queueRecords.filter Notice.isVerdict).Nodup

theorem Begins.tallies (begins : Begins deeds jobs cluster) : Tallies jobs cluster := by
  obtain ⟨marks, told⟩ := begins.told
  have obeys := told.obeys
  have runs : Queue.runs marks = jobs.map Job.task := congrArg _ told.starts
  refine ⟨fun change count noted => ?_, fun change count noted => ?_, fun change notice last => ?_,
    told.verdicts ▸ verdicts_nodup obeys⟩
  · obtain ⟨before, time, job, verdict, after, rfl, written⟩ := told.ended rfl noted
    obtain ⟨rfl, rfl, rfl⟩ := completed_of_records written
    exact runs ▸ obeys.count_eq nofun
  · obtain ⟨before, time, job, verdict, after, rfl, written⟩ := told.ended rfl noted
    obtain ⟨rfl, rfl, rfl⟩ := gaveUp_of_records written
    have spent := ((obeys.exhausted before time job _ after rfl).mp rfl).2
    rw [← obeys.counted before time job _ after rfl] at spent
    exact ⟨runs ▸ obeys.count_eq nofun, spent⟩
  · constructor
    · intro noted
      have isVerdict : notice.isVerdict = true := by simp [Notice.isVerdict, judged_lastWord last]
      obtain ⟨before, time, job, verdict, after, rfl, written⟩ := told.ended isVerdict noted
      obtain ⟨rfl, rfl⟩ := gaveUp_of_lastWord last written
      exact ⟨_, told.noted (List.mem_append_right _ List.mem_cons_self) List.mem_cons_self⟩
    · rintro ⟨count, noted⟩
      obtain ⟨before, time, job, verdict, after, rfl, written⟩ := told.ended rfl noted
      obtain ⟨rfl, rfl, rfl⟩ := gaveUp_of_records written
      exact told.noted (List.mem_append_right _ List.mem_cons_self) (List.mem_cons_of_mem _ last)

/-- Every run of a queue to which no task is handed in twice keeps to the settings: no task runs more
often than the bound allows, it is given up on exactly if the last run that the bound allows has to
be repeated, and what is run again has rested for the whole delay. So what the log of a set says of
the runs of changes is true. -/
theorem runs_bounded :
    (∀ (τ ρ : Type) [DecidableEq τ] (marks : List (Nat × Queue.Mark τ)) (now : Nat)
      (queue : Queue Queue.WakeHeap τ ρ), Queue.History marks now queue →
        (Queue.submissions marks).Nodup → Queue.Obeys queue.settings marks) ∧
    ∀ deeds jobs cluster, Begins deeds jobs cluster → Tallies jobs cluster :=
  ⟨fun _ _ _ _ _ _ history distinct => history.obeys distinct,
    fun _ _ _ begins => begins.tallies⟩

/-- A task that never gets done is given up after its second run if two are allowed. A set was
founded by one run. -/
theorem runs_bounded_twice :
    (∃ (marks : List (Nat × Queue.Mark String)) (queue : Queue Queue.WakeHeap String Unit),
      Queue.History marks 100 queue ∧ (Queue.submissions marks).Nodup ∧
      queue.settings.maxAttempts = some 2 ∧ Queue.runs marks = ["task", "task"] ∧
      marks.getLast? = some (100, .ended ⟨"task", 1⟩ .gaveUp) ∧
      Queue.Obeys queue.settings marks) ∧
    ∃ deeds jobs, Begins deeds jobs joining ∧
      .completed (.found ⟨0, ⟨"a", .node⟩⟩) 1 ∈ joining.queueRecords ∧
      (jobs.map Job.task).count (.found ⟨0, ⟨"a", .node⟩⟩) = 1 := by
  constructor
  · let settings : Settings := ⟨100, some 2, by decide, by simp⟩
    let created : Queue Queue.WakeHeap String Unit := .create settings
    let delayed : Queue Queue.WakeHeap String Unit := { created with
      delayed := ⟨.fork .leaf ⟨100, 0, ⟨"task", 1⟩⟩ .leaf, 1⟩ }
    have new : Queue.Course 0 created [] 0 created := .rest
    have handed := new.submit (rfl : Queue.submit? _ "task" = some _)
    have received := (handed.work (.park rfl rfl rfl rfl)).work (.receive rfl rfl rfl)
    -- Each state is written out before the next move, which is computed from it.
    have ran := received.work (.run rfl .retry)
    change Queue.Course 0 created _ 0 delayed at ran
    have slept := (ran.work (.park rfl rfl rfl rfl)).wait 100
    change Queue.Course 0 created _ 100 { delayed with phase := .parked } at slept
    have woken := slept.work (.wake rfl rfl)
    change Queue.Course 0 created _ 100 delayed at woken
    have history : Queue.History _ 100 _ := ⟨settings, 0, woken.work (.run rfl .retry)⟩
    have obeys := runs_bounded.1 _ _ _ _ _ history (by decide)
    exact ⟨_, _, history, by decide, rfl, rfl, rfl, obeys⟩
  · obtain ⟨deeds, run⟩ := joining_run
    obtain ⟨jobs, begins⟩ := run.begins
    have noted : .completed (.found ⟨0, ⟨"a", .node⟩⟩) 1 ∈ joining.queueRecords := by decide
    exact ⟨deeds, jobs, begins, noted, (runs_bounded.2 _ _ _ begins).completed _ _ noted⟩

end ReplicaSet.Simulation.Cluster
