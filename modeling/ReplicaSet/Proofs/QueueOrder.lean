import ReplicaSet.Proofs.QueueLineup

/-!
Who runs first, a task that was put off or one that is new. The worker receives what is new and
makes ready what is due at different points of its loop, and what became ready earlier does not
always run earlier.
-/
namespace ReplicaSet.Queue

variable {τ : Type}

/-! ### The order in a line -/

/-- One task is in the line, and the other one is not before it. -/
def Leads (one two : τ) (line : List τ) : Prop :=
  ∃ before after, line = before ++ one :: after ∧ two ∉ before

namespace Leads

variable {one two foremost : τ} {line : List τ}

theorem append (leads : Leads one two line) (more : List τ) : Leads one two (line ++ more) := by
  obtain ⟨before, after, rfl, behind⟩ := leads
  exact ⟨before, after ++ more, by simp, behind⟩

theorem of_mem (present : one ∈ line) (absent : two ∉ line) : Leads one two line := by
  obtain ⟨before, after, rfl⟩ := List.append_of_mem present
  exact ⟨before, after, rfl, fun member => absent (List.mem_append_left _ member)⟩

theorem tail (leads : Leads one two (foremost :: line)) (other : foremost ≠ one) :
    Leads one two line := by
  obtain ⟨before, after, whole, behind⟩ := leads
  cases before with
  | nil => exact absurd (List.cons.inj whole).1 other
  | cons first before =>
    exact ⟨before, after, (List.cons.inj whole).2, fun member => behind (List.mem_cons_of_mem _ member)⟩

/-- Whoever is led is not the foremost. -/
theorem foremost_ne (leads : Leads one two (foremost :: line)) (differ : one ≠ two) :
    foremost ≠ two := by
  obtain ⟨before, after, whole, behind⟩ := leads
  cases before with
  | nil => exact fun same => differ ((List.cons.inj whole).1.symm.trans same)
  | cons first before =>
    obtain rfl := (List.cons.inj whole).1
    exact fun same => behind (same ▸ List.mem_cons_self)

end Leads

/-! ### What a step does to the order -/

namespace Lineup

variable {delay time due : Nat} {lineup first next last : Lineup τ} {task retried new : τ}
  {mark : Mark τ} {marks before since : List (Nat × Mark τ)}

/-- The worker has not received the task. -/
structure Unseen (task : τ) (lineup : Lineup τ) : Prop where
  notReady : task ∉ lineup.ready.map Job.task
  notDelayed : task ∉ lineup.delayed.map fun entry => entry.item.task
  notRun : ∀ job, lineup.worker = .busy job → job.task ≠ task

theorem Step.unseen (step : Step delay time lineup mark next) (alive : next.worker ≠ .gone)
    (unseen : Unseen task lineup) (other : mark ≠ .received task) : Unseen task next := by
  obtain ⟨notReady, notDelayed, notRun⟩ := unseen
  cases step with
  | submitted => exact ⟨notReady, notDelayed, notRun⟩
  | @received received inbox idle =>
    have differ : task ≠ received := fun same => other (same ▸ rfl)
    exact ⟨by simp [List.map_append, differ, notReady], notDelayed, notRun⟩
  | looked idle =>
    have parts := mt (delayed_perm time lineup.delayed).mem_iff.mp notDelayed
    rw [List.mem_append, not_or] at parts
    refine ⟨?_, parts.2, notRun⟩
    rw [List.map_append, List.mem_append, not_or]
    exact ⟨notReady, parts.1⟩
  | started idle foremost =>
    rw [foremost, List.map_cons, List.mem_cons, not_or] at notReady
    refine ⟨notReady.2, notDelayed, fun job busy => ?_⟩
    cases busy
    exact Ne.symm notReady.1
  | finished busy settled => exact ⟨notReady, notDelayed, nofun⟩
  | @putOff job serial busy =>
    have differ := notRun job busy
    exact ⟨notReady, by simp [differ.symm, notDelayed], nofun⟩
  | left exit _ gone => exact absurd gone alive

/-- A task that is not told to be received has not been. -/
theorem Steps.unseen (steps : Steps delay .empty marks lineup) (alive : lineup.worker ≠ .gone)
    (never : ∀ time, (time, .received task) ∉ marks) : Unseen task lineup := by
  induction steps with
  | rest => exact ⟨List.not_mem_nil, List.not_mem_nil, nofun⟩
  | @next marks time mark lineup next steps step ih =>
    refine step.unseen alive (ih step.alive fun time member => ?_) fun same => ?_
    · exact never time (List.mem_append_left _ member)
    · exact never time (same ▸ List.mem_append_right _ List.mem_cons_self)

/-- A task that was received and not started is ready. -/
theorem Steps.ready_of_received (steps : Steps delay first marks lineup)
    (alive : lineup.worker ≠ .gone) (received : ∃ time, (time, .received task) ∈ marks)
    (never : ∀ time job, (time, .started job) ∈ marks → job.task ≠ task) :
    task ∈ lineup.ready.map Job.task := by
  induction steps with
  | rest =>
    obtain ⟨time, member⟩ := received
    cases member
  | @next marks time mark lineup next steps step ih =>
    have before : (∃ time, (time, .received task) ∈ marks) → task ∈ lineup.ready.map Job.task :=
      fun earlier => ih step.alive earlier fun time job member =>
        never time job (List.mem_append_left _ member)
    have now : (∃ time, (time, .received task) ∈ marks) ∨ mark = .received task := by
      obtain ⟨time, member⟩ := received
      rcases List.mem_append.mp member with earlier | last
      · exact .inl ⟨time, earlier⟩
      · exact .inr (Prod.mk.inj (List.mem_singleton.mp last)).2.symm
    cases step with
    | @received received inbox idle =>
      rw [List.map_append, List.mem_append]
      rcases now with earlier | isMark
      · exact .inl (before earlier)
      · cases isMark
        exact .inr List.mem_cons_self
    | looked idle =>
      rw [List.map_append, List.mem_append]
      exact .inl (before (now.resolve_right nofun))
    | @started job ready idle foremost =>
      have old := before (now.resolve_right nofun)
      have other : job.task ≠ task :=
        never time job (List.mem_append_right _ List.mem_cons_self)
      rw [foremost, List.map_cons, List.mem_cons] at old
      exact old.resolve_left (Ne.symm other)
    | submitted | finished | putOff => exact before (now.resolve_right nofun)
    | left exit _ gone => exact absurd gone alive

/-- What is put off stays so until the worker looks for it when it is due. -/
theorem Step.delayed_stays (step : Step delay time lineup mark next) (alive : next.worker ≠ .gone)
    {entry : Waiting (Job τ)} (putOff : entry ∈ lineup.delayed)
    (early : mark = .looked → time < entry.wakeAt) : entry ∈ next.delayed := by
  cases step with
  | looked idle => exact List.mem_filter.mpr ⟨putOff, decide_eq_true (early rfl)⟩
  | submitted | received | started | finished => exact putOff
  | putOff => exact List.mem_append_left _ putOff
  | left exit _ gone => exact absurd gone alive

theorem Step.ready_of_due (step : Step delay time lineup .looked next)
    {entry : Waiting (Job τ)} (putOff : entry ∈ lineup.delayed) (isDue : entry.wakeAt ≤ time) :
    entry.item ∈ next.ready := by
  cases step
  have ripe : entry ∈ lineup.delayed.filter fun entry => entry.wakeAt ≤ time :=
    List.mem_filter.mpr ⟨putOff, decide_eq_true isDue⟩
  exact List.mem_append_right _ (List.mem_map_of_mem ripe)

/-- Who leads among what is ready goes on leading until one of the two is started. -/
theorem Step.leads {one two : τ} (step : Step delay time lineup mark next)
    (alive : next.worker ≠ .gone) (leads : Leads one two (lineup.ready.map Job.task))
    (waits : ∀ job, mark = .started job → job.task ≠ one) :
    Leads one two (next.ready.map Job.task) := by
  cases step with
  | submitted | finished | putOff => exact leads
  | received | looked => exact List.map_append ▸ leads.append _
  | @started job ready idle foremost =>
    rw [foremost, List.map_cons] at leads
    exact leads.tail (waits job rfl)
  | left exit _ gone => exact absurd gone alive

/-- What a worker runs it has started. -/
theorem Steps.started_of_busy {job : Job τ} (steps : Steps delay .empty marks lineup)
    (busy : lineup.worker = .busy job) : ∃ time, (time, .started job) ∈ marks := by
  induction steps with
  | rest => cases busy
  | @next marks time mark lineup next steps step ih =>
    have before : lineup.worker = .busy job → ∃ time', (time', .started job) ∈ marks ++ [(time, mark)] :=
      fun earlier => by
        obtain ⟨time', member⟩ := ih earlier
        exact ⟨time', List.mem_append_left _ member⟩
    cases step with
    | submitted | received | looked => exact before busy
    | started idle foremost =>
      cases busy
      exact ⟨time, List.mem_append_right _ List.mem_cons_self⟩
    | finished | putOff => cases busy
    | left exit _ gone => simp [gone] at busy

/-- Tasks that are handed in once are in the lists once. -/
theorem Steps.tasks_nodup (steps : Steps delay .empty marks lineup)
    (distinct : (submissions marks).Nodup) : lineup.tasks.Nodup := by
  obtain ⟨tasks, same, within⟩ := steps.tasks_subperm
  exact same.nodup_iff.mp (distinct.sublist within)

/-- A task that is put off is nowhere else. -/
theorem notReady_of_putOff (distinct : lineup.tasks.Nodup) (alive : lineup.worker ≠ .gone)
    {entry : Waiting (Job τ)} (putOff : entry ∈ lineup.delayed) :
    entry.item.task ∉ lineup.ready.map Job.task := by
  have apart : lineup.waiting.Nodup := by
    cases worker : lineup.worker with
    | idle => exact tasks_of_idle worker ▸ distinct
    | busy => exact (List.nodup_cons.mp (tasks_of_busy worker ▸ distinct)).2
    | gone => exact absurd worker alive
  intro ready
  have both := (List.nodup_append.mp (List.nodup_append.mp apart).1).2.2
  exact both _ ready _ (List.mem_map_of_mem putOff) rfl

end Lineup

/-! ### A task that was put off, and a new one -/

/-- The worker looks for what is due at the instant `due` or later before it receives the task. -/
def LooksFirst (due : Nat) (task : τ) (before since : List (Nat × Mark τ)) : Prop :=
  ∃ early look late, since = early ++ (look, .looked) :: late ∧ due ≤ look ∧
    ∀ time, (time, .received task) ∉ before ++ early

section LooksFirst

variable {due time : Nat} {task : τ} {mark : Mark τ} {before since : List (Nat × Mark τ)}

theorem LooksFirst.append (looksFirst : LooksFirst due task before since)
    (more : List (Nat × Mark τ)) : LooksFirst due task before (since ++ more) := by
  obtain ⟨early, look, late, rfl, isDue, unreceived⟩ := looksFirst
  exact ⟨early, look, late ++ more, by simp, isDue, unreceived⟩

theorem LooksFirst.of_snoc (looksFirst : LooksFirst due task before (since ++ [(time, mark)])) :
    LooksFirst due task before since ∨
      mark = .looked ∧ due ≤ time ∧ ∀ time, (time, .received task) ∉ before ++ since := by
  obtain ⟨early, look, late, whole, isDue, unreceived⟩ := looksFirst
  rcases List.eq_nil_or_concat late with rfl | ⟨init, final, rfl⟩
  · obtain ⟨rfl, isLook⟩ := List.append_inj' whole rfl
    cases isLook
    exact .inr ⟨rfl, isDue, unreceived⟩
  · rw [List.concat_eq_append, ← List.cons_append, ← List.append_assoc] at whole
    obtain ⟨rfl, -⟩ := List.append_inj' whole rfl
    exact .inl ⟨early, look, init, rfl, isDue, unreceived⟩

end LooksFirst

/-- How a task that waits for the instant `due` stands to a new one. Until the worker either looks
late enough or receives the new task nothing is decided between them. -/
inductive Standing (due : Nat) (retried new : τ) (before since : List (Nat × Mark τ))
    (lineup : Lineup τ) : Prop
  | undecided {entry : Waiting (Job τ)} (putOff : entry ∈ lineup.delayed)
      (wakeAt : entry.wakeAt = due) (same : entry.item.task = retried)
      (unseen : lineup.Unseen new) (unreceived : ∀ time, (time, .received new) ∉ before ++ since)
      (notYet : ¬ LooksFirst due new before since)
  | retriedFirst (leads : Leads retried new (lineup.ready.map Job.task))
      (looksFirst : LooksFirst due new before since)
  | newFirst (leads : Leads new retried (lineup.ready.map Job.task))
      (received : ∃ time, (time, .received new) ∈ before ++ since)
      (notBefore : ¬ LooksFirst due new before since)

theorem Standing.step {delay time due : Nat} {lineup next : Lineup τ} {retried new : τ}
    {mark : Mark τ} {before since : List (Nat × Mark τ)}
    (standing : Standing due retried new before since lineup)
    (step : Lineup.Step delay time lineup mark next) (alive : next.worker ≠ .gone)
    (distinct : next.tasks.Nodup)
    (waits : ∀ job, mark = .started job → job.task ≠ retried ∧ job.task ≠ new) :
    Standing due retried new before (since ++ [(time, mark)]) next := by
  cases standing with
  | retriedFirst leads looksFirst =>
    exact .retriedFirst (step.leads alive leads fun job isStart => (waits job isStart).1)
      (looksFirst.append _)
  | newFirst leads received notBefore =>
    refine .newFirst (step.leads alive leads fun job isStart => (waits job isStart).2) ?_ ?_
    · obtain ⟨moment, member⟩ := received
      exact ⟨moment, List.append_assoc .. ▸ List.mem_append_left _ member⟩
    · intro looksFirst
      rcases looksFirst.of_snoc with earlier | ⟨-, -, unreceived⟩
      · exact notBefore earlier
      · obtain ⟨moment, member⟩ := received
        exact unreceived moment member
  | @undecided entry putOff wakeAt same unseen unreceived notYet =>
    by_cases receives : mark = .received new
    · -- The new task is ready now, and the other one is still put off.
      subst receives
      have stays := step.delayed_stays alive putOff nofun
      have present : new ∈ next.ready.map Job.task := by
        cases step
        simp
      refine .newFirst (.of_mem present (same ▸ Lineup.notReady_of_putOff distinct alive stays))
        ⟨time, by simp⟩ fun looksFirst => ?_
      rcases looksFirst.of_snoc with earlier | ⟨isLook, -⟩
      · exact notYet earlier
      · cases isLook
    · have unseenNext := step.unseen alive unseen receives
      have unreceivedNext : ∀ time', (time', .received new) ∉ before ++ (since ++ [(time, mark)]) := by
        intro time' member
        rw [← List.append_assoc] at member
        rcases List.mem_append.mp member with earlier | last
        · exact unreceived time' earlier
        · exact receives (Prod.mk.inj (List.mem_singleton.mp last)).2.symm
      by_cases looks : mark = .looked ∧ due ≤ time
      · -- The worker makes ready what was put off, and the new task is not there yet.
        obtain ⟨rfl, isDue⟩ := looks
        have present : retried ∈ next.ready.map Job.task :=
          same ▸ List.mem_map_of_mem (step.ready_of_due putOff (wakeAt ▸ isDue))
        exact .retriedFirst (.of_mem present unseenNext.notReady)
          ⟨since, time, [], rfl, isDue, unreceived⟩
      · have stays : entry ∈ next.delayed := by
          refine step.delayed_stays alive putOff fun isLook => ?_
          have tooEarly : ¬ due ≤ time := fun isDue => looks ⟨isLook, isDue⟩
          omega
        refine .undecided stays wakeAt same unseenNext unreceivedNext fun looksFirst => ?_
        rcases looksFirst.of_snoc with earlier | ⟨isLook, isDue, -⟩
        · exact notYet earlier
        · exact looks ⟨isLook, isDue⟩

theorem Standing.steps {delay due : Nat} {lineup last : Lineup τ} {retried new : τ}
    {earlier before since : List (Nat × Mark τ)}
    (standing : Standing due retried new before [] lineup)
    (history : Lineup.Steps delay .empty earlier lineup)
    (steps : Lineup.Steps delay lineup since last) (alive : last.worker ≠ .gone)
    (distinct : (submissions (earlier ++ since)).Nodup)
    (waits : ∀ time job, (time, .started job) ∈ since → job.task ≠ retried ∧ job.task ≠ new) :
    Standing due retried new before since last := by
  induction steps with
  | rest => exact standing
  | @next marks time mark lineup next steps step ih =>
    have handed : (submissions (earlier ++ marks)).Nodup := by
      rw [← List.append_assoc, submissions_append] at distinct
      exact (List.nodup_append.mp distinct).1
    refine (ih step.alive handed fun time job member => ?_).step step alive ?_ fun job isStart => ?_
    · exact waits time job (List.mem_append_left _ member)
    · exact (history.trans (steps.next step)).tasks_nodup distinct
    · exact waits time job (isStart ▸ List.mem_append_right _ List.mem_cons_self)

/-- When a task has just been put off, it stands behind the new one if that was received already. -/
theorem Standing.putOff {delay due : Nat} {lineup : Lineup τ} {retried new : τ}
    {earlier before : List (Nat × Mark τ)} {entry : Waiting (Job τ)}
    (history : Lineup.Steps delay .empty earlier lineup) (alive : lineup.worker ≠ .gone)
    (distinct : (submissions earlier).Nodup) (putOff : entry ∈ lineup.delayed)
    (wakeAt : entry.wakeAt = due) (same : entry.item.task = retried)
    (told : ∀ time, (time, .received new) ∈ before ↔ (time, .received new) ∈ earlier)
    (unrun : ∀ time job, (time, .started job) ∈ earlier → job.task ≠ new) :
    Standing due retried new before [] lineup := by
  have undue : ¬ LooksFirst due new before [] := by
    rintro ⟨early, look, late, whole, -⟩
    simp at whole
  by_cases received : ∃ time, (time, .received new) ∈ before
  · have present : new ∈ lineup.ready.map Job.task :=
      history.ready_of_received alive (received.imp fun time => (told time).mp) unrun
    have absent := Lineup.notReady_of_putOff (history.tasks_nodup distinct) alive putOff
    exact .newFirst (.of_mem present (same ▸ absent)) (by simpa using received) undue
  · rw [not_exists] at received
    refine .undecided putOff wakeAt same (history.unseen alive fun time => ?_)
      (by simpa using received) undue
    exact fun member => received time ((told time).mpr member)

/-- Which of the two is started first follows from how they stand. -/
theorem Standing.started_iff {delay time due : Nat} {lineup after : Lineup τ} {retried new : τ}
    {before since : List (Nat × Mark τ)} {next : Job τ}
    (standing : Standing due retried new before since lineup) (differ : retried ≠ new)
    (distinct : lineup.tasks.Nodup) (step : Lineup.Step delay time lineup (.started next) after)
    (either : next.task = retried ∨ next.task = new) :
    next.task = retried ↔ LooksFirst due new before since := by
  have alive := step.alive
  cases step with
  | started idle foremost =>
    have present : next.task ∈ lineup.ready.map Job.task := by simp [foremost]
    cases standing with
    | undecided putOff _ same unseen =>
      have absent := Lineup.notReady_of_putOff distinct alive putOff
      rcases either with isRetried | isNew
      · exact absurd (isRetried ▸ present) (same ▸ absent)
      · exact absurd (isNew ▸ present) unseen.notReady
    | retriedFirst leads looksFirst =>
      rw [foremost, List.map_cons] at leads
      exact iff_of_true (either.resolve_right (leads.foremost_ne differ)) looksFirst
    | newFirst leads _ notBefore =>
      rw [foremost, List.map_cons] at leads
      exact iff_of_false (leads.foremost_ne differ.symm) notBefore

/-- A task is put off at the instant `put`, and a second one has not run. Of these two the one that
was put off runs first exactly if the worker looks for what is due, when the delay is over, before
it receives the new task. When the new task was handed in does not matter. -/
theorem History.retried_first_iff {ρ : Type} {queue : Queue WakeHeap τ ρ} {put begun now : Nat}
    {before since after : List (Nat × Mark τ)} {retried next : Job τ} {new : τ}
    (history : History (before ++ (put, .ended retried .putOff) :: since ++
      (begun, .started next) :: after) now queue)
    (distinct : (submissions (before ++ (put, .ended retried .putOff) :: since ++
      (begun, .started next) :: after)).Nodup)
    (unrun : ∀ time job, (time, .started job) ∈ before ++ since → job.task ≠ new)
    (waits : ∀ time job, (time, .started job) ∈ since → job.task ≠ retried.task)
    (either : next.task = retried.task ∨ next.task = new) :
    next.task = retried.task ↔
      LooksFirst (put + queue.settings.retryDelay) new before since := by
  obtain ⟨settings, start, course⟩ := history
  obtain ⟨same, fifo, -, steps⟩ := course.steps
  rw [same]
  -- The lists before and after the one task is put off, and when one of the two is started.
  obtain ⟨last, toLast, fromLast⟩ := steps.split
  obtain ⟨final, begins, -⟩ := fromLast.uncons
  rw [List.append_cons] at toLast
  obtain ⟨middle, toMiddle, toEnd⟩ := toLast.split
  obtain ⟨first, toFirst, ends⟩ := toMiddle.split
  have handed : (submissions (before ++ [(put, Mark.ended retried .putOff)] ++ since)).Nodup := by
    rw [List.append_cons before, submissions_append] at distinct
    exact (List.nodup_append.mp distinct).1
  have handedBefore : (submissions (before ++ [(put, Mark.ended retried .putOff)])).Nodup := by
    rw [submissions_append] at handed
    exact (List.nodup_append.mp handed).1
  obtain ⟨entry, putOff, wakeAt, isRetried, idle, busy⟩ :
      ∃ entry ∈ middle.delayed, entry.wakeAt = put + settings.retryDelay ∧
        entry.item.task = retried.task ∧ middle.worker = .idle ∧ first.worker = .busy retried := by
    cases ends.of_single with
    | finished busy settled => exact absurd rfl settled
    | putOff serial busy =>
      exact ⟨_, List.mem_append_right _ List.mem_cons_self, rfl, rfl, rfl, busy⟩
  have differ : retried.task ≠ new := by
    obtain ⟨time, member⟩ := toFirst.started_of_busy busy
    exact unrun time retried (List.mem_append_left _ member)
  have standing : Standing (put + settings.retryDelay) retried.task new before [] middle :=
    .putOff toMiddle (by simp [idle]) handedBefore putOff wakeAt isRetried (by simp)
      fun time job member => unrun time job (List.mem_append_left _ (by simpa using member))
  have stands := standing.steps toMiddle toEnd begins.alive handed fun time job member =>
    ⟨waits time job member, unrun time job (List.mem_append_right _ member)⟩
  exact stands.started_iff differ ((toMiddle.trans toEnd).tasks_nodup handed) begins either

/-! ### A new task that overtakes -/

/-- What is told of a queue until its first task is put off. -/
def toRetry : List (Nat × Mark String) :=
  [(0, .submitted "retried"), (0, .submitted "slow"), (0, .looked), (0, .received "retried"),
    (0, .looked), (0, .started ⟨"retried", 0⟩)]

/-- What is told from then on. While a slow task runs the delay is over, and later than that a new
task is handed in. -/
def overtaking : List (Nat × Mark String) :=
  [(0, .received "slow"), (0, .looked), (0, .started ⟨"slow", 0⟩), (150, .submitted "new"),
    (200, .ended ⟨"slow", 0⟩ .completed), (200, .received "new"), (200, .looked)]

/-- The new task is received at the end of the slow run, before the worker looks for what is due. -/
theorem history_overtaking :
    ∃ queue : Queue WakeHeap String Unit, queue.settings.retryDelay = 100 ∧
      History (toRetry ++ (0, .ended ⟨"retried", 0⟩ .putOff) :: overtaking ++
        [(200, .started ⟨"new", 0⟩)]) 200 queue := by
  let settings : Settings := ⟨100, none, by decide, nofun⟩
  have created : Course 0 (create settings : Queue WakeHeap String Unit) [] 0 (create settings) :=
    .rest
  have submitted := (created.submit (rfl : submit? _ "retried" = some _)).submit
    (rfl : submit? _ "slow" = some _)
  have received := (submitted.work (.park rfl rfl rfl rfl)).work (.receive rfl rfl rfl)
  have slow := (received.work (.run rfl .retry)).work (.start rfl ())
  have handed := ((slow.wait 150).submit (rfl : submit? _ "new" = some _)).wait 50
  have begun := (handed.work (.conclude rfl .done)).work (.start rfl ())
  exact ⟨_, rfl, settings, 0, begun⟩

theorem not_looksFirst_overtaking : ¬ LooksFirst (0 + 100) "new" toRetry overtaking := by
  obtain ⟨queue, delay, history⟩ := history_overtaking
  have unrun : ∀ time job, (time, .started job) ∈ toRetry ++ overtaking → job.task ≠ "new" := by
    intro time job member
    simp only [toRetry, overtaking, List.cons_append, List.nil_append, List.mem_cons, Prod.mk.injEq,
      reduceCtorEq, and_false, false_or, or_false, Mark.started.injEq, List.not_mem_nil] at member
    rcases member with ⟨-, rfl⟩ | ⟨-, rfl⟩
    · decide
    · decide
  rw [← delay]
  intro looksFirst
  have first := (history.retried_first_iff (by decide) unrun (by simp [overtaking])
    (.inr rfl)).mpr looksFirst
  exact absurd first (by decide)

/-- What is handed in after a delay is over is not always run after the task that was delayed. -/
theorem new_overtakes_due :
    ¬ ∀ (queue : Queue WakeHeap String Unit) (put handed begun now : Nat)
      (before since after : List (Nat × Mark String)) (retried next : Job String) (new : String),
      History (before ++ (put, .ended retried .putOff) :: since ++
        (begun, .started next) :: after) now queue →
      (submissions (before ++ (put, .ended retried .putOff) :: since ++
        (begun, .started next) :: after)).Nodup →
      put + queue.settings.retryDelay < handed → (handed, .submitted new) ∈ since →
      (∀ time job, (time, .started job) ∈ since → job.task ≠ retried.task ∧ job.task ≠ new) →
      next.task = retried.task ∨ next.task = new → next.task = retried.task := by
  intro inOrder
  obtain ⟨queue, delay, history⟩ := history_overtaking
  have first := inOrder queue 0 150 200 200 toRetry overtaking [] ⟨"retried", 0⟩ ⟨"new", 0⟩ "new"
    history (by decide) (by simp [delay]) (by decide) (by simp [overtaking]) (.inr rfl)
  exact absurd first (by decide)

end ReplicaSet.Queue
