import ReplicaSet.Proofs.FifoLine
import ReplicaSet.Proofs.QueueLineup
import ReplicaSet.Proofs.QueueScripts

/-!
A queue whose delayed jobs are kept in one place or another. Whatever is done with it, places that
keep the order (`KeepsOrder`) cannot be told apart by what the worker does, so that the heap may be
thought of as a plain list (`heap_behaves_as_list`).
-/
namespace ReplicaSet.Queue

variable {δ ε : Type → Type} [DelayLine δ] [DelayLine ε] {τ ρ : Type} {now : Nat}
  {uses : List (Nat × Use (Job τ))}

/-! ### Two places for what is put off -/

/-- The same queue twice, with what is put off in two places that were used in the same way. -/
structure Twins (uses : List (Nat × Use (Job τ))) (one : Queue δ τ ρ) (two : Queue ε τ ρ) :
    Prop where
  delayed : one.delayed = DelayLine.after one.settings.retryDelay uses
  same : two = one.moveTo (DelayLine.after one.settings.retryDelay uses)

/-- The same turn of the worker in both. -/
inductive Turn.Twins (uses : List (Nat × Use (Job τ))) : Turn δ τ ρ → Turn ε τ ρ → Prop
  | rest : Turn.Twins uses .rest .rest
  | move {one : Queue δ τ ρ} {two : Queue ε τ ρ} (twins : Queue.Twins uses one two) :
      Turn.Twins uses (.move one) (.move two)
  | start {one : Queue δ τ ρ} {two : Queue ε τ ρ} (job : Job τ) (twins : Queue.Twins uses one two) :
      Turn.Twins uses (.start job one) (.start job two)
  | leave {one : Queue δ τ ρ} {two : Queue ε τ ρ} (exit : Exit τ)
      (twins : Queue.Twins uses one two) : Turn.Twins uses (.leave exit one) (.leave exit two)

/-- What the worker does with what is put off when it takes its turn. -/
def looks (queue : Queue δ τ ρ) : List (Use (Job τ)) :=
  match queue.phase with
  | .awake => [.takeDue]
  | _ => []

/-- What is told of the place where jobs are put off. -/
def Mark.use? : Mark τ → Option (Use (Job τ))
  | looked => some .takeDue
  | ended job .putOff => some (.putOff ⟨job.task, job.attempts + 1⟩)
  | _ => none

def usesTold (marks : List (Nat × Mark τ)) : List (Nat × Use (Job τ)) :=
  marks.filterMap fun mark => mark.2.use?.map (mark.1, ·)

namespace Twins

variable {one : Queue δ τ ρ} {two : Queue ε τ ρ}

theorem phase (twins : Twins uses one two) : two.phase = one.phase :=
  congrArg Queue.phase twins.same

theorem inbox (twins : Twins uses one two) : two.inbox = one.inbox :=
  congrArg Queue.inbox twins.same

theorem lookAround (twins : Twins uses one two) (inOrder : KeepsOrder δ)
    (alsoInOrder : KeepsOrder ε) (inTime : InTime (uses ++ [(now, .takeDue)])) :
    Turn.Twins (uses ++ [(now, .takeDue)]) (one.lookAround now) (two.lookAround now) := by
  obtain ⟨delayed, rfl⟩ := twins
  -- The order counts twice: for what is taken out now, and for what is first among the rest.
  have before := inTime.of_snoc.1
  have items : (DelayLine.takeDue now
      (DelayLine.after one.settings.retryDelay uses : ε (Job τ))).1 =
        (DelayLine.takeDue now one.delayed).1 := by
    rw [delayed, (inOrder _ _ before).takeDue, (alsoInOrder _ _ before).takeDue]
  have rest : (DelayLine.takeDue now one.delayed).2 =
      DelayLine.after one.settings.retryDelay (uses ++ [(now, .takeDue)]) := by
    rw [delayed, DelayLine.after_takeDue]
  have alsoRest : (DelayLine.takeDue now
      (DelayLine.after one.settings.retryDelay uses : ε (Job τ))).2 =
        DelayLine.after one.settings.retryDelay (uses ++ [(now, .takeDue)]) :=
    (DelayLine.after_takeDue _ now uses).symm
  have next : DelayLine.nextWake? (DelayLine.takeDue now
      (DelayLine.after one.settings.retryDelay uses : ε (Job τ))).2 =
        DelayLine.nextWake? (DelayLine.takeDue now one.delayed).2 := by
    rw [rest, alsoRest, (inOrder _ _ inTime).nextWake?, (alsoInOrder _ _ inTime).nextWake?]
  simp only [Queue.lookAround, moveTo, items, next]
  cases one.ready ++ (DelayLine.takeDue now one.delayed).1 with
  | cons job ready =>
    cases one.stop with
    | none => exact .start job ⟨rest, by rw [alsoRest]; rfl⟩
    | some cause => exact .leave _ ⟨rest, by rw [alsoRest]; rfl⟩
  | nil =>
    simp only
    split
    · exact .leave _ ⟨rest, by rw [alsoRest]; rfl⟩
    · exact .move ⟨rest, by rw [alsoRest]; rfl⟩

theorem waitAround (twins : Twins uses one two) (inOrder : KeepsOrder δ)
    (alsoInOrder : KeepsOrder ε) (inTime : InTime uses) :
    Turn.Twins uses (one.waitAround now) (two.waitAround now) := by
  obtain ⟨delayed, rfl⟩ := twins
  have next : DelayLine.nextWake? (DelayLine.after one.settings.retryDelay uses : ε (Job τ)) =
      DelayLine.nextWake? one.delayed := by
    rw [delayed, (inOrder _ _ inTime).nextWake?, (alsoInOrder _ _ inTime).nextWake?]
  simp only [Queue.waitAround, moveTo, next]
  cases stop : one.stop with
  | some cause => exact .leave _ ⟨delayed, by rw [moveTo, stop]⟩
  | none =>
    cases inbox : one.inbox with
    | cons task inbox => exact .move ⟨delayed, rfl⟩
    | nil =>
      simp only
      split
      · exact .move ⟨delayed, rfl⟩
      · exact .rest

theorem turn (twins : Twins uses one two) (inOrder : KeepsOrder δ) (alsoInOrder : KeepsOrder ε)
    (inTime : InTime (uses ++ one.looks.map (now, ·))) :
    Turn.Twins (uses ++ one.looks.map (now, ·)) (one.turn now) (two.turn now) := by
  unfold Queue.turn
  rw [twins.phase]
  unfold looks at inTime ⊢
  cases current : one.phase with
  | awake =>
    rw [current] at inTime
    exact twins.lookAround inOrder alsoInOrder inTime
  | parked =>
    have unused : uses ++ ([] : List (Use (Job τ))).map (now, ·) = uses := List.append_nil uses
    rw [current, unused] at inTime
    rw [unused]
    exact twins.waitAround inOrder alsoInOrder inTime
  | running | exited => exact .rest

theorem conclude (twins : Twins uses one two) (now : Nat) (job : Job τ) (outcome : Outcome) :
    (two.conclude now job outcome).1 = (one.conclude now job outcome).1 ∧
      Twins (uses ++ usesTold [(now, .ended job (one.conclude now job outcome).1)])
        (one.conclude now job outcome).2 (two.conclude now job outcome).2 := by
  obtain ⟨delayed, rfl⟩ := twins
  cases outcome with
  | done =>
    have nothing : usesTold [(now, Mark.ended job .completed)] = [] := rfl
    exact ⟨rfl, by rw [Queue.conclude, nothing, List.append_nil]; exact ⟨delayed, rfl⟩⟩
  | retry =>
    let moved : Queue ε τ ρ := one.moveTo (DelayLine.after one.settings.retryDelay uses)
    cases spent : one.isSpent (job.attempts + 1) with
    | true =>
      have alsoSpent : moved.isSpent (job.attempts + 1) = true := spent
      have nothing : usesTold [(now, Mark.ended job .gaveUp)] = [] := rfl
      rw [verdict_spent spent, verdict_spent alsoSpent, conclude_spent spent,
        conclude_spent alsoSpent, nothing, List.append_nil]
      exact ⟨rfl, delayed, rfl⟩
    | false =>
      have alsoMay : moved.isSpent (job.attempts + 1) = false := spent
      have once : usesTold [(now, Mark.ended job .putOff)] =
          [(now, .putOff ⟨job.task, job.attempts + 1⟩)] := rfl
      rw [verdict_retry spent, verdict_retry alsoMay, conclude_retry spent, conclude_retry alsoMay,
        once]
      refine ⟨rfl, ?_, ?_⟩
      · rw [DelayLine.after_putOff, delayed]
        rfl
      · rw [DelayLine.after_putOff]
        rfl

theorem runOn (twins : Twins uses one two) (job : Job τ) (run : ρ) :
    Twins uses (one.runOn job run) (two.runOn job run) := by
  obtain ⟨delayed, rfl⟩ := twins
  exact ⟨delayed, rfl⟩

theorem exitWith (twins : Twins uses one two) (exit : Exit τ) :
    Twins uses (one.exitWith exit) (two.exitWith exit) := by
  obtain ⟨delayed, rfl⟩ := twins
  exact ⟨delayed, rfl⟩

theorem tellToStop (twins : Twins uses one two) (cause : StopCause) :
    Twins uses (one.tellToStop cause) (two.tellToStop cause) := by
  obtain ⟨delayed, rfl⟩ := twins
  exact ⟨delayed, rfl⟩

theorem submit? (twins : Twins uses one two) (task : τ) :
    one.submit? task = none ∧ two.submit? task = none ∨
      ∃ next also, one.submit? task = some next ∧ two.submit? task = some also ∧
        Twins uses next also ∧ one.exit? = none := by
  obtain ⟨delayed, rfl⟩ := twins
  have exit : (one.moveTo (DelayLine.after one.settings.retryDelay uses : ε (Job τ))).exit? =
      one.exit? := rfl
  unfold Queue.submit?
  rw [exit]
  cases one.exit? with
  | some => exact .inl ⟨rfl, rfl⟩
  | none => exact .inr ⟨_, _, rfl, rfl, ⟨delayed, rfl⟩, rfl⟩

end Twins

/-! ### What is done in both places -/

theorem exit?_of_turn {queue : Queue δ τ ρ} (acts : queue.turn now ≠ .rest) :
    queue.exit? = none := by
  cases phase : queue.phase with
  | exited => exact absurd (by rw [turn, phase]) acts
  | _ => simp [exit?, phase]

theorem usesTold_append (one two : List (Nat × Mark τ)) :
    usesTold (one ++ two) = usesTold one ++ usesTold two :=
  List.filterMap_append

theorem usesTold_at (now : Nat) (news : List (Mark τ)) :
    usesTold (news.map fun mark => (now, mark)) = (news.filterMap Mark.use?).map (now, ·) := by
  simp [usesTold, List.filterMap_map, List.map_filterMap]

omit [DelayLine δ] in
theorem use?_moveMarks (queue : Queue δ τ ρ) :
    queue.moveMarks.filterMap Mark.use? = queue.looks := by
  unfold moveMarks looks
  cases queue.phase with
  | parked => cases queue.inbox <;> rfl
  | _ => rfl

namespace Session

/-- The same has been done in two places, and the same has been told. -/
structure InStep (uses : List (Nat × Use (Job τ))) (one : Session δ τ ρ) (two : Session ε τ ρ) :
    Prop where
  now : two.now = one.now
  marks : two.marks = one.marks
  twins : Queue.Twins uses one.queue two.queue
  inTime : InTime uses
  past : ∀ use ∈ uses, use.1 ≤ one.now
  -- A worker that leaves has looked for what is due, but only that it left is told.
  told : one.queue.exit? = none → usesTold one.marks = uses

namespace InStep

variable {one : Session δ τ ρ} {two : Session ε τ ρ} {queue : Queue δ τ ρ} {also : Queue ε τ ρ}
  {job : Job τ} {news : List (Mark τ)}

theorem create (settings : Settings) (start : Nat) :
    InStep [] (create settings start : Session δ τ ρ) (create settings start : Session ε τ ρ) where
  now := rfl
  marks := rfl
  twins := ⟨rfl, rfl⟩
  inTime := .nil
  past := nofun
  told _ := rfl

/-- What is done at this instant is done in time. -/
theorem done_now (inStep : InStep uses one two) (further : List (Use (Job τ))) :
    InTime (uses ++ further.map (one.now, ·)) ∧
      ∀ use ∈ uses ++ further.map (one.now, ·), use.1 ≤ one.now :=
  inStep.inTime.append_now inStep.past (by simp)

theorem turnTo (inStep : InStep uses one two) (alive : one.queue.exit? = none)
    {further : List (Use (Job τ))}
    (twins : Queue.Twins (uses ++ further.map (one.now, ·)) queue also)
    (tells : queue.exit? = none → news.filterMap Mark.use? = further) :
    InStep (uses ++ further.map (one.now, ·)) (one.turnTo queue news) (two.turnTo also news) := by
  obtain ⟨inTime, past⟩ := inStep.done_now further
  refine ⟨inStep.now, ?_, twins, inTime, past, fun stays => ?_⟩
  · simp only [Session.turnTo, inStep.marks, inStep.now]
  · rw [Session.turnTo, usesTold_append, usesTold_at, inStep.told alive, tells stays]

theorem conclude (inStep : InStep uses one two) (alive : one.queue.exit? = none)
    (twins : Queue.Twins (uses ++ (news.filterMap Mark.use?).map (one.now, ·)) queue also)
    (job : Job τ) (outcome : Outcome) :
    ∃ later, InStep later (one.conclude queue job outcome news)
      (two.conclude also job outcome news) := by
  obtain ⟨verdict, ended⟩ := twins.conclude one.now job outcome
  have received : (queue.inbox.map Mark.received).filterMap Mark.use? = [] := by
    simp [List.filterMap_map, Function.comp_def, Mark.use?]
  have whole : (news ++ Mark.ended job (queue.conclude one.now job outcome).1 ::
      queue.inbox.map Mark.received).filterMap Mark.use? = news.filterMap Mark.use? ++
        [Mark.ended job (queue.conclude one.now job outcome).1].filterMap Mark.use? := by
    rw [List.filterMap_append, ← List.singleton_append, List.filterMap_append, received,
      List.append_nil]
  unfold Session.conclude
  rw [inStep.now, verdict, twins.inbox]
  refine ⟨_, inStep.turnTo alive ?_ fun _ => rfl⟩
  rw [whole, List.map_append, ← List.append_assoc, ← usesTold_at one.now [_]]
  exact ended

/-- What is told may say nothing of what is put off. -/
theorem turnTo_silent (inStep : InStep uses one two) (alive : one.queue.exit? = none)
    (twins : Queue.Twins uses queue also)
    (tells : queue.exit? = none → news.filterMap Mark.use? = []) :
    InStep uses (one.turnTo queue news) (two.turnTo also news) := by
  have same : uses ++ ([] : List (Use (Job τ))).map (one.now, ·) = uses := List.append_nil uses
  rw [← same] at twins
  exact same ▸ inStep.turnTo alive twins tells

theorem resume (inStep : InStep uses one two) {run : ρ} (running : one.queue.phase = .running job run)
    (sequel : Sequel ρ) :
    ∃ later, InStep later (one.resume job sequel) (two.resume job sequel) := by
  have alive : one.queue.exit? = none := by simp [exit?, running]
  cases sequel with
  | goesOn run => exact ⟨_, inStep.turnTo_silent alive (inStep.twins.runOn job run) fun _ => rfl⟩
  | ends outcome =>
    refine inStep.conclude alive ?_ job outcome
    simpa using inStep.twins
  | isStopped cause => exact ⟨_, inStep.turnTo_silent alive (inStep.twins.exitWith _) fun _ => rfl⟩
  | crashes message => exact ⟨_, inStep.turnTo_silent alive (inStep.twins.exitWith _) fun _ => rfl⟩

/-- The worker takes the same turn in both places. -/
theorem turn (inStep : InStep uses one two) (inOrder : KeepsOrder δ) (alsoInOrder : KeepsOrder ε)
    (begun : Job τ → Outcome ⊕ ρ) :
    ∃ later, InStep later (one.perform (.turn begun)) (two.perform (.turn begun)) := by
  have turns := inStep.twins.turn inOrder alsoInOrder (inStep.done_now one.queue.looks).1
  have moveMarks : two.queue.moveMarks = one.queue.moveMarks := by
    unfold Queue.moveMarks
    rw [inStep.twins.phase, inStep.twins.inbox]
  have alive (acts : one.queue.turn one.now ≠ .rest) : one.queue.exit? = none := exit?_of_turn acts
  simp only [perform, inStep.now, moveMarks]
  generalize mine : one.queue.turn one.now = turn at turns alive
  generalize two.queue.turn one.now = other at turns
  cases turns with
  | rest => exact ⟨uses, inStep⟩
  | move twins =>
    exact ⟨_, inStep.turnTo (alive (by simp)) twins fun _ => use?_moveMarks _⟩
  | leave exit twins =>
    exact ⟨_, inStep.turnTo (alive (by simp)) (twins.exitWith exit) (by simp [exit?, exitWith])⟩
  | start job twins =>
    have looked : one.queue.looks = [Mark.looked, Mark.started job].filterMap Mark.use? := by
      rw [looks, (turn_start mine).1]
      rfl
    rw [looked] at twins
    simp only
    cases begun job with
    | inl outcome => exact inStep.conclude (alive (by simp)) twins job outcome
    | inr run => exact ⟨_, inStep.turnTo (alive (by simp)) (twins.runOn job run) fun _ => rfl⟩

theorem perform (inStep : InStep uses one two) (inOrder : KeepsOrder δ) (alsoInOrder : KeepsOrder ε)
    (act : Act τ ρ) : ∃ later, InStep later (one.perform act) (two.perform act) := by
  cases act with
  | turn begun => exact inStep.turn inOrder alsoInOrder begun
  | submit task =>
    rcases inStep.twins.submit? task with ⟨none, alsoNone⟩ | ⟨next, also, some, alsoSome, twins, alive⟩
    · simp only [Session.perform, none, alsoNone]
      exact ⟨uses, inStep⟩
    · simp only [Session.perform, some, alsoSome]
      exact ⟨uses, inStep.turnTo_silent alive twins fun _ => rfl⟩
  | tell cause =>
    exact ⟨uses, inStep.now, inStep.marks, inStep.twins.tellToStop cause, inStep.inTime, inStep.past,
      inStep.told⟩
  | wait span =>
    refine ⟨uses, ?_, inStep.marks, inStep.twins, inStep.inTime, fun use member => ?_, inStep.told⟩
    · simp only [Session.perform, inStep.now]
    · exact (inStep.past use member).trans (Nat.le_add_right _ _)
  | resume sequel =>
    simp only [Session.perform, inStep.twins.phase]
    cases running : one.queue.phase with
    | running job run => exact inStep.resume running sequel
    | _ => exact ⟨uses, inStep⟩

theorem behaves (inStep : InStep uses one two) (inOrder : KeepsOrder δ) :
    DelayLine.BehavesAs one.queue.delayed (outstanding one.queue.settings.retryDelay uses) := by
  rw [inStep.twins.delayed]
  exact inOrder _ _ inStep.inTime

theorem also_behaves (inStep : InStep uses one two) (alsoInOrder : KeepsOrder ε) :
    DelayLine.BehavesAs two.queue.delayed (outstanding one.queue.settings.retryDelay uses) := by
  rw [inStep.twins.same]
  exact alsoInOrder _ _ inStep.inTime

/-- No more can be seen in one place than in the other. -/
theorem seen (inStep : InStep uses one two) (inOrder : KeepsOrder δ) (alsoInOrder : KeepsOrder ε) :
    two.seen = one.seen := by
  have next : DelayLine.nextWake? two.queue.delayed = DelayLine.nextWake? one.queue.delayed :=
    (inStep.also_behaves alsoInOrder).nextWake?.trans (inStep.behaves inOrder).nextWake?.symm
  have same (timer : Timer (Job τ)) :
      (two.queue.moveTo timer : Queue Timer τ ρ) = one.queue.moveTo timer :=
    congrArg (Queue.moveTo · timer) inStep.twins.same
  simp only [Session.seen, inStep.now, inStep.marks, next, same]

/-- The same script comes to the same in both places. -/
theorem play (inStep : InStep uses one two) (inOrder : KeepsOrder δ) (alsoInOrder : KeepsOrder ε)
    (script : List (Session Timer τ ρ → Act τ ρ)) :
    ∃ later, InStep later (one.play script) (two.play script) := by
  induction script generalizing uses one two with
  | nil => exact ⟨uses, inStep⟩
  | cons line script ih =>
    -- What is seen is the same so far, and so is what it makes of this line.
    have seen := inStep.seen inOrder alsoInOrder
    obtain ⟨later, next⟩ := inStep.perform inOrder alsoInOrder (line one.seen)
    rw [Session.play, Session.play, List.foldl_cons, List.foldl_cons, seen]
    exact ih next

end InStep

end Session

/-! ### The heap as a list -/

/-- What is ready after a look for what is due, with the job that is taken out to be run. -/
def Turn.ready : Turn δ τ ρ → List (Job τ)
  | .rest => []
  | .move queue => queue.ready
  | .start job queue => job :: queue.ready
  | .leave exit queue => exit.inHand?.toList ++ queue.ready

theorem ready_lookAround (now : Nat) (queue : Queue δ τ ρ) :
    (queue.lookAround now).ready = queue.ready ++ (DelayLine.takeDue now queue.delayed).1 := by
  simp only [lookAround]
  cases line : queue.ready ++ (DelayLine.takeDue now queue.delayed).1 with
  | cons job ready => cases queue.stop <;> rfl
  | nil =>
    have noReady : queue.ready = [] := (List.append_eq_nil_iff.mp line).1
    simp only
    split <;> exact noReady

/-- The heap behaves as a list in which what is put off stands in the order in which it was.
Whatever was put into the heap and taken out of it in time, what is due is taken out in that order,
and so it is from a list of which the front is taken off. A queue that keeps its delayed jobs in such
a list is seen to do the same at the same instants, whatever script it is played to, and when its
worker looks around the jobs that are due come behind those that are ready. The scripts bring about
all histories of a queue. -/
theorem heap_behaves_as_list :
    KeepsOrder WakeHeap ∧ KeepsOrder FifoLine ∧ ∀ τ ρ : Type,
      (∀ (settings : Settings) (start : Nat) (script : List (Session Timer τ ρ → Act τ ρ)),
        let onHeap : Session WakeHeap τ ρ := (Session.create settings start).play script
        let onList : Session FifoLine τ ρ := (Session.create settings start).play script
        let delayed := outstanding settings.retryDelay (usesTold onHeap.marks)
        onList.seen = onHeap.seen ∧
          (DelayLine.toList onList.queue.delayed).Perm (DelayLine.toList onHeap.queue.delayed) ∧
          (onHeap.queue.exit? = none → DelayLine.BehavesAs onHeap.queue.delayed delayed) ∧
          (onHeap.queue.phase = .awake →
            (onHeap.queue.turn onHeap.now).ready =
              onHeap.queue.ready ++ (delayed.filter (·.1 ≤ onHeap.now)).map Prod.snd)) ∧
      ∀ (marks : List (Nat × Mark τ)) (now : Nat) (queue : Queue WakeHeap τ ρ),
        History marks now queue ↔
          ∃ settings start script,
            (Session.create settings start).play script = ⟨now, queue, marks⟩ := by
  refine ⟨WakeHeap.keepsOrder, FifoLine.keepsOrder, fun τ ρ =>
    ⟨fun settings start script => ?_, fun marks now queue => Session.history_iff⟩⟩
  intro onHeap onList delayed
  obtain ⟨uses, inStep⟩ := (Session.InStep.create settings start).play WakeHeap.keepsOrder
    FifoLine.keepsOrder script
  have settled : onHeap.queue.settings = settings :=
    (Session.recounts_play settings start script).steps.1
  have behaves := inStep.behaves WakeHeap.keepsOrder
  have alsoBehaves := inStep.also_behaves FifoLine.keepsOrder
  have alive (stays : onHeap.queue.exit? = none) :
      DelayLine.BehavesAs onHeap.queue.delayed delayed := by
    rw [settled, ← inStep.told stays] at behaves
    exact behaves
  refine ⟨inStep.seen WakeHeap.keepsOrder FifoLine.keepsOrder,
    alsoBehaves.toList.trans behaves.toList.symm, alive, fun awake => ?_⟩
  have stays : onHeap.queue.exit? = none := by simp [exit?, awake]
  rw [turn, awake, ready_lookAround, (alive stays).takeDue]

/-- Three tasks are put off, two of them at one instant, and the clock jumps past the timer and over
the end of all three delays. -/
def oversleep : List (Session Timer String Unit → Act String Unit) :=
  let retry : Session Timer String Unit → Act String Unit := fun _ => .turn fun _ => .inl .retry
  [fun _ => .submit "one", fun _ => .submit "two", fun _ => .submit "three",
    retry, retry, retry, retry, fun _ => .wait 10, retry, retry,
    fun seen => .wait (seen.queue.delayed.getD seen.now - seen.now + 50), retry]

/-- A job that fails is run again after a while, three times in all. -/
def thrice : Settings where
  retryDelay := 100
  maxAttempts := some 3
  retryDelay_pos := by decide
  maxAttempts_pos := by simp

def overslept (δ : Type → Type) [DelayLine δ] : Session δ String Unit :=
  (Session.create thrice 0).play oversleep

/-- All three are due at once, and they become ready in the order in which they were put off. -/
theorem heap_behaves_as_list_overslept :
    (overslept WakeHeap).now = 150 ∧ (overslept WakeHeap).queue.phase = .awake ∧
      (overslept WakeHeap).queue.exit? = none ∧
      (overslept FifoLine).marks = (overslept WakeHeap).marks ∧
      (10, .ended ⟨"three", 0⟩ .putOff) ∈ (overslept FifoLine).marks ∧
      DelayLine.nextWake? (overslept WakeHeap).queue.delayed = some 100 ∧
      ((overslept WakeHeap).queue.turn (overslept WakeHeap).now).ready =
        [⟨"one", 1⟩, ⟨"two", 1⟩, ⟨"three", 1⟩] := by
  have onHeap : (Session.create thrice 0).play oversleep = overslept WakeHeap := rfl
  have onList : (Session.create thrice 0).play oversleep = overslept FifoLine := rfl
  have waiting : outstanding thrice.retryDelay (usesTold (overslept WakeHeap).marks) =
      [(100, ⟨"one", 1⟩), (100, ⟨"two", 1⟩), (110, ⟨"three", 1⟩)] := by decide +kernel
  obtain ⟨same, -, behaves, readies⟩ :=
    (heap_behaves_as_list.2.2 String Unit).1 thrice 0 oversleep
  rw [onHeap] at same behaves readies
  rw [onList] at same
  have told := congrArg Session.marks same
  have awake : (overslept WakeHeap).queue.phase = .awake := rfl
  have alive : (overslept WakeHeap).queue.exit? = none := by simp [exit?, awake]
  have next := (behaves alive).nextWake?
  have ready := readies awake
  rw [waiting] at next ready
  exact ⟨by decide +kernel, awake, alive, told, by decide +kernel, next,
    ready.trans (by decide +kernel)⟩

end ReplicaSet.Queue
