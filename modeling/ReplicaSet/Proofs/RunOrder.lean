import ReplicaSet.Proofs.ChangeRuns
import ReplicaSet.Proofs.Requests

/-!
The order in which a set makes its changes. It is founded before anything else, members join in the
order of their numbers, and nobody is removed before its own change to come in has run.
-/
namespace ReplicaSet.Simulation

variable {deeds : List Deed} {member earlier later : Member}

/-! ### The order in which changes are created -/

/-- The first change that is ever created founds the set. -/
theorem created_head (deeds : List Deed) :
    created deeds = [] ∨ ∃ founder rest, created deeds = .found founder :: rest := by
  induction deeds using List.reverseRecOn with
  | nil => exact .inl rfl
  | append_singleton deeds deed ih =>
    rw [created_snoc]
    rcases ih with none | ⟨founder, rest, whole⟩
    · have chronicled := chronicled_created deeds
      rw [none] at chronicled ⊢
      have nobody : (heard deeds).members = [] :=
        List.eq_nil_iff_forall_not_mem.mpr fun member tracked =>
          absurd (chronicled.admitted member tracked) List.not_mem_nil
      have noNumber : (heard deeds).nextId = 0 := List.range_eq_nil.mp chronicled.numbers.symm
      have unfounded : (heard deeds).founded = false :=
        Bool.eq_false_iff.mpr fun founded => by
          have number := chronicled.sound.founded_iff.mp founded
          omega
      cases deed with
      | up handle =>
        by_cases ignored : (heard deeds).closed || (heard deeds).tracks handle.key
        · exact .inl (by simp [commissions, ignored])
        · refine .inr ⟨⟨(heard deeds).nextId, handle⟩, [], ?_⟩
          simp [commissions, ignored, Controller.entrance, unfounded]
      | down handle => exact .inl (by simp [commissions, Roster.find?, nobody])
      | _ => exact .inl rfl
    · exact .inr ⟨founder, rest ++ commissions (heard deeds) deed, by rw [whole]; rfl⟩

/-- A deed creates one change at most. -/
theorem commissions_cases (roster : Roster) (deed : Deed) :
    commissions roster deed = [] ∨ ∃ change, commissions roster deed = [change] := by
  cases deed with
  | up handle =>
    by_cases ignored : roster.closed || roster.tracks handle.key
    · exact .inl (by simp [commissions, ignored])
    · exact .inr ⟨Controller.entrance roster handle, by simp [commissions, ignored]⟩
  | down handle =>
    by_cases closed : roster.closed
    · exact .inl (by simp [commissions, closed])
    · cases found : roster.find? handle.key with
      | none => exact .inl (by simp [commissions, found])
      | some member => exact .inr ⟨.leave member, by simp [commissions, closed, found]⟩
  | _ => exact .inl rfl

/-- Whoever is to be removed was to be brought in before. -/
theorem created_entrance_leads (left : .leave member ∈ created deeds) :
    ∃ entrance : Change, entrance.entrant? = some member ∧
      Queue.Leads entrance (.leave member) (created deeds) := by
  induction deeds using List.reverseRecOn with
  | nil => cases left
  | append_singleton deeds deed ih =>
    have dismissed := (chronicled_created (deeds ++ [deed])).dismissed member left
    rw [created_snoc] at left dismissed ⊢
    by_cases before : .leave member ∈ created deeds
    · obtain ⟨entrance, entrant, leads⟩ := ih before
      exact ⟨entrance, entrant, leads.append _⟩
    · obtain ⟨entrance, isCreated, entrant⟩ := List.mem_filterMap.mp dismissed.1
      have isNew := (List.mem_append.mp left).resolve_left before
      refine ⟨entrance, entrant, .append (.of_mem ?_ before) _⟩
      refine (List.mem_append.mp isCreated).resolve_right fun alsoNew => ?_
      rcases commissions_cases (heard deeds) deed with none | ⟨change, one⟩
      · rw [none] at isNew
        cases isNew
      · rw [one, List.mem_singleton] at isNew alsoNew
        rw [alsoNew, ← isNew] at entrant
        cases entrant

/-- Members are brought in in the order of their numbers. -/
theorem created_join_leads (isCreated : .join earlier ∈ created deeds)
    (smaller : earlier.id < later.id) :
    Queue.Leads (.join earlier) (.join later) (created deeds) := by
  obtain ⟨before, after, whole⟩ := List.append_of_mem isCreated
  refine ⟨before, after, whole, fun isBefore => ?_⟩
  have numbers := (chronicled_created deeds).numbers
  have increasing := List.pairwise_lt_range (n := (heard deeds).nextId)
  rw [← numbers, whole, List.filterMap_append, List.map_append] at increasing
  have ordered := (List.pairwise_append.mp increasing).2.2 later.id
    (List.mem_map_of_mem (List.mem_filterMap.mpr ⟨_, isBefore, rfl⟩)) earlier.id
    (List.mem_map_of_mem (List.mem_filterMap.mpr ⟨_, List.mem_cons_self, rfl⟩))
  omega

namespace Cluster

variable {cluster : Cluster} {jobs : List (Job Change)}

/-! ### The order in which changes are made -/

/-- Changes are first run in the order in which they are created. -/
theorem Begins.runs_lead (begins : Begins deeds jobs cluster) {one two : Change}
    (ahead : Queue.Leads one two (created deeds)) (ran : two ∈ jobs.map Job.task) :
    Queue.Leads one two (jobs.map Job.task) := by
  obtain ⟨marks, told⟩ := begins.told
  rw [← told.starts] at ran ⊢
  exact told.history.runs_lead ahead told.handed ran

theorem Begins.created_of_ran (begins : Begins deeds jobs cluster) {change : Change}
    (ran : change ∈ jobs.map Job.task) : change ∈ created deeds := by
  obtain ⟨marks, told⟩ := begins.told
  rw [← told.starts] at ran
  exact told.handed.subset (told.history.submitted_of_ran ran)

/-- The first change that runs founds the set. -/
theorem Begins.founded_first (begins : Begins deeds jobs cluster) {first : Job Change}
    {rest : List (Job Change)} (whole : jobs = first :: rest) :
    ∃ founder, first.task = .found founder := by
  have ran : first.task ∈ jobs.map Job.task := by simp [whole]
  rcases created_head deeds with none | ⟨founder, others, isCreated⟩
  · have isCreated := begins.created_of_ran ran
    rw [none] at isCreated
    cases isCreated
  · refine ⟨founder, ?_⟩
    by_contra other
    have ahead : Queue.Leads (.found founder) first.task (created deeds) :=
      ⟨[], others, isCreated, List.not_mem_nil⟩
    have leads := begins.runs_lead ahead ran
    rw [whole, List.map_cons] at leads
    exact leads.foremost_ne (Ne.symm other) rfl

/-- Every run of a queue to which no task is handed in twice keeps the order in which tasks are
handed in, and in which they are put off. So a set is founded before anything else is done, members
join in the order of their numbers, and nobody is removed before its own change to come in has
run. -/
theorem runs_in_order :
    (∀ (τ ρ : Type) (marks : List (Nat × Queue.Mark τ)) (now : Nat)
      (queue : Queue Queue.WakeHeap τ ρ), Queue.History marks now queue →
        (Queue.submissions marks).Nodup → Queue.InOrder marks) ∧
    ∀ deeds jobs cluster, Begins deeds jobs cluster →
      (∀ first rest, jobs = first :: rest → ∃ founder, first.task = .found founder) ∧
      (∀ earlier later, .join earlier ∈ created deeds → earlier.id < later.id →
        .join later ∈ jobs.map Job.task →
          Queue.Leads (.join earlier) (.join later) (jobs.map Job.task)) ∧
      ∀ member, .leave member ∈ jobs.map Job.task →
        ∃ entrance : Change, (entrance = .found member ∨ entrance = .join member) ∧
          Queue.Leads entrance (.leave member) (jobs.map Job.task) := by
  refine ⟨fun τ ρ marks now queue history distinct => history.inOrder distinct,
    fun deeds jobs cluster begins => ⟨fun first rest whole => begins.founded_first whole, ?_, ?_⟩⟩
  · intro earlier later isCreated smaller ran
    exact begins.runs_lead (created_join_leads isCreated smaller) ran
  · intro member ran
    obtain ⟨entrance, entrant, ahead⟩ := created_entrance_leads (begins.created_of_ran ran)
    refine ⟨entrance, ?_, begins.runs_lead ahead ran⟩
    cases entrance with
    | found other => exact .inl (congrArg _ (Option.some.inj entrant))
    | join other => exact .inr (congrArg _ (Option.some.inj entrant))
    | leave other => cases entrant

/-- Two tasks that were put off are run again in the same order. A set is founded before a node is
removed, and that node was added before. -/
theorem runs_in_order_repeated :
    (∃ (marks : List (Nat × Queue.Mark String)) (queue : Queue Queue.WakeHeap String Unit),
      Queue.History marks 100 queue ∧ (Queue.submissions marks).Nodup ∧
      Queue.runs marks = ["one", "two", "one", "two"] ∧ Queue.InOrder marks) ∧
    ∃ deeds jobs cluster first rest founder, ∃ entrance : Change, Begins deeds jobs cluster ∧
      jobs = first :: rest ∧ first.task = .found founder ∧
      (entrance = .found ⟨1, ⟨"b", .node⟩⟩ ∨ entrance = .join ⟨1, ⟨"b", .node⟩⟩) ∧
      Queue.Leads entrance (.leave ⟨1, ⟨"b", .node⟩⟩) (jobs.map Job.task) := by
  constructor
  · let settings : Settings := ⟨100, none, by decide, by simp⟩
    let created : Queue Queue.WakeHeap String Unit := .create settings
    let oneWaits : Queue Queue.WakeHeap String Unit := { created with
      ready := [⟨"two", 0⟩]
      delayed := ⟨.fork .leaf ⟨100, 0, ⟨"one", 1⟩⟩ .leaf, 1⟩ }
    let bothWait : Queue Queue.WakeHeap String Unit := { created with
      delayed := ⟨.fork (.fork .leaf ⟨100, 1, ⟨"two", 1⟩⟩ .leaf) ⟨100, 0, ⟨"one", 1⟩⟩ .leaf, 2⟩ }
    have new : Queue.Course 0 created [] 0 created := .rest
    have handed := (new.submit (rfl : Queue.submit? _ "one" = some _)).submit
      (rfl : Queue.submit? _ "two" = some _)
    have received := (handed.work (.park rfl rfl rfl rfl)).work (.receive rfl rfl rfl)
    -- Each state is written out before the next move, which is computed from it.
    have ranOne := received.work (.run rfl .retry)
    change Queue.Course 0 created _ 0 oneWaits at ranOne
    have ranTwo := ranOne.work (.run rfl .retry)
    change Queue.Course 0 created _ 0 bothWait at ranTwo
    have slept := (ranTwo.work (.park rfl rfl rfl rfl)).wait 100
    change Queue.Course 0 created _ 100 { bothWait with phase := .parked } at slept
    have woken := slept.work (.wake rfl rfl)
    change Queue.Course 0 created _ 100 bothWait at woken
    have again := (woken.work (.run rfl .done)).work (.run rfl .done)
    have history : Queue.History _ 100 _ := ⟨settings, 0, again⟩
    exact ⟨_, _, history, by decide, rfl, runs_in_order.1 _ _ _ _ _ history (by decide)⟩
  · obtain ⟨deeds, run⟩ := leaving_run
    obtain ⟨before, begins⟩ := run.begins
    have removed := begins.next (.work (Option.some_get (by decide : leaving.work?.isSome)).symm)
    have isLeave : leaving.begun .work = [⟨.leave ⟨1, ⟨"b", .node⟩⟩, 0⟩] := rfl
    obtain ⟨first, rest, whole⟩ := List.exists_cons_of_ne_nil
      (List.append_ne_nil_of_right_ne_nil before (isLeave ▸ List.cons_ne_nil _ _))
    obtain ⟨founded, -, guarded⟩ := runs_in_order.2 _ _ _ removed
    obtain ⟨founder, isFounding⟩ := founded first rest whole
    obtain ⟨entrance, entrant, leads⟩ := guarded ⟨1, ⟨"b", .node⟩⟩ (by simp [isLeave])
    exact ⟨_, _, _, first, rest, founder, entrance, removed, whole, isFounding, entrant, leads⟩

end Cluster

end ReplicaSet.Simulation
