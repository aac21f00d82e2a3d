import Mathlib.Data.List.Induction
import ReplicaSet.Proofs.HeapFifo

/-!
A plain list as a place where things wait. When all things wait equally long and the clock does not
go back, the list and the heap behave alike: what is due was put in before what is not, so that it
is enough to take a part off the front (`WakeHeap.keepsOrder`, `FifoLine.keepsOrder`).
-/
namespace ReplicaSet.Queue

/-- All that waits, in the order in which it was put in. -/
structure FifoLine (α : Type) where
  entries : List (Nat × α)
deriving DecidableEq, Repr

instance : DelayLine FifoLine where
  empty := ⟨[]⟩
  putOff wakeAt item line := ⟨line.entries ++ [(wakeAt, item)]⟩
  -- What is due behind something that is not stays.
  takeDue now line :=
    ((line.entries.takeWhile (·.1 ≤ now)).map Prod.snd, ⟨line.entries.dropWhile (·.1 ≤ now)⟩)
  nextWake? line := line.entries.head?.map Prod.fst
  toList line := line.entries.map Prod.snd

/-! ### What is done with a line -/

inductive Use (α : Type) where
  | putOff (item : α)
  | takeDue
deriving DecidableEq, Repr

namespace DelayLine

variable {δ : Type → Type} [DelayLine δ] {α : Type}

/-- The line after one use at an instant, where everything waits for the same delay. -/
def use (delay : Nat) (line : δ α) : Nat × Use α → δ α
  | (now, .putOff item) => putOff (now + delay) item line
  | (now, .takeDue) => (takeDue now line).2

/-- What the uses, oldest first, make of an empty line. -/
def after (delay : Nat) (uses : List (Nat × Use α)) : δ α :=
  uses.foldl (use delay) empty

theorem after_putOff (delay now : Nat) (item : α) (uses : List (Nat × Use α)) :
    (after delay (uses ++ [(now, .putOff item)]) : δ α) =
      putOff (now + delay) item (after delay uses) := by
  simp [after, use, List.foldl_append]

theorem after_takeDue (delay now : Nat) (uses : List (Nat × Use α)) :
    (after delay (uses ++ [(now, .takeDue)]) : δ α) = (takeDue now (after delay uses)).2 := by
  simp [after, use, List.foldl_append]

/-- Whatever is due in the list is taken out of the line, in the order of the list, and the first in
the list is the next to wake. -/
structure BehavesAs (line : δ α) (waiting : List (Nat × α)) : Prop where
  takeDue : ∀ now, (takeDue now line).1 = (waiting.filter (·.1 ≤ now)).map Prod.snd
  nextWake? : nextWake? line = waiting.head?.map Prod.fst
  toList : (toList line).Perm (waiting.map Prod.snd)

end DelayLine

variable {α : Type} {delay now : Nat} {item : α} {entry : Nat × α} {uses : List (Nat × Use α)}

/-- Whether the use takes out what waits for the instant. -/
def Use.takes (wakeAt : Nat) : Nat × Use α → Bool
  | (now, .takeDue) => wakeAt ≤ now
  | (_, .putOff _) => false

/-- What was put off and has not been taken out since, with the instants for which it waits, in the
order in which it was put off. -/
def outstanding (delay : Nat) : List (Nat × Use α) → List (Nat × α)
  | [] => []
  | (now, .putOff item) :: uses =>
    if uses.any (Use.takes (now + delay)) then outstanding delay uses
    else (now + delay, item) :: outstanding delay uses
  | (_, .takeDue) :: uses => outstanding delay uses

/-- What is put off comes last. -/
theorem outstanding_putOff (delay now : Nat) (item : α) (uses : List (Nat × Use α)) :
    outstanding delay (uses ++ [(now, .putOff item)]) =
      outstanding delay uses ++ [(now + delay, item)] := by
  induction uses with
  | nil => rfl
  | cons first uses ih =>
    obtain ⟨time, use⟩ := first
    cases use with
    | takeDue => exact ih
    | putOff other =>
      simp only [List.cons_append, outstanding, List.any_append, List.any_cons, List.any_nil,
        Use.takes, Bool.or_false, ih]
      split <;> rfl

/-- What is due is outstanding no more, wherever it stands. -/
theorem outstanding_takeDue (delay now : Nat) (uses : List (Nat × Use α)) :
    outstanding delay (uses ++ [(now, .takeDue)]) =
      (outstanding delay uses).filter (now < ·.1) := by
  induction uses with
  | nil => rfl
  | cons first uses ih =>
    obtain ⟨time, use⟩ := first
    cases use with
    | takeDue => exact ih
    | putOff other =>
      simp only [List.cons_append, outstanding, List.any_append, List.any_cons, List.any_nil,
        Use.takes, Bool.or_false, ih]
      by_cases taken : uses.any (Use.takes (time + delay))
      · simp [taken]
      · by_cases due : time + delay ≤ now
        · have notLater : ¬ now < time + delay := by omega
          simp [taken, due, notLater]
        · have isLater : now < time + delay := by omega
          simp [taken, due, isLater]

theorem putOff_of_outstanding (waits : entry ∈ outstanding delay uses) :
    ∃ time, (time, .putOff entry.2) ∈ uses ∧ entry.1 = time + delay := by
  induction uses with
  | nil => cases waits
  | cons first uses ih =>
    have before (old : entry ∈ outstanding delay uses) :
        ∃ time, (time, .putOff entry.2) ∈ first :: uses ∧ entry.1 = time + delay := by
      obtain ⟨time, member, wakeAt⟩ := ih old
      exact ⟨time, List.mem_cons_of_mem _ member, wakeAt⟩
    obtain ⟨time, use⟩ := first
    cases use with
    | takeDue => exact before waits
    | putOff other =>
      rw [outstanding] at waits
      split at waits
      · exact before waits
      · rcases List.mem_cons.mp waits with rfl | old
        · exact ⟨time, List.mem_cons_self, rfl⟩
        · exact before old

/-- What was put off earlier wakes no later. -/
theorem outstanding_inTime (inTime : InTime uses) : InTime (outstanding delay uses) := by
  induction uses with
  | nil => exact .nil
  | cons first uses ih =>
    obtain ⟨later, rest⟩ := List.pairwise_cons.mp inTime
    obtain ⟨time, use⟩ := first
    cases use with
    | takeDue => exact ih rest
    | putOff other =>
      rw [outstanding]
      split
      · exact ih rest
      · refine List.pairwise_cons.mpr ⟨fun entry waits => ?_, ih rest⟩
        obtain ⟨moment, member, wakeAt⟩ := putOff_of_outstanding waits
        have notEarlier := later _ member
        simp only at notEarlier ⊢
        omega

/-- Nothing waits for longer than what is put off now. -/
theorem outstanding_le (past : ∀ use ∈ uses, use.1 ≤ now) (waits : entry ∈ outstanding delay uses) :
    entry.1 ≤ now + delay := by
  obtain ⟨time, member, wakeAt⟩ := putOff_of_outstanding waits
  have early := past _ member
  simp only at early
  omega

/-! ### The heap and the list -/

namespace WakeHeap

variable {line : WakeHeap α} {fifo : List (Waiting α)}

theorem Lists.nextWake? (lists : line.Lists fifo) :
    DelayLine.nextWake? line = fifo.head?.map Waiting.wakeAt := by
  obtain ⟨ordered, contents, inOrder, -⟩ := lists
  obtain ⟨heap, serial⟩ := line
  cases heap with
  | leaf =>
    obtain rfl : fifo = [] := contents.nil_eq.symm
    rfl
  | fork left top right =>
    cases fifo with
    | nil => simp [entries, Heap.toList] at contents
    | cons first rest =>
      obtain rfl := Heap.top_eq_first ordered contents inOrder
      rfl

/-- After any uses in time the heap holds what is outstanding, numbered in the same order. -/
theorem after_lists (delay : Nat) (inTime : InTime uses) :
    ∃ fifo, (DelayLine.after delay uses : WakeHeap α).Lists fifo ∧
      fifo.map (fun entry => (entry.wakeAt, entry.item)) = outstanding delay uses := by
  induction uses using List.reverseRecOn with
  | nil => exact ⟨[], .empty, rfl⟩
  | append_singleton uses last ih =>
    obtain ⟨before, past⟩ := inTime.of_snoc
    obtain ⟨fifo, lists, same⟩ := ih before
    obtain ⟨now, use⟩ := last
    cases use with
    | putOff item =>
      have latest : ∀ entry ∈ (DelayLine.after delay uses : WakeHeap α).entries,
          entry.wakeAt ≤ now + delay := by
        intro entry member
        have listed := List.mem_map_of_mem (f := fun entry => (entry.wakeAt, entry.item))
          (lists.contents.mem_iff.mp member)
        rw [same] at listed
        exact outstanding_le past listed
      rw [DelayLine.after_putOff]
      refine ⟨_, lists.putOff latest item, ?_⟩
      rw [outstanding_putOff, List.map_append, same]
      rfl
    | takeDue =>
      rw [DelayLine.after_takeDue]
      refine ⟨_, (lists.takeDue now).2, ?_⟩
      rw [outstanding_takeDue, ← same, List.filter_map]
      rfl

end WakeHeap

namespace FifoLine

theorem entries_after (delay : Nat) (inTime : InTime uses) :
    (DelayLine.after delay uses : FifoLine α).entries = outstanding delay uses := by
  induction uses using List.reverseRecOn with
  | nil => rfl
  | append_singleton uses last ih =>
    obtain ⟨before, -⟩ := inTime.of_snoc
    have same := ih before
    obtain ⟨now, use⟩ := last
    cases use with
    | putOff item =>
      rw [DelayLine.after_putOff, outstanding_putOff, ← same]
      rfl
    | takeDue =>
      rw [DelayLine.after_takeDue, outstanding_takeDue,
        filter_later_eq_dropWhile now (outstanding_inTime before), ← same]
      rfl

end FifoLine

/-- Whether such a line, used in time, gives out what was put off in the order in which it was. -/
def KeepsOrder (δ : Type → Type) [DelayLine δ] : Prop :=
  ∀ {α : Type} (delay : Nat) (uses : List (Nat × Use α)), InTime uses →
    DelayLine.BehavesAs (DelayLine.after delay uses : δ α) (outstanding delay uses)

theorem WakeHeap.keepsOrder : KeepsOrder WakeHeap := by
  intro α delay uses inTime
  obtain ⟨fifo, lists, same⟩ := after_lists delay inTime
  rw [← same]
  refine ⟨fun now => ?_, ?_, ?_⟩
  · rw [(lists.takeDue now).1, List.filter_map, List.map_map]
    rfl
  · rw [lists.nextWake?]
    cases fifo <;> rfl
  · have contents := lists.contents.map Waiting.item
    rwa [List.map_map]

theorem FifoLine.keepsOrder : KeepsOrder FifoLine := by
  intro α delay uses inTime
  have same := entries_after delay inTime
  refine ⟨fun now => ?_, ?_, ?_⟩
  · rw [filter_due_eq_takeWhile now (outstanding_inTime inTime), ← same]
    rfl
  · rw [← same]
    rfl
  · rw [← same]
    exact .refl _

/-- When the clock goes back, what is due may stand behind what is not. -/
example :
    let uses := [(10, Use.putOff "first"), (0, Use.putOff "second")]
    (DelayLine.takeDue 5 (DelayLine.after 5 uses : WakeHeap String)).1 = ["second"] ∧
      (DelayLine.takeDue 5 (DelayLine.after 5 uses : FifoLine String)).1 = [] := by
  decide

end ReplicaSet.Queue
