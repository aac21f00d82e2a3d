import Mathlib.Data.List.Perm.Basic
import Mathlib.Algebra.Order.Group.Multiset
import Mathlib.Tactic.Abel
import ReplicaSet.Queue.WakeHeap

/-!
What a heap of waiting things holds. Putting things in and taking them out neither loses nor
doubles any, and what is taken out has waited long enough.
-/
namespace ReplicaSet.Queue

namespace Heap

variable {α : Type}

theorem toList_weave {left right : Heap α} {top : Waiting α} {onto : Heap α → Heap α}
    (merged : ∀ other, (onto other).toList.Perm (right.toList ++ other.toList)) (other : Heap α) :
    (weave left top right onto other).toList.Perm
      ((fork left top right).toList ++ other.toList) := by
  -- `merged` is what is known of a merge into the right part, from the induction in `toList_merge`.
  induction other with
  | leaf => simp [weave, toList]
  | fork left' top' right' _ ih =>
    unfold weave
    split
    · simp only [toList, ← Multiset.coe_eq_coe, ← Multiset.coe_add, ← Multiset.cons_coe,
        ← Multiset.singleton_add] at ih ⊢
      rw [ih]
      abel
    · have rest := merged (fork left' top' right')
      simp only [toList, ← Multiset.coe_eq_coe, ← Multiset.coe_add, ← Multiset.cons_coe,
        ← Multiset.singleton_add] at rest ⊢
      rw [rest]
      abel

theorem toList_merge (heap other : Heap α) :
    (heap.merge other).toList.Perm (heap.toList ++ other.toList) := by
  induction heap generalizing other with
  | leaf => exact .refl _
  | fork left top right _ ih => exact toList_weave ih other

theorem toList_insert (entry : Waiting α) (heap : Heap α) :
    (heap.insert entry).toList.Perm (entry :: heap.toList) :=
  toList_merge (fork leaf entry leaf) heap

theorem size_eq_length (heap : Heap α) : heap.size = heap.toList.length := by
  induction heap with
  | leaf => rfl
  | fork left top right ihLeft ihRight =>
    simp only [size, toList, List.length_append, List.length_cons, ihLeft, ihRight]
    omega

theorem size_merge (heap other : Heap α) : (heap.merge other).size = heap.size + other.size := by
  have length := (toList_merge heap other).length_eq
  simpa only [size_eq_length, List.length_append] using length

/-- What is taken out was due, and together with what stays it is all that was there. -/
theorem takeDue_spec (now count : Nat) (heap : Heap α) :
    ∃ due : List (Waiting α), (takeDue now count heap).1 = due.map Waiting.item ∧
      (∀ entry ∈ due, entry.wakeAt ≤ now) ∧
      (due ++ (takeDue now count heap).2.toList).Perm heap.toList := by
  induction count generalizing heap with
  | zero => exact ⟨[], by simp [takeDue]⟩
  | succ count ih =>
    cases heap with
    | leaf => exact ⟨[], by simp [takeDue]⟩
    | fork left top right =>
      unfold takeDue
      split
      · rename_i isDue
        obtain ⟨due, items, early, contents⟩ := ih (merge left right)
        refine ⟨top :: due, by simp [items], ?_, ?_⟩
        · intro entry member
          rcases List.mem_cons.mp member with rfl | old
          · exact isDue
          · exact early entry old
        · have whole := (contents.trans (toList_merge left right)).cons top
          exact whole.trans List.perm_middle.symm
      · exact ⟨[], by simp⟩

/-- When enough is taken out, whatever is then on top has to wait longer. -/
theorem takeDue_top {now count : Nat} {heap left right : Heap α} {top : Waiting α}
    (enough : heap.size ≤ count) (rest : (takeDue now count heap).2 = fork left top right) :
    now < top.wakeAt := by
  induction count generalizing heap with
  | zero =>
    cases heap with
    | leaf => cases rest
    | fork => simp [size] at enough
  | succ count ih =>
    cases heap with
    | leaf => cases rest
    | fork left' top' right' =>
      unfold takeDue at rest
      split at rest
      · have smaller : (merge left' right').size ≤ count := by
          rw [size_merge]
          simp only [size] at enough
          omega
        exact ih smaller rest
      · cases rest
        omega

end Heap

namespace WakeHeap

variable {α : Type}

/-- All that waits, with the instants. -/
def entries (line : WakeHeap α) : List (Waiting α) := line.heap.toList

theorem toList_eq (line : WakeHeap α) : DelayLine.toList line = line.entries.map Waiting.item := rfl

@[simp]
theorem entries_empty : (DelayLine.empty : WakeHeap α).entries = [] := rfl

theorem entries_putOff (wakeAt : Nat) (item : α) (line : WakeHeap α) :
    (DelayLine.putOff wakeAt item line).entries.Perm
      (⟨wakeAt, line.nextSerial, item⟩ :: line.entries) :=
  Heap.toList_insert _ _

theorem takeDue_spec (now : Nat) (line : WakeHeap α) :
    ∃ due : List (Waiting α), (DelayLine.takeDue now line).1 = due.map Waiting.item ∧
      (∀ entry ∈ due, entry.wakeAt ≤ now) ∧
      (due ++ (DelayLine.takeDue now line).2.entries).Perm line.entries :=
  Heap.takeDue_spec now line.heap.size line.heap

theorem mem_of_takeDue {now : Nat} {line : WakeHeap α} {entry : Waiting α}
    (stays : entry ∈ (DelayLine.takeDue now line).2.entries) : entry ∈ line.entries := by
  obtain ⟨due, -, -, contents⟩ := takeDue_spec now line
  exact contents.mem_iff.mp (List.mem_append_right _ stays)

theorem nextWake?_eq_none_iff (line : WakeHeap α) :
    DelayLine.nextWake? line = none ↔ line.entries = [] := by
  obtain ⟨heap, serial⟩ := line
  cases heap with
  | leaf => simp [DelayLine.nextWake?, entries, Heap.toList]
  | fork => simp [DelayLine.nextWake?, entries, Heap.toList]

theorem nextWake?_takeDue {now wakeAt : Nat} {line : WakeHeap α}
    (next : DelayLine.nextWake? (DelayLine.takeDue now line).2 = some wakeAt) : now < wakeAt := by
  cases rest : (line.heap.takeDue now line.heap.size).2 with
  | leaf => simp [DelayLine.nextWake?, DelayLine.takeDue, rest] at next
  | fork left top right =>
    simp only [DelayLine.nextWake?, DelayLine.takeDue, rest, Option.some.injEq] at next
    exact next ▸ Heap.takeDue_top le_rfl rest

end WakeHeap

end ReplicaSet.Queue
