import ReplicaSet.Proofs.HeapContents

/-!
The order in a heap of waiting things. What is on top wakes first, and of what wakes at one
instant it came first.
-/
namespace ReplicaSet.Queue

namespace Waiting

variable {α : Type}

/-- Whether `a` may be above `b`. -/
def NotAfter (a b : Waiting α) : Prop := b.before a = false

theorem notAfter_iff {a b : Waiting α} :
    a.NotAfter b ↔ a.wakeAt < b.wakeAt ∨ a.wakeAt = b.wakeAt ∧ a.serial ≤ b.serial := by
  simp only [NotAfter, before, Bool.or_eq_false_iff, decide_eq_false_iff_not, Bool.and_eq_false_imp,
    decide_eq_true_eq]
  omega

theorem NotAfter.trans {a b c : Waiting α} (first : a.NotAfter b) (second : b.NotAfter c) :
    a.NotAfter c := by
  rw [notAfter_iff] at first second ⊢
  omega

theorem NotAfter.wakeAt_le {a b : Waiting α} (ordered : a.NotAfter b) : a.wakeAt ≤ b.wakeAt := by
  rw [notAfter_iff] at ordered
  omega

theorem NotAfter.of_before {a b : Waiting α} (earlier : a.before b = true) : a.NotAfter b := by
  simp only [before, Bool.or_eq_true, decide_eq_true_eq, Bool.and_eq_true] at earlier
  rw [notAfter_iff]
  omega

end Waiting

namespace Heap

variable {α : Type}

/-- Nothing is above what has to leave earlier. -/
def Ordered : Heap α → Prop
  | leaf => True
  | fork left top right =>
    (∀ entry ∈ left.toList ++ right.toList, top.NotAfter entry) ∧ left.Ordered ∧ right.Ordered

theorem Ordered.top_first {left right : Heap α} {top entry : Waiting α}
    (ordered : (fork left top right).Ordered) (member : entry ∈ (fork left top right).toList)
    (lower : entry ≠ top) : top.NotAfter entry := by
  rcases List.mem_append.mp member with inLeft | below
  · exact ordered.1 entry (List.mem_append_left _ inLeft)
  · rcases List.mem_cons.mp below with same | inRight
    · exact absurd same lower
    · exact ordered.1 entry (List.mem_append_right _ inRight)

theorem Ordered.wakeAt_le {left right : Heap α} {top entry : Waiting α}
    (ordered : (fork left top right).Ordered) (member : entry ∈ (fork left top right).toList) :
    top.wakeAt ≤ entry.wakeAt := by
  by_cases same : entry = top
  · rw [same]
  · exact (ordered.top_first member same).wakeAt_le

/-- Whatever goes before the top goes before all that is below it. -/
theorem Ordered.notAfter_all {left right : Heap α} {top first entry : Waiting α}
    (ordered : (fork left top right).Ordered) (above : first.NotAfter top)
    (member : entry ∈ (fork left top right).toList) : first.NotAfter entry := by
  by_cases same : entry = top
  · exact same ▸ above
  · exact above.trans (ordered.top_first member same)

theorem ordered_weave {left right : Heap α} {top : Waiting α} {onto : Heap α → Heap α}
    (ordered : (fork left top right).Ordered)
    (merged : ∀ other, (onto other).toList.Perm (right.toList ++ other.toList))
    (kept : ∀ other : Heap α, other.Ordered → (onto other).Ordered) {other : Heap α}
    (otherOrdered : other.Ordered) : (weave left top right onto other).Ordered := by
  induction other with
  | leaf => exact ordered
  | fork left' top' right' _ ih =>
    unfold weave
    split
    · rename_i earlier
      refine ⟨?_, ih otherOrdered.2.2, otherOrdered.2.1⟩
      intro entry member
      rcases List.mem_append.mp member with woven | inLeft
      · rcases List.mem_append.mp ((toList_weave merged right').mem_iff.mp woven) with own | old
        · exact ordered.notAfter_all (.of_before earlier) own
        · exact otherOrdered.1 entry (List.mem_append_right _ old)
      · exact otherOrdered.1 entry (List.mem_append_left _ inLeft)
    · rename_i notEarlier
      refine ⟨?_, kept _ otherOrdered, ordered.2.1⟩
      intro entry member
      rcases List.mem_append.mp member with mixed | inLeft
      · rcases List.mem_append.mp ((merged _).mem_iff.mp mixed) with inRight | old
        · exact ordered.1 entry (List.mem_append_right _ inRight)
        · exact otherOrdered.notAfter_all (Bool.eq_false_iff.mpr notEarlier) old
      · exact ordered.1 entry (List.mem_append_left _ inLeft)

theorem ordered_merge {heap other : Heap α} (ordered : heap.Ordered)
    (otherOrdered : other.Ordered) : (heap.merge other).Ordered := by
  induction heap generalizing other with
  | leaf => exact otherOrdered
  | fork left top right _ ih =>
    exact ordered_weave ordered (toList_merge right) (fun _ => ih ordered.2.2) otherOrdered

theorem ordered_insert {heap : Heap α} (ordered : heap.Ordered) (entry : Waiting α) :
    (heap.insert entry).Ordered :=
  ordered_merge ⟨by simp [toList], trivial, trivial⟩ ordered

theorem ordered_takeDue {heap : Heap α} (ordered : heap.Ordered) (now count : Nat) :
    (takeDue now count heap).2.Ordered := by
  induction count generalizing heap with
  | zero => exact ordered
  | succ count ih =>
    cases heap with
    | leaf => exact ordered
    | fork left top right =>
      unfold takeDue
      split
      · exact ih (ordered_merge ordered.2.1 ordered.2.2)
      · exact ordered

end Heap

namespace WakeHeap

variable {α : Type}

/-- Nothing in an ordered line wakes before the next instant at which anything does. -/
theorem nextWake?_le {line : WakeHeap α} (ordered : line.heap.Ordered) {entry : Waiting α}
    (member : entry ∈ line.entries) :
    ∃ wakeAt, DelayLine.nextWake? line = some wakeAt ∧ wakeAt ≤ entry.wakeAt := by
  obtain ⟨heap, serial⟩ := line
  cases heap with
  | leaf => simp [entries, Heap.toList] at member
  | fork left top right => exact ⟨top.wakeAt, rfl, Heap.Ordered.wakeAt_le ordered member⟩

end WakeHeap

end ReplicaSet.Queue
