import ReplicaSet.Proofs.HeapOrder

/-!
A heap of waiting things as a plain list. As long as nothing is put in that wakes before what was
put in earlier, the heap gives things back in the order in which they came.
-/
namespace ReplicaSet.Queue

section InOrder

variable {α : Type} {wakeAt : α → Nat} {line : List α}

/-- In a line in order of time what is due comes first. -/
theorem filter_due_eq_takeWhile (now : Nat)
    (inOrder : line.Pairwise fun one two => wakeAt one ≤ wakeAt two) :
    line.filter (fun entry => wakeAt entry ≤ now) =
      line.takeWhile fun entry => wakeAt entry ≤ now := by
  induction line with
  | nil => rfl
  | cons first rest ih =>
    obtain ⟨later, inOrder⟩ := List.pairwise_cons.mp inOrder
    by_cases due : wakeAt first ≤ now
    · simp [due, ih inOrder]
    · have nothing : rest.filter (fun entry => wakeAt entry ≤ now) = [] := by
        rw [List.filter_eq_nil_iff]
        intro entry member
        have bound := later entry member
        simp only [decide_eq_true_eq]
        omega
      simp [due, nothing]

/-- And what is not due is the rest of the line. -/
theorem filter_later_eq_dropWhile (now : Nat)
    (inOrder : line.Pairwise fun one two => wakeAt one ≤ wakeAt two) :
    line.filter (fun entry => now < wakeAt entry) =
      line.dropWhile fun entry => wakeAt entry ≤ now := by
  induction line with
  | nil => rfl
  | cons first rest ih =>
    obtain ⟨later, inOrder⟩ := List.pairwise_cons.mp inOrder
    by_cases due : wakeAt first ≤ now
    · have notLater : ¬ now < wakeAt first := by omega
      simp [due, notLater, ih inOrder]
    · have everything : rest.filter (fun entry => now < wakeAt entry) = rest := by
        rw [List.filter_eq_self]
        intro entry member
        have bound := later entry member
        simp only [decide_eq_true_eq]
        omega
      have isLater : now < wakeAt first := by omega
      simp [due, isLater, everything]

end InOrder

/-- The clock does not go back between the events. -/
def InTime {β : Type} (events : List (Nat × β)) : Prop :=
  events.Pairwise fun one two => one.1 ≤ two.1

namespace InTime

variable {β : Type} {now : Nat} {events news : List (Nat × β)}

instance (events : List (Nat × β)) : Decidable (InTime events) :=
  inferInstanceAs (Decidable (List.Pairwise _ _))

/-- What happens now comes after all that is past. -/
theorem append_now (inTime : InTime events) (past : ∀ event ∈ events, event.1 ≤ now)
    (atNow : ∀ event ∈ news, event.1 = now) :
    InTime (events ++ news) ∧ ∀ event ∈ events ++ news, event.1 ≤ now := by
  refine ⟨List.pairwise_append.mpr ⟨inTime, ?_, fun one isOld two isNew => ?_⟩, ?_⟩
  · exact List.pairwise_of_forall_mem_list fun one isOne two isTwo =>
      ((atNow one isOne).trans (atNow two isTwo).symm).le
  · exact (past one isOld).trans (atNow two isNew).ge
  · intro event member
    rcases List.mem_append.mp member with isOld | isNew
    · exact past event isOld
    · exact (atNow event isNew).le

theorem of_snoc {last : Nat × β} (inTime : InTime (events ++ [last])) :
    InTime events ∧ ∀ event ∈ events, event.1 ≤ last.1 := by
  obtain ⟨before, -, ordered⟩ := List.pairwise_append.mp inTime
  exact ⟨before, fun event member => ordered event member last List.mem_cons_self⟩

end InTime

namespace Waiting

variable {α : Type}

/-- Whether `a` was put in before `b`, and does not wake after it. -/
def Precedes (a b : Waiting α) : Prop := a.wakeAt ≤ b.wakeAt ∧ a.serial < b.serial

theorem Precedes.not_notAfter {a b : Waiting α} (first : a.Precedes b) : ¬ b.NotAfter a := by
  obtain ⟨earlier, smaller⟩ := first
  rw [notAfter_iff]
  omega

end Waiting

namespace Heap

variable {α : Type} {count : Nat}

/-- The top of a heap is what was put in first. -/
theorem top_eq_first {left right : Heap α} {top first : Waiting α} {rest : List (Waiting α)}
    (ordered : (fork left top right).Ordered)
    (contents : (fork left top right).toList.Perm (first :: rest))
    (inOrder : (first :: rest).Pairwise Waiting.Precedes) : top = first := by
  by_contra differ
  have within : first ∈ (fork left top right).toList :=
    contents.mem_iff.mpr List.mem_cons_self
  have below : top ∈ rest := by
    have isTop : top ∈ (fork left top right).toList := by simp [toList]
    exact (List.mem_cons.mp (contents.mem_iff.mp isTop)).resolve_left differ
  have above := ordered.top_first within (Ne.symm differ)
  exact (List.rel_of_pairwise_cons inOrder below).not_notAfter above

/-- What is due is taken out in the order in which it was put in, and the rest stays. -/
theorem takeDue_inOrder (now : Nat) {heap : Heap α} {entries : List (Waiting α)} (ordered : heap.Ordered)
    (contents : heap.toList.Perm entries) (inOrder : entries.Pairwise Waiting.Precedes)
    (enough : heap.size ≤ count) :
    (takeDue now count heap).1 = (entries.filter fun entry => entry.wakeAt ≤ now).map Waiting.item ∧
      (takeDue now count heap).2.toList.Perm (entries.filter fun entry => now < entry.wakeAt) := by
  induction count generalizing heap entries with
  | zero =>
    cases heap with
    | leaf =>
      have empty : entries = [] := contents.nil_eq.symm
      simp [takeDue, toList, empty]
    | fork => simp [size] at enough
  | succ count ih =>
    cases heap with
    | leaf =>
      have empty : entries = [] := contents.nil_eq.symm
      simp [takeDue, toList, empty]
    | fork left top right =>
      cases entries with
      | nil => simp [toList] at contents
      | cons first rest =>
        obtain rfl := top_eq_first ordered contents inOrder
        unfold takeDue
        by_cases due : top.wakeAt ≤ now
        · have remaining : (merge left right).toList.Perm rest :=
            (toList_merge left right).trans
              (List.Perm.cons_inv (List.perm_middle.symm.trans contents))
          have smaller : (merge left right).size ≤ count := by
            rw [size_merge]
            simp only [size] at enough
            omega
          obtain ⟨items, stays⟩ :=
            ih (ordered_merge ordered.2.1 ordered.2.2) remaining inOrder.of_cons smaller
          have notLater : ¬ now < top.wakeAt := by omega
          simp [due, notLater, items, stays]
        · have inTime : (top :: rest).Pairwise fun one two => one.wakeAt ≤ two.wakeAt :=
            inOrder.imp And.left
          rw [filter_due_eq_takeWhile now inTime, filter_later_eq_dropWhile now inTime]
          simp [due, contents]

end Heap

namespace WakeHeap

variable {α : Type} {line : WakeHeap α} {fifo : List (Waiting α)}

/-- All that waits in the line, in the order in which it was put in. Nothing wakes before what was
put in earlier. -/
structure Lists (line : WakeHeap α) (fifo : List (Waiting α)) : Prop where
  ordered : line.heap.Ordered
  contents : line.entries.Perm fifo
  inOrder : fifo.Pairwise Waiting.Precedes
  numbered : ∀ entry ∈ fifo, entry.serial < line.nextSerial

namespace Lists

theorem empty : (DelayLine.empty : WakeHeap α).Lists [] where
  ordered := trivial
  contents := .refl _
  inOrder := .nil
  numbered _ member := absurd member List.not_mem_nil

/-- What does not wake before anything else comes last. -/
theorem putOff (lists : line.Lists fifo) {wakeAt : Nat}
    (latest : ∀ entry ∈ line.entries, entry.wakeAt ≤ wakeAt) (item : α) :
    (DelayLine.putOff wakeAt item line).Lists (fifo ++ [⟨wakeAt, line.nextSerial, item⟩]) where
  ordered := Heap.ordered_insert lists.ordered _
  contents :=
    (entries_putOff wakeAt item line).trans
      ((lists.contents.cons _).trans (List.perm_append_singleton _ _).symm)
  inOrder := by
    refine List.pairwise_append.mpr ⟨lists.inOrder, List.pairwise_singleton _ _, ?_⟩
    intro entry member last isLast
    obtain rfl := List.mem_singleton.mp isLast
    exact ⟨latest entry (lists.contents.mem_iff.mpr member), lists.numbered entry member⟩
  numbered entry member := by
    show entry.serial < line.nextSerial + 1
    rcases List.mem_append.mp member with old | new
    · have smaller := lists.numbered entry old
      omega
    · obtain rfl := List.mem_singleton.mp new
      exact Nat.lt_succ_self _

/-- What is due leaves in the order in which it came, and the rest keeps its order. -/
theorem takeDue (lists : line.Lists fifo) (now : Nat) :
    (DelayLine.takeDue now line).1 =
        (fifo.filter fun entry => entry.wakeAt ≤ now).map Waiting.item ∧
      (DelayLine.takeDue now line).2.Lists (fifo.filter fun entry => now < entry.wakeAt) := by
  obtain ⟨items, stays⟩ :=
    Heap.takeDue_inOrder now lists.ordered lists.contents lists.inOrder le_rfl
  refine ⟨items, Heap.ordered_takeDue lists.ordered _ _, stays, ?_, ?_⟩
  · exact lists.inOrder.sublist List.filter_sublist
  · intro entry member
    exact lists.numbered entry (List.mem_filter.mp member).1

end Lists

end WakeHeap

end ReplicaSet.Queue
