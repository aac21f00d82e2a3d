import ReplicaSet.Queue.DelayLine

/-!
A heap of waiting things, the first to wake on top. Of things that wake at one instant the one
that was put in first is on top, so that they leave in the order in which they came.
-/
namespace ReplicaSet.Queue

/-- A thing that waits. -/
structure Waiting (α : Type) where
  wakeAt : Nat
  /-- How many things were put in before it. -/
  serial : Nat
  item : α

/-- Whether `a` goes before `b`: it wakes earlier, or at the same instant and came first. -/
def Waiting.before {α : Type} (a b : Waiting α) : Bool :=
  a.wakeAt < b.wakeAt || (a.wakeAt = b.wakeAt && a.serial < b.serial)

/-- A skew heap. -/
inductive Heap (α : Type) where
  | leaf
  | fork (left : Heap α) (top : Waiting α) (right : Heap α)

namespace Heap

variable {α : Type}

/-- One step down the second of two heaps, where `onto` merges what is right of the first one's
top with another heap. -/
def weave (left : Heap α) (top : Waiting α) (right : Heap α) (onto : Heap α → Heap α) :
    Heap α → Heap α
  | leaf => fork left top right
  | fork left' top' right' =>
    if top'.before top then fork (weave left top right onto right') top' left'
    else fork (onto (fork left' top' right')) top left

/-- The contents of both heaps. The two right spines are merged by order, and at each step the
subtrees change sides. -/
def merge : Heap α → Heap α → Heap α
  | leaf => id
  | fork left top right => weave left top right (merge right)

def insert (entry : Waiting α) (heap : Heap α) : Heap α :=
  merge (fork leaf entry leaf) heap

/-- All entries, each subtree's left part first. -/
def toList : Heap α → List (Waiting α)
  | leaf => []
  | fork left top right => left.toList ++ top :: right.toList

def size : Heap α → Nat
  | leaf => 0
  | fork left _ right => left.size + right.size + 1

/-- Takes the top away as long as its wait is over, at most `count` times. -/
def takeDue (now : Nat) : (count : Nat) → Heap α → List α × Heap α
  | 0, heap => ([], heap)
  | _, leaf => ([], leaf)
  | count + 1, fork left top right =>
    if top.wakeAt ≤ now then
      let (items, rest) := takeDue now count (merge left right)
      (top.item :: items, rest)
    else ([], fork left top right)

end Heap

/-- A heap that numbers what is put into it. -/
structure WakeHeap (α : Type) where
  heap : Heap α
  /-- How many things were put in so far. -/
  nextSerial : Nat

instance : DelayLine WakeHeap where
  empty := ⟨.leaf, 0⟩
  putOff wakeAt item line :=
    ⟨line.heap.insert ⟨wakeAt, line.nextSerial, item⟩, line.nextSerial + 1⟩
  takeDue now line :=
    let (items, rest) := line.heap.takeDue now line.heap.size
    (items, { line with heap := rest })
  nextWake? line :=
    match line.heap with
    | .leaf => none
    | .fork _ top _ => some top.wakeAt
  toList line := line.heap.toList.map Waiting.item

end ReplicaSet.Queue
