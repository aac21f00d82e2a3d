import ReplicaSet.Member

/-!
The roster: which members a set believes it has, and which of them it takes for the primary.
-/
namespace ReplicaSet

/-- The members that a set tracks. -/
structure Roster where
  /-- In order of admission. -/
  members : List Member := []
  /-- The key of the member taken for the primary. -/
  primaryKey : Option String := none
  /-- Whether there has ever been an admission. The first one founds the set, and it is founded
  once, whether or not the store then goes along with it. -/
  founded : Bool := false
  /-- The number for the next admission. -/
  nextId : Nat := 0
  /-- Whether membership is frozen for good. -/
  closed : Bool := false
deriving DecidableEq, Repr

/-- What an admission comes to. -/
inductive Admission where
  /-- The key is tracked already. -/
  | duplicate
  /-- The first member ever. The set has to be founded on it. -/
  | founder (member : Member)
  | newcomer (member : Member)
deriving DecidableEq, Repr

/-- What naming a primary comes to. -/
inductive PrimaryUpdate where
  | changed
  | unchanged
  | unknownMember
deriving DecidableEq, Repr

namespace Roster

/-- The member tracked under the key. -/
def find? (roster : Roster) (key : String) : Option Member :=
  roster.members.find? fun member => member.key = key

/-- Whether a member is tracked under the key. -/
def tracks (roster : Roster) (key : String) : Bool :=
  (roster.find? key).isSome

/-- The number of the member tracked under the key. After a removal and a new admission that is
the number of the latest admission. -/
def idOf? (roster : Roster) (key : String) : Option Nat :=
  (roster.find? key).map Member.id

/-- Whether this admission is the one tracked under its key, and not an earlier one. -/
def isCurrent (roster : Roster) (member : Member) : Bool :=
  roster.idOf? member.key = some member.id

/-- The member taken for the primary. -/
def primary? (roster : Roster) : Option Member :=
  roster.primaryKey.bind roster.find?

/-- Tracks a member under the next number, unless its key is tracked already. -/
def enrol (roster : Roster) (handle : Handle) : Admission × Roster :=
  if roster.tracks handle.key then (.duplicate, roster)
  else
    let member : Member := ⟨roster.nextId, handle⟩
    (if roster.founded then .newcomer member else .founder member,
      { roster with
        members := roster.members ++ [member]
        founded := true
        nextId := roster.nextId + 1 })

/-- Stops tracking a key, and gives back the member that was tracked under it and whether it was
taken for the primary. A primary that leaves is no longer the primary. -/
def dismiss? (roster : Roster) (key : String) : Option (Member × Bool × Roster) :=
  (roster.find? key).map fun member =>
    let wasPrimary : Bool := roster.primaryKey = some key
    (member, wasPrimary,
      { roster with
        members := roster.members.eraseP fun member => member.key = key
        primaryKey := if wasPrimary then none else roster.primaryKey })

/-- Takes the member of that key for the primary. The last word wins, whoever it comes from. -/
def follow (roster : Roster) (key : String) : PrimaryUpdate × Roster :=
  if !roster.tracks key then (.unknownMember, roster)
  else if roster.primaryKey = some key then (.unchanged, roster)
  else (.changed, { roster with primaryKey := some key })

/-- Freezes membership. -/
def close (roster : Roster) : Roster :=
  { roster with closed := true }

end Roster

end ReplicaSet
