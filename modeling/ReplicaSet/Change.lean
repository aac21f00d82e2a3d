import ReplicaSet.Member

/-!
Changes to the structure of a set. They are the tasks of its queue, so that no two of them are
ever under way at once.
-/
namespace ReplicaSet

inductive Change where
  /-- Found the set on its first member. -/
  | found (member : Member)
  /-- Add a member, once it is available and there is a primary. -/
  | join (member : Member)
  /-- Remove a member that left, once it is no longer available and there is a primary. -/
  | leave (member : Member)
deriving DecidableEq, Repr

namespace Change

/-- The member that the change is about. -/
def member : Change → Member
  | found member => member
  | join member => member
  | leave member => member

/-- How log records of the set `name` describe the change. -/
def describe (name : String) : Change → String
  | found member => s!"bootstrap of {name} from {member.describe}"
  | join member => s!"addition of {member.describe} to {name}"
  | leave member => s!"removal of {member.describe} from {name}"

end Change

end ReplicaSet
