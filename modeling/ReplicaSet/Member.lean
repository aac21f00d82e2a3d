import ReplicaSet.Text.Quoted

/-!
Members of a replica set: the nodes that can be part of it, what they last said of themselves,
and the admissions under which the set tracks them.
-/
namespace ReplicaSet

/-- The part that a member last said it plays in its set. -/
inductive Role where
  | unknown
  | primary
  | secondary
deriving DecidableEq, Repr

/-- Where a member lives. -/
inductive Origin where
  /-- It is a node of the store, found there under its key. -/
  | node
  /-- It is a stand-in whose answers are scripted, found by its position among the stand-ins. -/
  | standIn (index : Nat)
deriving DecidableEq, Repr

/-- A reference to a member that may join a set. Two handles with one key are the same member as
far as a set is concerned, wherever they live. -/
structure Handle where
  key : String
  origin : Origin
deriving DecidableEq, Repr

/-- What a member says of itself when it is looked at. -/
structure Face where
  /-- Whether health monitoring last found it alive. -/
  available : Bool
  role : Role
  /-- The address at which it can be reached. -/
  endpoint : Option String
  /-- The address at which it believes the primary can be reached. -/
  primaryEndpoint : Option String
deriving DecidableEq, Repr

/-- The face of a member about which nothing is known. -/
def Face.absent : Face := ⟨false, .unknown, none, none⟩

/-- A member as a set tracks it. -/
structure Member where
  /-- The number it was given on admission, which it has in the configuration of the set. Numbers
  start at zero, and none is given twice. -/
  id : Nat
  handle : Handle
deriving DecidableEq, Repr

namespace Member

def key (member : Member) : String := member.handle.key

/-- How log records name the member. -/
def describe (member : Member) : String :=
  "Member \x7b key: " ++ Text.quote member.key ++ ", id: " ++ toString member.id ++ " \x7d"

/-- How log records name a member that may be missing. -/
def describe? : Option Member → String
  | none => "None"
  | some member => "Some(" ++ member.describe ++ ")"

end Member

end ReplicaSet
