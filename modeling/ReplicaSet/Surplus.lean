import ReplicaSet.Member

/-!
The surplus member: the one that a shrinking set should give up. A member that calls itself
primary is kept as long as there is another choice.
-/
namespace ReplicaSet

/-- Why no surplus member could be named. -/
inductive SurplusFault where
  | noMembers
deriving DecidableEq, Repr

def SurplusFault.message : SurplusFault → String
  | .noMembers => "Expected at least one member to choose a removal candidate from"

/-- The first member that does not call itself primary, else the first of all. It is a fault of
the caller to ask about no members. -/
def surplusOf (look : Handle → Face) : List Member → Except SurplusFault Member
  | [] => .error .noMembers
  | first :: rest =>
    .ok (((first :: rest).find? fun member => (look member.handle).role ≠ .primary).getD first)

/-- The surplus member of a set that may be empty, in which case there is none. -/
def surplus? (look : Handle → Face) (members : List Member) : Except SurplusFault (Option Member) :=
  if members.isEmpty then .ok none else (surplusOf look members).map some

end ReplicaSet
