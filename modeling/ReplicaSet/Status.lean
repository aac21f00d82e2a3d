/-!
The status of a set, and the bulletin on which it is published. Readers of a bulletin see the
latest status; what was replaced before they looked they never see.
-/
namespace ReplicaSet

/-- The stages in the life of a set. -/
inductive Stage where
  /-- No member has been added yet. -/
  | empty
  /-- The first member was added, and its founding call has not finished. -/
  | bootstrapping
  /-- The set was founded. Members join and leave from here on. -/
  | stable
  /-- The set could not be founded. An operator has to step in. -/
  | degraded
  /-- The set was shut down. -/
  | stopped
deriving DecidableEq, Repr

structure Status where
  stage : Stage
  /-- Whether clients can be served. -/
  serviceUp : Bool
deriving DecidableEq, Repr

/-- All that was published, the latest apart. -/
structure Bulletin where
  latest : Status
  /-- What came before, newest first. -/
  earlier : List Status := []
deriving DecidableEq, Repr

namespace Bulletin

/-- The bulletin of a new set. -/
def blank : Bulletin := { latest := ⟨.empty, false⟩ }

def publish (bulletin : Bulletin) (stage : Stage) (serviceUp : Bool) : Bulletin :=
  ⟨⟨stage, serviceUp⟩, bulletin.latest :: bulletin.earlier⟩

/-- How often something was published since the set was created. -/
def version (bulletin : Bulletin) : Nat := bulletin.earlier.length

/-- All that was published, oldest first. -/
def history (bulletin : Bulletin) : List Status :=
  (bulletin.latest :: bulletin.earlier).reverse

end Bulletin

/-- One reader of a bulletin: the version it has seen. -/
structure Listener where
  seen : Nat
deriving DecidableEq, Repr

/-- What a reader finds when it asks for news. -/
inductive News where
  /-- A status that it has not seen. -/
  | status (status : Status)
  /-- Nothing new so far. -/
  | pending
  /-- Nothing new, and nobody is left to publish anything. -/
  | closed
deriving DecidableEq, Repr

namespace Listener

/-- A reader who counts as having seen only what stood there when the set was created. -/
def fresh : Listener := ⟨0⟩

/-- Looks for news once. News that is found counts as seen. -/
def next (listener : Listener) (bulletin : Bulletin) (isOpen : Bool) : News × Listener :=
  if listener.seen < bulletin.version then (.status bulletin.latest, ⟨bulletin.version⟩)
  else if isOpen then (.pending, listener)
  else (.closed, listener)

end Listener

end ReplicaSet
