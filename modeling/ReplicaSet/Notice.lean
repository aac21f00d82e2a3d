import ReplicaSet.Change
import ReplicaSet.Queue.Basic
import ReplicaSet.Scaling
import ReplicaSet.Store.Request

/-!
What a set reports to its log: each kind of record with its level and its text.
-/
namespace ReplicaSet

inductive Level where
  | error
  | warning
  | info
  | debug
  | trace
deriving DecidableEq, Repr

inductive Notice where
  -- Word from the members.
  | additionIgnored (key : String)
  | additionRepeated (key : String)
  | founderUp (member : Member)
  | joinScheduled (member : Member)
  | removalIgnored (key : String)
  | removalUnknown (key : String)
  | primaryLost (member : Member)
  | leaveScheduled (member : Member)
  | primaryNamed (key : String)
  | primaryUnknown (key : String)
  /-- A change was scheduled when there was no worker any more. -/
  | changeDropped (change : Change)
  -- Runs of changes.
  | founded (member : Member)
  /-- The set was founded on a member that is not tracked any more. -/
  | foundedWithout (member : Member)
  | foundingFailed (member : Member) (cause : StoreError)
  /-- The admission is not the one tracked under its key any more. -/
  | joinStale (member : Member)
  | joinWaits (member : Member) (available : Bool) (primary : Option Member)
  | joined (member : Member)
  | joinFailed (member primary : Member) (cause : StoreError)
  | joinExhausted (member : Member)
  /-- The key is tracked again, under this number. -/
  | leaveStale (member : Member) (id : Nat)
  | leaveWaits (member : Member) (available : Bool) (primary : Option Member)
  | departed (member : Member)
  | leaveFailed (member primary : Member) (cause : StoreError)
  | leaveExhausted (member : Member)
  -- The worker.
  | completed (change : Change) (attempts : Nat)
  | gaveUp (change : Change) (attempts : Nat)
  | workerStopped (cause : StopCause) (inHand : Option Change) (pending : Nat)
  | workerDrained
  | workerCrashed (message : String)
  -- Word from operators.
  | resizeRefused (refusal : ResizeError)
  | resizing (current desired : Nat)
  | primariesDisagree (reports : List String)
  | stopped
deriving DecidableEq, Repr

namespace Notice

def level : Notice → Level
  | foundingFailed _ _ | joinExhausted _ | leaveExhausted _ => .error
  | changeDropped _ | foundedWithout _ | joinFailed _ _ _ | leaveFailed _ _ _ | gaveUp _ _
  | workerCrashed _ | resizeRefused _ | primariesDisagree _ => .warning
  | founderUp _ | primaryLost _ | primaryNamed _ | founded _ | joinStale _ | joined _
  | leaveStale _ _ | departed _ | resizing _ _ | stopped => .info
  | additionIgnored _ | additionRepeated _ | joinScheduled _ | removalIgnored _ | removalUnknown _
  | leaveScheduled _ | primaryUnknown _ | workerStopped _ _ _ | workerDrained => .debug
  | joinWaits _ _ _ | leaveWaits _ _ _ | completed _ _ => .trace

/-- The member whose change wrote the record. Records of callbacks and of the worker have none. -/
def subject? : Notice → Option Member
  | founded member | foundedWithout member | foundingFailed member _ | joinStale member
  | joinWaits member _ _ | joined member | joinFailed member _ _ | joinExhausted member
  | leaveStale member _ | leaveWaits member _ _ | departed member | leaveFailed member _ _
  | leaveExhausted member => some member
  | _ => none

/-- Texts as a set in braces. -/
def braces (texts : List String) : String :=
  "\x7b" ++ ", ".intercalate (texts.map Text.quote) ++ "\x7d"

/-- The text of the record in the log of the set `name`. -/
def text (name : String) : Notice → String
  | additionIgnored key => s!"Replica set {name} is stopped. Ignoring addition of {key}"
  | additionRepeated key => s!"Ignoring duplicate addition of {key}"
  | founderUp member => s!"First member up in {name} is {member.describe}"
  | joinScheduled member => s!"Scheduling addition of {member.describe} to {name}"
  | removalIgnored key => s!"Replica set {name} is stopped. Ignoring removal of {key}"
  | removalUnknown key => s!"Ignoring removal of {key}, which is not a member of {name}"
  | primaryLost member =>
    s!"Primary {member.describe} removed from {name}. Waiting for a new primary."
  | leaveScheduled member => s!"Scheduling removal of {member.describe} from {name}"
  | primaryNamed key => s!"{key} is now primary of {name}"
  | primaryUnknown key =>
    s!"Ignoring primary signal from {key}, which is not a member of {name}"
  | changeDropped change => s!"Replica set is shut down. Dropping {change.describe name}."
  | founded _ => s!"Initialized replica set {name}"
  | foundedWithout _ =>
    s!"Initialized replica set {name}, but the member was removed in the meantime."
  | foundingFailed _ cause =>
    s!"Failed to initialize replica set {name}: {cause.message}. Not retrying."
  | joinStale _ => s!"Member left before it joined replica set {name}. Dropping addition."
  | joinWaits _ available primary =>
    s!"Rescheduling addition of member to replica set {name}: available={available}, primary={Member.describe? primary}"
  | joined _ => s!"Added to replica set {name}"
  | joinFailed _ primary cause =>
    s!"Primary {primary.describe} failed to add member to replica set {name}: {cause.message}. Will retry."
  | joinExhausted _ =>
    s!"Member was never added to replica set {name}. It stays tracked but is not part of the set's configuration."
  | leaveStale _ id =>
    s!"Member rejoined replica set {name} as {id} before it was removed. Dropping removal."
  | leaveWaits _ available primary =>
    s!"Rescheduling removal of member from replica set {name}: available={available}, primary={Member.describe? primary}"
  | departed _ => s!"Removed from replica set {name}"
  | leaveFailed _ primary cause =>
    s!"Primary {primary.describe} failed to remove member from replica set {name}: {cause.message}. Will retry."
  | leaveExhausted _ =>
    s!"Member was never removed from replica set {name}. The set's configuration still lists it."
  | completed change attempts => s!"Completed {change.describe name} after {attempts} attempt(s)"
  | gaveUp change attempts => s!"Giving up on {change.describe name} after {attempts} attempt(s)"
  | workerStopped cause (some change) pending =>
    s!"Reconciliation queue shut down ({cause.describe}). Abandoning {change.describe name} and {pending} other task(s)."
  | workerStopped cause none pending =>
    s!"Reconciliation queue shut down ({cause.describe}). Abandoning {pending} task(s)."
  | workerDrained => "All queue clients dropped and no tasks remain. Exiting."
  | workerCrashed message =>
    s!"Reconciliation worker exited abnormally: task # panicked with message {Text.quote message}"
  | resizeRefused refusal => refusal.message
  | resizing current desired =>
    s!"Resizing replica set {name} from {current} to {desired} member(s)"
  | primariesDisagree reports =>
    s!"Members report multiple primaries (transitioning?): {braces reports}"
  | stopped => s!"Stopped replica set {name}"

end Notice

end ReplicaSet
