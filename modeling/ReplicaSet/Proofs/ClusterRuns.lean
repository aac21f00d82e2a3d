import ReplicaSet.Simulation.Cluster

/-!
Runs of one controller. Word comes from outside at any time, also while a request is under way,
the surroundings change as they like, and the worker makes one move at a time.
-/
namespace ReplicaSet.Simulation

/-- What can happen in one go. -/
inductive Deed where
  | up (handle : Handle)
  | down (handle : Handle)
  | signal (handle : Handle) (isPrimary : Bool)
  /-- Somebody else asks a member whether it is available. -/
  | peek (handle : Handle)
  /-- The store, the stand-ins with what they are to do, and the scaler become others. -/
  | surround (site : Site)
  | release
  | resize (desired : Nat)
  | survey
  | beginShutdown
  | endShutdown
  | letGo
  /-- Time passes. -/
  | wait (span : Nat)
  /-- The worker makes a move. -/
  | work
  /-- A stand-in does something of its own accord before it answers. What that is comes as deeds of
  its own. -/
  | interject

/-- The request that was made, and the member it was made through. -/
def Event.request? : Event → Option (Handle × Request)
  | .called via request => some (via, request)
  | _ => none

namespace Cluster

/-- What is read off the events so far, in the order in which they happened. -/
def readings {α : Type} (read : Event → Option α) (cluster : Cluster) : List α :=
  (cluster.trace.filterMap fun entry => read entry.event).reverse

/-- All requests so far, in the order in which they were made. -/
def requests (cluster : Cluster) : List (Handle × Request) :=
  cluster.readings Event.request?

/-- What happened between two states of a cluster, oldest first. -/
def news (before after : Cluster) : List Entry :=
  (after.trace.take (after.trace.length - before.trace.length)).reverse

/-- What the deed makes of the cluster. Whoever gives word to a controller holds it, and a
shutdown ends when the worker has exited. -/
inductive Step : Cluster → Deed → Cluster → Prop
  | up {cluster} (held : cluster.controller.held = true) (handle : Handle) :
      Step cluster (.up handle) (cluster.memberUp handle)
  | down {cluster} (held : cluster.controller.held = true) (handle : Handle) :
      Step cluster (.down handle) (cluster.memberDown handle)
  | signal {cluster} (held : cluster.controller.held = true) (handle : Handle) (isPrimary : Bool) :
      Step cluster (.signal handle isPrimary) (cluster.primarySignal handle isPrimary)
  | peek {cluster} (handle : Handle) : Step cluster (.peek handle) (cluster.ask handle).2
  | surround {cluster} (site : Site) : Step cluster (.surround site) { cluster with site := site }
  | release {cluster} : Step cluster .release cluster.release
  | resize {cluster} (held : cluster.controller.held = true) (desired : Nat) :
      Step cluster (.resize desired) (cluster.resize desired).2
  | survey {cluster} (held : cluster.controller.held = true) : Step cluster .survey cluster.survey.2
  | beginShutdown {cluster} (held : cluster.controller.held = true) :
      Step cluster .beginShutdown cluster.beginShutdown
  | endShutdown {cluster} (held : cluster.controller.held = true)
      (begun : cluster.controller.roster.closed = true)
      (ended : cluster.controller.queue.exit?.isSome = true) :
      Step cluster .endShutdown cluster.endShutdown
  | letGo {cluster} (held : cluster.controller.held = true) : Step cluster .letGo cluster.letGo
  | wait {cluster} (span : Nat) :
      Step cluster (.wait span) { cluster with now := cluster.now + span }
  | work {cluster next} (worked : cluster.work? = some next) : Step cluster .work next
  | interject {cluster next actions} (interjected : cluster.interjection? = some (actions, next)) :
      Step cluster .interject next

/-- A controller was just created, and nothing has happened around it. -/
structure Fresh (cluster : Cluster) : Prop where
  created : ∃ name options, Controller.create name options = .ok cluster.controller
  silent : cluster.trace = []

theorem Fresh.readings {cluster : Cluster} (fresh : cluster.Fresh) {α : Type}
    (read : Event → Option α) : cluster.readings read = [] := by
  simp [Cluster.readings, fresh.silent]

/-- A new controller in its surroundings. -/
def create (name : String) (settings : Settings) (site : Site) : Cluster where
  now := 0
  controller :=
    { name := name, roster := {}, bulletin := .blank, queue := .create settings, held := true }
  site := site
  trace := []

theorem fresh_create {name : String} (named : Text.isBlank name = false) (settings : Settings)
    (site : Site) : (create name settings site).Fresh := by
  refine ⟨⟨name, ⟨some settings.retryDelay, settings.maxAttempts⟩, ?_⟩, rfl⟩
  have unbounded : settings.maxAttempts ≠ some 0 := fun bound =>
    absurd (settings.maxAttempts_pos 0 bound) (Nat.lt_irrefl 0)
  simp [Controller.create, checkCreation, named, Options.check, settings.retryDelay_pos, unbounded,
    create]

/-- A change is tried again after the shortest wait, as often as it takes. -/
def tireless : Settings where
  retryDelay := Time.ofMillis 1
  maxAttempts := none
  retryDelay_pos := by decide
  maxAttempts_pos := nofun

/-- What a run of the deeds, in this order, makes of a new controller in some surroundings. -/
inductive Run : List Deed → Cluster → Prop
  | start {cluster} (fresh : cluster.Fresh) : Run [] cluster
  | next {deeds cluster deed after} (run : Run deeds cluster) (step : Step cluster deed after) :
      Run (deeds ++ [deed]) after

/-- What the deeds, in this order, make of a cluster. -/
inductive Onward (first : Cluster) : List Deed → Cluster → Prop
  | rest : Onward first [] first
  | next {deeds cluster deed after} (onward : Onward first deeds cluster)
      (step : Step cluster deed after) : Onward first (deeds ++ [deed]) after

theorem Run.onward {earlier later : List Deed} {cluster after : Cluster} (run : Run earlier cluster)
    (onward : Onward cluster later after) : Run (earlier ++ later) after := by
  induction onward with
  | rest => exact (List.append_nil earlier).symm ▸ run
  | next _ step ih => exact List.append_assoc .. ▸ ih.next step

/-- What a deed brings about and every step keeps holds once the deed was done. -/
theorem Run.since {holds : Cluster → Prop} {mark : Deed}
    (begins : ∀ {earlier before after}, Run earlier before → Step before mark after → holds after)
    (kept : ∀ {before deed after}, holds before → Step before deed after → holds after)
    {deeds : List Deed} {cluster : Cluster} (run : Run deeds cluster) (done : mark ∈ deeds) :
    holds cluster := by
  induction run with
  | start => cases done
  | next run step ih =>
    rcases List.mem_append.mp done with before | last
    · exact kept (ih before) step
    · obtain rfl := List.mem_singleton.mp last
      exact begins run step

end Cluster

/-- The first member that is admitted: the one whose coming is reported first, if that is before
a shutdown. -/
def firstAdmitted? : List Deed → Option Handle
  | [] => none
  | .up handle :: _ => some handle
  | .beginShutdown :: _ => none
  | _ :: later => firstAdmitted? later

theorem firstAdmitted?_single {deed : Deed} (other : ∀ handle, deed ≠ .up handle) :
    firstAdmitted? [deed] = none := by
  cases deed with
  | up handle => exact absurd rfl (other handle)
  | _ => rfl

theorem firstAdmitted?_append_of_some {earlier : List Deed} {first : Handle}
    (admitted : firstAdmitted? earlier = some first) (later : List Deed) :
    firstAdmitted? (earlier ++ later) = some first := by
  induction earlier with
  | nil => cases admitted
  | cons deed rest ih => cases deed <;> simp_all [firstAdmitted?]

theorem firstAdmitted?_append_of_shut {earlier : List Deed}
    (nobody : firstAdmitted? earlier = none) (shut : .beginShutdown ∈ earlier)
    (later : List Deed) : firstAdmitted? (earlier ++ later) = none := by
  induction earlier with
  | nil => cases shut
  | cons deed rest ih => cases deed <;> simp_all [firstAdmitted?]

theorem firstAdmitted?_append_of_open {earlier : List Deed}
    (nobody : firstAdmitted? earlier = none) (isOpen : .beginShutdown ∉ earlier)
    (later : List Deed) : firstAdmitted? (earlier ++ later) = firstAdmitted? later := by
  induction earlier with
  | nil => rfl
  | cons deed rest ih => cases deed <;> simp_all [firstAdmitted?]

end ReplicaSet.Simulation
