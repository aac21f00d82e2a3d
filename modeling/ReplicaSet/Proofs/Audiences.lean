import Mathlib.Logic.Relation
import ReplicaSet.Proofs.Lifecycle

/-!
Those who follow the status of a set. They come at any time, look for news whenever they like, and
some of them take after others. Nobody follows the set any more in vain: when nothing is left that
could publish anything, all who have seen the latest status are told so.
-/
namespace ReplicaSet

/-- How far a set has come in a stage. -/
def Stage.progress : Stage → Nat
  | .empty => 0
  | .bootstrapping => 1
  | .stable | .degraded => 2
  | .stopped => 3

/-- The life of a set has gone on between the two, or it was over before. -/
def Status.Advances (earlier later : Status) : Prop :=
  earlier.stage.progress < later.stage.progress ∨
    earlier.stage = .stopped ∧ later.stage = .stopped

instance (earlier later : Status) : Decidable (earlier.Advances later) :=
  inferInstanceAs (Decidable (_ ∨ _))

theorem Course.advances {history : List Status} (course : Course history) :
    history.Pairwise Status.Advances ∧ ∀ status ∈ history, status.stage.progress < 3 := by
  cases course <;> decide

theorem Orderly.advances {history : List Status} (orderly : Orderly history) :
    history.Pairwise Status.Advances := by
  obtain ⟨course, stops, isCourse, rfl⟩ := orderly
  obtain ⟨advances, running⟩ := isCourse.advances
  refine List.pairwise_append.mpr ⟨advances, ?_, ?_⟩
  · exact List.pairwise_replicate.mpr (.inr (.inr ⟨rfl, rfl⟩))
  · intro earlier before later after
    rw [List.eq_of_mem_replicate after]
    exact .inl (running earlier before)

namespace Bulletin

variable {bulletin later : Bulletin}

/-- All that was published, oldest first, numbered from what stood there at first. -/
def publications (bulletin : Bulletin) : List (Status × Nat) :=
  bulletin.history.zipIdx

theorem publications_eq (bulletin : Bulletin) :
    bulletin.publications =
      bulletin.earlier.reverse.zipIdx ++ [(bulletin.latest, bulletin.version)] := by
  simp [publications, history, version, List.zipIdx_append]

theorem length_publications (bulletin : Bulletin) :
    bulletin.publications.length = bulletin.version + 1 := by
  simp [publications_eq, version]

theorem map_publications (bulletin : Bulletin) :
    bulletin.publications.map Prod.fst = bulletin.history :=
  List.zipIdx_map_fst 0 bulletin.history

theorem numbers_publications (bulletin : Bulletin) :
    bulletin.publications.map Prod.snd = List.range (bulletin.version + 1) := by
  simp [publications, history, version, List.range_eq_range']

theorem latest_of_publication {status : Status}
    (published : (status, bulletin.version) ∈ bulletin.publications) :
    status = bulletin.latest := by
  rw [publications_eq, List.mem_append, List.mem_singleton] at published
  rcases published with before | latest
  · have number := List.snd_lt_of_mem_zipIdx before
    simp [version] at number
  · exact congrArg Prod.fst latest

/-- What was published before has the same number later. -/
theorem publications_prefix {published : List Status}
    (history : later.history = bulletin.history ++ published) :
    bulletin.publications <+: later.publications := by
  rw [publications, publications, history, List.zipIdx_append]
  exact List.prefix_append _ _

end Bulletin

namespace Simulation

/-- Somebody who follows the status of a set. -/
structure Watcher where
  listener : Listener
  /-- The number of the publication up to which all counts as known from the start. -/
  start : Nat
  /-- What it was told, with the numbers of the publications, oldest first. -/
  told : List (Status × Nat)
deriving DecidableEq

namespace Watcher

variable {watcher : Watcher} {bulletin later : Bulletin} {controller : Controller Call}

/-- One who counts as having seen what stood there when the set was created. -/
def fresh : Watcher := ⟨.fresh, 0, []⟩

/-- The number of the publication that it was told of last. -/
def position (watcher : Watcher) : Nat :=
  (watcher.told.getLast?.map Prod.snd).getD watcher.start

/-- One who starts where the other stands. -/
def fork (watcher : Watcher) : Watcher := ⟨watcher.listener, watcher.position, []⟩

/-- What it finds when it looks for news. -/
def news (watcher : Watcher) (controller : Controller Call) : News :=
  (watcher.listener.next controller.bulletin controller.isLive).1

/-- Looks for news. -/
def look (watcher : Watcher) (controller : Controller Call) : Watcher :=
  let listener := (watcher.listener.next controller.bulletin controller.isLive).2
  match watcher.news controller with
  | .status status =>
    { watcher with
      listener := listener, told := watcher.told ++ [(status, controller.bulletin.version)] }
  | .pending | .closed => { watcher with listener := listener }

/-- It was told of publications after its start, of each at most once and in their order, and it
has seen exactly as much as it was told. -/
structure Follows (watcher : Watcher) (bulletin : Bulletin) : Prop where
  behind : watcher.listener.seen ≤ bulletin.version
  stands : watcher.position = watcher.listener.seen
  starts : watcher.start ≤ watcher.listener.seen
  told : watcher.told.Sublist
    ((bulletin.publications.take (watcher.listener.seen + 1)).drop (watcher.start + 1))

/-- There is news for those who have not seen the latest publication. -/
theorem news_status (old : watcher.listener.seen < controller.bulletin.version) :
    watcher.news controller = .status controller.bulletin.latest ∧
      watcher.look controller =
        ⟨⟨controller.bulletin.version⟩, watcher.start,
          watcher.told ++ [(controller.bulletin.latest, controller.bulletin.version)]⟩ := by
  simp [look, news, Listener.next, old]

/-- For the others there is none. -/
theorem news_none (new : ¬ watcher.listener.seen < controller.bulletin.version) :
    watcher.news controller = (if controller.isLive then .pending else .closed) ∧
      watcher.look controller = watcher := by
  cases live : controller.isLive <;> simp [look, news, Listener.next, new, live]

theorem fresh_follows (bulletin : Bulletin) : fresh.Follows bulletin where
  behind := Nat.zero_le _
  stands := rfl
  starts := le_rfl
  told := List.nil_sublist _

namespace Follows

theorem fork (follows : watcher.Follows bulletin) : watcher.fork.Follows bulletin where
  behind := follows.behind
  stands := follows.stands
  starts := follows.stands.le
  told := List.nil_sublist _

/-- It still does when more is published. -/
theorem onward (follows : watcher.Follows bulletin) {published : List Status}
    (history : later.history = bulletin.history ++ published) : watcher.Follows later := by
  obtain ⟨since, publications⟩ := Bulletin.publications_prefix history
  have grown : bulletin.version ≤ later.version := by
    have lengths := congrArg List.length publications
    rw [List.length_append, Bulletin.length_publications, Bulletin.length_publications] at lengths
    omega
  have within : watcher.listener.seen + 1 ≤ bulletin.publications.length := by
    rw [Bulletin.length_publications]
    exact Nat.succ_le_succ follows.behind
  refine ⟨follows.behind.trans grown, follows.stands, follows.starts, ?_⟩
  rw [← publications, List.take_append_of_le_length within]
  exact follows.told

theorem look (follows : watcher.Follows controller.bulletin) :
    (watcher.look controller).Follows controller.bulletin := by
  by_cases old : watcher.listener.seen < controller.bulletin.version
  · rw [(news_status old).2]
    refine ⟨le_rfl, ?_, (follows.starts.trans old.le), ?_⟩
    · simp [position]
    · have within : watcher.listener.seen + 1 ≤
          controller.bulletin.earlier.reverse.zipIdx.length := by
        simpa [Bulletin.version] using Nat.succ_le_of_lt old
      have before := follows.told
      rw [Bulletin.publications_eq, List.take_append_of_le_length within] at before
      have whole : controller.bulletin.publications.take (controller.bulletin.version + 1) =
          controller.bulletin.publications :=
        List.take_of_length_le (Bulletin.length_publications _).le
      rw [whole, Bulletin.publications_eq, List.drop_append_of_le_length]
      · refine List.Sublist.append (before.trans ?_) (List.Sublist.refl _)
        exact (List.take_sublist _ _).drop _
      · exact (Nat.succ_le_succ follows.starts).trans within
  · rw [(news_none old).2]
    exact follows

/-- All that it was told was published after its start. -/
theorem sublist (follows : watcher.Follows bulletin) :
    watcher.told.Sublist (bulletin.publications.drop (watcher.start + 1)) :=
  follows.told.trans ((List.take_sublist _ _).drop _)

/-- When it has seen the latest publication, that is the one that it was told of last, unless there
was none since its start. -/
theorem last (follows : watcher.Follows bulletin) (current : bulletin.version ≤ watcher.position) :
    watcher.told.getLast? = (bulletin.publications.drop (watcher.start + 1)).getLast? := by
  have stands : watcher.position = bulletin.version :=
    Nat.le_antisymm (follows.stands.le.trans follows.behind) current
  cases last : watcher.told.getLast? with
  | none =>
    have start : watcher.start = bulletin.version := by simpa [position, last] using stands
    have nothing : bulletin.publications.drop (watcher.start + 1) = [] :=
      List.drop_of_length_le (by rw [Bulletin.length_publications, start])
    rw [nothing, List.getLast?_nil]
  | some publication =>
    obtain ⟨status, number⟩ := publication
    obtain rfl : number = bulletin.version := by simpa [position, last] using stands
    have since := follows.sublist.subset (List.mem_of_getLast? last)
    have some : bulletin.publications.drop (watcher.start + 1) ≠ [] := List.ne_nil_of_mem since
    have started := mt List.drop_of_length_le some
    rw [List.getLast?_drop, if_neg started,
      Bulletin.latest_of_publication (List.mem_of_mem_drop since), Bulletin.publications_eq,
      List.getLast?_concat]

end Follows

end Watcher

/-! ### The end of all news -/

/-- Nothing is left that could publish anything when nobody holds the controller and no change
waits or is under way, be it because the worker has exited. -/
theorem isLive_eq_false_iff {controller : Controller Call} :
    controller.isLive = false ↔ controller.held = false ∧
      (controller.queue.exit?.isSome = true ∨
        controller.queue.inbox = [] ∧ controller.queue.ready = [] ∧
          Queue.DelayLine.toList controller.queue.delayed = [] ∧
          controller.queue.current? = none) := by
  cases ended : controller.queue.exit?.isSome with
  | true => simp [Controller.isLive, Queue.unfinished, ended]
  | false =>
    simp only [Controller.isLive, Queue.unfinished, ended, Bool.false_eq_true, if_false, false_or,
      Bool.or_eq_false_iff, Bool.not_eq_false', List.isEmpty_iff, List.append_eq_nil_iff,
      List.map_eq_nil_iff, Option.toList_eq_nil_iff]
    tauto

namespace Cluster

variable {cluster after : Cluster} {deed : Deed} {deeds : List Deed}

/-- When nobody holds the controller and nothing is left to do, it stays that way. -/
theorem Step.gone (step : Step cluster deed after) (free : cluster.controller.held = false)
    (nothing : cluster.controller.queue.unfinished = []) :
    after.controller.held = false ∧ after.controller.queue.unfinished = [] := by
  cases step with
  | up held | down held | signal held | resize held | survey held | beginShutdown held
  | endShutdown held | letGo held => cases held.symm.trans free
  | peek | surround | wait => exact ⟨free, nothing⟩
  | release =>
    rcases cluster.release_cases with same | ⟨job, call, later, running, same⟩
    · rw [same]
      exact ⟨free, nothing⟩
    · rw [same]
      exact ⟨free, (Queue.unfinished_goOn running later).trans nothing⟩
  | work worked =>
    refine ⟨(work?_keeps worked).held.trans free, ?_⟩
    exact List.subperm_nil.mp (nothing ▸ (work?_works worked).unfinished_subperm)
  | interject interjected =>
    obtain ⟨job, call, later, running, rfl⟩ := interjection?_cases interjected
    exact ⟨free, (Queue.unfinished_goOn running later).trans nothing⟩

/-- Nothing is published any more either. Whoever waits for the end of a shutdown holds the
controller. -/
theorem Happens.gone (happens : cluster.Happens deed after) (life : Life deeds cluster)
    (waited : deed = .endShutdown → cluster.controller.held = true)
    (gone : cluster.controller.isLive = false) :
    after.controller.isLive = false ∧
      after.controller.bulletin = cluster.controller.bulletin := by
  have ⟨free, nothing⟩ : cluster.controller.held = false ∧
      cluster.controller.queue.unfinished = [] := by
    simpa [Controller.isLive] using gone
  have other : deed ≠ .endShutdown := fun last => by cases (waited last).symm.trans free
  obtain ⟨published, posts⟩ := happens.posts life.lived.blank
  cases happens with
  | returns => exact absurd rfl other
  | step step =>
    refine ⟨?_, ?_⟩
    · obtain ⟨stillFree, stillNothing⟩ := step.gone free nothing
      simp [Controller.isLive, stillFree, stillNothing]
    · cases posts with
      | nothing _ _ _ bulletin => exact bulletin
      | founder entry =>
        cases entry with
        | up held => cases held.symm.trans free
      | answer hears =>
        have unfinished := hears.unfinished
        simp [nothing] at unfinished
      | stopped => exact absurd rfl other

end Cluster

/-! ### Whoever follows a set -/

/-- A set, and all who follow it. -/
structure Audience where
  cluster : Cluster
  watchers : List Watcher

namespace Audience

variable {audience after later : Audience} {index : Nat} {watcher : Watcher}

/-- What can happen to a set and those who follow it. Only who holds the controller can begin to
follow it or wait for the end of a shutdown, but whoever follows it already can do so as long as
it likes, and so can another in its place. -/
inductive Step (audience : Audience) : Audience → Prop
  | happens {deed : Deed} {after : Cluster} (happens : audience.cluster.Happens deed after)
      (waited : deed = .endShutdown → audience.cluster.controller.held = true) :
      Step audience { audience with cluster := after }
  | listen (held : audience.cluster.controller.held = true) :
      Step audience { audience with watchers := audience.watchers ++ [.fresh] }
  | fork {watcher : Watcher} (present : watcher ∈ audience.watchers) :
      Step audience { audience with watchers := audience.watchers ++ [watcher.fork] }
  | look {index : Nat} {watcher : Watcher} (present : audience.watchers[index]? = some watcher) :
      Step audience { audience with
        watchers := audience.watchers.set index (watcher.look audience.cluster.controller) }

/-- What can become of a new controller, which nobody follows yet. -/
inductive Reached : Audience → Prop
  | start {cluster : Cluster} (fresh : cluster.Fresh) : Reached ⟨cluster, []⟩
  | next {audience after : Audience} (reached : Reached audience) (step : Step audience after) :
      Reached after

theorem Reached.life (reached : Reached audience) : ∃ deeds, Cluster.Life deeds audience.cluster := by
  induction reached with
  | start fresh => exact ⟨[], .start fresh⟩
  | next _ step ih =>
    obtain ⟨deeds, life⟩ := ih
    cases step with
    | @happens deed _ happens => exact ⟨deeds ++ [deed], life.next happens⟩
    | listen | fork | look => exact ⟨deeds, life⟩

theorem Reached.follows (reached : Reached audience) :
    ∀ watcher ∈ audience.watchers, watcher.Follows audience.cluster.controller.bulletin := by
  induction reached with
  | start => simp
  | @next audience _ reached step ih =>
    cases step with
    | happens happens =>
      obtain ⟨deeds, life⟩ := reached.life
      obtain ⟨published, posts⟩ := happens.posts life.lived.blank
      exact fun watcher present => (ih watcher present).onward posts.history
    | listen =>
      refine fun watcher present => (List.mem_append.mp present).elim (ih watcher) fun last => ?_
      rw [List.mem_singleton.mp last]
      exact Watcher.fresh_follows _
    | @fork original known =>
      refine fun watcher present => (List.mem_append.mp present).elim (ih watcher) fun last => ?_
      rw [List.mem_singleton.mp last]
      exact (ih original known).fork
    | look known =>
      refine fun watcher present => ?_
      rcases List.mem_or_eq_of_mem_set present with old | rfl
      · exact ih watcher old
      · exact (ih _ (List.mem_of_getElem? known)).look

/-- When nothing is left that could publish anything, those who know all that was published stay as
they are. -/
theorem Step.gone (step : Step audience after) (reached : Reached audience)
    (gone : audience.cluster.controller.isLive = false)
    (present : audience.watchers[index]? = some watcher)
    (current : ¬ watcher.listener.seen < audience.cluster.controller.bulletin.version) :
    after.cluster.controller.isLive = false ∧
      after.cluster.controller.bulletin = audience.cluster.controller.bulletin ∧
      after.watchers[index]? = some watcher := by
  cases step with
  | happens happens waited =>
    obtain ⟨deeds, life⟩ := reached.life
    obtain ⟨stillGone, same⟩ := happens.gone life waited gone
    exact ⟨stillGone, same, present⟩
  | listen | fork =>
    refine ⟨gone, rfl, ?_⟩
    exact (List.getElem?_append_left (List.getElem?_eq_some_iff.mp present).1).trans present
  | @look other another known =>
    refine ⟨gone, rfl, ?_⟩
    by_cases same : other = index
    · subst same
      obtain rfl := Option.some.inj (known.symm.trans present)
      rw [(Watcher.news_none current).2]
      exact List.getElem?_set_self (List.getElem?_eq_some_iff.mp present).1
    · exact (List.getElem?_set_ne same).trans present

theorem Reached.closed_forever (reached : Reached audience)
    (present : audience.watchers[index]? = some watcher)
    (closed : watcher.news audience.cluster.controller = .closed)
    (onward : Relation.ReflTransGen Step audience later) :
    ∃ same, later.watchers[index]? = some same ∧ same.news later.cluster.controller = .closed := by
  have current : ¬ watcher.listener.seen < audience.cluster.controller.bulletin.version := by
    intro old
    cases closed.symm.trans (Watcher.news_status old).1
  have gone : audience.cluster.controller.isLive = false := by
    rw [(Watcher.news_none current).1] at closed
    by_contra live
    simp [live] at closed
  have stays : Reached later ∧ later.cluster.controller.isLive = false ∧
      later.cluster.controller.bulletin = audience.cluster.controller.bulletin ∧
      later.watchers[index]? = some watcher := by
    induction onward with
    | refl => exact ⟨reached, gone, rfl, present⟩
    | tail _ step ih =>
      obtain ⟨before, goneBefore, bulletin, presentBefore⟩ := ih
      obtain ⟨goneAfter, same, presentAfter⟩ :=
        step.gone before goneBefore presentBefore (bulletin ▸ current)
      exact ⟨before.next step, goneAfter, same.trans bulletin, presentAfter⟩
  obtain ⟨-, goneLater, bulletin, presentLater⟩ := stays
  refine ⟨watcher, presentLater, ?_⟩
  rw [← bulletin] at current
  rw [(Watcher.news_none current).1, goneLater]
  rfl

/-- Whoever follows a set, from its creation or in the place of another, is told a selection of what
is published from there on, of nothing twice and of all in its order, so that for nobody the life of
the set goes back. News is always the latest status. Who finds none was told the latest publication
since its start, if there was any. For those who know the latest, all is over exactly when nobody
holds the controller and no change of it waits or is under way, and it remains so. -/
theorem Reached.statuses_followed (reached : Reached audience)
    (present : audience.watchers[index]? = some watcher) :
    watcher.told.Sublist
      (audience.cluster.controller.bulletin.publications.drop (watcher.start + 1)) ∧
    (watcher.told.map Prod.snd).Pairwise (· < ·) ∧
    (watcher.told.map Prod.fst).Pairwise Status.Advances ∧
    (∀ status, watcher.news audience.cluster.controller = .status status ↔
      watcher.position < audience.cluster.controller.bulletin.version ∧
        status = audience.cluster.controller.bulletin.latest) ∧
    (watcher.news audience.cluster.controller = .pending ∨
        watcher.news audience.cluster.controller = .closed →
      watcher.told.getLast? =
        (audience.cluster.controller.bulletin.publications.drop (watcher.start + 1)).getLast?) ∧
    (audience.cluster.controller.bulletin.version ≤ watcher.position →
      (watcher.news audience.cluster.controller = .closed ↔
        audience.cluster.controller.held = false ∧
          (audience.cluster.controller.queue.exit?.isSome = true ∨
            audience.cluster.controller.queue.inbox = [] ∧
              audience.cluster.controller.queue.ready = [] ∧
              Queue.DelayLine.toList audience.cluster.controller.queue.delayed = [] ∧
              audience.cluster.controller.queue.current? = none))) ∧
    (watcher.news audience.cluster.controller = .closed →
      ∀ later, Relation.ReflTransGen Step audience later →
        ∃ same, later.watchers[index]? = some same ∧
          same.news later.cluster.controller = .closed) := by
  have follows := reached.follows watcher (List.mem_of_getElem? present)
  obtain ⟨deeds, life⟩ := reached.life
  have publications := follows.sublist.trans (List.drop_sublist _ _)
  refine ⟨follows.sublist, ?_, ?_, ?_, ?_, ?_, fun closed later onward =>
    reached.closed_forever present closed onward⟩
  · have numbers := publications.map Prod.snd
    rw [Bulletin.numbers_publications] at numbers
    exact List.pairwise_lt_range.sublist numbers
  · have statuses := publications.map Prod.fst
    rw [Bulletin.map_publications] at statuses
    exact life.lived.orderly.advances.sublist statuses
  · intro status
    rw [follows.stands]
    by_cases old : watcher.listener.seen < audience.cluster.controller.bulletin.version
    · rw [(Watcher.news_status old).1]
      simp [old, eq_comm]
    · rw [(Watcher.news_none old).1]
      cases audience.cluster.controller.isLive <;> simp [old]
  · intro none
    refine follows.last ?_
    rw [follows.stands]
    by_contra old
    rw [(Watcher.news_status (Nat.lt_of_not_le old)).1] at none
    simp at none
  · intro current
    rw [follows.stands] at current
    rw [(Watcher.news_none (Nat.not_lt_of_le current)).1, ← isLive_eq_false_iff]
    cases audience.cluster.controller.isLive <;> simp

/-- A stand-in does at once what it is asked. -/
def prompt : Site where
  standIns := [⟨⟨true, .unknown, none, none⟩, false⟩]
  scaler := ⟨1, none⟩

/-- The first member came up, and the set was founded on it. -/
def founded : Cluster :=
  Clockwork.settle ((Cluster.create "rs" Cluster.tireless prompt).memberUp ⟨"a", .standIn 0⟩)

/-- Two have followed a set that was founded and let go of, the second one from the time on at which
the first one was told that the set is being founded. -/
def attended : Audience where
  cluster := founded.letGo
  watchers :=
    [⟨⟨2⟩, 0, [(⟨.bootstrapping, false⟩, 1), (⟨.stable, true⟩, 2)]⟩,
      ⟨⟨2⟩, 1, [(⟨.stable, true⟩, 2)]⟩]

theorem Reached.settle {cluster : Cluster} {watchers : List Watcher}
    (reached : Reached ⟨cluster, watchers⟩) : Reached ⟨Clockwork.settle cluster, watchers⟩ :=
  Clockwork.run_induction (fun cluster => Reached ⟨cluster, watchers⟩)
    (fun before worked => before.next (.happens (.step (.work worked)) nofun)) _ reached

theorem Reached.look (reached : Reached audience) (index : Nat)
    (present : audience.watchers[index]? = some watcher) :
    Reached { audience with
      watchers := audience.watchers.set index (watcher.look audience.cluster.controller) } :=
  reached.next (.look present)

theorem attended_reached : Reached attended := by
  have named : Text.isBlank "rs" = false := by decide
  have new := Reached.start (Cluster.fresh_create named Cluster.tireless prompt)
  have added := (new.next (.listen rfl)).next (.happens (.step (.up rfl ⟨"a", .standIn 0⟩)) nofun)
  have forked := (added.look 0 rfl).next (.fork (List.mem_singleton_self _))
  have told := forked.settle.look 1 rfl
  exact (told.next (.happens (.step (.letGo rfl)) nofun)).look 0 rfl

theorem statuses_followed_attended : Reached attended ∧
    attended.cluster.controller.bulletin.history =
      [⟨.empty, false⟩, ⟨.bootstrapping, false⟩, ⟨.stable, true⟩] ∧
    ∀ later, Relation.ReflTransGen Step attended later →
      ∃ same, later.watchers[0]? = some same ∧ same.news later.cluster.controller = .closed := by
  have present : attended.watchers[0]? = some
      ⟨⟨2⟩, 0, [(⟨.bootstrapping, false⟩, 1), (⟨.stable, true⟩, 2)]⟩ := rfl
  obtain ⟨-, -, -, -, -, closed, forever⟩ := attended_reached.statuses_followed present
  refine ⟨attended_reached, by decide, forever ((closed (by decide)).mpr ⟨by decide, .inr ?_⟩)⟩
  decide

end Audience

end Simulation

end ReplicaSet
