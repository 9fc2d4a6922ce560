/-
What a detection knows of the watch that it is about.

A detection looks its session up once and then waits for the world, so what it commits
may be about a watch that is no longer there. `Flight` is the record of what a call saw
when it looked. By the code of all calls (`keeps_flightRule`), no process is asked
about but the one that was seen, and no activity is committed but for the session
that was looked up: by one look if somebody asked for the detection, and behind the
check of its watch if it is a worker's.
-/
import PaneWatch.Proofs.Monitor.Aside
import PaneWatch.Proofs.Monitor.Watches

namespace PaneWatch.Monitor

open Time (Stamp)

/-- What a call has seen of the watch of a session. -/
structure Flight where
  id : String
  /-- The number of the watch at the first look. -/
  seen : Nat
  /-- How many watches had begun by the first look. -/
  first : Nat
  /-- How many had begun by the last look. -/
  began : Nat
  /-- The process of the watch at the last look. -/
  pid : Int

variable {η : Type}

/-- What a call has seen after one more look. -/
def Flight.look (id : String) (m : Monitor η) : Option Flight → Option Flight
  | none => (m.watch? id).map fun (n, w) => ⟨id, n, m.nextNumber, m.nextNumber, w.pid⟩
  | some f => some <| match m.watch? f.id with
    | some (_, w) => { f with began := m.nextNumber, pid := w.pid }
    | none => f

/-- That a commit may rest on what a call has seen. -/
structure Flight.Bears (f : Flight) (r : Request) (id : String) : Prop where
  same : f.id = id
  asked : r.worker? = none → f.began = f.first
  worker : ∀ n, r.worker? = some n → f.seen = n

/-- That processes are asked about and activities committed as they were seen. -/
def flightRule (r : Request) : Rule η (Option Flight) where
  allows
    | g, .probe pid => ∃ f, g = some f ∧ f.pid = pid
    | g, .record id _ _ => ∃ f, g = some f ∧ f.Bears r id
    | _, _ => True
  after
    | g, .look, m => r.session?.elim g (Flight.look · m g)
    | g, _, _ => g

-- ===================================================== what follows a commit

section Afterwards

variable {r : Request} {site : Site η}

/-- That a task asks about no process and commits nothing. -/
abbrev KeepsOut {α : Type} (r : Request) (t : Task η α) : Prop :=
  ∀ g, t.Keeps (flightRule r) (fun _ _ => True) g

private theorem Task.IsAside.keepsOut {α : Type} {t : Task η α} (h : t.IsAside) : KeepsOut r t := by
  intro g
  refine h.keeps ?_ trivial
  intro g x _ haside
  refine ⟨?_, fun _ => trivial⟩
  cases x with
  | probe pid => exact haside.elim
  | record id a trigger => exact haside.elim
  | _ => trivial

/-- Two tasks that keep out of flights do so together. -/
theorem KeepsOut.bind {α β : Type} {t : Task η α} {f : α → Task η β} (h : KeepsOut r t)
    (hf : ∀ a, KeepsOut r (f a)) : KeepsOut r (t >>= f) :=
  fun g => Task.keeps_bind (h g) fun g' a _ => hf a g'

private theorem keepsOut_persist (id : String) (t : Transition) :
    KeepsOut r (site.reach.persist id t) := by
  unfold Reach.persist
  refine KeepsOut.bind (isAside_look _).keepsOut ?_
  rintro ⟨a, time⟩
  refine KeepsOut.bind (fun _ => ⟨trivial, fun _ => trivial⟩) ?_
  intro outcome
  split
  · exact fun _ => trivial
  · split
    · exact fun _ => trivial
    · split
      · exact fun _ => trivial
      · exact KeepsOut.bind (isAside_note _ _).keepsOut fun _ _ => trivial

/-- Storing keeps out of flights. -/
private theorem keepsOut_writeThrough (id : String) (t : Transition) :
    KeepsOut r (site.reach.writeThrough id t) := by
  unfold Reach.writeThrough
  split
  · refine KeepsOut.bind (fun _ => ⟨trivial, fun _ => trivial⟩) fun _ => ?_
    exact KeepsOut.bind (keepsOut_persist id t) fun _ _ => ⟨trivial, fun _ => trivial⟩
  · exact fun _ => trivial

end Afterwards

-- ===================================================== detections

section Detections

variable {r : Request} {site : Site η} {id : String} {g : Option Flight}

/-- That the next look gives a call what a commit may rest on, if there is a watch. -/
def Ready (η : Type) (r : Request) (id : String) (g : Option Flight) : Prop :=
  r.session? = some id ∧ ∀ (m : Monitor η) n w, m.watch? id = some (n, w) →
    ∃ f, Flight.look id m g = some f ∧ f.pid = w.pid ∧ f.Bears r id

/-- A commit rests on what the call has seen. -/
private theorem keeps_commit {f : Flight} (hf : g = some f) (hbears : f.Bears r id) (a : Activity)
    (trigger : String) :
    (site.reach.commit id a trigger).Keeps (flightRule r) (fun _ _ => True) g := by
  unfold Reach.commit
  refine Task.keeps_bind
    (Task.keeps_one (show (flightRule r).allows g (.record id a trigger) from ⟨f, hf, hbears⟩)) ?_
  intro g' outcome _
  split
  · exact Task.keeps_bind ((isAside_note _ _).keepsOut g') fun _ _ _ => trivial
  · trivial

/-- A detection commits only what it has seen. -/
private theorem keeps_detect (h : Ready η r id g) (trigger : String) :
    (site.reach.detect id trigger).Keeps (flightRule r) (fun _ _ => True) g := by
  refine keeps_detect_of (fun _ _ => True) trivial (fun _ => trivial) ?_
    (fun _ _ _ _ => trivial) ?_
  · intro m w hfind
    obtain ⟨n, hwatch⟩ := find_eq_ok.1 hfind
    obtain ⟨f, hlook, hpid, hbears⟩ := h.2 m n w hwatch
    have hafter : (flightRule r).after g .look m = some f := by
      show r.session?.elim g (Flight.look · m g) = some f
      rw [h.1]
      exact hlook
    rw [hafter, ← hpid]
    exact ⟨⟨trivial, fun _ => rfl⟩, ⟨⟨f, rfl, rfl⟩, fun _ => rfl⟩,
      fun a => keeps_commit rfl hbears a trigger⟩
  · intro g' t _
    refine Task.keeps_mono (keepsOut_writeThrough id t g') ?_
    intro g' stored _
    exact ⟨fun _ _ => trivial, fun _ => (isAside_announce id t).keepsOut g'⟩

end Detections

-- ===================================================== requests

section Requests

variable {r : Request} {site : Site η}

/-- A detection that somebody asked for looks once. -/
theorem ready_detect (id : String) : Ready η (.detect id) id none := by
  refine ⟨rfl, ?_⟩
  intro m n w hwatch
  refine ⟨⟨id, n, m.nextNumber, m.nextNumber, w.pid⟩, ?_, rfl, rfl, fun _ => rfl, ?_⟩
  · rw [Flight.look, hwatch]
    rfl
  · intro number hworker
    cases hworker

/-- A worker has seen its own watch before it looks again. -/
theorem ready_round {id : String} {number : Nat} {f : Flight} (hid : f.id = id)
    (hseen : f.seen = number) : Ready η (.round id number) id (some f) := by
  refine ⟨rfl, ?_⟩
  intro m n w hwatch
  refine ⟨{ f with began := m.nextNumber, pid := w.pid }, ?_, rfl, hid, ?_, ?_⟩
  · rw [Flight.look, hid, hwatch]
  · intro hworker
    cases hworker
  · intro number' hworker
    cases hworker
    exact hseen

/-- And so does a round of a worker. -/
private theorem keeps_round (id : String) (number : Nat) :
    (site.reach.round id number).Keeps (flightRule (.round id number)) (fun _ _ => True) none := by
  refine keeps_round_of trivial (fun _ => trivial) ?_ (fun g _ _ _ => (isAside_note _ _).keepsOut g)
  intro m hcurrent
  obtain ⟨w, hwatch⟩ := isCurrent_iff.1 hcurrent
  have hafter : (flightRule (.round id number)).after none .look m
      = some ⟨id, number, m.nextNumber, m.nextNumber, w.pid⟩ := by
    show Flight.look id m none = _
    rw [Flight.look, hwatch]
    rfl
  have hready : Ready η (.round id number) id
      (some ⟨id, number, m.nextNumber, m.nextNumber, w.pid⟩) := ready_round rfl rfl
  rw [hafter]
  exact keeps_detect hready Reach.pollTrigger

end Requests

/-- The code of every request keeps to the rule. -/
theorem keeps_flightRule (site : Site η) (r : Request) :
    (r.task site).Keeps (flightRule r) (fun _ _ => True) none := by
  cases r with
  | start id => exact Task.keeps_bind ((isAside_start id).keepsOut none) fun _ _ _ => trivial
  | stop id => exact Task.keeps_bind ((isAside_stop id).keepsOut none) fun _ _ _ => trivial
  | detect id =>
      exact Task.keeps_bind (keeps_detect (ready_detect id) Reach.demandTrigger)
        fun _ _ _ => trivial
  | round id number => exact Task.keeps_bind (keeps_round id number) fun _ _ _ => trivial
  | shutDown => exact Task.keeps_bind (isAside_shutDown.keepsOut none) fun _ _ _ => trivial

end PaneWatch.Monitor
