/-
How a call begins a watch, and how a worker is turned away.

Only a start begins watches and starts workers. It goes from one act to the next in a fixed
order, and `Progress` says how far it has come: at most one watch has begun then, at most one
worker has been started, and the answer tells which (`keeps_entryRule`). A start whose
worker cannot be started fails with its watch begun: nothing takes the watch back. What else
calls do neither begins a watch nor starts a worker. A round of a worker whose watch is not
current looks at the monitor and is done (`keeps_roundRule`).
-/
import PaneWatch.Proofs.Monitor.Aside

namespace PaneWatch.Monitor

variable {η α : Type} {site : Site η}

-- ===================================================== starts

/-- How far a start has come. -/
inductive Progress where
  /-- It has not looked yet. -/
  | outside
  /-- It has found no watch of its session. -/
  | cleared
  | resolved (pid : Int)
  /-- It has begun a watch. -/
  | entered (id : String) (number : Nat)
  /-- It has started the worker of the watch, too. -/
  | manned (id : String) (number : Nat)
  /-- It has been told not to begin a watch. -/
  | refused (f : Failure)
  /-- It could not learn the process. -/
  | unresolved (f : Failure)
  /-- It has begun a watch, but could not start the worker. -/
  | stranded (id : String) (number : Nat) (f : Failure)

namespace Progress

/-- What a start of a session may do next. -/
def allows (id : String) : Progress → Act η → Prop
  | outside, .look => True
  | cleared, .resolvePid i => i = id
  | resolved pid, .register i p => i = id ∧ p = pid
  | entered i number, .launch j n => j = i ∧ n = number
  | manned _ _, .note _ _ => True
  | _, _ => False

/-- How far a start has come that has looked. -/
def ofLook : Except Failure Unit → Progress
  | .error f => refused f
  | .ok () => cleared

/-- How far a start of a session has come after one more act. -/
def after (id : String) : Progress → (x : Act η) → x.Answer → Progress
  | outside, .look, m => ofLook (m.refuseWatched id)
  | cleared, .resolvePid _, outcome =>
    match outcome with
    | .error f => unresolved f
    | .ok pid => resolved pid
  | resolved _, .register _ _, outcome =>
    match outcome with
    | .error f => refused f
    | .ok number => entered id number
  | entered i number, .launch _ _, outcome =>
    match outcome with
    | .error f => stranded i number f
    | .ok () => manned i number
  | g, _, _ => g

/-- Why a start has failed. -/
def failure? : Progress → Option Failure
  | refused f | unresolved f | stranded _ _ f => some f
  | _ => none

/-- What a start of a session answers that has come so far. -/
def Answered (id : String) (g : Progress) : Except Failure Unit → Prop
  | .ok () => ∃ number, g = manned id number
  | .error f => g.failure? = some f

end Progress

-- ===================================================== what is no start

/-- Whether an act begins a watch or starts a worker. -/
def Act.IsEntry : Act η → Prop
  | register _ _ | launch _ _ => True
  | _ => False

/-- That starts go their way, and no other call begins a watch or starts a worker. -/
def entryRule : Request → Rule η Progress
  | .start id => { allows := Progress.allows id, after := Progress.after id }
  | _ => { allows := fun _ x => ¬x.IsEntry, after := fun g _ _ => g }

/-- That an answer is what the progress of a start comes to. -/
def IsAnswered : Request → Progress → Answer → Prop
  | .start id, g, .started outcome => g.Answered id outcome
  | .start _, _, _ => False
  | _, _, _ => True

/-- That no act is an entry. -/
def noEntryRule : Rule η Unit where
  allows _ x := ¬x.IsEntry
  after _ _ _ := ()

/-- That a task neither begins a watch nor starts a worker. -/
abbrev Task.EntersNothing (t : Task η α) : Prop := t.Keeps noEntryRule (fun _ _ => True) ()

private theorem entersNothing_one {x : Act η} (h : ¬x.IsEntry) : (Task.one x).EntersNothing :=
  ⟨h, fun _ => trivial⟩

private theorem entersNothing_note (level : LogLevel) (message : String) :
    (site.reach.note level message).EntersNothing := entersNothing_one id

private theorem entersNothing_persist (id : String) (t : Transition) :
    (site.reach.persist id t).EntersNothing := by
  unfold Reach.persist
  refine Task.keeps_bind (Task.keeps_look fun h => h) ?_
  rintro _ ⟨a, time⟩ -
  refine Task.keeps_bind (entersNothing_one fun h => h) ?_
  intro _ outcome _
  split
  · trivial
  · split
    · trivial
    · split
      · trivial
      · exact Task.keeps_bind (entersNothing_note _ _) fun _ _ _ => trivial

private theorem entersNothing_writeThrough (id : String) (t : Transition) :
    (site.reach.writeThrough id t).EntersNothing := by
  unfold Reach.writeThrough
  split
  · refine Task.keeps_bind (entersNothing_one fun h => h) fun _ _ _ => ?_
    exact Task.keeps_bind (entersNothing_persist id t) fun _ _ _ => entersNothing_one fun h => h
  · trivial

private theorem entersNothing_callHook (id : String) (t : Transition) (hook : η) :
    (site.reach.callHook id t hook).EntersNothing := by
  unfold Reach.callHook
  refine Task.keeps_bind (entersNothing_one fun h => h) ?_
  intro _ outcome _
  split
  · trivial
  · split
    · trivial
    · exact Task.keeps_bind (entersNothing_note _ _) fun _ _ _ => trivial

private theorem entersNothing_announce (id : String) (t : Transition) :
    (site.reach.announce id t).EntersNothing := by
  unfold Reach.announce
  refine Task.keeps_bind (Task.keeps_look fun h => h) ?_
  intro _ hooks _
  exact keeps_callHooks (fun hook _ _ => entersNothing_callHook id t hook) hooks trivial

private theorem entersNothing_commit (id : String) (a : Activity) (trigger : String) :
    (site.reach.commit id a trigger).EntersNothing := by
  unfold Reach.commit
  refine Task.keeps_bind (entersNothing_one fun h => h) ?_
  intro _ outcome _
  split
  · exact Task.keeps_bind (entersNothing_note _ _) fun _ _ _ => trivial
  · trivial

private theorem entersNothing_detect (id trigger : String) :
    (site.reach.detect id trigger).EntersNothing := by
  refine keeps_detect_of (fun _ _ => True) (fun h => h) (fun _ => trivial) ?_
    (fun _ _ _ _ => trivial) ?_
  · intro m w _
    exact ⟨⟨fun h => h, fun _ => rfl⟩, ⟨fun h => h, fun _ => rfl⟩,
      fun a => entersNothing_commit id a trigger⟩
  · intro _ t _
    refine Task.keeps_mono (entersNothing_writeThrough id t) ?_
    intro _ _ _
    exact ⟨fun _ _ => trivial, fun _ => entersNothing_announce id t⟩

private theorem entersNothing_round (id : String) (number : Nat) :
    (site.reach.round id number).EntersNothing :=
  keeps_round_of (fun h => h) (fun _ => trivial) (fun _ _ => entersNothing_detect id _)
    fun _ level message _ => entersNothing_note level message

private theorem entersNothing_stop (id : String) : (site.reach.stop id).EntersNothing := by
  unfold Reach.stop
  refine Task.keeps_bind (entersNothing_one fun h => h) ?_
  intro _ outcome _
  split
  · trivial
  · exact Task.keeps_bind (entersNothing_note _ _) fun _ _ _ => trivial

private theorem entersNothing_shutDown : (site.reach.shutDown).EntersNothing := by
  unfold Reach.shutDown
  refine Task.keeps_bind (entersNothing_one fun h => h) ?_
  intro _ ids _
  exact Task.keeps_bind (entersNothing_note _ _) fun _ _ _ => trivial

-- ===================================================== the rule of entries

/-- A start goes its way, and answers what it comes to. -/
theorem keeps_start (id : String) :
    (site.reach.start id).Keeps (entryRule (.start id)) (fun g outcome => g.Answered id outcome)
      .outside := by
  unfold Reach.start
  refine Task.keeps_bind (Task.keeps_look (g := Progress.outside) trivial) ?_
  rintro _ _ ⟨m, rfl, rfl⟩
  have hafter : (entryRule (.start id)).after .outside .look m
      = Progress.ofLook (m.refuseWatched id) := rfl
  rw [hafter]
  cases m.refuseWatched id with
  | error f => rfl
  | ok u =>
      refine ⟨rfl, fun resolved => ?_⟩
      cases resolved with
      | error f => rfl
      | ok pid =>
          refine ⟨⟨rfl, rfl⟩, fun registered => ?_⟩
          cases registered with
          | error f => rfl
          | ok number =>
              refine ⟨⟨rfl, rfl⟩, fun launched => ?_⟩
              cases launched with
              | error f => rfl
              | ok u => exact ⟨trivial, fun _ => ⟨number, rfl⟩⟩

/-- A start that has failed is done. -/
theorem done_of_failed {id : String} {post : Progress → α → Prop} {t : Task η α} {g : Progress}
    (h : t.Keeps (entryRule (.start id)) post g) {f : Failure} (hfailed : g.failure? = some f) :
    ∃ a, t = .done a := by
  cases t with
  | done a => exact ⟨a, rfl⟩
  | act x next =>
      cases g with
      | refused f => exact h.1.elim
      | unresolved f => exact h.1.elim
      | stranded id number f => exact h.1.elim
      | _ => cases hfailed

/-- What enters nothing keeps to the rule of every call that is no start, whatever it answers. -/
theorem Task.EntersNothing.answers {t : Task η α} (h : t.EntersNothing) (f : α → Answer)
    {r : Request} (hr : ∀ id, r ≠ .start id) :
    (t >>= fun a => Task.done (f a)).Keeps (entryRule r) (IsAnswered r) .outside := by
  have hrule : (entryRule r : Rule η Progress)
      = { allows := fun _ x => ¬x.IsEntry, after := fun g _ _ => g } := by
    cases r with
    | start id => exact absurd rfl (hr id)
    | _ => rfl
  have hanswered (g : Progress) (a : Answer) : IsAnswered r g a := by
    cases r with
    | start id => exact absurd rfl (hr id)
    | _ => trivial
  rw [hrule]
  refine Task.keeps_bind (Keeps.transfer (R := fun _ _ => True) h ?_ trivial) ?_
  · intro _ _ x _ hx
    exact ⟨hx, fun _ => trivial⟩
  · intro g a _
    exact hanswered g (f a)

/-- The code of every request keeps to the rule. -/
theorem keeps_entryRule (site : Site η) (r : Request) :
    (r.task site).Keeps (entryRule r) (IsAnswered r) .outside := by
  cases r with
  | start id => exact Task.keeps_bind (keeps_start id) fun _ _ h => h
  | stop id => exact (entersNothing_stop id).answers .stopped (by simp)
  | detect id => exact (entersNothing_detect id _).answers .detected (by simp)
  | round id number => exact (entersNothing_round id number).answers .goesOn (by simp)
  | shutDown => exact entersNothing_shutDown.answers .dismissed (by simp)

-- ===================================================== rounds

/-- What the first look of a call has shown of the watch of its worker, if it has looked. -/
def roundRule : Request → Rule η (Option Bool)
  | .round id number =>
    { allows := fun g x => g.elim (x = .look) (· = true)
      after := fun g x y =>
        match g, x, y with
        | none, .look, m => some (m.isCurrent id number)
        | g, _, _ => g }
  | _ => { allows := fun _ _ => True, after := fun g _ _ => g }

/-- That a round whose worker is turned away says that the worker does not go on. -/
def IsTurnedAway : Request → Option Bool → Answer → Prop
  | .round _ _, g, a => g = some true ∨ g = some false ∧ a = .goesOn (.ok false)
  | _, _, _ => True

/-- A round looks first, and if the watch of its worker is not current it is done. -/
theorem keeps_round_turnedAway (id : String) (number : Nat) :
    (site.reach.round id number).Keeps (roundRule (.round id number))
      (fun g goesOn => g = some true ∨ g = some false ∧ goesOn = .ok false) none := by
  unfold Reach.round
  refine Task.keeps_bind (Task.keeps_look (g := none) rfl) ?_
  rintro _ _ ⟨m, rfl, rfl⟩
  have hafter : (roundRule (.round id number)).after none .look m
      = some (m.isCurrent id number) := rfl
  rw [hafter]
  cases hcurrent : m.isCurrent id number with
  | false => exact .inr ⟨rfl, rfl⟩
  | true =>
      refine Task.keeps_mono (Task.keeps_of_free ?_ _) ?_
      · intro x
        exact ⟨rfl, fun _ => rfl⟩
      · intro g goesOn hg
        exact .inl hg

/-- The code of every request keeps to the rule. -/
theorem keeps_roundRule (site : Site η) (r : Request) :
    (r.task site).Keeps (roundRule r) (IsTurnedAway r) none := by
  cases r with
  | round id number =>
      refine Task.keeps_bind (keeps_round_turnedAway id number) ?_
      rintro g goesOn (hstays | ⟨haway, rfl⟩)
      · exact .inl hstays
      · exact .inr ⟨haway, rfl⟩
  | _ =>
      refine Task.keeps_mono (Task.keeps_of_free ?_ _) fun _ _ _ => trivial
      intro x
      exact ⟨trivial, fun _ => rfl⟩

end PaneWatch.Monitor
