/-
A monitor in a room of its own.

In a room nothing else happens while a call runs: there is a monitor, the registry that it
stores to, the disk under that, and the surroundings that it asks. What the surroundings answer is
up to them and may depend on all that they were asked before (`Surroundings`), but they reach
neither the monitor nor the registry. So a call that runs in a room can be followed from end to end,
and each law here says what one of them leaves of the room.

Asking is a morphism of monads (`ask_bind`), so a detection classifies in a room as it would
outside (`ask_classify`). What follows a commit goes on whatever becomes of the store and of the
hooks, as long as their failures are held up (`Surroundings.HoldsUp`): `Filed` is what storing
leaves, and `Told` what announcing does.

An entry is copied before it is changed. A registry can copy whatever was read from a file, but
callers can put things into an entry that no copy can be made of; what comes of trying is up to the
surroundings, too.
-/
import PaneWatch.Proofs.Monitor.Announcement
import PaneWatch.Proofs.Monitor.Roster
import PaneWatch.Proofs.Registry.Entries

namespace PaneWatch.Monitor

open Session (Record)
open Time (Stamp)

variable {η ω α β : Type}

-- ===================================================== rooms

/-- What a monitor may ask, where the surroundings have states of a type `ω`, and whether it has a
registry to store to. -/
structure Surroundings (η ω : Type) where
  now : ω → Stamp
  resolvePid : String → StateM ω (Except Failure Int)
  capture : String → StateM ω (Except Failure String)
  probe : Int → StateM ω (Except Failure String)
  call : η → String → Activity → Activity → StateM ω (Except Failure Unit)
  hookName : η → String
  isStored : Bool
  /-- Copies an entry with all that callers have put into it. -/
  copy : Record → Except Failure Unit := fun _ => .ok ()

/-- A monitor with the registry that it stores to, and the surroundings as they are. -/
structure Room (η ω : Type) where
  monitor : Monitor η
  registry : Registry
  disk : Disk
  log : List LogLine := []
  /-- The hooks that were called, with what they were told. -/
  calls : List (η × Notification) := []
  around : ω

namespace Room

/-- Asks the surroundings. -/
def ask (act : StateM ω α) : StateM (Room η ω) α := fun r =>
  let (a, around) := act.run r.around
  (a, { r with around })

/-- Logs a message. -/
def note (level : LogLevel) (message : String) : StateM (Room η ω) Unit :=
  modify fun r => { r with log := r.log ++ [⟨level, message⟩] }

end Room

namespace Surroundings

/-- The desk of the registry. -/
def desk (s : Surroundings η ω) (r : Room η ω) : Registry.Desk :=
  ⟨r.registry, { disk := r.disk, now := s.now r.around, log := r.log }⟩

/-- Does something to the monitor. -/
def onMonitor (s : Surroundings η ω) (f : Stamp → Monitor η → α × Monitor η) :
    StateM (Room η ω) α := fun r =>
  let (a, monitor) := f (s.now r.around) r.monitor
  (a, { r with monitor })

/-- Whether the entry of a session can be copied, if there is one. -/
def copied (s : Surroundings η ω) (registry : Registry) (id : String) : Except Failure Unit :=
  (registry.find? id).elim (.ok ()) s.copy

/-- Stores what a session does. -/
def store (s : Surroundings η ω) (id : String) (a : Activity) (time : Stamp) :
    StateM (Room η ω) (Except Failure Unit) := fun r =>
  match s.copied r.registry id with
  | .error f => (.error f, r)
  | .ok () =>
    let (outcome, d) := (Registry.Operation.update id (Registry.stateUpdate a time)).run (s.desk r)
    (outcome.map fun _ => (),
      { r with registry := d.registry, disk := d.machine.disk, log := d.machine.log })

/-- Calls a hook. -/
def tell (s : Surroundings η ω) (hook : η) (id : String) (source target : Activity) :
    StateM (Room η ω) (Except Failure Unit) := do
  modify fun r => { r with calls := r.calls ++ [(hook, id, source, target)] }
  Room.ask (s.call hook id source target)

/-- What a monitor sees of its room. -/
def reach (s : Surroundings η ω) : Reach (StateM (Room η ω)) η where
  look f := return f (← get).monitor
  register id pid := s.onMonitor (Monitor.register · id pid)
  deregister id := s.onMonitor fun _ => Monitor.deregister id
  record id a trigger := s.onMonitor (Monitor.commit · id a trigger)
  dismiss := s.onMonitor fun _ => Monitor.shutDown
  resolvePid id := Room.ask (s.resolvePid id)
  capture id := Room.ask (s.capture id)
  probe pid := Room.ask (s.probe pid)
  launch _ _ := return .ok ()
  store := s.store
  isStored := s.isStored
  alone act := act
  call := s.tell
  hookName := s.hookName
  note := Room.note

end Surroundings

-- ===================================================== asking

/-- One step runs in the room that the step before it leaves. -/
theorem run_bind {σ : Type} (act : StateM σ α) (next : α → StateM σ β) (x : σ) :
    (act >>= next).run x = (next (act.run x).1).run (act.run x).2 := rfl

/-- Looking at the monitor changes nothing. -/
theorem run_look (s : Surroundings η ω) (f : Monitor η → α) (r : Room η ω) :
    (s.reach.look f).run r = (f r.monitor, r) := rfl

private theorem run_ask {act : StateM ω α} {r : Room η ω} {a : α} {around : ω}
    (h : act.run r.around = (a, around)) : (Room.ask act).run r = (a, { r with around }) := by
  show ((act.run r.around).1, { r with around := (act.run r.around).2 }) = _
  rw [h]

/-- Two questions to the surroundings are one. -/
private theorem ask_bind (act : StateM ω α) (next : α → StateM ω β) :
    (Room.ask (act >>= next) : StateM (Room η ω) β)
      = Room.ask act >>= fun a => Room.ask (next a) := rfl

/-- Who classifies in a room does as outside. -/
theorem ask_classify (table : List Signal.Row) (id : String)
    (capture probe : StateM ω (Except Failure String)) :
    (Signal.classify table id (Room.ask capture) (Room.ask probe) : StateM (Room η ω) _)
      = Room.ask (Signal.classify table id capture probe) := by
  unfold Signal.classify
  rw [ask_bind]
  congr
  funext captured
  cases captured with
  | ok output =>
      dsimp only
      split
      · rfl
      · rfl
  | error f =>
      dsimp only
      split
      · rfl
      · rfl

variable {s : Surroundings η ω} {r : Room η ω} {id : String}

-- ===================================================== beginning and ending a watch

/-- A session that is watched is not started again, and nothing changes. -/
theorem run_start_watched (hwatched : r.monitor.isMonitoring id) :
    (s.reach.start id).run r = (.error (.alreadyMonitored id), r) := by
  unfold Reach.start
  rw [run_bind, run_look, refuseWatched, if_pos hwatched]
  rfl

/-- A session whose process cannot be resolved does not come to be watched. -/
theorem run_start_unresolved {f : Failure} {around : ω} (hvacant : ¬r.monitor.isMonitoring id)
    (hresolve : (s.resolvePid id).run r.around = (.error f, around)) :
    (s.reach.start id).run r = (.error f, { r with around }) := by
  have hask : (s.reach.resolvePid id).run r = (.error f, { r with around }) := run_ask hresolve
  unfold Reach.start
  rw [run_bind, run_look, refuseWatched, if_neg hvacant]
  dsimp only
  rw [run_bind, hask]
  rfl

/-- Any other one does, unless it is watched already. -/
theorem run_start {pid : Int} {around : ω} (hvacant : ¬r.monitor.isMonitoring id)
    (hresolve : (s.resolvePid id).run r.around = (.ok pid, around)) :
    ∃ log, (s.reach.start id).run r = (.ok (), { r with
      around, monitor := (r.monitor.register (s.now around) id pid).2, log }) := by
  have hask : (s.reach.resolvePid id).run r = (.ok pid, { r with around }) := run_ask hresolve
  have hregister : (s.reach.register id pid).run { r with around }
      = (.ok r.monitor.nextNumber,
        { r with around, monitor := (r.monitor.register (s.now around) id pid).2 }) := by
    -- nobody can have begun to watch the session since it was looked for
    rcases register_hired r.monitor (s.now around) id pid with ⟨hok, -⟩ | ⟨-, hwatched⟩
    · exact Prod.ext hok rfl
    · exact absurd hwatched hvacant
  refine ⟨r.log ++ [⟨.info, "Started monitoring " ++ id ++ " (pid " ++ toString pid ++ ")"⟩], ?_⟩
  unfold Reach.start
  rw [run_bind, run_look, refuseWatched, if_neg hvacant]
  dsimp only
  rw [run_bind, hask]
  dsimp only
  rw [run_bind, hregister]
  rfl

/-- A session that is not watched cannot be stopped, and nothing changes. -/
theorem run_stop_unwatched (hvacant : ¬r.monitor.isMonitoring id) :
    (s.reach.stop id).run r = (.error (.unmonitored id), r) := by
  have hfind : r.monitor.find id = .error (.unmonitored id) :=
    find_eq_error.2 ⟨Bool.eq_false_iff.2 hvacant, rfl⟩
  have hderegister : (s.reach.deregister id).run r = (.error (.unmonitored id), r) := by
    show ((r.monitor.deregister id).1, { r with monitor := (r.monitor.deregister id).2 }) = _
    rw [deregister, hfind]
  unfold Reach.stop
  rw [run_bind, hderegister]
  rfl

/-- A session that is watched is deregistered by a stop. -/
theorem run_stop (hwatched : r.monitor.isMonitoring id) :
    ∃ log, (s.reach.stop id).run r
      = (.ok (), { r with monitor := (r.monitor.deregister id).2, log }) := by
  have hderegister : (s.reach.deregister id).run r
      = (.ok (), { r with monitor := (r.monitor.deregister id).2 }) := by
    obtain ⟨w, hfind⟩ := isMonitoring_iff.1 hwatched
    show ((r.monitor.deregister id).1, { r with monitor := (r.monitor.deregister id).2 }) = _
    rw [deregister, hfind]
  refine ⟨r.log ++ [⟨.info, "Stopped monitoring " ++ id⟩], ?_⟩
  unfold Reach.stop
  rw [run_bind, hderegister]
  rfl

-- ===================================================== storing

/-- That what fails behind a commit is held up: copies fail in no way that the program does not
announce, and hooks in none that gets through a handler. -/
structure Surroundings.HoldsUp (s : Surroundings η ω) : Prop where
  copies : ∀ e f, s.copy e = .error f → f.kind.isOwn
  hooks : ∀ hook id source target x f,
    ((s.call hook id source target).run x).1 = .error f → f.isHeld

/-- That nothing has changed but what is stored, and what was logged about it. What storing comes
to is a failure only if that is one of copying the entry and not announced. -/
structure Filed (s : Surroundings η ω) (id : String) (t : Transition) (r : Room η ω)
    (outcome : Except Failure Unit) (r' : Room η ω) : Prop where
  monitor : r'.monitor = r.monitor
  registry : r'.registry = if s.isStored && (s.copied r.registry id).isOk then
      (Registry.Operation.update id (Registry.stateUpdate t.target t.time)).effect
        (s.now r.around) r.registry
    else r.registry
  calls : r'.calls = r.calls
  around : r'.around = r.around
  left : ∀ f, outcome = .error f → f.kind.isOwn = false ∧ s.copied r.registry id = .error f

/-- Storing what a session does fails in a way that is announced, unless the entry cannot be
copied. -/
theorem store_cases (s : Surroundings η ω) (r : Room η ω) (id : String) (t : Transition) :
    (∃ f, s.copied r.registry id = .error f
        ∧ (s.store id t.target t.time).run r = (.error f, r))
      ∨ s.copied r.registry id = .ok () ∧ ∃ stored disk log,
        (s.store id t.target t.time).run r = (stored, { r with
          registry := (Registry.Operation.update id (Registry.stateUpdate t.target t.time)).effect
            (s.now r.around) r.registry, disk, log })
        ∧ ∀ f, stored = .error f → f.kind.isOwn := by
  let done := (Registry.Operation.update id (Registry.stateUpdate t.target t.time)).run (s.desk r)
  have hstep : (s.store id t.target t.time).run r = (match s.copied r.registry id with
      | .error f => (.error f, r)
      | .ok () => (done.1.map fun _ => (), { r with
          registry := done.2.registry, disk := done.2.machine.disk, log := done.2.machine.log })) :=
    rfl
  rw [hstep]
  cases s.copied r.registry id with
  | error f => exact .inl ⟨f, rfl, rfl⟩
  | ok u =>
      have hregistry : done.2.registry
          = (Registry.Operation.update id (Registry.stateUpdate t.target t.time)).effect
            (s.now r.around) r.registry := Registry.Operation.registry_run _ (s.desk r)
      refine .inr ⟨rfl, done.1.map fun _ => (), done.2.machine.disk, done.2.machine.log, ?_, ?_⟩
      · rw [← hregistry]
      · intro f hf
        cases hdone : done.1 with
        | error g =>
            rw [hdone] at hf
            cases hf
            exact Registry.isOwn_of_stateUpdate hdone
        | ok ending =>
            rw [hdone] at hf
            cases hf

/-- Storing goes through unless the entry cannot be copied. What is stored is the change if that
is the last one of its session. -/
theorem filed_writeThrough {t : Transition} (hlatest : r.monitor.latest id t = (t.target, t.time)) :
    Filed s id t r ((s.reach.writeThrough id t).run r).1 ((s.reach.writeThrough id t).run r).2 := by
  unfold Reach.writeThrough
  cases hstored : s.isStored with
  | true =>
      rw [if_pos (show s.reach.isStored from hstored)]
      show Filed s id t r ((s.reach.persist id t).run r).1 ((s.reach.persist id t).run r).2
      unfold Reach.persist
      rw [run_bind, run_look, hlatest, run_bind]
      dsimp only
      rcases store_cases s r id t with ⟨f, hcopied, hstore⟩
        | ⟨hcopied, stored, disk, log, hstore, hown⟩
      · rw [show (s.reach.store id t.target t.time).run r = _ from hstore]
        dsimp only
        have hkept (outcome : Except Failure Unit)
            (hleft : ∀ g, outcome = .error g → g.kind.isOwn = false ∧ g = f) (log : List LogLine) :
            Filed s id t r outcome { r with log } :=
          ⟨rfl, by rw [hcopied, hstored]; rfl, rfl, rfl,
            fun g hg => ⟨(hleft g hg).1, by rw [hcopied, (hleft g hg).2]⟩⟩
        split
        · next hforeign =>
          refine hkept _ ?_ r.log
          rintro g ⟨⟩
          exact ⟨by simpa using hforeign, rfl⟩
        · split
          · exact hkept (.ok ()) nofun r.log
          · exact hkept (.ok ()) nofun _
      · rw [show (s.reach.store id t.target t.time).run r = _ from hstore]
        have hfiled (log : List LogLine) : Filed s id t r (.ok ()) { r with
            registry := (Registry.Operation.update id (Registry.stateUpdate t.target t.time)).effect
              (s.now r.around) r.registry, disk, log } :=
          ⟨rfl, by rw [hcopied, hstored]; rfl, rfl, rfl, nofun⟩
        cases stored with
        | ok u => exact hfiled log
        | error f =>
            dsimp only
            rw [hown f rfl]
            -- how the storing ended is only logged
            split
            · next hnever => cases hnever
            · split
              · exact hfiled log
              · exact hfiled _
  | false =>
      rw [if_neg (show ¬s.reach.isStored from Bool.eq_false_iff.1 hstored)]
      exact ⟨rfl, by rw [hstored]; rfl, rfl, rfl, nofun⟩

-- ===================================================== announcing

/-- That nothing has changed but the surroundings, and that some hooks were called, the first ones
of those to be called. All of them were, unless a failure got through. -/
structure Told (s : Surroundings η ω) (all : List (η × Notification)) (r : Room η ω)
    (outcome : Except Failure Unit) (r' : Room η ω) : Prop where
  monitor : r'.monitor = r.monitor
  registry : r'.registry = r.registry
  calls : ∃ told, told <+: all ∧ r'.calls = r.calls ++ told ∧ (outcome = .ok () → told = all)
  left : ∀ f, outcome = .error f → f.kind.isOwn = false ∧ ¬s.HoldsUp

/-- A hook is called once, even if it fails. -/
theorem told_callHook (s : Surroundings η ω) (r : Room η ω) (id : String) (t : Transition)
    (hook : η) :
    Told s [(hook, told (id, t))] r ((s.reach.callHook id t hook).run r).1
      ((s.reach.callHook id t hook).run r).2 := by
  have hcalled (outcome : Except Failure Unit) (around : ω) (log : List LogLine)
      (hleft : ∀ f, outcome = .error f → f.kind.isOwn = false ∧ ¬s.HoldsUp) :
      Told s [(hook, told (id, t))] r outcome
        { r with calls := r.calls ++ [(hook, told (id, t))], around, log } :=
    ⟨rfl, rfl, ⟨_, List.prefix_rfl, rfl, fun _ => rfl⟩, hleft⟩
  unfold Reach.callHook
  rw [run_bind]
  rcases hcall : (s.call hook id t.source t.target).run r.around with ⟨called, around⟩
  have htell : (s.reach.call hook id t.source t.target).run r
      = (called, { r with calls := r.calls ++ [(hook, told (id, t))], around }) :=
    run_ask (r := { r with calls := r.calls ++ [(hook, told (id, t))] }) hcall
  rw [htell]
  cases called with
  | ok u => exact hcalled _ around r.log nofun
  | error f =>
      dsimp only
      cases hheld : f.held with
      | error left =>
          refine hcalled _ around r.log ?_
          rintro _ ⟨⟩
          refine ⟨(Failure.held_error_cases hheld).1, fun hs => ?_⟩
          have hhook := hs.hooks hook id t.source t.target r.around f (by rw [hcall])
          rw [Failure.held_of_isHeld hhook] at hheld
          cases hheld
      | ok text => exact hcalled _ around _ nofun

/-- The hooks are told of the change one after the other, until one of them ends the call. -/
private theorem told_callHooks (t : Transition) (hooks : List η) (r : Room η ω) :
    Told s (announcements hooks (id, t)) r ((s.reach.callHooks id t hooks).run r).1
      ((s.reach.callHooks id t hooks).run r).2 := by
  -- each hook is called in the room that the ones before it have left
  induction hooks generalizing r with
  | nil =>
      refine ⟨rfl, rfl, ⟨[], List.prefix_rfl, (List.append_nil _).symm, fun _ => rfl⟩, ?_⟩
      rintro f ⟨⟩
  | cons hook hooks ih =>
      have hfirst := told_callHook s r id t hook
      unfold Reach.callHooks
      rw [run_bind]
      obtain ⟨told₁, hprefix₁, hcalls₁, hall₁⟩ := hfirst.calls
      cases hcalled : ((s.reach.callHook id t hook).run r).1 with
      | error f =>
          refine ⟨hfirst.monitor, hfirst.registry, ⟨told₁, ?_, hcalls₁, ?_⟩, ?_⟩
          · exact hprefix₁.trans ⟨announcements hooks (id, t), rfl⟩
          · rintro ⟨⟩
          · rintro _ ⟨⟩
            exact hfirst.left f hcalled
      | ok u =>
          have hrest := ih ((s.reach.callHook id t hook).run r).2
          obtain ⟨told₂, hprefix₂, hcalls₂, hall₂⟩ := hrest.calls
          refine ⟨hrest.monitor.trans hfirst.monitor, hrest.registry.trans hfirst.registry,
            ⟨told₁ ++ told₂, ?_, ?_, ?_⟩, hrest.left⟩
          · rw [hall₁ hcalled]
            exact (List.prefix_append_right_inj _).2 hprefix₂
          · rw [← List.append_assoc, ← hcalls₁]
            exact hcalls₂
          · intro hdone
            rw [hall₁ hcalled, hall₂ hdone]
            rfl

/-- An announcement tells the hooks that are registered when it begins. -/
theorem told_announce (t : Transition) :
    Told s (announcements r.monitor.hooks (id, t)) r ((s.reach.announce id t).run r).1
      ((s.reach.announce id t).run r).2 :=
  told_callHooks t r.monitor.hooks r

end PaneWatch.Monitor
