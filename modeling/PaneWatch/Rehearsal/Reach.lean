/-
What registries, monitors and services see of the world of a rehearsal.

Wherever the program waits for its surroundings, steps may run. How they run
is the parameter `nested` here.
-/
import PaneWatch.Http.Api
import PaneWatch.Rehearsal.World

namespace PaneWatch.Rehearsal

open Session (Record)
open Time (Stamp)

variable (nested : List Step → Play Unit)

-- ===================================================== panes

/-- Asks about the panes of a session. What is planned for the question happens once and
before it is answered. -/
def ask {α : Type} (id : String) (q : Question) (answer : Pane → Except Failure α) :
    Play (Except Failure α) := do
  if let some steps := ((← get).pane id).plans.lookup q then
    World.editPane id fun p => { p with plans := p.plans.filter (·.1 != q) }
    nested steps
  let pane := (← get).pane id
  return (pane.failures.lookup q).elim (answer pane) .error

namespace Backend

/-- The output of the first pane of a session. -/
def capture (b : Backend) (id : String) : Play (Except Failure String) :=
  match b with
  | played => ask nested id .output fun p => p.output.elim (.error (.noPanes id)) .ok
  | tmux t => (t.capture World.run id).run

/-- The process in the first pane of a session. -/
def resolvePid (b : Backend) (id : String) : Play (Except Failure Int) :=
  match b with
  | played => ask nested id .pid fun p => p.pid.elim (.error (.noPanes id)) .ok
  | tmux t => (t.resolvePid World.run id).run

/-- Whether a session has panes. -/
def hasSession (b : Backend) (id : String) : Play (Except Failure Bool) :=
  match b with
  | played => ask nested id .existence fun p => .ok p.present
  | tmux t => (t.hasSession World.run id).run

/-- The name of a backend. -/
def name : Backend → String
  | played => "scripted"
  | tmux _ => "tmux"

end Backend

-- ===================================================== registries

namespace World

/-- A registry of the world. -/
def shelfAt (w : World) (n : Nat) : Shelf := (w.shelves[n]?).getD ⟨{ path := ⟨false, []⟩ }, none⟩

/-- Does something to a registry. -/
def act {α : Type} (n : Nat) (action : Registry.Action α) : Play (Except Failure α) :=
  modifyGet fun w =>
    let (outcome, d) := action.run ⟨(w.shelfAt n).registry, w.machine⟩
    (outcome, { w with
      machine := d.machine
      shelves := w.shelves.modify n fun s => { s with registry := d.registry } })

/-- Puts a registry into the world and gives its number. -/
def addShelf (s : Shelf) : Play Nat :=
  modifyGet fun w => (w.shelves.length, { w with shelves := w.shelves ++ [s] })

end World

/-- What work on a registry sees. -/
def registryReach (n : Nat) (s : Shelf) : Registry.Reach Play where
  act := World.act n
  now := return (← get).machine.now
  hasPanes := s.backend.map fun b => b.hasSession nested

-- ===================================================== monitors

namespace World

/-- A monitor that never looks at anything. -/
def idlePost : Post := { interval := .whole 0, timeout := .whole 0 }

/-- A monitor of the world. -/
def postAt (w : World) (n : Nat) : Post := (w.posts[n]?).getD idlePost

/-- Does something to a monitor. -/
def onMonitor {α : Type} (n : Nat) (f : Monitor Hook → α × Monitor Hook) : Play α :=
  modifyGet fun w =>
    let (a, monitor) := f (w.postAt n).monitor
    (a, { w with posts := w.posts.modify n fun p => { p with monitor } })

/-- Does something to a monitor that needs the clock. -/
def onMonitorNow {α : Type} (n : Nat) (f : Stamp → Monitor Hook → α × Monitor Hook) : Play α := do
  onMonitor n (f (← get).machine.now)

/-- Puts a monitor into the world and gives its number. -/
def addPost (p : Post) : Play Nat :=
  modifyGet fun w => (w.posts.length, { w with posts := w.posts ++ [p] })

end World

/-- Calls a hook: what happens in it, and how it ends. -/
def Hook.call (h : Hook) (id : String) (source target : Activity) : Play (Except Failure Unit) := do
  World.trail fun t => { t with hooks := t.hooks ++ [(h.name, id, source, target)] }
  nested h.steps
  return h.failure.elim (.ok ()) .error

/-- What a monitor sees. -/
def monitorReach (n : Nat) (p : Post) : Monitor.Reach Play Hook where
  look f := World.onMonitor n fun mon => (f mon, mon)
  register id pid := World.onMonitorNow n (Monitor.register · id pid)
  deregister id := World.onMonitor n (Monitor.deregister id)
  record id a trigger := World.onMonitorNow n (Monitor.commit · id a trigger)
  dismiss := World.onMonitor n Monitor.shutDown
  resolvePid := p.backend.resolvePid nested
  capture := p.backend.capture nested
  probe pid := Process.readState World.run pid p.timeout
  launch id number := do
    modify fun w => { w with workers := w.workers ++ [⟨n, id, number⟩] }
    return .ok ()
  store id a time :=
    match p.shelf with
    | none => return .ok ()
    | some shelf => World.act shelf (Registry.update id (Registry.stateUpdate a time))
  isStored := p.shelf.isSome
  -- nothing else runs while a registry is changed and written
  alone act := act
  call := Hook.call nested
  hookName h := "<hook " ++ h.name ++ ">"
  note := World.note

-- ===================================================== services

/-- What the endpoints of a service are about. -/
def api (s : Running) (w : World) : Http.Api Play Hook where
  monitor := monitorReach nested s.post (w.postAt s.post)
  registry := registryReach nested s.shelf (w.shelfAt s.shelf)
  settings := s.settings

end PaneWatch.Rehearsal
