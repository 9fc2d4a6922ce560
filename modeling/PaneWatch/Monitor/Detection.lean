/-
What a monitor does with sessions, step by step.

`Reach` is all that a monitor sees of the world. Between two of its actions
anything may happen: a session may be stopped while its pane is captured, or
started again while a change is announced. Each operation is therefore
written as the steps between which that can happen, and the steps themselves
are the functions of `Monitor`.

A detection looks a session up, classifies what it is doing, commits the
result, stores it and announces it. Once a change is committed it stays: a store
that cannot be written and a hook that fails are logged. Only what these handlers
do not hold up still ends the detection: a failure of a store that the program does
not announce, the order to end the program, and a failure of a hook of which no
message can be made.
-/
import PaneWatch.Log
import PaneWatch.Monitor

namespace PaneWatch.Monitor

open Time (Stamp)

/-- What a monitor sees of the world. -/
structure Reach (m : Type → Type) (η : Type) where
  /-- Looks at the monitor. -/
  look : {α : Type} → (Monitor η → α) → m α
  /-- Begins a watch over a process and gives its number. -/
  register : String → Int → m (Except Failure Nat)
  /-- Ends the watch of a session. -/
  deregister : String → m (Except Failure Unit)
  /-- Records an activity of a session, with what led to the look at it. -/
  record : String → Activity → String → m (Except Failure (Option Transition))
  /-- Stops all workers, and gives the IDs that had one. -/
  dismiss : m (List String)
  resolvePid : String → m (Except Failure Int)
  capture : String → m (Except Failure String)
  /-- Asks for the state of a process. -/
  probe : Int → m (Except Failure String)
  /-- Starts the worker for a watch, which has been registered by then. -/
  launch : String → Nat → m (Except Failure Unit)
  /-- Stores the activity and the time of its change. -/
  store : String → Activity → Stamp → m (Except Failure Unit)
  /-- Whether there is anything to store to. -/
  isStored : Bool
  /-- Does something while nobody else does anything so. -/
  alone : {α : Type} → m α → m α
  call : η → String → Activity → Activity → m (Except Failure Unit)
  hookName : η → String
  note : LogLevel → String → m Unit

namespace Reach

variable {m : Type → Type} {η : Type} [Monad m]

/-- What a detection that nobody waits for gives as its trigger. -/
def pollTrigger : String := "poll"

/-- What a detection that was asked for gives as its trigger. -/
def demandTrigger : String := "state_detection"

-- ===================================================== beginning and ending a watch

/-- Begins to watch a session. -/
def start (r : Reach m η) (id : String) : m (Except Failure Unit) := do
  match ← r.look (·.refuseWatched id) with
  | .error f => return .error f
  | .ok () =>
    match ← r.resolvePid id with
    | .error f => return .error f
    | .ok pid =>
      match ← r.register id pid with
      | .error f => return .error f
      | .ok number =>
        match ← r.launch id number with
        | .error f => return .error f
        | .ok () =>
          r.note .info ("Started monitoring " ++ id ++ " (pid " ++ toString pid ++ ")")
          return .ok ()

/-- Ends the watch of a session. -/
def stop (r : Reach m η) (id : String) : m (Except Failure Unit) := do
  match ← r.deregister id with
  | .error f => return .error f
  | .ok () =>
    r.note .info ("Stopped monitoring " ++ id)
    return .ok ()

-- ===================================================== detections

/-- Stores what is current after a change. What the program announces as a failure is
logged, unless it is that the session is not stored at all. -/
def persist (r : Reach m η) (id : String) (t : Transition) : m (Except Failure Unit) := do
  let (a, time) ← r.look (·.latest id t)
  match ← r.store id a time with
  | .ok () => return .ok ()
  | .error f =>
    if !f.kind.isOwn then return .error f
    if f.kind == .notFound then return .ok ()
    r.note .error ("Failed to persist state for " ++ id ++ ": " ++ f.message)
    return .ok ()

/-- Stores what is current after a change, if there is anything to store to. Only one
detection does so at a time. -/
def writeThrough (r : Reach m η) (id : String) (t : Transition) : m (Except Failure Unit) := do
  if r.isStored then r.alone (r.persist id t) else return .ok ()

/-- Calls a hook, and logs how it fails. A hook that has no name to log counts as one
whose failure has no message. -/
def callHook (r : Reach m η) (id : String) (t : Transition) (hook : η) :
    m (Except Failure Unit) := do
  match ← r.call hook id t.source t.target with
  | .ok () => return .ok ()
  | .error f =>
    match f.held with
    | .error f => return .error f
    | .ok text =>
      r.note .warning ("State hook " ++ r.hookName hook ++ " failed for " ++ id ++ ": " ++ text)
      return .ok ()

/-- Calls some hooks, one after the other, until a failure gets through. -/
def callHooks (r : Reach m η) (id : String) (t : Transition) : List η → m (Except Failure Unit)
  | [] => return .ok ()
  | hook :: rest => do
    match ← r.callHook id t hook with
    | .error f => return .error f
    | .ok () => r.callHooks id t rest

/-- Announces a change to the hooks that are there when it begins. -/
def announce (r : Reach m η) (id : String) (t : Transition) : m (Except Failure Unit) := do
  r.callHooks id t (← r.look (·.hooks))

/-- The message about a change. -/
def changeText (id : String) (t : Transition) : String :=
  "Session " ++ id ++ ": " ++ t.source.name ++ " -> " ++ t.target.name ++ " (" ++ t.trigger ++ ")"

/-- Commits an activity, and logs the change if there is one. -/
def commit (r : Reach m η) (id : String) (a : Activity) (trigger : String) :
    m (Except Failure (Option Transition)) := do
  match ← r.record id a trigger with
  | .ok (some t) =>
    r.note .info (changeText id t)
    return .ok (some t)
  | outcome => return outcome

/-- Detects what a session is doing. The answer tells whether that is a change. -/
def detect (r : Reach m η) (id trigger : String) : m (Except Failure (Bool × Activity)) := do
  match ← r.look fun mon => (mon.find id, mon.table) with
  | (.error f, _) => return .error f
  | (.ok w, table) =>
    match ← Signal.classify table id (r.capture id) (r.probe w.pid) with
    | .error f => return .error f
    | .ok a =>
      match ← r.commit id a trigger with
      | .error f => return .error f
      | .ok none => return .ok (false, a)
      | .ok (some t) =>
        match ← r.writeThrough id t with
        | .error f => return .error f
        | .ok () =>
          match ← r.announce id t with
          | .error f => return .error f
          | .ok () => return .ok (true, a)

-- ===================================================== workers

/-- One round of the worker of a watch, after its wait. The answer tells whether the
worker goes on, unless the program is to end or the message of a failure cannot be made. -/
def round (r : Reach m η) (id : String) (number : Nat) : m (Except Failure Bool) := do
  if !(← r.look (·.isCurrent id number)) then return .ok false
  match ← r.detect id pollTrigger with
  | .ok _ => return .ok true
  | .error f =>
    if f.kind == .notFound then return .ok false
    if f.kind.isOwn then return f.text.map fun _ => true
    if f.kind == .exit then return .error f
    r.note .error ("Unexpected error polling " ++ id)
    return .ok true

/-- The worker of a watch, with what happens during each of its waits. The answer counts its
waits and tells how much has not happened, or how the worker failed. The worker ends when a wait
finds the monitor shut down and when it does not go on after a round; it is not followed any
further when nothing is left to happen. -/
def work (r : Reach m η) (id : String) (number waits : Nat) :
    List (m Unit) → m (Except Failure (Nat × Nat))
  | [] => return .ok (waits + 1, 0)
  | meanwhile :: rest => do
    if ← r.look (·.isShutDown) then return .ok (waits + 1, rest.length + 1)
    meanwhile
    if ← r.look (·.isShutDown) then return .ok (waits + 1, rest.length)
    match ← r.round id number with
    | .error f => return .error f
    | .ok true => r.work id number (waits + 1) rest
    | .ok false => return .ok (waits + 1, rest.length)

/-- Stops all workers, and gives the IDs that had one. -/
def shutDown (r : Reach m η) : m (List String) := do
  let ids ← r.dismiss
  r.note .info "ProcessMonitor shut down"
  return ids

end Reach

end PaneWatch.Monitor
