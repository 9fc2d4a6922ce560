/-
What is done with a monitor and its workers.
-/
import PaneWatch.Rehearsal.Reach
import PaneWatch.Rehearsal.Scene

namespace PaneWatch.Rehearsal.MonitorStep

open Number (Amount)

variable (nested : List Step → Play Unit)

/-- The table that rows give. The first row that gives none fails. -/
def readTable : Option (List GivenRow) → Except Failure (List Signal.Row)
  | none => .ok Signal.defaultTable
  | some rows => rows.mapM fun r => Signal.Row.read r.pattern r.activity r.confidence

/-- Makes a monitor the one that steps are about. -/
def adopt (p : Post) : Play Outcome := do
  let n ← World.addPost p
  modify fun w => { w with post := some n }
  return quiet

/-- Creates a monitor. -/
def build (interval timeout : Amount) (table : Option (List GivenRow)) (stored overTmux : Bool) :
    Play Outcome := do
  let w ← get
  if stored && w.shelf.isNone || overTmux && w.tmux.isNone then return .error .notCreated
  match readTable table with
  | .error f => return .error f
  | .ok table =>
    adopt { monitor := { table }
            backend := if overTmux then w.tmux.elim .played .tmux else .played
            shelf := if stored then w.shelf else none
            interval, timeout }

-- ===================================================== detections

/-- Detects so many times while the output goes through some texts over and over. -/
def alternateFrom (r : Monitor.Reach Play Hook) (id : String) (outputs : List (Option String))
    (done : Nat) : Nat → Play Outcome
  | 0 => return quiet
  | left + 1 => do
    let output := (outputs[done % outputs.length]?).join
    World.editPane id fun p => { p with output }
    match ← World.moveClock Time.second with
    | .error f => return .error f
    | .ok _ =>
      match ← r.detect id Monitor.Reach.demandTrigger with
      | .error f => return .error f
      | .ok _ => alternateFrom r id outputs (done + 1) left

/-- Does something that logs nothing. -/
def unlogged {α : Type} (act : Play α) : Play α := do
  let log := (← get).machine.log
  let a ← act
  modify fun w => { w with machine := { w.machine with log } }
  return a

-- ===================================================== workers

/-- The name of the worker of a session. -/
def workerName (id : String) : String := "monitor-" ++ id

/-- Runs a worker and shows what it did. -/
def runWorker (index : Nat) (ticks : List (List Step)) : Play Outcome := do
  let w ← get
  match w.workers[index]? with
  | none => return .error .notCreated
  | some made =>
    let post := w.postAt made.post
    let reach := monitorReach nested made.post post
    let outcome ← reach.work made.id made.number 0 (ticks.map nested)
    return outcome.map fun (waits, left) =>
      .object [("name", .text (workerName made.id)), ("daemon", .bool true),
        ("waits", .list (List.replicate waits post.interval.toJson)), ("unused_ticks", .int left)]

/-- The workers that are waited for, with the seconds for each. -/
def joins (ids : List String) : Option Amount → Json
  | none => .list []
  | some timeout => .list (ids.map fun id => .list [.text (workerName id), timeout.toJson])

-- ===================================================== steps

/-- Plays a step about a monitor that is there. -/
def playOn (n : Nat) (r : Monitor.Reach Play Hook) : MonitorStep Step → Play Outcome
  | create .. | worker .. => return quiet
  | start id => return (← r.start id).map fun () => .null
  | stop id => return (← r.stop id).map fun () => .null
  | state id => return (← r.look (·.find id)).map fun w => .text w.current.name
  | pid id => return (← r.look (·.find id)).map fun w => .int w.pid
  | history id => return (← r.look (·.find id)).map fun w => .list (w.history.map Transition.toJson)
  | lastChange id => return (← r.look (·.find id)).map fun w => .text w.lastChange.toText
  | isMonitoring id => return .ok (.bool (← r.look (·.isMonitoring id)))
  | detect id => do
    let outcome ← r.detect id Monitor.Reach.demandTrigger
    return outcome.map fun (changed, a) => .list [.bool changed, .text a.name]
  | list => return .ok (.list ((← r.look (·.list)).map .text))
  | isShutDown => return .ok (.bool (← r.look (·.isShutDown)))
  | hook name failure steps => do
    World.onMonitor n fun mon => ((), mon.addHook ⟨name, failure, steps⟩)
    return quiet
  | alternate id times outputs => unlogged (alternateFrom r id outputs 0 times)
  | writeThrough id change => return (← r.writeThrough id change).map fun () => .null
  | shutDown timeout => return .ok (.object [("joins", joins (← r.shutDown) timeout)])

/-- Plays a step. -/
def play (s : MonitorStep Step) : Play Outcome := do
  match s, (← get).post with
  | create interval timeout table stored overTmux, _ =>
    build interval timeout table stored overTmux
  | worker index ticks, _ => runWorker nested index ticks
  | _, none => return .error .notCreated
  | s, some n => playOn n (monitorReach nested n ((← get).postAt n)) s

end PaneWatch.Rehearsal.MonitorStep
