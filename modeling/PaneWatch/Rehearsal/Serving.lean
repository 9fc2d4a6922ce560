/-
What is done with the whole service.
-/
import PaneWatch.Rehearsal.Reach
import PaneWatch.Rehearsal.Scene
import PaneWatch.Service

namespace PaneWatch.Rehearsal.ServiceStep

variable (nested : List Step → Play Unit)

/-- Sets up a service over panes that are given, or over tmux. -/
def build (path : Path) (given : Option Backend) :
    Play (Except Failure (Running × Service.Loaded × Backend)) := do
  match ← World.onMachine (Service.load path) with
  | .error f => return .error f
  | .ok loaded =>
    let backend := given.getD (.tmux loaded.tmux)
    let shelf ← World.addShelf ⟨loaded.registry, some backend⟩
    let post ← World.addPost
      { backend, shelf := some shelf, interval := loaded.pollInterval
        timeout := loaded.probeTimeout }
    return .ok (⟨some loaded.settings, shelf, post⟩, loaded, backend)

/-- Creates the service that steps are about. -/
def createService (path : Path) (given : Option Backend) : Play Outcome := do
  match ← build path given with
  | .error f => return .error f
  | .ok (running, loaded, backend) =>
    modify fun w => { w with
      running := some running, shelf := some running.shelf, post := some running.post }
    return .ok (.object [("name", .text "worktree_sessions.app"), ("backend", .text backend.name),
      ("poll_interval", loaded.pollInterval.toJson),
      ("state_file", .text loaded.settings.tmux.stateFile)])

/-- Removes stale sessions before the service serves. -/
def cleanUpOf (s : Running) : Play (Except Failure Nat) := do
  match s.settings with
  | none => return .error (.accident .noSettings)
  | some settings =>
    let reach := registryReach nested s.shelf ((← get).shelfAt s.shelf)
    Service.cleanUpAtStart settings reach World.note

/-- What is served, and how. -/
def serving (s : Settings) : Json :=
  .object [
    ("run", .object [("host", .text "127.0.0.1"), ("port", .int s.port), ("debug", .bool s.debug),
      ("threaded", .bool true)]),
    ("root_level", .text s.logLevel.name)]

/-- Runs a service from its start to its end. -/
def runMain : Play Outcome := do
  match ← build Service.usualPath none with
  | .error f => return .error f
  | .ok (running, loaded, _) =>
    match ← cleanUpOf nested running with
    | .error f => return .error f
    | .ok _ =>
      World.note .info (Service.startText loaded.settings)
      let _ ← (monitorReach nested running.post ((← get).postAt running.post)).shutDown
      return .ok (serving loaded.settings)

/-- A reply as it is shown. -/
def showReply (r : Http.Reply) : Json :=
  .object [("status", .int r.status), ("body", r.body.getD .null)]

/-- Plays a step. -/
def play (s : ServiceStep) : Play Outcome := do
  match s, (← get).running with
  | create path overTmux, _ =>
    createService (Path.ofText path) (if overTmux then none else some .played)
  | main, _ => runMain nested
  | _, none => return .error .notCreated
  | request r, some running => return .ok (showReply (← (api nested running (← get)).reply r))
  | cleanUpAtStart, some running =>
    return (← cleanUpOf nested running).map fun removed => .int removed
  | dropSettings, some running =>
    modify fun w => { w with running := some { running with settings := none } }
    return quiet

end PaneWatch.Rehearsal.ServiceStep
