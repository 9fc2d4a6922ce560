/-
The program as a service: how it starts, and what it does before it serves.

It reads its settings and then its registry, whose file the settings name.
With them the caller sets up a monitor over the same panes. Stale sessions are
removed before the first request if the settings ask for that.
-/
import PaneWatch.Command.Tmux
import PaneWatch.Registry.Cleanup
import PaneWatch.Settings.Keeper

namespace PaneWatch.Service

open Number (Amount)
open Time (Span)

/-- Where the settings are unless somebody says otherwise. -/
def usualPath : Path := Path.ofText "config.yaml"

/-- What has been read at the start. -/
structure Loaded where
  settings : Settings
  registry : Registry

namespace Loaded

/-- How tmux is run if no other panes are given. -/
def tmux (l : Loaded) : Tmux := { timeout := .real l.settings.tmux.commandTimeout }

/-- The seconds between two looks at a session. -/
def pollInterval (l : Loaded) : Amount := .real l.settings.tmux.monitorInterval

/-- The seconds that a question to the process table may take. -/
def probeTimeout (l : Loaded) : Amount := .real l.settings.tmux.commandTimeout

end Loaded

/-- Reads the registry that settings name. -/
def loadRegistry (s : Settings) : StateM Machine (Except Failure Loaded) := do
  match (Path.ofText s.tmux.stateFile).expandHome? with
  | none => return .error (.accident .noHome)
  | some path =>
    match ← modifyGet (Registry.load path) with
    | .error f => return .error f
    | .ok registry =>
      Machine.note .info ("Services initialized (state file: " ++ path.toText ++ ")")
      return .ok ⟨s, registry⟩

/-- Reads settings and registry. -/
def load [Check.Bounding] (path : Path) : StateM Machine (Except Failure Loaded) := do
  match ← Settings.Keeper.get ⟨path, none⟩ with
  | (.error f, _) => return .error f
  | (.ok s, _) => loadRegistry s

/-- Removes stale sessions if the settings ask for that, and counts them. -/
def cleanUpAtStart {m : Type → Type} [Monad m] (s : Settings) (r : Registry.Reach m)
    (note : LogLevel → String → m Unit) : m (Except Failure Nat) := do
  if !s.tmux.autoCleanup then return .ok 0
  match ← r.cleanUp (Span.ofWholeHours s.tmux.cleanupAgeHours) with
  | .error f => return .error f
  | .ok removed =>
    note .info ("Startup cleanup removed " ++ toString removed ++ " stale sessions")
    return .ok removed

/-- The message about the port that is served. -/
def startText (s : Settings) : String :=
  "Starting worktree session monitor on port " ++ toString s.port

end PaneWatch.Service
