/-
What is done with settings, a registry, and tmux.

A step about something that has not been created fails, whatever it is.
-/
import PaneWatch.Rehearsal.Reach
import PaneWatch.Rehearsal.Scene

namespace PaneWatch.Rehearsal

open Session (Record)
open Time (Span)

-- ===================================================== settings

namespace SettingsStep

/-- Does something with the keeper, and shows the settings that come of it. -/
def withKeeper
    (act : StateM Machine (Except Failure Settings × Settings.Keeper)) : Play Outcome := do
  let (outcome, keeper) ← World.onMachine act
  modify fun w => { w with keeper := some keeper }
  return outcome.map (·.toJson)

/-- Saves settings, which are checked before if they are given. -/
def saveWith (k : Settings.Keeper) (given : Option Value) : Play Outcome := do
  match given.map Settings.check with
  | some (.invalid faults) => return .error (.faulty faults)
  | checked =>
    let (saved, keeper) ← World.onMachine (k.save (checked.bind (·.value?)))
    modify fun w => { w with keeper := some keeper }
    return .ok (.bool saved)

/-- Plays a step. -/
def play (s : SettingsStep) : Play Outcome := do
  match s, (← get).keeper with
  | create path, _ =>
    modify fun w => { w with keeper := some ⟨Path.ofText path, none⟩ }
    return quiet
  | _, none => return .error .notCreated
  | load, some k => withKeeper k.load
  | current, some k => withKeeper k.get
  | reload, some k => withKeeper k.reload
  | save given, some k => saveWith k given

end SettingsStep

-- ===================================================== registries

namespace RegistryStep

/-- Shows a session. -/
def showRecord (s : Record) : Outcome := s.toJson.mapError fun why => .accident why.accident

/-- The backend of a registry that may have one. -/
def backendOf (overPanes : Bool) : Option Backend := if overPanes then some .played else none

/-- Makes a registry the one that steps are about. -/
def adopt (r : Registry) (overPanes : Bool) : Play Outcome := do
  let n ← World.addShelf ⟨r, backendOf overPanes⟩
  modify fun w => { w with shelf := some n }
  return quiet

/-- Adds a session after checking it. -/
def addChecked (n : Nat) (session : Value) : Play Outcome := do
  match Record.check (← get).machine.now session with
  | .error what => return .error (.accident what)
  | .ok (.invalid faults) => return .error (.faulty faults)
  | .ok (.valid s) => return (← World.act n (Registry.add s)).map fun () => .null

/-- Looks at a registry. -/
def look (n : Nat) (f : Registry → Outcome) : Play Outcome := do
  return f ((← get).shelfAt n).registry

/-- The IDs of some sessions. -/
def idsOf (sessions : List Record) : Json := .list (sessions.map fun s => .text s.id)

/-- Plays a step about a registry that is there. -/
def playOn (nested : List Step → Play Unit) (n : Nat) : RegistryStep → Play Outcome
  | load .. | create .. => return quiet
  | save => return (← World.act n Registry.save).map fun () => .null
  | add given => addChecked n given
  | remove id => return (← World.act n (Registry.remove id)).map fun () => .null
  | update id updates => return (← World.act n (Registry.update id updates)).map fun () => .null
  | session id => return (← World.act n (Registry.get id)) >>= showRecord
  | list => look n fun r => Json.list <$> r.list.mapM showRecord
  | ofProject project => look n fun r => .ok (idsOf (r.ofProject project))
  | ofWorktree worktree => look n fun r => .ok (idsOf (r.ofWorktree worktree))
  | count => look n fun r => .ok (.int r.size)
  | cleanUp age => do
    match Span.ofMicros? age with
    | none => return .error (.accident .outOfRange)
    | some age =>
      let reach := registryReach nested n ((← get).shelfAt n)
      return (← reach.cleanUp age).map fun removed => .int removed

/-- Plays a step. -/
def play (nested : List Step → Play Unit) (s : RegistryStep) : Play Outcome := do
  match s, (← get).shelf with
  | load path overPanes, _ =>
    match ← World.onMachine (modifyGet (Registry.load (Path.ofText path))) with
    | .error f => return .error f
    | .ok r => adopt r overPanes
  | create path overPanes, _ => adopt { path := Path.ofText path } overPanes
  | _, none => return .error .notCreated
  | s, some n => playOn nested n s

end RegistryStep

-- ===================================================== tmux

namespace TmuxStep

/-- Plays a step about tmux. -/
def playOn (t : Tmux) : TmuxStep → Play Outcome
  | create .. | processState .. => return quiet
  | available there => return .ok (.bool (there.contains t.executable))
  | panes id => return (← (t.panes World.run id).run).map fun ids => .list (ids.map .text)
  | capture id => return (← (t.capture World.run id).run).map .text
  | pid id => return (← (t.resolvePid World.run id).run).map .int
  | existence id => return (← (t.hasSession World.run id).run).map .bool

/-- Plays a step. -/
def play (s : TmuxStep) : Play Outcome := do
  match s, (← get).tmux with
  | create timeout executable, _ =>
    modify fun w => { w with tmux := some ⟨timeout, executable⟩ }
    return .ok (.text (Backend.tmux ⟨timeout, executable⟩).name)
  | processState number timeout, _ =>
    return (← Process.readState World.run number timeout).map .text
  | _, none => return .error .notCreated
  | s, some t => playOn t s

end TmuxStep

end PaneWatch.Rehearsal
