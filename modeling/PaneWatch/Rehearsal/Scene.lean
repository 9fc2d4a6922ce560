/-
Playing the surroundings.
-/
import PaneWatch.Rehearsal.World
import PaneWatch.Text.Base64
import PaneWatch.Value.Plain

namespace PaneWatch.Rehearsal

open Time (Stamp)

/-- What comes of a step. -/
abbrev Outcome := Except Failure Json

/-- The outcome of a step that has nothing to answer. -/
def quiet : Outcome := .ok .null

/-- Takes in what is said about panes. -/
def PaneFact.tell (p : Pane) : PaneFact Step → Pane
  | output text => { p with output := text }
  | pid number => { p with pid := number }
  | present b => { p with present := b }
  | failing q failure =>
    { p with failures := failure.toList.map (q, ·) ++ p.failures.filter (·.1 != q) }
  | meanwhile q steps => { p with plans := (q, steps) :: p.plans.filter (·.1 != q) }

namespace World

/-- Changes the disk. -/
def editDisk (f : Disk → Disk) : Play Unit :=
  modify fun w => { w with machine := { w.machine with disk := f w.machine.disk } }

/-- Sets the clock. -/
def setClock (now : Stamp) : Play Unit :=
  modify fun w => { w with machine := { w.machine with now } }

/-- Moves the clock. -/
def moveClock (micros : Int) : Play Outcome := do
  match (← get).machine.now.add? micros with
  | none => return .error (.accident .outOfRange)
  | some now =>
    setClock now
    return .ok (.text now.toText)

end World

/-- Bytes as they are shown: as text if they are, otherwise in Base64. -/
def showBytes (bytes : List UInt8) : Json :=
  match Value.utf8? bytes with
  | some text => .object [("text", .text text)]
  | none => .object [("base64", .text (String.ofList (Text.Base64.encode bytes)))]

/-- The place that the text of a path names. -/
def placeOf (path : String) : List String := (Path.ofText path).place

namespace SceneStep

/-- Plays a step. -/
def play : SceneStep Step → Play Outcome
  | clock now advance => do
    if let some now := now then World.setClock now
    World.moveClock advance
  | putFile path bytes => do
    let place := placeOf path
    World.editDisk fun d => (d.addAncestors place).set place (.file bytes)
    return quiet
  | makeFolder path => do
    let place := placeOf path
    World.editDisk fun d => (d.addAncestors place).set place .folder
    return quiet
  | remove path => do
    World.editDisk (·.remove (placeOf path))
    return quiet
  | showFile path => do
    match (← get).machine.disk.read (Path.ofText path) with
    | .ok bytes => return .ok (showBytes bytes)
    | .error _ => return quiet
  | listFiles => return .ok (.list ((← get).machine.disk.files.map .text))
  | fault point reason => do
    World.editDisk (·.setFault point reason)
    return quiet
  | responses more => do
    modify fun w => { w with responses := w.responses ++ more }
    return quiet
  | processes table => do
    modify fun w => { w with processes := some table }
    return quiet
  | panes id facts => do
    World.editPane id fun p => facts.foldl PaneFact.tell p
    return quiet

end SceneStep

end PaneWatch.Rehearsal
