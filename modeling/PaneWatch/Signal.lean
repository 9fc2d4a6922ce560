/-
The two signals about a process, and how they are combined.

The output of its pane goes first. If it says nothing, the state of the
process in the process table is asked for. Only if both signals fail is the
activity not known at all; a failure that nobody announced is never held
back.
-/
import PaneWatch.Signal.Output
import PaneWatch.Text.Blank

namespace PaneWatch.Signal

/-- What the letters of process states stand for. -/
def processStates : List (Char × Activity) :=
  [('R', .busy), ('S', .idle), ('D', .waiting), ('Z', .error)]

/-- The activity that the state of a process tells, by its first letter. -/
def ofProcess (code : String) : Activity :=
  match (Text.trim code).toList with
  | [] => .unknown
  | c :: _ => (processStates.lookup c).getD .unknown

/-- The activity that the process table tells, where the output has failed or has said
nothing. -/
def ofProbe (id : String) (output : Option Failure) : Except Failure String →
    Except Failure Activity
  | .ok code => .ok (ofProcess code)
  | .error f =>
    if !f.kind.isOwn then .error f
    else
      match output with
      | some o => .error (.undetected id o f)
      | none => .ok .unknown

/-- Combines the signals. The process table is asked only if the output says nothing. -/
def classify {m : Type → Type} [Monad m] (table : List Row) (id : String)
    (capture probe : m (Except Failure String)) : m (Except Failure Activity) := do
  match ← capture with
  | .ok output =>
    let a := ofOutput table output
    if a == .unknown then return ofProbe id none (← probe) else return .ok a
  | .error f =>
    if f.kind.isOwn then return ofProbe id (some f) (← probe) else return .error f

end PaneWatch.Signal
