/-
The service on a console.

The argument is the time at which the service starts. It starts from an empty
disk, so with the settings and the registry that a first start makes. Each line
of standard input is a request, and the reply goes to standard output. What is
logged goes to standard error. At the end of the input every watch ends.
-/
import PaneWatch.Console
import PaneWatch.Rehearsal
import PaneWatch.Time.Iso

namespace PaneWatch.Console

open Rehearsal

/-- Plays a step and shows what is logged meanwhile. -/
def perform (s : Step) (w : World) : IO (Outcome × World) := do
  let (a, w) := (answer s).run w
  for line in a.log do
    IO.eprintln line.toText
  return (a.outcome, w)

/-- Serves the requests that are left in the input. -/
partial def serve (w : World) : IO World := do
  let line ← (← IO.getStdin).getLine
  if line.isEmpty then return w
  match request? line with
  | none => serve w
  | some r =>
    let (outcome, w) ← perform (.service (.request r)) w
    IO.println (outcomeLine outcome)
    serve w

/-- Starts the service at some time, serves, and shuts it down. -/
def runFrom (start : Time.Stamp) : IO UInt32 := do
  let create := .service (.create Service.usualPath.toText true)
  match ← perform create { machine := { now := start } } with
  | (.error f, _) =>
    IO.eprintln f.message
    return 1
  | (.ok _, w) =>
    let (_, w) ← perform (.service .cleanUpAtStart) w
    let w ← serve w
    let _ ← perform (.monitor (.shutDown none)) w
    return 0

end PaneWatch.Console

/-- Starts the service at the time that the argument tells. -/
def main (args : List String) : IO UInt32 := do
  match args.map PaneWatch.Time.Iso.read? with
  | [some start] => PaneWatch.Console.runFrom start.stamp
  | _ =>
    IO.eprintln "usage: panewatch TIME"
    return 2
