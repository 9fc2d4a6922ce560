/-
The file of the registry.

`decode` and `encode` relate the bytes of the file to the sessions in it. A
file whose content is corrupt is copied aside, and the registry starts empty.
Writing replaces the whole file at once.
-/
import PaneWatch.Machine
import PaneWatch.Registry
import PaneWatch.Value.Display
import PaneWatch.Yaml.Document
import PaneWatch.Yaml.Printer

namespace PaneWatch.Registry

open Session (Record)
open Time (Stamp)

-- ===================================================== content

/-- Why the content of a file is corrupt. -/
inductive Corruption where
  /-- It is no text, or breaks the rules of its format. -/
  | malformed
  /-- It holds something else than a mapping. -/
  | notMapping (typeName : String)
  /-- An entry is no mapping; the key as it is shown. -/
  | entryNotMapping (key : String)
  | invalidEntry (key : String) (faults : List Fault)

/-- The reason as the log gives it. What only a library could say is left out. -/
def Corruption.reason : Corruption → String
  | malformed | invalidEntry .. => "..."
  | notMapping typeName => "expected a mapping, got " ++ typeName
  | entryNotMapping key => "entry " ++ key ++ " is not a mapping"

/-- What the bytes of a file hold. -/
inductive Content where
  /-- Nothing but blanks. -/
  | blank
  | sessions (sessions : Keyed Record)
  | corrupt (why : Corruption)

/-- Adds the sessions of some entries to those before them. -/
def decodeEntries [Time.Zone] (now : Stamp) (before : Keyed Record) :
    List (Value × Value) → Except Accident Content
  | [] => .ok (.sessions before)
  | (key, v) :: rest =>
    match v with
    | .map _ => do
      match ← Record.check now v with
      | .invalid faults => return .corrupt (.invalidEntry (← key.display?) faults)
      | .valid s => decodeEntries now (before.insert (← key.toKeyText) s) rest
    | _ => return .corrupt (.entryNotMapping (← key.display?))

/-- What a value that is not blank holds. -/
def decodeValue [Time.Zone] (now : Stamp) : Value → Except Accident Content
  | .null => .ok (.sessions {})
  | .map entries => decodeEntries now {} entries
  | v => .ok (.corrupt (.notMapping v.typeName))

/-- What the bytes of a file hold, unless an accident ends the reading. Timestamps that
are absent are now. -/
def decode [Time.Zone] (now : Stamp) (bytes : List UInt8) : Except Accident Content :=
  if bytes.all Text.isByteBlank then .ok .blank
  else
    match Value.utf8? bytes with
    | none => .ok (.corrupt .malformed)
    | some text =>
      match Yaml.load text with
      | .ok v => decodeValue now v
      | .error .malformed => .ok (.corrupt .malformed)
      | .error (.accident what) => .error what

/-- The members of the plain tree of all sessions. -/
def toMembers (r : Registry) : Except Value.Unwritable (List (String × Json)) :=
  r.sessions.entries.mapM fun (key, s) => return (key, ← s.toJson)

/-- The bytes that the sessions are written as, if all of them can be written. -/
def encode (r : Registry) : Except Value.Unwritable (List UInt8) := do
  let members ← r.toMembers
  if Json.areMembersPrintable members then return (Yaml.print members).toUTF8.toList
  else throw .number

-- ===================================================== actions

/-- A registry and the machine that it runs on. -/
structure Desk where
  registry : Registry
  machine : Machine

/-- Something done to a registry. What is done before it fails stays done. -/
abbrev Action (α : Type) := ExceptT Failure (StateM Desk) α

namespace Action

/-- Does something on the machine. -/
def onMachine {α : Type} (act : StateM Machine α) : Action α :=
  modifyGet fun d => let (a, machine) := act d.machine; (a, { d with machine })

/-- Logs a message. -/
def note (level : LogLevel) (message : String) : Action Unit :=
  onMachine (Machine.note level message)

/-- The registry. -/
def registry : Action Registry := return (← get).registry

/-- Changes the registry. -/
def edit (f : Registry → Registry) : Action Unit :=
  modify fun d => { d with registry := f d.registry }

/-- Replaces the file of the registry. -/
def replaceFile (bytes : List UInt8) : Action (Except Disk.Trouble Unit) :=
  modifyGet fun d =>
    let (outcome, disk) := d.machine.disk.replaceFile d.registry.path bytes
    (outcome, { d with machine := { d.machine with disk } })

end Action

/-- Writes all sessions to the file. -/
def save : Action Unit := do
  let r ← Action.registry
  match r.encode with
  | .error _ => throw .unwritableRegistry
  | .ok bytes =>
    match ← Action.replaceFile bytes with
    | .ok () => return
    | .error t =>
      let path := r.path.toText
      Action.note .error ("Failed to save session state to " ++ path ++ ": " ++ t.reason)
      throw (.unwritableFile path t.reason)

/-- The file that corrupt content is copied to at some time. -/
def backupPath (path : Path) (now : Stamp) : Path := path.extend (".backup." ++ now.compactText)

/-- Copies corrupt content aside. -/
def backUp (bytes : List UInt8) (why : Corruption) : Action Unit := do
  let path := (← Action.registry).path
  let backup := backupPath path (← get).machine.now
  match ← Action.onMachine (Machine.change (·.writeBackup backup bytes)) with
  | .ok () =>
    Action.note .warning ("Corrupted state file " ++ path.toText ++ " (" ++ why.reason
      ++ ") backed up to " ++ backup.toText)
  | .error t =>
    Action.note .error ("Corrupted state file " ++ path.toText ++ " could not be backed up: "
      ++ t.reason)

/-- Fills a new registry from its file, which is created if it is missing. -/
def fill : Action Unit := do
  let path := (← Action.registry).path
  let machine := (← get).machine
  if !machine.disk.contains path then
    save
    Action.note .info ("Created new session state file at " ++ path.toText)
  else
    match machine.disk.readFile path with
    | .error t => throw (.unreadableFile path.toText t.reason)
    | .ok bytes =>
      match decode machine.now bytes with
      | .error what => throw (.accident what)
      | .ok .blank => return
      | .ok (.corrupt why) => backUp bytes why
      | .ok (.sessions sessions) =>
        Action.edit fun r => { r with sessions }
        Action.note .info
          ("Loaded " ++ toString sessions.size ++ " sessions from " ++ path.toText)

/-- The registry of a file. -/
def load (path : Path) (m : Machine) : Except Failure Registry × Machine :=
  let (outcome, d) := fill.run ⟨{ path }, m⟩
  (outcome.map fun () => d.registry, d.machine)

end PaneWatch.Registry
