/-
The file that the settings are kept in.

A file that is missing, cannot be read, breaks the rules of its format, holds
no mapping or breaks a bound is replaced by the defaults, and the log says
why. Only an accident in reading a value gets through to the caller.

The file is decoded as a whole before any of it is scanned. So bytes that are no
text count more than a fault of the format in front of them, however long the
file is.

The settings last read or written are remembered.
-/
import PaneWatch.Machine
import PaneWatch.Settings
import PaneWatch.Settings.Legacy
import PaneWatch.Yaml.Document
import PaneWatch.Yaml.Printer

namespace PaneWatch.Settings

/-- A file for settings, and the settings remembered. -/
structure Keeper where
  path : Path
  current : Option Settings := none

namespace Keeper

/-- Why a file gives no settings. -/
inductive Refusal where
  | missing
  /-- It cannot be read, or breaks the rules of its format. -/
  | unreadable
  | notMapping
  | invalid (faults : List Fault)

/-- What reading a file comes to, and what became of its old fields. -/
inductive Reading where
  | settings (s : Settings) (notes : List Legacy.Note)
  | refused (why : Refusal) (notes : List Legacy.Note)
  | accident (what : Accident)

/-- The text with one line feed for every way to end a line. -/
def unifyLines : List Char → List Char
  | '\r' :: '\n' :: rest => '\n' :: unifyLines rest
  | '\r' :: rest => '\n' :: unifyLines rest
  | c :: rest => c :: unifyLines rest
  | [] => []

/-- The top level that a value gives; every empty value is an empty one. -/
def topLevel? (v : Value) : Option Legacy.Entries :=
  if v.isPresent then
    match v with
    | .map entries => some entries
    | _ => none
  else some []

/-- The settings that a value gives. -/
def ofValue [Check.Bounding] (v : Value) : Reading :=
  match topLevel? v with
  | none => .refused .notMapping []
  | some top =>
    let (top, notes) := Legacy.migrate top
    match Settings.check (.map top) with
    | .valid s => .settings s notes
    | .invalid faults => .refused (.invalid faults) notes

/-- The settings that the bytes of a file spell. -/
def ofBytes [Check.Bounding] (bytes : List UInt8) : Reading :=
  match Value.utf8? bytes with
  | none => .accident .undecodable
  | some text =>
    match Yaml.load (String.ofList (unifyLines text.toList)) with
    | .ok v => ofValue v
    | .error .malformed => .refused .unreadable []
    | .error (.accident what) => .accident what

/-- Reads the file on a disk. -/
def read [Check.Bounding] (k : Keeper) (disk : Disk) : Reading :=
  if !disk.contains k.path then .refused .missing []
  else
    match disk.read k.path with
    | .error _ => .refused .unreadable []
    | .ok bytes => ofBytes bytes

/-- The message about a file that gives no settings. -/
def Refusal.report (path : Path) : Refusal → LogLine
  | missing => ⟨.info, "Config file not found at " ++ path.toText ++ ", using defaults"⟩
  | unreadable => ⟨.warning, "Error reading config file: ..., using defaults"⟩
  | notMapping =>
    ⟨.warning, "Config file " ++ path.toText ++ " is not a mapping, using defaults"⟩
  | invalid _ => ⟨.warning, "Config validation error: ..., using defaults"⟩

/-- Remembers settings. -/
def keep (k : Keeper) (s : Settings) : Except Failure Settings × Keeper :=
  (.ok s, { k with current := some s })

/-- Logs what became of old fields. -/
def report (notes : List Legacy.Note) : StateM Machine Unit :=
  notes.forM fun n => Machine.note .info n.message

/-- Reads the file and remembers what it gives, the defaults if it gives nothing. -/
def load [Check.Bounding] (k : Keeper) : StateM Machine (Except Failure Settings × Keeper) := do
  match k.read (← get).disk with
  | .settings s notes =>
    report notes
    return k.keep s
  | .refused why notes =>
    report notes
    let line := why.report k.path
    Machine.note line.level line.message
    return k.keep {}
  | .accident what => return (.error (.accident what), k)

/-- The settings remembered, or else those of the file. -/
def get [Check.Bounding] (k : Keeper) : StateM Machine (Except Failure Settings × Keeper) :=
  match k.current with
  | some s => return (.ok s, k)
  | none => k.load

/-- Forgets the settings and reads the file again. -/
def reload [Check.Bounding] (k : Keeper) : StateM Machine (Except Failure Settings × Keeper) :=
  { k with current := none }.load

/-- The bytes that settings are written as. -/
def bytesOf (s : Settings) : List UInt8 := (Yaml.print s.toMembers).toUTF8.toList

/-- Writes a file of settings. -/
def writeTo (path : Path) (s : Settings) (disk : Disk) : Except Disk.Trouble Disk := do
  (← disk.makeFolder path.parent).write path (bytesOf s)

/-- Writes settings to the file, those remembered if none are given, and remembers
them. The answer tells whether that worked. -/
def save (k : Keeper) (given : Option Settings) : StateM Machine (Bool × Keeper) := do
  match given.orElse fun _ => k.current with
  | none => return (false, k)
  | some s =>
    match ← Machine.change (writeTo k.path s) with
    | .ok () => return (true, { k with current := some s })
    | .error t =>
      Machine.note .error ("Error saving config: " ++ t.reason)
      return (false, k)

end Keeper

end PaneWatch.Settings
