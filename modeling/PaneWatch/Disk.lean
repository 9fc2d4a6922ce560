/-
A tree of files and folders, and the ways in which changing it can fail.

A path is absolute or relative to the folder in which the program runs; the
tree covers both. Faults are points at which an operation is made to fail
with a reason of its own.

`replaceFile` is the only way to change a file that others may be reading:
the bytes go to a new file beside it, which then takes its name. Whatever
fails on the way, the old file is as before and the new one is gone.
-/
import PaneWatch.Text.Quoted

namespace PaneWatch

/-- The name of a place in the tree. -/
structure Path where
  /-- Whether the path starts at the root of the tree. -/
  absolute : Bool := false
  parts : List String
  deriving DecidableEq, Repr

namespace Path

/-- The folder in which the program runs, by the name under which messages show it. -/
def workFolder : String := "<dir>"

/-- Splits a text at slashes. Empty parts and single dots mean nothing. -/
def ofText (s : String) : Path where
  absolute := s.startsWith "/"
  parts := (s.splitOn "/").filter fun p => p != "" && p != "."

/-- The text of a path. -/
def toText (p : Path) : String :=
  let body := "/".intercalate p.parts
  if p.absolute then "/" ++ body else if p.parts.isEmpty then "." else body

/-- The folder that holds the place. -/
def parent (p : Path) : Path := { p with parts := p.parts.dropLast }

/-- The last part of a path. -/
def fileName (p : Path) : String := p.parts.getLast?.getD ""

/-- The path beside this one with another last part. -/
def sibling (p : Path) (name : String) : Path :=
  { p with parts := p.parts.dropLast ++ [name] }

/-- The path with something added to its text, which ends with its last part. The path
of the folder in which the program runs is a dot, that of the root has only its slash. -/
def extend (p : Path) (tail : String) : Path :=
  if p.parts.isEmpty then p.sibling (if p.absolute then tail else "." ++ tail)
  else p.sibling (p.fileName ++ tail)

/-- Takes back one part for each pair of dots. -/
def settle (parts : List String) : List String :=
  parts.foldl (fun done p => if p == ".." then done.dropLast else done ++ [p]) []

/-- The place that a path names. The root of the tree is named only by absolute paths. -/
def place (p : Path) : List String :=
  if p.absolute then "/" :: settle p.parts
  else
    match p.parts with
    | first :: rest => settle (if first == workFolder then rest else first :: rest)
    | [] => []

/-- The path with a leading tilde replaced by the home folder; none if the tilde names
somebody else's home. -/
def expandHome? (p : Path) : Option Path :=
  match p.absolute, p.parts with
  | false, first :: rest =>
    if first == "~" then some { p with parts := workFolder :: "home" :: rest }
    else if first.startsWith "~" then none
    else some p
  | _, _ => some p

end Path

/-- What stands at a place. -/
inductive Entry where
  | file (bytes : List UInt8)
  | folder
  deriving DecidableEq, Repr

/-- A point at which an operation can be made to fail. -/
inductive FaultPoint where
  | makeFolder
  | createTemp
  | writeTemp
  | rename
  | writeBackup
  | readContent
  deriving DecidableEq, Repr

/-- The tree, and the faults that are set with their reasons. -/
structure Disk where
  entries : List (List String × Entry) := []
  faults : List (FaultPoint × String) := []

namespace Disk

/-- What goes wrong for a reason that the operating system words. -/
inductive Trouble where
  | missing (path : String)
  | isFolder (path : String)
  | notFolder (path : String)
  | taken (path : String)
  | told (reason : String)

/-- The reason as messages give it. -/
def Trouble.reason : Trouble → String
  | missing path => "[Errno 2] No such file or directory: " ++ Text.quoted path
  | isFolder path => "[Errno 21] Is a directory: " ++ Text.quoted path
  | notFolder path => "[Errno 20] Not a directory: " ++ Text.quoted path
  | taken path => "[Errno 17] File exists: " ++ Text.quoted path
  | told reason => reason

-- ===================================================== looking

/-- What stands at a place. The folder of the program and the root are always there. -/
def at? (d : Disk) (place : List String) : Option Entry :=
  if place.isEmpty || place == ["/"] then some .folder else d.entries.lookup place

/-- What stands at a path. -/
def find? (d : Disk) (p : Path) : Option Entry := d.at? p.place

/-- Whether something stands at a path. -/
def contains (d : Disk) (p : Path) : Bool := (d.find? p).isSome

/-- The places on the way to a place, the nearest to the root first. -/
def ancestors (place : List String) : List (List String) :=
  (List.range place.length).map place.take

/-- Whether a file stands where a path needs a folder. -/
def isBlocked (d : Disk) (p : Path) : Bool :=
  (ancestors p.place).any fun place =>
    match d.at? place with
    | some (.file _) => true
    | _ => false

/-- Fails if a fault is set at a point. -/
def check (d : Disk) (point : FaultPoint) : Except Trouble Unit :=
  (d.faults.lookup point).elim (.ok ()) fun reason => .error (.told reason)

/-- The bytes of the file at a path. -/
def read (d : Disk) (p : Path) : Except Trouble (List UInt8) :=
  match d.find? p with
  | some (.file bytes) => .ok bytes
  | some .folder => .error (.isFolder p.toText)
  | none => .error (if d.isBlocked p then .notFolder p.toText else .missing p.toText)

/-- The paths of all files in the folder of the program, in alphabetical order. -/
def files (d : Disk) : List String :=
  let paths := d.entries.filterMap fun (place, e) =>
    match e with
    | .file _ => if place.head? == some "/" then none else some ("/".intercalate place)
    | .folder => none
  paths.mergeSort (fun a b => decide (a ≤ b))

-- ===================================================== changing

/-- Puts something at a place. -/
def set (d : Disk) (place : List String) (e : Entry) : Disk :=
  { d with entries := d.entries.filter (·.1 != place) ++ [(place, e)] }

/-- Removes what stands at a place and all that is in it. -/
def remove (d : Disk) (place : List String) : Disk :=
  { d with entries := d.entries.filter fun e => !place.isPrefixOf e.1 }

/-- Removes the file at a place. -/
def unlink (d : Disk) (place : List String) : Disk :=
  { d with entries := d.entries.filter (·.1 != place) }

/-- Adds the folders on the way to a place. -/
def addAncestors (d : Disk) (place : List String) : Disk :=
  (ancestors place).foldl (fun d a => if (d.at? a).isSome then d else d.set a .folder) d

/-- Sets or clears a fault. -/
def setFault (d : Disk) (point : FaultPoint) (reason : Option String) : Disk :=
  { d with faults := reason.toList.map (point, ·) ++ d.faults.filter (·.1 != point) }

/-- Makes a folder and those it needs. It may be there already. -/
def makeFolder (d : Disk) (p : Path) : Except Trouble Disk := do
  d.check .makeFolder
  match d.find? p with
  | some .folder => return d
  | some (.file _) => throw (.taken p.toText)
  | none =>
    if d.isBlocked p then throw (.notFolder p.toText)
    return (d.addAncestors p.place).set p.place .folder

/-- Writes a file in place. -/
def write (d : Disk) (p : Path) (bytes : List UInt8) : Except Trouble Disk :=
  match d.find? p with
  | some .folder => .error (.isFolder p.toText)
  | some (.file _) => .ok (d.set p.place (.file bytes))
  | none =>
    if d.isBlocked p then .error (.notFolder p.toText)
    else if d.contains p.parent then .ok (d.set p.place (.file bytes))
    else .error (.missing p.toText)

-- ===================================================== replacing a file

/-- The name of a new file beside a path. -/
def tempPath (p : Path) (number : Nat) : Path :=
  p.sibling ("." ++ p.fileName ++ "." ++ toString number ++ ".tmp")

/-- A new file beside a path: the first of the possible names that is not taken. -/
def freshPath (d : Disk) (p : Path) : Path :=
  let taken (n : Nat) : Bool := d.contains (tempPath p n)
  tempPath p (((List.range (d.entries.length + 1)).find? fun n => !taken n).getD d.entries.length)

/-- Creates an empty new file beside a path. -/
def createTemp (d : Disk) (p : Path) : Except Trouble (Disk × Path) := do
  d.check .createTemp
  let temp := d.freshPath p
  return (d.set temp.place (.file []), temp)

/-- Writes a new file. -/
def writeTemp (d : Disk) (temp : Path) (bytes : List UInt8) : Except Trouble Disk := do
  d.check .writeTemp
  d.write temp bytes

/-- Gives a file the name of another one, which is lost. -/
def rename (d : Disk) (source target : Path) : Except Trouble Disk := do
  d.check .rename
  match d.find? target with
  | some .folder => throw (.isFolder target.toText)
  | _ =>
    let bytes ← d.read source
    return (d.unlink source.place).set target.place (.file bytes)

/-- Replaces the file at a path. A folder for it is made if there is none. The tree is
given back also when something fails. -/
def replaceFile (d : Disk) (p : Path) (bytes : List UInt8) : Except Trouble Unit × Disk :=
  match d.makeFolder p.parent with
  | .error t => (.error t, d)
  | .ok d =>
    match d.createTemp p with
    | .error t => (.error t, d)
    | .ok (d, temp) =>
      match d.writeTemp temp bytes >>= (·.rename temp p) with
      | .error t => (.error t, d.unlink temp.place)
      | .ok d => (.ok (), d)

/-- Writes a copy of bytes aside. -/
def writeBackup (d : Disk) (p : Path) (bytes : List UInt8) : Except Trouble Disk := do
  d.check .writeBackup
  d.write p bytes

/-- The bytes of the file at a path, unless reading is made to fail. -/
def readFile (d : Disk) (p : Path) : Except Trouble (List UInt8) := do
  d.check .readContent
  d.read p

end Disk

end PaneWatch
