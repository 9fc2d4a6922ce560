/-
The durable record of one session.

`Record.check` makes a record from data of unknown type, `Record.toJson` the
plain tree that files and answers show. A record is writable if it has such a
tree; its metadata may hold values that have none.

Both timestamps are kept in local time without an offset. One that leaves the
calendar on its way there is an accident and not a fault of the data.
-/
import PaneWatch.Accident
import PaneWatch.Check

namespace PaneWatch.Session

open Time (Stamp Moment)

/-- What is known of a session. -/
structure Record where
  id : String
  name : String := ""
  project : String := ""
  worktree : String := ""
  branch : String := ""
  directory : String := ""
  created : Stamp
  lastAccess : Stamp
  lastState : Activity := .unknown
  /-- The environment variables that the session adds. -/
  environment : Keyed String := {}
  /-- Whatever else is noted about the session. -/
  metadata : Keyed Value := {}

namespace Record

-- ===================================================== checking

/-- Checks for a timestamp. The outer failure is the accident that the moment has no
local time in the calendar. -/
def checkStamp [Time.Zone] (v : Value) : Except Accident (Checked Stamp) :=
  match Check.moment v with
  | .error c => .ok (.invalid [⟨[], c⟩])
  | .ok m => m.toLocal?.elim (.error .outOfRange) (.ok <| .valid ·)

/-- Checks for an activity. -/
def checkActivity (v : Value) : Checked Activity :=
  match (Check.textOf? v).bind Activity.ofName? with
  | some a => .valid a
  | none => .invalid [⟨[], .noChoice⟩]

/-- Checks for text. -/
def checkText (v : Value) : Checked String := .ofExcept (Check.text v)

/-- A mapping, where null stands for an empty one. -/
def orEmpty (v : Value) : Value :=
  match v with
  | .null => .map []
  | v => v

/-- Checks the timestamp under a label, which is now if there is none. -/
def stampField [Time.Zone] (entries : List (Value × Value)) (label : String) (now : Stamp) :
    Except Accident (Checked Stamp) :=
  match Value.lookup? label entries with
  | none => .ok (.valid now)
  | some v => (Checked.under label) <$> checkStamp v

/-- Checks the entries of a record. -/
def checkEntries [Time.Zone] (now : Stamp) (entries : List (Value × Value)) :
    Except Accident (Checked Record) := do
  let textField (label : String) := Check.field entries label "" checkText
  let created ← stampField entries "created" now
  let lastAccess ← stampField entries "last_access" now
  let id : Checked String := match Value.lookup? "id" entries with
    | none => .invalid [⟨["id"], .missing⟩]
    | some v => (checkText v).under "id"
  return Record.mk <$> id
    <*> textField "name" <*> textField "project" <*> textField "worktree"
    <*> textField "branch" <*> textField "directory"
    <*> created <*> lastAccess
    <*> Check.field entries "last_state" .unknown checkActivity
    <*> Check.field entries "environment" {} (Check.mapping Check.text ∘ orEmpty)
    <*> Check.field entries "metadata" {} (Check.mapping Except.ok ∘ orEmpty)

/-- Checks for a record. Timestamps that are absent are now. -/
def check [Time.Zone] (now : Stamp) : Value → Except Accident (Checked Record)
  | .map entries => checkEntries now entries
  | _ => .ok (.invalid [⟨[], .notRecord⟩])

-- ===================================================== showing

/-- The plain tree of the metadata. The levels of each value are counted. -/
def metadataTree (r : Record) : Except Value.Unwritable Json :=
  Value.toJson (Value.maxDepth + 1) (.map (r.metadata.entries.map fun (k, v) => (.text k, v)))

/-- The members of the plain tree of a record, in order, with the tree of its metadata. -/
def members (r : Record) (metadata : Json) : List (String × Json) :=
  [("id", .text r.id), ("name", .text r.name), ("project", .text r.project),
    ("worktree", .text r.worktree), ("branch", .text r.branch),
    ("directory", .text r.directory), ("created", .text r.created.toText),
    ("last_access", .text r.lastAccess.toText), ("last_state", .text r.lastState.name),
    ("environment", .object (r.environment.entries.map fun (k, v) => (k, .text v))),
    ("metadata", metadata)]

/-- The members of the plain tree of a record. -/
def toMembers (r : Record) : Except Value.Unwritable (List (String × Json)) :=
  r.members <$> r.metadataTree

/-- The plain tree of a record. -/
def toJson (r : Record) : Except Value.Unwritable Json := Json.object <$> r.toMembers

/-- Whether a record can be written to a file. -/
def isWritable (r : Record) : Bool :=
  match r.toJson with
  | .ok tree => tree.isPrintable
  | .error _ => false

/-- The names that sessions of one ID should share. -/
def triple (r : Record) : String × String × String := (r.project, r.worktree, r.branch)

end Record

end PaneWatch.Session
