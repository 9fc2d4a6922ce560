/-
Updates of a session.

Four keys of an update change fields of the session, and only a value of the
right type will do. Every other key, also one that is the name of another
field, is noted in the metadata with the value as it is.
-/
import PaneWatch.Failure
import PaneWatch.Session.Record
import PaneWatch.Time.Iso
import PaneWatch.Value.Display

namespace PaneWatch.Registry

open Session (Record)
open Time (Stamp Moment)

/-- One change to a session. -/
inductive Change where
  | lastAccess (at_ : Stamp)
  | lastState (a : Activity)
  | directory (path : String)
  | branch (name : String)
  | noted (key : String) (value : Value)

namespace Change

/-- The failure that a field has a value of the wrong type, which its message shows. -/
def wrongType {α : Type} (field wanted : String) (v : Value) : Except Failure α :=
  match v.display? with
  | .ok shown => .error (.wrongType field wanted shown)
  | .error what => .error (.accident what)

/-- The moment that a value gives. -/
def momentOf? (v : Value) : Option Moment :=
  match v with
  | .moment m => some m
  | v => v.asText?.bind Time.Iso.read?

/-- Reads a value for the time of the last access. -/
def readAccess [Time.Zone] (v : Value) : Except Failure Change :=
  match momentOf? v with
  | none => wrongType "last_access" "datetime" v
  | some m =>
    match m.toLocal? with
    | some s => .ok (.lastAccess s)
    | none => .error (.accident .outOfRange)

/-- Reads a value for the last activity. -/
def readState (v : Value) : Except Failure Change :=
  match v.asText?.bind Activity.ofName? with
  | some a => .ok (.lastState a)
  | none => wrongType "last_state" "ProcessState" v

/-- Reads a text. -/
def readText (field : String) (make : String → Change) (v : Value) : Except Failure Change :=
  match v.asText? with
  | some s => .ok (make s)
  | none => wrongType field "string" v

/-- The change that a key and its value ask for. -/
def read [Time.Zone] (key : String) (v : Value) : Except Failure Change :=
  match key with
  | "last_access" => readAccess v
  | "last_state" => readState v
  | "directory" => readText key .directory v
  | "branch" => readText key .branch v
  | _ => .ok (.noted key v)

/-- Makes a change. -/
def apply (s : Record) : Change → Record
  | lastAccess t => { s with lastAccess := t }
  | lastState a => { s with lastState := a }
  | directory path => { s with directory := path }
  | branch name => { s with branch := name }
  | noted key value => { s with metadata := s.metadata.insert key value }

/-- The changes that an update asks for. The first key that asks for none fails. -/
def readAll [Time.Zone] (updates : List (String × Value)) : Except Failure (List Change) :=
  updates.mapM fun (key, v) => read key v

end Change

/-- The update that stores what a session does, and since when. -/
def stateUpdate (a : Activity) (time : Stamp) : List (String × Value) :=
  [("last_state", .activity a), ("last_access", .moment ⟨time, none⟩)]

end PaneWatch.Registry
