/-
Values as plain data trees.

Dates and moments become their text, bytes the UTF-8 text they hold, an
infinity or NaN becomes null, a set a list. Keys become text, null ones `None`;
keys that become the same text are one member, and the last value counts. Bytes that
are not UTF-8, a collection inside itself, an object that is no data and a key
that is too long an integer have no tree. Nor has a value that goes too deep: it is
taken for one that never ends.
-/
import PaneWatch.Accident
import PaneWatch.Value
import PaneWatch.Number.Reading
import PaneWatch.Number.Shortest

namespace PaneWatch.Value

/-- Why a value has no plain tree. -/
inductive Unwritable where
  /-- Bytes that are no UTF-8 text. -/
  | bytes
  /-- A collection that contains itself, or goes too deep to tell. -/
  | loop
  /-- An object that is no data. -/
  | foreign
  /-- An integer that cannot be written as text. -/
  | number
  deriving DecidableEq, Repr

/-- The accident of showing such a value. -/
def Unwritable.accident : Unwritable → Accident
  | .bytes => .undecodable
  | .loop => .circular
  | .foreign => .foreign
  | .number => .noSuchValue

/-- The UTF-8 text that bytes hold. -/
def utf8? (bs : List UInt8) : Option String := String.fromUTF8? ⟨bs.toArray⟩

/-- The key of a member that a key of a mapping becomes. -/
def plainKey : Value → Except Unwritable String
  | .null => .ok "None"
  | .bool b => .ok (if b then "true" else "false")
  | .int n => if Number.hasText n then .ok (toString n) else .error .number
  | .real x => .ok (if x.isFinite then x.toText else "None")
  | .text s => .ok s
  | .bytes bs => (utf8? bs).elim (.error .bytes) .ok
  | .date d => .ok d.toText
  | .moment m => .ok m.toText
  | .activity a => .ok a.name
  | .list _ | .map _ | .set _ | .loop => .error .loop
  | .foreign => .error .foreign

/-- The most levels that a value may have, its own counted. -/
def maxDepth : Nat := 255

mutual

/-- The plain tree of a value that may have so many levels. -/
def toJson (room : Nat) (v : Value) : Except Unwritable Json :=
  match room, v with
  | 0, _ => .error .loop
  | _ + 1, .null => .ok .null
  | _ + 1, .bool b => .ok (.bool b)
  | _ + 1, .int n => .ok (.int n)
  | _ + 1, .real x => .ok (if x.isFinite then .real x else .null)
  | _ + 1, .text s => .ok (.text s)
  | _ + 1, .bytes bs => (utf8? bs).elim (.error .bytes) fun s => .ok (.text s)
  | _ + 1, .date d => .ok (.text d.toText)
  | _ + 1, .moment m => .ok (.text m.toText)
  | _ + 1, .activity a => .ok (.text a.name)
  | room + 1, .list vs => return .list (← toElements room vs)
  | room + 1, .map es => return .object (← toMembers room [] es)
  | room + 1, .set vs => return .list (← toElements room vs)
  | _ + 1, .loop => .error .loop
  | _ + 1, .foreign => .error .foreign

/-- The plain trees of the elements of a list. -/
def toElements (room : Nat) : List Value → Except Unwritable (List Json)
  | [] => .ok []
  | v :: rest => return (← toJson room v) :: (← toElements room rest)

/-- The members that entries become, added to those before them. -/
def toMembers (room : Nat) (before : List (String × Json)) :
    List (Value × Value) → Except Unwritable (List (String × Json))
  | [] => .ok before
  | (k, v) :: rest => do
    let key ← plainKey k
    toMembers room (Json.insert key (← toJson room v) before) rest

end

end PaneWatch.Value
