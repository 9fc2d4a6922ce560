/-
Values as files and callers bring them, before anything is known of their type.

Beside plain data a value can be bytes, a calendar date, a moment, an activity,
or a collection with keys of any kind. Two constructors stand for what no file
can be written from: `loop` for a collection met again inside itself, and
`foreign` for an object that is no data at all.
-/
import PaneWatch.Json
import PaneWatch.Activity
import PaneWatch.Time.Stamp

namespace PaneWatch

open Number (Double)
open Time (Date Moment)

/-- A value of unknown type. -/
inductive Value where
  | null
  | bool (b : Bool)
  | int (n : Int)
  | real (x : Double)
  | text (s : String)
  | bytes (bs : List UInt8)
  | date (d : Date)
  | moment (m : Moment)
  | activity (a : Activity)
  | list (elements : List Value)
  | map (entries : List (Value × Value))
  | set (elements : List Value)
  /-- A collection that is met again inside itself. -/
  | loop
  /-- An object that is no data. -/
  | foreign

namespace Value

/-- The number that a truth value, an integer or a real stands for, as a fraction;
none for infinities and NaN. -/
def fraction? : Value → Option (Int × Nat)
  | .bool b => some (if b then 1 else 0, 1)
  | .int n => some (n, 1)
  | .real x =>
    if x.isFinite then
      let (num, den) := x.ratio
      some (if x.isNegative then -num else num, den)
    else none
  | _ => none

/-- Whether two values are one key of a mapping. Numbers are compared by value
whatever their kind, so `1`, `1.0` and `true` are one key; moments by instant
if both have an offset. -/
def sameKey : Value → Value → Bool
  | .null, .null => true
  | .text s, .text t => s == t
  | .bytes b, .bytes c => b == c
  | .date d, .date e => d == e
  | .moment m, .moment n =>
    match m.offset, n.offset with
    | none, none => m == n
    | some o, some p => (m.stamp.micros : Int) - o == n.stamp.micros - p
    | _, _ => false
  | .activity a, .activity b => a == b
  | .activity a, .text s | .text s, .activity a => a.name == s
  | .real x, .real y =>
    match x, y with
    | .nan, .nan => true
    | _, _ => x.numEq y
  | a, b =>
    match a.fraction?, b.fraction? with
    | some (n, d), some (m, e) => n * e == m * d
    | _, _ => false

/-- Whether a value can be a key: collections cannot. -/
def isKey : Value → Bool
  | .list _ | .map _ | .set _ | .loop => false
  | _ => true

/-- Puts a value under a key: in the place of the key's old value, or at the end. -/
def insert (key value : Value) : List (Value × Value) → List (Value × Value)
  | [] => [(key, value)]
  | (k, v) :: rest =>
    if k.sameKey key then (k, value) :: rest else (k, v) :: insert key value rest

/-- The value under a text key. -/
def lookup? (key : String) : List (Value × Value) → Option Value
  | [] => none
  | (k, v) :: rest => if k.sameKey (.text key) then some v else lookup? key rest

/-- The entries without the one under a text key. -/
def remove (key : String) (entries : List (Value × Value)) : List (Value × Value) :=
  entries.filter fun e => !e.1.sameKey (.text key)

/-- Whether a value counts as present: not null, false, zero or empty. -/
def isPresent : Value → Bool
  | .null => false
  | .bool b => b
  | .int n => n != 0
  | .real (.finite _ m _) => m != 0
  | .text s => !s.isEmpty
  | .bytes bs => !bs.isEmpty
  | .list vs | .set vs => !vs.isEmpty
  | .map es => !es.isEmpty
  | _ => true

/-- The text of a value that is text, whichever way it is held. -/
def asText? : Value → Option String
  | .text s => some s
  | .activity a => some a.name
  | _ => none

mutual

/-- A plain data tree as a value. -/
def ofJson : Json → Value
  | .null => .null
  | .bool b => .bool b
  | .int n => .int n
  | .real x => .real x
  | .text s => .text s
  | .list es => .list (ofElements es)
  | .object ms => .map (ofMembers ms)

/-- Elements of a tree as values. -/
def ofElements : List Json → List Value
  | [] => []
  | j :: rest => ofJson j :: ofElements rest

/-- Members of a tree as entries with text keys. -/
def ofMembers : List (String × Json) → List (Value × Value)
  | [] => []
  | (k, v) :: rest => (.text k, ofJson v) :: ofMembers rest

end

end Value

end PaneWatch
