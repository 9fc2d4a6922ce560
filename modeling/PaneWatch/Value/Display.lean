/-
How values are shown in messages.

Numbers, quoted texts and bytes are shown as they are written; `None`, `True`
and `False` are the words for null and the truth values; dates and moments
show their fields, collections their elements between brackets. `toKeyText`
is the plainer form under which a key of a file becomes a name. An integer
that cannot be written as text cannot be shown, and neither can what holds one.
-/
import PaneWatch.Accident
import PaneWatch.Value
import PaneWatch.Number.Reading
import PaneWatch.Number.Shortest
import PaneWatch.Text.Quoted

namespace PaneWatch.Value

open Number (Double)
open Time (Date Stamp Moment)

/-- The word for the type of a value. -/
def typeName : Value → String
  | .null => "NoneType"
  | .bool _ => "bool"
  | .int _ => "int"
  | .real _ => "float"
  | .text _ => "str"
  | .bytes _ => "bytes"
  | .date _ => "date"
  | .moment _ => "datetime"
  | .activity _ => "ProcessState"
  | .list _ => "list"
  | .map _ => "dict"
  | .set _ => "set"
  | .loop => "dict"
  | .foreign => "object"

/-- The words for the truth values. -/
def boolText (b : Bool) : String := if b then "True" else "False"

/-- A date with its fields. -/
def dateText (d : Date) : String :=
  "datetime.date(" ++ ", ".intercalate [toString d.year, toString d.month, toString d.day] ++ ")"

/-- The fields of a length of time, days and seconds counted to the floor; those that
are zero are left out. -/
def spanText (micros : Int) : String :=
  let days := micros.fdiv Time.day
  let rest := (micros.fmod Time.day).toNat
  let part (label : String) (n : Int) : List String :=
    if n = 0 then [] else [label ++ "=" ++ toString n]
  let parts := part "days" days ++ part "seconds" (rest / Time.second)
    ++ part "microseconds" (rest % Time.second)
  "datetime.timedelta(" ++ (if parts.isEmpty then "0" else ", ".intercalate parts) ++ ")"

/-- A moment with its fields; seconds and microseconds that are zero are left out. -/
def momentText (m : Moment) : String :=
  let s := m.stamp
  let fields := [s.date.year, s.date.month, s.date.day, s.hour, s.minute]
    ++ (if s.second = 0 ∧ s.micro = 0 then [] else [s.second])
    ++ (if s.micro = 0 then [] else [s.micro])
  let zone := match m.offset with
    | none => []
    | some o =>
      ["tzinfo=datetime.timezone" ++
        if o = 0 then ".utc" else "(" ++ spanText o ++ ")"]
  "datetime.datetime(" ++ ", ".intercalate (fields.map toString ++ zone) ++ ")"

mutual

/-- A value as messages show it. -/
def display : Value → String
  | .null => "None"
  | .bool b => boolText b
  | .int n => toString n
  | .real x => x.toText
  | .text s => Text.quoted s
  | .bytes bs => String.ofList (Text.Quoted.encodeBytes bs)
  | .date d => dateText d
  | .moment m => momentText m
  | .activity a => "<ProcessState." ++ a.name.toUpper ++ ": " ++ Text.quoted a.name ++ ">"
  | .list vs => "[" ++ ", ".intercalate (displayAll vs) ++ "]"
  | .map es => "\x7b" ++ ", ".intercalate (displayEntries es) ++ "\x7d"
  | .set vs =>
    if vs.isEmpty then "set()" else "\x7b" ++ ", ".intercalate (displayAll vs) ++ "\x7d"
  | .loop => "\x7b...\x7d"
  | .foreign => "<opaque>"

/-- The elements of a list as messages show them. -/
def displayAll : List Value → List String
  | [] => []
  | v :: rest => display v :: displayAll rest

/-- The entries of a mapping as messages show them. -/
def displayEntries : List (Value × Value) → List String
  | [] => []
  | (k, v) :: rest => (display k ++ ": " ++ display v) :: displayEntries rest

end

mutual

/-- Whether a value can be shown. -/
def isPrintable : Value → Bool
  | .int n => Number.hasText n
  | .list vs | .set vs => areAllPrintable vs
  | .map es => areEntriesPrintable es
  | _ => true

/-- Whether all elements of a list can be shown. -/
def areAllPrintable : List Value → Bool
  | [] => true
  | v :: rest => isPrintable v && areAllPrintable rest

/-- Whether all entries of a mapping can be shown. -/
def areEntriesPrintable : List (Value × Value) → Bool
  | [] => true
  | (k, v) :: rest => isPrintable k && isPrintable v && areEntriesPrintable rest

end

/-- A value as messages show it, if it can be shown. -/
def display? (v : Value) : Except Accident String :=
  if v.isPrintable then .ok v.display else .error .noSuchValue

/-- The name that a key of a file becomes. -/
def toKeyText : Value → Except Accident String
  | .text s => .ok s
  | .date d => .ok d.toText
  | .moment m => .ok m.toSpacedText
  | .activity a => .ok ("ProcessState." ++ a.name.toUpper)
  | v => v.display?

end PaneWatch.Value
