/-
The kinds of YAML values, and the kind that a plain scalar has by its look.

A plain scalar is a truth value, a number, null, a moment, or one of the two
marks for merging and for a default value, if it has exactly the look of one;
otherwise it is a string. Numbers may hold underscores, integers may be
binary, octal or hexadecimal, and both may be written in base sixty.
-/

namespace PaneWatch.Yaml

/-- The kind of a value. -/
inductive Kind where
  | null
  | bool
  | int
  | float
  | binary
  | timestamp
  | omap
  | pairs
  | set
  | str
  | seq
  | map
  /-- The key that merges another mapping. -/
  | merge
  /-- The key that holds the value of a mapping given as a scalar. -/
  | value
  /-- A kind that nothing is known of. -/
  | unknown
  deriving DecidableEq, Repr

namespace Kind

/-- What the tags of known kinds start with. -/
def tagStem : List Char := "tag:yaml.org,2002:".toList

/-- The known kinds by the end of their tags. -/
def byName : List (String × Kind) :=
  [("null", null), ("bool", bool), ("int", int), ("float", float), ("binary", binary),
   ("timestamp", timestamp), ("omap", omap), ("pairs", pairs), ("set", set), ("str", str),
   ("seq", seq), ("map", map), ("merge", merge), ("value", value)]

/-- The kind that a tag names. -/
def ofTag (tag : List Char) : Kind :=
  if tagStem.isPrefixOf tag then
    (byName.lookup (String.ofList (tag.drop tagStem.length))).getD unknown
  else unknown

-- ===================================================== looks

/-- The words for truth values. -/
def boolWords : List String :=
  ["yes", "Yes", "YES", "no", "No", "NO", "true", "True", "TRUE", "false", "False", "FALSE",
   "on", "On", "ON", "off", "Off", "OFF"]

/-- The words for null. -/
def nullWords : List String := ["~", "null", "Null", "NULL", ""]

/-- Whether a character is a digit or an underscore. -/
def isDigitLike (c : Char) : Bool := c.isDigit || c == '_'

/-- A text without one leading sign. -/
def dropSign : List Char → List Char
  | '-' :: rest | '+' :: rest => rest
  | cs => cs

/-- Splits off an optional exponent with a sign; none if something else follows. -/
def isExponent : List Char → Bool
  | [] => true
  | e :: sign :: ds =>
    (e == 'e' || e == 'E') && (sign == '-' || sign == '+') && !ds.isEmpty && ds.all Char.isDigit
  | _ => false

/-- Whether a text is one or more groups of a colon and a number below sixty, with
the rest satisfying a test. -/
def isSixtieths (last : List Char → Bool) : List Char → Bool
  | ':' :: a :: b :: rest =>
    (a.isDigit && (last (b :: rest) || isSixtieths last (b :: rest)))
      || ('0' ≤ a && a ≤ '5' && b.isDigit && (last rest || isSixtieths last rest))
  | [':', a] => a.isDigit && last []
  | _ => false

/-- Whether a text is a point and digits, the digits optional. -/
def isPointTail : List Char → Bool
  | '.' :: rest => rest.all isDigitLike
  | _ => false

/-- Whether a text looks like a real number. -/
def looksFloat (cs : List Char) : Bool :=
  let body := dropSign cs
  let startsWithDigit := (body.headD ' ').isDigit
  let afterWhole := body.dropWhile isDigitLike
  let pointed := match afterWhole with
    | '.' :: rest => isExponent (rest.dropWhile isDigitLike)
    | _ => false
  let leadingPoint := match cs with
    | '.' :: d :: rest => d.isDigit && isExponent (rest.dropWhile isDigitLike)
    | _ => false
  (startsWithDigit && pointed)
    || leadingPoint
    || (startsWithDigit && isSixtieths isPointTail afterWhole)
    || ([".inf", ".Inf", ".INF"].map String.toList).contains body
    || ([".nan", ".NaN", ".NAN"].map String.toList).contains cs

/-- Whether a text is not empty and all its characters satisfy a test. -/
def isRunOf (p : Char → Bool) (cs : List Char) : Bool := !cs.isEmpty && cs.all p

/-- Whether a text looks like an integer. -/
def looksInt (cs : List Char) : Bool :=
  match dropSign cs with
  | [] => false
  | '0' :: rest =>
    rest.isEmpty
      || (match rest with
        | 'b' :: ds => isRunOf (fun c => c == '0' || c == '1' || c == '_') ds
        | 'x' :: ds => isRunOf (fun c => c.isDigit || ('a' ≤ c && c ≤ 'f') || ('A' ≤ c && c ≤ 'F')
            || c == '_') ds
        | _ => false)
      || isRunOf (fun c => ('0' ≤ c && c ≤ '7') || c == '_') rest
  | d :: rest =>
    d.isDigit && (rest.all isDigitLike
      || isSixtieths List.isEmpty (rest.dropWhile isDigitLike))

/-- Splits off between `least` and `most` digits, as many as there are. -/
def takeDigits? (least most : Nat) (cs : List Char) : Option (List Char × List Char) :=
  let ds := (cs.take most).takeWhile Char.isDigit
  if least ≤ ds.length then some (ds, cs.drop ds.length) else none

/-- The rest behind one expected character. -/
def after? (c : Char) : List Char → Option (List Char)
  | d :: rest => if d == c then some rest else none
  | [] => none

/-- The parts of a text that looks like a moment. -/
structure MomentText where
  year : List Char
  month : List Char
  day : List Char
  /-- Hours, minutes, seconds and fraction, unless it is a date alone. -/
  clock : Option (List Char × List Char × List Char × List Char) := none
  /-- Sign, hours and minutes of the offset; no sign for `Z`. -/
  offset : Option (Option Char × List Char × List Char) := none

/-- Splits an offset that ends a text. -/
def splitOffset? (cs : List Char) : Option (Option (Option Char × List Char × List Char)) :=
  match cs.dropWhile fun c => c == ' ' || c == '\t' with
  | [] => if cs.isEmpty then some none else none
  | ['Z'] => some (some (none, [], []))
  | sign :: rest => do
    guard (sign == '-' || sign == '+')
    let (hours, rest) ← takeDigits? 1 2 rest
    match rest with
    | [] => return some (some sign, hours, [])
    | ':' :: rest =>
      let (minutes, rest) ← takeDigits? 2 2 rest
      guard rest.isEmpty
      return some (some sign, hours, minutes)
    | _ => none

/-- Splits a text that looks like a moment. -/
def splitMoment? (cs : List Char) : Option MomentText := do
  let (year, rest) ← takeDigits? 4 4 cs
  let (month, rest) ← takeDigits? 1 2 (← after? '-' rest)
  let (day, rest) ← takeDigits? 1 2 (← after? '-' rest)
  match rest with
  | [] => return { year, month, day }
  | c :: more =>
    let rest ←
      if c == 'T' || c == 't' then some more
      else if c == ' ' || c == '\t' then some (rest.dropWhile fun c => c == ' ' || c == '\t')
      else none
    let (hour, rest) ← takeDigits? 1 2 rest
    let (minute, rest) ← takeDigits? 2 2 (← after? ':' rest)
    let (second, rest) ← takeDigits? 2 2 (← after? ':' rest)
    let (fraction, rest) := match rest with
      | '.' :: rest => (rest.takeWhile Char.isDigit, rest.dropWhile Char.isDigit)
      | _ => ([], rest)
    let offset ← splitOffset? rest
    return { year, month, day, clock := some (hour, minute, second, fraction), offset }

/-- Whether a text looks like a moment. A date alone needs two digits for month and
day. -/
def looksTimestamp (cs : List Char) : Bool :=
  match splitMoment? cs with
  | some m => m.clock.isSome || (m.month.length == 2 && m.day.length == 2)
  | none => false

/-- A text without a line feed that ends it, which no look takes notice of. A line feed alone
stays. -/
def dropLineFeed (cs : List Char) : List Char :=
  if 1 < cs.length ∧ cs.getLast? = some '\n' then cs.dropLast else cs

/-- The kind that a plain scalar has by its look. -/
def ofLook (cs : List Char) : Kind :=
  let word := String.ofList cs
  if boolWords.contains word then bool
  else if looksFloat cs then float
  else if looksInt cs then int
  else if word == "<<" then merge
  else if nullWords.contains word then null
  else if looksTimestamp cs then timestamp
  else if word == "=" then value
  else str

end Kind

end PaneWatch.Yaml
