/-
What a URL asks for: a path and a query.

Scheme, host and fragment say nothing here and are dropped. In the path and in
the query, a percent sign with two hexadecimal digits is a byte, and the bytes
are read as UTF-8. The query is cut into its parts before that, so that an
ampersand may be spelled that way.
-/
import PaneWatch.Json.Reader
import PaneWatch.Text.Utf8

namespace PaneWatch.Http

/-- What is asked for. -/
structure Target where
  path : String
  /-- Names with values, in order. A name may come more than once. -/
  query : List (String × String)
  deriving DecidableEq, Repr

-- ===================================================== bytes behind percent signs

/-- The bytes that a text spells. A percent sign that no digits follow is itself. -/
def percentBytes : List Char → List UInt8
  | '%' :: a :: b :: rest =>
    match Json.Reader.hexValue? a, Json.Reader.hexValue? b with
    | some m, some n => (16 * m + n).toUInt8 :: percentBytes rest
    | _, _ => 0x25 :: percentBytes (a :: b :: rest)
  | c :: rest => Text.Utf8.encodeChar c ++ percentBytes rest
  | [] => []

/-- The digits of a byte behind a percent sign. -/
def percentOf (b : UInt8) : List Char :=
  '%' :: [b.toNat / 16, b.toNat % 16].map fun n => (Nat.digitChar n).toUpper

/-- The text of a path. -/
def pathText (cs : List Char) : String :=
  String.ofList (Text.Utf8.decode Text.Utf8.replaced (percentBytes cs))

/-- The text of a name or a value in a query, where a plus sign is a space and bytes that
are no text stay behind percent signs. -/
def queryText (cs : List Char) : String :=
  let spaced := cs.map fun c => if c == '+' then ' ' else c
  String.ofList (Text.Utf8.decode (·.flatMap percentOf) (percentBytes spaced))

-- ===================================================== parts of a URL

/-- The text before a character, and the text behind it if it is there. -/
def cutAt (c : Char) (cs : List Char) : List Char × Option (List Char) :=
  match cs.dropWhile (· != c) with
  | [] => (cs, none)
  | _ :: rest => (cs.takeWhile (· != c), some rest)

/-- Cuts a text at every such character. -/
def pieces (c : Char) (cs : List Char) : List (List Char) :=
  cs.foldr (fun d parts =>
    match parts with
    | first :: rest => if d == c then [] :: first :: rest else (d :: first) :: rest
    | [] => [[d]]) [[]]

/-- Whether a character may stand in the name of a scheme. -/
def isSchemeChar (c : Char) : Bool := c.isAlphanum || c == '+' || c == '-' || c == '.'

/-- Drops a scheme. -/
def dropScheme (cs : List Char) : List Char :=
  match cutAt ':' cs with
  | (c :: scheme, some rest) => if c.isAlpha && scheme.all isSchemeChar then rest else cs
  | _ => cs

/-- Drops a host behind two slashes. -/
def dropHost : List Char → List Char
  | '/' :: '/' :: rest => rest.dropWhile fun c => c != '/' && c != '?' && c != '#'
  | cs => cs

/-- The path and the query of a URL, as they are written. -/
def split (url : List Char) : List Char × List Char :=
  let shown := (url.dropWhile (·.toNat ≤ 0x20)).filter fun c => c != '\t' && c != '\r' && c != '\n'
  let located := (cutAt '#' (dropHost (dropScheme shown))).1
  let (path, query) := cutAt '?' located
  (path, query.getD [])

/-- The path and the query, of which the path may be a URL once more. -/
def splitTwice (url : List Char) : List Char × List Char :=
  let (path, query) := split url
  split (path ++ if query.isEmpty then [] else '?' :: query)

/-- The names and values of a query. -/
def readQuery (cs : List Char) : List (String × String) :=
  ((pieces '&' cs).filter (!·.isEmpty)).map fun part =>
    let (name, value) := cutAt '=' part
    (queryText name, queryText (value.getD []))

namespace Target

/-- What a URL asks for. However many slashes the path starts with, they count as one. -/
def ofText (url : String) : Target :=
  let (path, query) := splitTwice url.toList
  let decoded := (pathText path).toList.dropWhile (· == '/')
  ⟨String.ofList ('/' :: decoded), readQuery query⟩

/-- The first value of a name, or nothing. -/
def parameter (t : Target) (name : String) : String := (t.query.lookup name).getD ""

end Target

end PaneWatch.Http
