/-
Requests and replies.
-/
import PaneWatch.Failure
import PaneWatch.Http.Target
import PaneWatch.Json.Encoding
import PaneWatch.Text.Blank

namespace PaneWatch.Http

/-- A request. -/
structure Request where
  method : String
  target : Target
  contentType : String
  body : List UInt8

/-- A reply. One without a body is not about data. -/
structure Reply where
  status : Nat
  body : Option Json

namespace Request

/-- What the type of a body is, without its parameters. -/
def mediaType (r : Request) : String :=
  String.ofList
    ((Text.strip Text.isBlank (cutAt ';' r.contentType.toList).1).map Char.toLower)

/-- Whether the body is said to be JSON. -/
def isJson (r : Request) : Bool :=
  let type := r.mediaType
  type == "application/json" || (type.startsWith "application/" && type.endsWith "+json")

/-- The data in the body, if it is said to be JSON and is. -/
def json? (r : Request) : Option Json :=
  if r.isJson then Json.ofBytes? r.body else none

end Request

namespace Reply

/-- A reply with data. -/
def data (status : Nat) (members : List (String × Json)) : Reply :=
  ⟨status, some (.object members)⟩

/-- A reply that tells what is wrong. -/
def refusal (status : Nat) (reason : String) : Reply := data status [("error", .text reason)]

/-- A reply without data. -/
def bare (status : Nat) : Reply := ⟨status, none⟩

/-- No reply, as the connection is closed. It counts as one with a status of its own. -/
def cut : Reply := bare 0

/-- The reply to a request of which the handler has failed so. -/
def ofFailure (f : Failure) : Reply := if f.kind == .exit then cut else bare 500

end Reply

end PaneWatch.Http
