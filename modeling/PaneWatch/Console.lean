/-
Requests and what comes of them as lines of text.

A request is a method, a URL and, behind another space, a body of JSON. What
comes of it is the text of a tree, or the message of a failure.
-/
import PaneWatch.Failure
import PaneWatch.Http.Message
import PaneWatch.Json.Printer

namespace PaneWatch.Console

open Http (Request Target cutAt)

/-- The type of every body that a line holds. -/
def bodyType : String := "application/json"

/-- The request in a line, unless the line is blank. -/
def request? (line : String) : Option Request :=
  let (method, rest) := cutAt ' ' (Text.strip Text.isBlank line.toList)
  if method.isEmpty then none
  else
    let (url, body) := cutAt ' ' (rest.getD [])
    some ⟨String.ofList method, Target.ofText (String.ofList url), bodyType,
      (String.ofList (body.getD [])).toUTF8.toList⟩

/-- The line about an outcome. -/
def outcomeLine : Except Failure Json → String
  | .ok tree => tree.toText
  | .error f => f.message

end PaneWatch.Console
