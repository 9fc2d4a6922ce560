/-
Which endpoint a request is for.

The path of a request is held against the paths of the endpoints, and then
its method. Whoever may read may also ask for the head alone, and at every
path one may ask which methods there are. A path that leads somewhere only
once its double slashes are single ones is answered with the way there.
-/
import PaneWatch.Http.Target

namespace PaneWatch.Http

/-- What a request can be for. -/
inductive Endpoint where
  | health
  | sessions
  | cleanUp
  | session (id : String)
  | state (id : String)
  | startWatch (id : String)
  | stopWatch (id : String)
  | detect (id : String)
  /-- A file beside the program. There is none. -/
  | asset
  deriving DecidableEq, Repr

/-- Where a request leads. -/
inductive Route where
  | to (endpoint : Endpoint)
  /-- The methods at the path are asked for. -/
  | methods
  | moved
  | wrongMethod
  | nowhere
  deriving DecidableEq, Repr

namespace Route

/-- The endpoints at one session, by what follows its ID. -/
def atSession (id : String) : List String → List (String × Endpoint)
  | [] => [("GET", .session id)]
  | ["state"] => [("GET", .state id)]
  | ["monitor"] => [("POST", .startWatch id), ("DELETE", .stopWatch id)]
  | ["detect"] => [("POST", .detect id)]
  | _ => []

/-- The endpoints at a path, with their methods. The earlier one is preferred. -/
def endpoints : List String → List (String × Endpoint)
  | ["health"] => [("GET", .health)]
  | "static" :: first :: _ => if first.isEmpty then [] else [("GET", .asset)]
  | ["api", "sessions"] => [("GET", .sessions)]
  | "api" :: "sessions" :: id :: rest =>
    if id.isEmpty then []
    else if id == "cleanup" && rest.isEmpty then [("POST", .cleanUp), ("GET", .session id)]
    else atSession id rest
  | _ => []

/-- Whether a request of a method may go to an endpoint of a method. -/
def serves (method asked : String) : Bool :=
  method == asked || (method == "GET" && asked == "HEAD")

/-- Where a request leads among some endpoints. -/
def pick? (asked : String) (found : List (String × Endpoint)) : Option Route :=
  if asked == "OPTIONS" then
    if found.isEmpty then none else some .methods
  else (found.find? fun e => serves e.1 asked).map fun e => .to e.2

/-- The text with every two slashes in a row made one. -/
def mergeSlashes : List Char → List Char
  | '/' :: '/' :: rest => '/' :: mergeSlashes rest
  | c :: rest => c :: mergeSlashes rest
  | [] => []

/-- The endpoints at the text of a path behind its first slash. -/
def endpointsAt (path : List Char) : List (String × Endpoint) :=
  endpoints ((pieces '/' path).map String.ofList)

/-- Where a request leads. -/
def find (asked : String) (path : String) : Route :=
  let path := path.toList.drop 1
  let exact := endpointsAt path
  let merged := endpointsAt (mergeSlashes path)
  match pick? asked exact with
  | some route => route
  | none =>
    if (pick? asked merged).isSome then .moved
    else if exact.isEmpty && merged.isEmpty then .nowhere
    else .wrongMethod

end Route

end PaneWatch.Http
