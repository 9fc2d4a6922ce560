/-
The endpoints.

Each handler does one thing with the monitor or the registry and words the
outcome as a reply. It answers only for the failures that belong to what it
does. Every other failure is replied to with a status alone, but the order to
end the program, which is not replied to at all.
-/
import PaneWatch.Http.Age
import PaneWatch.Http.Message
import PaneWatch.Http.Route
import PaneWatch.Monitor.Detection
import PaneWatch.Registry.Cleanup
import PaneWatch.Session.Name
import PaneWatch.Settings

namespace PaneWatch.Http

open Session (Record)

/-- What the endpoints are about. -/
structure Api (m : Type → Type) (η : Type) where
  monitor : Monitor.Reach m η
  registry : Registry.Reach m
  /-- The settings, unless they have been dropped. -/
  settings : Option Settings

/-- The version that the program has. -/
def version : String := "0.1.0"

namespace Api

variable {m : Type → Type} {η : Type} [Monad m]

-- ===================================================== sessions

/-- The data about a session: its record, whether it is watched, and what it is doing. -/
def describe (mon : Monitor η) (s : Record) : Except Failure Json :=
  match s.toMembers with
  | .error why => .error (.accident why.accident)
  | .ok members =>
    let (monitored, state) := match mon.find s.id with
      | .ok w => (true, w.current)
      | .error _ => (false, s.lastState)
    .ok (.object (members ++ [("monitored", .bool monitored), ("state", .text state.name)]))

/-- The sessions that a query selects. A parameter that is empty selects nothing. -/
def select (t : Target) (r : Registry) : List Record :=
  let project := t.parameter "project"
  let worktree := t.parameter "worktree"
  if !project.isEmpty then
    (r.ofProject project).filter fun s => worktree.isEmpty || s.worktree == worktree
  else if !worktree.isEmpty then r.ofWorktree worktree
  else r.list

/-- Lists sessions. -/
def sessions (api : Api m η) (t : Target) : m (Except Failure Reply) := do
  match ← api.registry.act do return select t (← Registry.Action.registry) with
  | .error f => return .error f
  | .ok selected =>
    let shown ← api.monitor.look fun mon => selected.mapM (describe mon)
    return shown.map fun all => .data 200 [("sessions", .list all)]

/-- Shows a session. -/
def session (api : Api m η) (id : String) : m (Except Failure Reply) := do
  match ← api.registry.act (Registry.get id) with
  | .ok s =>
    let shown ← api.monitor.look fun mon => describe mon s
    return shown.map fun all => ⟨200, some all⟩
  | .error f =>
    if f.kind == .notFound then return .ok (.refusal 404 "Session not found")
    return .error f

-- ===================================================== watches

/-- The reply about a session that is not watched. -/
def unwatched : Reply := .refusal 404 "Session is not being monitored"

/-- The reply to a session that now is watched, or no longer is. -/
def done (status : Nat) (id : String) : Reply :=
  .data status [("success", .bool true), ("session_id", .text id)]

/-- The data about a watch. -/
def watchData (id : String) (w : Watch) : Reply :=
  .data 200 [("session_id", .text id), ("state", .text w.current.name), ("pid", .int w.pid),
    ("last_state_change", .text w.lastChange.toText),
    ("history", .list (w.history.map Transition.toJson))]

/-- Shows the watch of a session. -/
def state (api : Api m η) (id : String) : m (Except Failure Reply) := do
  match ← api.monitor.look (·.find id) with
  | .ok w => return .ok (watchData id w)
  | .error _ => return .ok unwatched

/-- Begins to watch a session. -/
def startWatch (api : Api m η) (id : String) : m (Except Failure Reply) := do
  if !Session.Name.isValid id then return .ok (.refusal 400 "Invalid session ID")
  match ← api.monitor.start id with
  | .ok () => return .ok (done 201 id)
  | .error f =>
    if f.kind == .alreadyMonitored then
      return .ok (.refusal 409 "Session is already being monitored")
    if f.kind.isCommand then
      api.monitor.note .warning ("[API] Could not start monitoring " ++ id ++ ": " ++ f.message)
      return .ok (.refusal 502 f.message)
    return .error f

/-- Ends the watch of a session. -/
def stopWatch (api : Api m η) (id : String) : m (Except Failure Reply) := do
  match ← api.monitor.stop id with
  | .ok () => return .ok (done 200 id)
  | .error f => if f.kind == .notFound then return .ok unwatched else return .error f

/-- Detects what a session is doing. -/
def detect (api : Api m η) (id : String) : m (Except Failure Reply) := do
  match ← api.monitor.detect id Monitor.Reach.demandTrigger with
  | .ok (changed, a) =>
    return .ok (.data 200
      [("session_id", .text id), ("changed", .bool changed), ("state", .text a.name)])
  | .error f =>
    if f.kind == .notFound then return .ok unwatched
    if f.kind == .undetected then return .ok (.refusal 502 f.message)
    return .error f

-- ===================================================== the whole

/-- Shows that the program is well. -/
def health (api : Api m η) : m (Except Failure Reply) := do
  let watched ← api.monitor.look (·.list.length)
  return .ok (.data 200
    [("status", .text "ok"), ("version", .text version), ("monitored", .int watched)])

/-- The hours after which a session is stale if nobody says otherwise. -/
def usualHours (api : Api m η) : Int := (api.settings.getD {}).tmux.cleanupAgeHours

/-- Removes stale sessions. -/
def cleanUp (api : Api m η) (body : Option Json) : m (Except Failure Reply) := do
  match Age.ofBody api.usualHours body with
  | .refused reason => return .ok (.refusal 400 reason)
  | .accident what => return .error (.accident what)
  | .span age =>
    match ← api.registry.cleanUp age with
    | .ok removed => return .ok (.data 200 [("removed", .int removed)])
    | .error f =>
      if f.kind == .storage then return .ok (.refusal 500 f.message) else return .error f

-- ===================================================== requests

/-- What an endpoint does with a request. -/
def handle (api : Api m η) (r : Request) : Endpoint → m (Except Failure Reply)
  | .health => api.health
  | .sessions => api.sessions r.target
  | .cleanUp => api.cleanUp r.json?
  | .session id => api.session id
  | .state id => api.state id
  | .startWatch id => api.startWatch id
  | .stopWatch id => api.stopWatch id
  | .detect id => api.detect id
  | .asset => return .ok (.bare 404)

/-- The reply to a request for an endpoint. -/
def serve (api : Api m η) (r : Request) (e : Endpoint) : m Reply := do
  match ← api.handle r e with
  | .ok reply => return reply
  | .error f => return Reply.ofFailure f

/-- The reply to a request. -/
def reply (api : Api m η) (r : Request) : m Reply := do
  match Route.find r.method r.target.path with
  | .to e =>
    let reply ← api.serve r e
    return if r.method == "HEAD" then .bare reply.status else reply
  | .methods => return .bare 200
  | .moved => return .bare 308
  | .wrongMethod => return .bare 405
  | .nowhere => return .bare 404

end Api

end PaneWatch.Http
