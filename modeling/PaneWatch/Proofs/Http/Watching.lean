/-
A service as a set of watched sessions.

Of all that a service does about watches, a set of IDs is left: `Ask.status` is the status of the
reply to whatever is asked while some sessions are watched, and `Ask.next` the sessions that are
watched then, which only a status can change. `service_refines` says that every run of requests
goes as this set says, by one lemma for each thing that can be asked.

Panes and processes are asked outside. They may answer anything, and fail in any way that
comes from an external command, and hooks in any way that a handler of everything holds up
(`Surroundings.IsExternal`).
-/
import Mathlib.Data.Finset.Dedup
import PaneWatch.Proofs.Http.Route
import PaneWatch.Proofs.Monitor.AllOrNothing

namespace PaneWatch.Http

open Monitor (Room Surroundings)

-- ===================================================== what is asked

/-- What can be asked of a service about its watches. -/
inductive Ask where
  | start (id : String)
  | stop (id : String)
  | detect (id : String)
  | state (id : String)
  | health

/-- What the world has to say to what is asked. -/
structure Backdrop where
  /-- The process of the session cannot be resolved. -/
  isUnresolved : Bool
  /-- Neither signal of the session can be read. -/
  isSilent : Bool

namespace Ask

/-- The method of a request for it. -/
def method : Ask → String
  | start _ | detect _ => "POST"
  | stop _ => "DELETE"
  | state _ | health => "GET"

/-- The path of a request for it. -/
def path : Ask → String
  | start id | stop id => sessionPath id "monitor"
  | detect id => sessionPath id "detect"
  | state id => sessionPath id "state"
  | health => "/health"

/-- The session that it is about. -/
def session? : Ask → Option String
  | start id | stop id | detect id | state id => some id
  | health => none

/-- What answers it. -/
def endpoint : Ask → Endpoint
  | start id => .startWatch id
  | stop id => .stopWatch id
  | detect id => .detect id
  | state id => .state id
  | health => .health

/-- The status of the reply while some sessions are watched. -/
def status (watched : Finset String) (b : Backdrop) : Ask → Nat
  | start id =>
    if !Session.Name.isValid id then 400
    else if id ∈ watched then 409
    else if b.isUnresolved then 502
    else 201
  | stop id | state id => if id ∈ watched then 200 else 404
  | detect id =>
    if id ∉ watched then 404
    else if b.isSilent then 502
    else 200
  | health => 200

/-- The sessions that are watched after a reply. -/
def next (watched : Finset String) (status : Nat) : Ask → Finset String
  | start id => if status = 201 then insert id watched else watched
  | stop id => if status = 200 then watched.erase id else watched
  | detect _ | state _ | health => watched

end Ask

/-- A request for something about watches. Whatever else it says does not matter. -/
structure Visit where
  ask : Ask
  request : Request
  method : request.method = ask.method
  path : request.target.path = ask.path
  segment : ∀ id ∈ ask.session?, IsSegment id

/-- The request leads to what answers it. -/
theorem Visit.find_path (v : Visit) :
    Route.find v.request.method v.request.target.path = .to v.ask.endpoint := by
  obtain ⟨ask, request, hmethod, hpath, hsegment⟩ := v
  dsimp only
  rw [hmethod, hpath]
  cases ask with
  | start id => exact find_sessionPath (hsegment id rfl) ⟨by decide, by decide⟩ rfl
  | stop id => exact find_sessionPath (hsegment id rfl) ⟨by decide, by decide⟩ rfl
  | detect id => exact find_sessionPath (hsegment id rfl) ⟨by decide, by decide⟩ rfl
  | state id => exact find_sessionPath (hsegment id rfl) ⟨by decide, by decide⟩ rfl
  | health => decide

-- ===================================================== sets of watched sessions

variable {η ω : Type} {m m' : Monitor η} {watched : Finset String} {id : String}

/-- That some sessions are those that a monitor watches, each by one watch. -/
structure Shows (watched : Finset String) (m : Monitor η) : Prop where
  distinct : m.list.Nodup
  ids : m.list.toFinset = watched

/-- A session is watched exactly if it is listed. -/
private theorem isMonitoring_iff_mem : m.isMonitoring id ↔ id ∈ m.list := by
  unfold Monitor.isMonitoring Monitor.list
  rw [Option.isSome_iff_ne_none, ne_eq, List.lookup_eq_none_iff]
  simp

/-- A monitor that shows some sessions watches these and no others. -/
theorem Shows.isMonitoring_iff (h : Shows watched m) : m.isMonitoring id ↔ id ∈ watched := by
  rw [isMonitoring_iff_mem, ← h.ids, List.mem_toFinset]

private theorem Shows.mem_of_find {w : Watch} (h : Shows watched m) (hfind : m.find id = .ok w) :
    id ∈ watched :=
  h.isMonitoring_iff.1 (Monitor.isMonitoring_iff.2 ⟨w, hfind⟩)

private theorem Shows.notMem_of_find {f : Failure} (h : Shows watched m)
    (hfind : m.find id = .error f) :
    id ∉ watched := by
  rw [← h.isMonitoring_iff, (Monitor.find_eq_error.1 hfind).1]
  exact Bool.noConfusion

/-- It lists as many as there are. -/
private theorem Shows.card (h : Shows watched m) : m.list.length = watched.card := by
  rw [← h.ids, List.toFinset_card_of_nodup h.distinct]

/-- What a monitor shows depends on its roster alone. -/
private theorem Shows.of_roster (h : Shows watched m) (hroster : m'.roster = m.roster) :
    Shows watched m' := by
  have hlist : m'.list = m.list := by rw [Monitor.list_eq, Monitor.list_eq, hroster]
  exact ⟨hlist ▸ h.distinct, hlist ▸ h.ids⟩

/-- A session that comes to be watched. -/
theorem Shows.register (h : Shows watched m) (hvacant : ¬m.isMonitoring id) (now : Time.Stamp)
    (pid : Int) : Shows (insert id watched) (m.register now id pid).2 := by
  rcases Monitor.register_hired m now id pid with ⟨-, hhired⟩ | ⟨-, hwatched⟩
  · have hlist : (m.register now id pid).2.list = m.list ++ [id] := by
      rw [Monitor.list_eq, Monitor.list_eq, hhired.roster, List.map_append]
      rfl
    have hnew : id ∉ m.list := fun hmem => hvacant (isMonitoring_iff_mem.2 hmem)
    refine ⟨?_, ?_⟩
    · rw [hlist, ← List.concat_eq_append]
      exact h.distinct.concat hnew
    · rw [hlist, ← h.ids]
      ext other
      simp
  · exact absurd hwatched hvacant

/-- A session that is watched no longer. -/
theorem Shows.deregister (h : Shows watched m) (hwatched : m.isMonitoring id) :
    Shows (watched.erase id) (m.deregister id).2 := by
  rcases Monitor.deregister_dropped m id with ⟨-, hdropped⟩ | hrefused
  · have hlist : (m.deregister id).2.list = m.list.filter (· != id) := by
      rw [Monitor.list_eq, Monitor.list_eq, hdropped.roster, List.filter_map]
      rfl
    refine ⟨?_, ?_⟩
    · rw [hlist]
      exact h.distinct.filter _
    · rw [hlist, ← h.ids]
      ext other
      simp [and_comm]
  · obtain ⟨w, hfind⟩ := Monitor.isMonitoring_iff.1 hwatched
    rw [Monitor.deregister, hfind] at hrefused
    cases (Prod.mk.inj hrefused).1

-- ===================================================== replies

variable {s : Surroundings η ω} {r after : Room η ω} {ask : Ask}
  {registry : Registry.Reach (StateM (Room η ω))} {settings : Option Settings}

/-- What the world has to say to what is asked in a room. -/
def backdrop (s : Surroundings η ω) (r : Room η ω) (ask : Ask) : Backdrop where
  isUnresolved := ask.session?.any fun id => !((s.resolvePid id).run r.around).1.isOk
  isSilent := ask.session?.any fun id =>
    match r.monitor.find id with
    | .ok w => s.isSilent r id w
    | .error _ => false

/-- The reply that tells how many sessions are watched. -/
def healthReply (count : Nat) : Reply :=
  .data 200 [("status", .text "ok"), ("version", .text version), ("monitored", .int count)]

/-- That a reply is the one that a set of watched sessions gives, and leaves a monitor that shows
the set that comes after it. -/
structure Serves (s : Surroundings η ω) (watched : Finset String) (r : Room η ω) (ask : Ask)
    (reply : Reply) (after : Room η ω) : Prop where
  status : reply.status = ask.status watched (backdrop s r ask)
  health : ask = .health → reply = healthReply watched.card
  shows : Shows (ask.next watched reply.status) after.monitor

/-- That a handler has replied so. -/
def Replies (s : Surroundings η ω) (watched : Finset String) (r : Room η ω) (ask : Ask)
    (handled : Except Failure Reply × Room η ω) : Prop :=
  ∃ reply, handled.1 = .ok reply ∧ Serves s watched r ask reply handled.2

/-- The service of a room. -/
def serviceOf (s : Surroundings η ω) (registry : Registry.Reach (StateM (Room η ω)))
    (settings : Option Settings) : Api (StateM (Room η ω)) η := ⟨s.reach, registry, settings⟩

@[simp] private theorem monitor_serviceOf :
    (serviceOf s registry settings).monitor = s.reach := rfl

@[simp] private theorem status_data (status : Nat) (members : List (String × Json)) :
    (Reply.data status members).status = status := rfl

@[simp] private theorem status_refusal (status : Nat) (reason : String) :
    (Reply.refusal status reason).status = status := rfl

@[simp] private theorem status_done (status : Nat) (id : String) :
    (Api.done status id).status = status := rfl

/-- The failure of a command is never taken for a session that is watched already. -/
private theorem ne_alreadyMonitored_of_isCommand {k : Failure.Kind} (h : k.isCommand) :
    (k == .alreadyMonitored) = false := by
  cases k <;> first | rfl | cases h

/-- A start is replied to by the model: its status is told by what is watched and by what the
process is resolved to. -/
private theorem serves_start (hs : s.IsExternal) (h : Shows watched r.monitor) (id : String) :
    Replies s watched r (.start id) (((serviceOf s registry settings).startWatch id).run r) := by
  unfold Api.startWatch
  cases hvalid : Session.Name.isValid id with
  | false => exact ⟨.refusal 400 "Invalid session ID", rfl, by simp [Ask.status, hvalid], nofun, h⟩
  | true =>
      rw [if_neg (by simp), monitor_serviceOf, Monitor.run_bind]
      -- a session that is watched is refused before anybody asks for its process
      by_cases hwatched : r.monitor.isMonitoring id
      · have hmem : id ∈ watched := h.isMonitoring_iff.1 hwatched
        rw [Monitor.run_start_watched hwatched]
        exact ⟨.refusal 409 "Session is already being monitored", rfl,
          by simp [Ask.status, hvalid, hmem], nofun, h⟩
      · have hnew : id ∉ watched := fun hmem => hwatched (h.isMonitoring_iff.2 hmem)
        rcases hresolve : (s.resolvePid id).run r.around with ⟨f | pid, around⟩
        · have hcommand : f.kind.isCommand := hs.pid id r.around f (by rw [hresolve])
          have hstatus : (backdrop s r (.start id)).isUnresolved := by
            simp [backdrop, Ask.session?, hresolve, Except.isOk, Except.toBool]
          rw [Monitor.run_start_unresolved hwatched hresolve]
          dsimp only
          rw [ne_alreadyMonitored_of_isCommand hcommand, hcommand]
          exact ⟨.refusal 502 f.message, rfl, by simp [Ask.status, hvalid, hnew, hstatus], nofun, h⟩
        · have hstatus : (backdrop s r (.start id)).isUnresolved = false := by
            simp [backdrop, Ask.session?, hresolve, Except.isOk, Except.toBool]
          obtain ⟨log, hstart⟩ := Monitor.run_start hwatched hresolve
          rw [hstart]
          exact ⟨Api.done 201 id, rfl, by simp [Ask.status, hvalid, hnew, hstatus], nofun,
            h.register hwatched _ pid⟩

/-- So is a stop, by what is watched. -/
private theorem serves_stop (h : Shows watched r.monitor) (id : String) :
    Replies s watched r (.stop id) (((serviceOf s registry settings).stopWatch id).run r) := by
  unfold Api.stopWatch
  rw [monitor_serviceOf, Monitor.run_bind]
  by_cases hwatched : r.monitor.isMonitoring id
  · have hmem : id ∈ watched := h.isMonitoring_iff.1 hwatched
    obtain ⟨log, hstop⟩ := Monitor.run_stop (s := s) hwatched
    rw [hstop]
    exact ⟨Api.done 200 id, rfl, by simp [Ask.status, hmem], nofun, h.deregister hwatched⟩
  · have hnew : id ∉ watched := fun hmem => hwatched (h.isMonitoring_iff.2 hmem)
    rw [Monitor.run_stop_unwatched hwatched]
    exact ⟨Api.unwatched, rfl, by simp [Ask.status, Api.unwatched, hnew], nofun, h⟩

/-- So is the question for a state. -/
private theorem serves_state (h : Shows watched r.monitor) (id : String) :
    Replies s watched r (.state id) (((serviceOf s registry settings).state id).run r) := by
  unfold Api.state
  rw [monitor_serviceOf, Monitor.run_bind, Monitor.run_look]
  cases hfind : r.monitor.find id with
  | ok w =>
      have hmem : id ∈ watched := h.mem_of_find hfind
      exact ⟨Api.watchData id w, rfl, by simp [Ask.status, Api.watchData, hmem], nofun, h⟩
  | error f =>
      have hnew : id ∉ watched := h.notMem_of_find hfind
      exact ⟨Api.unwatched, rfl, by simp [Ask.status, Api.unwatched, hnew], nofun, h⟩

/-- So is the question for health, which is always answered, with the number of what is watched.
-/
private theorem serves_health (h : Shows watched r.monitor) :
    Replies s watched r .health ((serviceOf s registry settings).health.run r) := by
  refine ⟨healthReply r.monitor.list.length, rfl, rfl, ?_, h⟩
  intro _
  rw [h.card]

/-- What a detection replies that has classified its session. -/
def detectedReply (id : String) (changed : Bool) (a : Activity) : Reply :=
  .data 200 [("session_id", .text id), ("changed", .bool changed), ("state", .text a.name)]

/-- So is a detection, by what is watched and by the two signals. -/
private theorem serves_detect (hs : s.IsExternal) (h : Shows watched r.monitor) (id : String) :
    Replies s watched r (.detect id) (((serviceOf s registry settings).detect id).run r) := by
  unfold Api.detect
  rw [monitor_serviceOf, Monitor.run_bind]
  cases hfind : r.monitor.find id with
  | error f =>
      have hnew : id ∉ watched := h.notMem_of_find hfind
      obtain ⟨-, rfl⟩ := Monitor.find_eq_error.1 hfind
      rw [Monitor.run_detect_unwatched hfind]
      exact ⟨Api.unwatched, rfl, by simp [Ask.status, Api.unwatched, hnew], nofun, h⟩
  | ok w =>
      have hmem : id ∈ watched := h.mem_of_find hfind
      have hsilent : (backdrop s r (.detect id)).isSilent = s.isSilent r id w := by
        simp [backdrop, Ask.session?, hfind]
      rcases Monitor.signals_cases (hs.asks id w) r with ⟨hsilence, f, hf, hkind⟩ | ⟨hspeaks, a, ha⟩
      · rw [Monitor.run_detect_failed hfind (Prod.ext hf rfl)]
        dsimp only
        rw [hkind]
        exact ⟨.refusal 502 f.message, rfl, by simp [Ask.status, hmem, hsilent, hsilence], nofun, h⟩
      · -- changed or not, the detection begins and ends no watch
        by_cases hsame : a = w.current
        · subst hsame
          rw [Monitor.run_detect_same hfind (Prod.ext ha rfl)]
          exact ⟨detectedReply id false w.current, rfl,
            by simp [Ask.status, detectedReply, hmem, hsilent, hspeaks], nofun, h⟩
        · obtain ⟨hchanged, hanswers⟩ :=
            Monitor.run_detect_changed hfind (Prod.ext ha rfl) hsame Monitor.Reach.demandTrigger
          rcases hdetect : (s.reach.detect id Monitor.Reach.demandTrigger).run r
            with ⟨f | ⟨isChange, b⟩, r'⟩
          · rw [hdetect] at hanswers
            exact absurd hs.toHoldsUp hanswers.2
          · rw [hdetect] at hchanged
            exact ⟨detectedReply id isChange b, rfl,
              by simp [Ask.status, detectedReply, hmem, hsilent, hspeaks], nofun,
              h.of_roster hchanged.roster⟩

/-- What a handler replies is the reply to the request. -/
theorem run_reply {api : Api (StateM (Room η ω)) η} {v : Visit} {reply : Reply}
    (hhandled : (api.handle v.request v.ask.endpoint).run r = (.ok reply, after)) :
    (api.reply v.request).run r = (reply, after) := by
  have hserve : (api.serve v.request v.ask.endpoint).run r = (reply, after) := by
    unfold Api.serve
    rw [Monitor.run_bind, hhandled]
    rfl
  -- a reply loses its body only to those who ask for its head
  have hhead : (v.request.method == "HEAD") = false := by
    rw [v.method]
    cases v.ask <;> rfl
  unfold Api.reply
  rw [v.find_path]
  dsimp only
  rw [Monitor.run_bind, hserve, hhead]
  rfl

/-- Whatever is asked is replied to as the set of watched sessions says. -/
theorem serves_reply (hs : s.IsExternal) (h : Shows watched r.monitor) (v : Visit) :
    ∃ reply after, ((serviceOf s registry settings).reply v.request).run r = (reply, after)
      ∧ Serves s watched r v.ask reply after := by
  have hreplies : Replies s watched r v.ask
      (((serviceOf s registry settings).handle v.request v.ask.endpoint).run r) := by
    cases v.ask with
    | start id => exact serves_start hs h id
    | stop id => exact serves_stop h id
    | detect id => exact serves_detect hs h id
    | state id => exact serves_state h id
    | health => exact serves_health h
  obtain ⟨reply, hok, hserves⟩ := hreplies
  exact ⟨reply, _, run_reply (Prod.ext hok rfl), hserves⟩

-- ===================================================== runs

/-- Something that happens at a service. -/
inductive Event where
  | visit (v : Visit)
  /-- A worker has a round. -/
  | round (id : String) (number : Nat)

/-- A request with its reply, and what was there before and after it. -/
structure Exchange (η ω : Type) where
  watched : Finset String
  before : Room η ω
  visit : Visit
  reply : Reply
  after : Room η ω

/-- The exchanges of a run, with the sets of watched sessions that the replies make. -/
def exchanges (api : Api (StateM (Room η ω)) η) :
    Finset String → Room η ω → List Event → List (Exchange η ω)
  | _, _, [] => []
  | watched, r, .visit v :: rest =>
    let (reply, after) := (api.reply v.request).run r
    ⟨watched, r, v, reply, after⟩ :: exchanges api (v.ask.next watched reply.status) after rest
  | watched, r, .round id number :: rest =>
    exchanges api watched ((api.monitor.round id number).run r).2 rest

/-- All requests of a run are replied to by the model, each in the room that the ones before it
have left. -/
private theorem serves_exchanges (hs : s.IsExternal) (events : List Event)
    (h : Shows watched r.monitor) :
    ∀ e ∈ exchanges (serviceOf s registry settings) watched r events,
      Shows e.watched e.before.monitor
        ∧ Serves s e.watched e.before e.visit.ask e.reply e.after := by
  -- a reply leaves a monitor that shows what it makes of the set, a round the same monitor but
  -- for what its watches say
  induction events generalizing watched r with
  | nil => simp [exchanges]
  | cons event events ih =>
      cases event with
      | visit v =>
          obtain ⟨reply, after, hreply, hserves⟩ := serves_reply hs h v
          rw [exchanges, hreply]
          dsimp only
          rw [List.forall_mem_cons]
          exact ⟨⟨h, hserves⟩, ih hserves.shows⟩
      | round id number =>
          exact ih (h.of_roster (Monitor.roster_round s r id number))

/-- For every run of requests, between which workers may poll, from a monitor that watches nothing:
each reply has the status that the set of watched sessions gives, the one about the health of the
service counts them, and they are what the monitor watches, before and after the reply. -/
theorem service_refines (s : Surroundings η ω) (hs : s.IsExternal)
    (registry : Registry.Reach (StateM (Room η ω))) (settings : Option Settings) (r : Room η ω)
    (hr : r.monitor.watches = []) (events : List Event) :
    ∀ e ∈ exchanges (serviceOf s registry settings) ∅ r events,
      (∀ id, e.before.monitor.isMonitoring id ↔ id ∈ e.watched)
        ∧ e.reply.status = e.visit.ask.status e.watched (backdrop s e.before e.visit.ask)
        ∧ (e.visit.ask = .health → e.reply = healthReply e.watched.card)
        ∧ ∀ id, e.after.monitor.isMonitoring id
          ↔ id ∈ e.visit.ask.next e.watched e.reply.status := by
  -- a monitor without watches shows the empty set
  have hnothing : Shows ∅ r.monitor := by
    constructor <;> simp [Monitor.list, hr]
  intro e he
  obtain ⟨hshows, hserves⟩ := serves_exchanges hs events hnothing e he
  exact ⟨fun _ => hshows.isMonitoring_iff, hserves.status, hserves.health,
    fun _ => hserves.shows.isMonitoring_iff⟩

-- ===================================================== cases

/-- Surroundings in which one session has no panes, no pane can be captured, and the process table
answers once. -/
def tiredSurroundings : Surroundings Unit Nat where
  now _ := Time.Stamp.midnight ⟨2024, 6, 15⟩
  resolvePid id := return if id == "ccmgr-a-b-gone" then .error (.noPanes id) else .ok 10
  capture id := return .error (.noPanes id)
  probe pid := do
    let asked ← getModify (· + 1)
    return if asked == 0 then .ok "S" else .error (.command (.probeTimedOut pid))
  call _ _ _ _ := return .ok ()
  hookName _ := "hook"
  isStored := false

/-- A tmux that gives up fails in no way but those of commands. -/
private theorem isExternal_tired : tiredSurroundings.IsExternal where
  copies e f hf := by cases hf
  hooks hook id source target x f hf := by cases hf
  pid id := by
    intro asked f hf
    change (if id == "ccmgr-a-b-gone" then Except.error (Failure.noPanes id) else .ok 10)
      = Except.error f at hf
    split at hf
    · cases hf
      rfl
    · cases hf
  output id := by
    intro asked f hf
    cases hf
    rfl
  code pid := by
    intro asked f hf
    change (if asked == 0 then Except.ok "S" else .error (.command (.probeTimedOut pid)))
      = Except.error f at hf
    split at hf
    · cases hf
    · cases hf
      rfl

/-- A room in which nothing is watched. -/
def emptyRoom : Room Unit Nat where
  monitor := {}
  registry := Registry.emptyDesk.registry
  disk := Registry.emptyDesk.machine.disk
  around := 0

/-- A registry that nothing can be done to. -/
def closedRegistry : Registry.Reach (StateM (Room Unit Nat)) where
  act _ := return .error .noBackend
  now := return Time.Stamp.midnight ⟨2024, 6, 15⟩
  hasPanes := none

/-- Requests that say no more than what they are about. -/
def plainVisits (asks : List Ask) (hids : ∀ ask ∈ asks, ∀ id ∈ ask.session?, IsSegment id) :
    List Event :=
  asks.attach.map fun ⟨ask, hask⟩ =>
    .visit ⟨ask, ⟨ask.method, ⟨ask.path, []⟩, "", []⟩, rfl, rfl, hids ask hask⟩

/-- Requests about a session that can be watched, two that cannot, and a round of the worker. -/
def workingDay : List Event :=
  let own := "ccmgr-a-b-c"
  plainVisits [.start "a b", .start "ccmgr-a-b-gone", .detect own, .start own, .start own,
    .detect own, .detect own, .health] (by decide)
  ++ .round own 0 :: plainVisits [.state own, .stop own, .stop own, .state own] (by decide)

/-- Twelve requests of a day and their statuses, each of which is the one that the model tells. -/
theorem service_refines_workingDay :
    tiredSurroundings.IsExternal ∧ emptyRoom.monitor.watches = []
      ∧ (exchanges (serviceOf tiredSurroundings closedRegistry none) ∅ emptyRoom workingDay).map
          (·.reply.status) = [400, 502, 404, 201, 409, 200, 502, 200, 200, 200, 404, 404]
      ∧ ∀ e ∈ exchanges (serviceOf tiredSurroundings closedRegistry none) ∅ emptyRoom workingDay,
          e.reply.status
            = e.visit.ask.status e.watched (backdrop tiredSurroundings e.before e.visit.ask) :=
  ⟨isExternal_tired, rfl, by decide +kernel, fun e he =>
    (service_refines tiredSurroundings isExternal_tired closedRegistry none emptyRoom rfl workingDay
      e he).2.1⟩

end PaneWatch.Http
