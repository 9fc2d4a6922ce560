/-
A monitor at work on a registry.

An `Office` is everything under way at a monitor together with the desk of the registry that
it stores to. What a call stores is an update of that registry, and how the update ends
is what the call is answered. Between two acts of the calls anything else may happen to the
registry, and to the disk under it.

As long as nothing else changes the entry of a session, it shows what was stored for
it last, whether or not it could be saved (`Office.exists_showsLast`).
-/
import PaneWatch.Proofs.Monitor.Order
import PaneWatch.Proofs.Registry.Entries

namespace PaneWatch

open Session (Record)
open Time (Stamp)

/-- What the entry of a session shows of what it does. -/
def Session.Record.shown (s : Record) : Activity × Stamp := (s.lastState, s.lastAccess)

namespace Monitor

-- ===================================================== offices

/-- A monitor with the calls to it, and the registry that they store to. -/
structure Office (η : Type) where
  traffic : Traffic η
  desk : Registry.Desk

/-- Something that happens at an office. -/
inductive Happening (η : Type) where
  /-- A call is made. -/
  | make (r : Request)
  /-- A call does its next act. The disk may have changed meanwhile. -/
  | move (call : Nat) (now : Stamp) (world : World) (meanwhile : Disk → Disk)
  /-- Something is added to what is called on every change. -/
  | addHook (hook : η)
  /-- Something else is done to the registry. -/
  | registry (e : Registry.Event)

variable {η : Type}

/-- Whether it is something that calls do. -/
def Happening.isOfCalls : Happening η → Bool
  | registry _ => false
  | _ => true

/-- What a call stores next, if that is what it does next. -/
def Traffic.storing? (s : Traffic η) (call : Nat) : Option (String × Activity × Stamp) :=
  match s.calls[call]? with
  | some (_, .act (.store id a time) _) => some (id, a, time)
  | _ => none

private theorem Traffic.storing?_eq_some {s : Traffic η} {call : Nat} {id : String} {a : Activity}
    {time : Stamp} (h : s.storing? call = some (id, a, time)) :
    ∃ r next, s.calls[call]? = some (r, .act (.store id a time) next) := by
  unfold storing? at h
  split at h
  · next r id a time next hcall =>
    cases h
    exact ⟨r, next, hcall⟩
  · cases h

/-- Who stores does not have to wait. -/
theorem Traffic.play_store {s : Traffic η} {call : Nat} {r : Request} {id : String} {a : Activity}
    {time : Stamp} {next : Except Failure Unit → Task η Answer}
    (hcall : s.calls[call]? = some (r, .act (.store id a time) next)) (site : Site η) (now : Stamp)
    (world : World) :
    s.play site (.move call now world) = s.act call r now world (.store id a time) next := by
  unfold play
  dsimp only
  rw [hcall]
  rfl

namespace Office

/-- A new monitor at work on a registry. -/
def new (table : List Signal.Row) (hooks : List η) (desk : Registry.Desk) : Office η :=
  ⟨Traffic.new table hooks, desk⟩

/-- The session under a key of the registry, in memory. -/
def find? (s : Office η) (id : String) : Option Record := s.desk.registry.find? id

/-- What happens. -/
def play (site : Site η) (s : Office η) : Happening η → Office η
  | .make r => { s with traffic := s.traffic.play site (.make r) }
  | .move call now world meanwhile =>
    match s.traffic.storing? call with
    | some (id, a, time) =>
      let e : Registry.Event := ⟨now, meanwhile, .update id (Registry.stateUpdate a time)⟩
      let stored := (e.op.run (e.find s.desk)).1.map fun _ => ()
      { traffic := s.traffic.play site (.move call now { world with stored })
        desk := e.play s.desk }
    | none => { s with traffic := s.traffic.play site (.move call now world) }
  | .addHook hook => { s with traffic := s.traffic.play site (.addHook hook) }
  | .registry e => { s with desk := e.play s.desk }

/-- What happens in some events, one after the other. -/
def playAll (site : Site η) (s : Office η) (events : List (Happening η)) : Office η :=
  events.foldl (play site) s

/-- That nothing but what calls store changes the entry of a session. -/
def Spares (site : Site η) (id : String) : Office η → List (Happening η) → Prop
  | _, [] => True
  | s, e :: rest =>
    (∀ e', e = .registry e' → (s.play site e).find? id = s.find? id)
      ∧ Spares site id (s.play site e) rest

variable {site : Site η} {s : Office η}

/-- Where calls are all that happens, every entry is spared. -/
theorem spares_of_all {id : String} {events : List (Happening η)}
    (h : events.all Happening.isOfCalls) (s : Office η) : Spares site id s events := by
  induction events generalizing s with
  | nil => trivial
  | cons e events ih =>
      rw [List.all_cons, Bool.and_eq_true] at h
      refine ⟨?_, ih h.2 _⟩
      rintro e' rfl
      cases h.1

-- ===================================================== the calls of an office

/-- What happens at an office is an event of its calls, or none of them. -/
theorem traffic_play_cases (site : Site η) (s : Office η) (e : Happening η) :
    (s.play site e).traffic = s.traffic
      ∨ ∃ e', (s.play site e).traffic = s.traffic.play site e' := by
  cases e with
  | make r => exact .inr ⟨.make r, rfl⟩
  | move call now world meanwhile =>
      unfold play
      dsimp only
      split
      · exact .inr ⟨.move call now _, rfl⟩
      · exact .inr ⟨.move call now world, rfl⟩
  | addHook hook => exact .inr ⟨.addHook hook, rfl⟩
  | registry e => exact .inl rfl

private theorem isOrderly_play (h : s.traffic.IsOrderly) (hstored : site.isStored)
    (e : Happening η) :
    (s.play site e).traffic.IsOrderly := by
  rcases traffic_play_cases site s e with hsame | ⟨e', hplay⟩
  · rw [hsame]
    exact h
  · rw [hplay]
    exact h.play hstored e'

/-- What is under way at an office stays in order. -/
theorem isOrderly_playAll (h : s.traffic.IsOrderly) (hstored : site.isStored)
    (events : List (Happening η)) : (s.playAll site events).traffic.IsOrderly := by
  induction events generalizing s with
  | nil => exact h
  | cons e events ih => exact ih (isOrderly_play h hstored e)

-- ===================================================== the entry of a session

/-- What was stored last for a session, or what its entry showed before. -/
def shownLast (id : String) (old : Record) (newer : List Write) : Activity × Stamp :=
  (newer.find? (·.id == id)).elim old.shown Write.shown

/-- That the entry of a session shows what was stored for it last. -/
structure ShowsLast (s₀ s : Office η) (id : String) (old : Record) (newer : List Write)
    (entry : Record) : Prop where
  log : writes s.traffic.log = newer ++ writes s₀.traffic.log
  found : s.find? id = some entry
  writable : entry.isWritable
  shown : entry.shown = shownLast id old newer

theorem ShowsLast.trans {s₀ s₁ s₂ : Office η} {id : String} {old mid entry : Record}
    {newer newest : List Write} (h : ShowsLast s₀ s₁ id old newer mid)
    (h' : ShowsLast s₁ s₂ id mid newest entry) :
    ShowsLast s₀ s₂ id old (newest ++ newer) entry := by
  refine ⟨?_, h'.found, h'.writable, ?_⟩
  · rw [h'.log, h.log, List.append_assoc]
  · rw [h'.shown, shownLast, shownLast, List.find?_append, h.shown, shownLast]
    cases newest.find? (·.id == id) <;> rfl

/-- Where nothing is stored and the entry stays, it shows what it showed. -/
theorem showsLast_of_writes {s' : Office η} {id : String} {old : Record}
    (hold : s.find? id = some old) (hwritable : old.isWritable)
    (hlog : writes s'.traffic.log = writes s.traffic.log) (hfind : s'.find? id = s.find? id) :
    ShowsLast s s' id old [] old := ⟨hlog, hfind.trans hold, hwritable, rfl⟩

/-- What a call stores is in the log, and in the entry of its session. -/
theorem exists_showsLast_store (h : s.traffic.IsOrderly) {id : String} {old : Record}
    (hold : s.find? id = some old) (hwritable : old.isWritable) {call : Nat} {r : Request}
    {id' : String} {a : Activity} {time : Stamp} {next : Except Failure Unit → Task η Answer}
    (hcall : s.traffic.calls[call]? = some (r, .act (.store id' a time) next)) (now : Stamp)
    (world : World) (meanwhile : Disk → Disk) :
    ∃ v entry, ShowsLast s ⟨s.traffic.act call r now world (.store id' a time) next,
      Registry.Event.play s.desk ⟨now, meanwhile, .update id' (Registry.stateUpdate a time)⟩⟩
      id old [v] entry := by
  obtain ⟨t, found, hstage⟩ := Stage.exists_of_allows_store (h.keeps.calls _ _ _ hcall).1
  have hlog := writes_store (m := s.traffic.monitor) hstage r now world a time
  have hregistry : (Registry.Event.play s.desk
      ⟨now, meanwhile, .update id' (Registry.stateUpdate a time)⟩).registry
      = (Registry.Operation.update id' (Registry.stateUpdate a time)).effect now s.desk.registry :=
    Registry.Operation.registry_run _ _
  by_cases hid : id' = id
  · subst hid
    refine ⟨_, _, hlog, ?_, (Registry.isWritable_withState old a time).trans hwritable, ?_⟩
    · rw [find?, hregistry]
      exact Registry.find?_stateUpdate hold hwritable a time now
    · simp [shownLast, Record.shown, Write.shown]
  · refine ⟨_, old, hlog, ?_, hwritable, ?_⟩
    · rw [find?, hregistry, Registry.find?_update_ne (Ne.symm hid)]
      exact hold
    · simp [shownLast, hid]

/-- After one event the entry shows what was stored in it, if anything was. -/
theorem exists_showsLast_play (h : s.traffic.IsOrderly) {id : String} {old : Record}
    (hold : s.find? id = some old) (hwritable : old.isWritable) (e : Happening η)
    (hspared : ∀ e', e = .registry e' → (s.play site e).find? id = s.find? id) :
    ∃ newer entry, ShowsLast s (s.play site e) id old newer entry := by
  cases e with
  | make r => exact ⟨[], old, showsLast_of_writes hold hwritable rfl rfl⟩
  | addHook hook => exact ⟨[], old, showsLast_of_writes hold hwritable rfl rfl⟩
  | registry e =>
      have hspared : (s.play site (.registry e)).find? id = s.find? id := hspared e rfl
      exact ⟨[], old, showsLast_of_writes hold hwritable rfl hspared⟩
  | move call now world meanwhile =>
      unfold play
      dsimp only
      split
      · next id' a time hstoring =>
        obtain ⟨r, next, hcall⟩ := Traffic.storing?_eq_some hstoring
        rw [Traffic.play_store hcall]
        obtain ⟨v, entry, hshows⟩ := exists_showsLast_store h hold hwritable hcall now _ meanwhile
        exact ⟨[v], entry, hshows⟩
      · next hnone =>
        refine ⟨[], old, showsLast_of_writes hold hwritable ?_ rfl⟩
        rcases Traffic.play_move_cases site s.traffic call now world with
          hidle | ⟨r, x, next, hcall, hfree, hplay⟩
        · rw [hidle]
        · rw [hplay]
          refine writes_cons ?_ _
          rintro i a time rfl
          rw [Traffic.storing?, hcall] at hnone
          cases hnone

/-- After all events the entry shows what was stored last, or what it showed at first. -/
theorem exists_showsLast (h : s.traffic.IsOrderly) (hstored : site.isStored) {id : String}
    {old : Record} (hold : s.find? id = some old) (hwritable : old.isWritable)
    (events : List (Happening η)) (hspares : Spares site id s events) :
    ∃ newer entry, ShowsLast s (s.playAll site events) id old newer entry := by
  induction events generalizing s old with
  | nil => exact ⟨[], old, showsLast_of_writes hold hwritable rfl rfl⟩
  | cons e events ih =>
      obtain ⟨newer, mid, hfirst⟩ := exists_showsLast_play h hold hwritable e hspares.1
      obtain ⟨newest, entry, hrest⟩ :=
        ih (isOrderly_play h hstored e) hfirst.found hfirst.writable hspares.2
      exact ⟨newest ++ newer, entry, hfirst.trans hrest⟩

end Office

end Monitor

end PaneWatch
