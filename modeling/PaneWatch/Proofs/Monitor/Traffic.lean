/-
Calls to a monitor that are under way at the same time.

`Traffic` is a monitor together with all calls that were made to it. At every event
a call is made, or one of them does its next act. Which call that is, what the clock
shows and what the world answers is up to the events, so a theorem about all lists
of events is one about all interleavings. A call that is made while another one waits
for the world, from a hook say, is one of these too: nothing happens in the one that
waits.

What has been done is kept in a log, the last move first. Facts about the past of a
call are functions of the log: `observed` is the record that a rule keeps of a call, and
`keeps` carries a rule from the code of the calls to everything that happens.
-/
import PaneWatch.Proofs.Monitor.Task

namespace PaneWatch.Monitor

open Time (Stamp)

-- ===================================================== calls

/-- What can be asked of a monitor. -/
inductive Request where
  | start (id : String)
  | stop (id : String)
  | detect (id : String)
  /-- One round of the worker of a watch. -/
  | round (id : String) (number : Nat)
  | shutDown

/-- What a request is answered. -/
inductive Answer where
  | started (outcome : Except Failure Unit)
  | stopped (outcome : Except Failure Unit)
  | detected (outcome : Except Failure (Bool × Activity))
  | goesOn (outcome : Except Failure Bool)
  | dismissed (ids : List String)

namespace Request

variable {η : Type}

/-- The code that is run for a request. -/
def task (site : Site η) : Request → Task η Answer
  | start id => do return .started (← site.reach.start id)
  | stop id => do return .stopped (← site.reach.stop id)
  | detect id => do return .detected (← site.reach.detect id Reach.demandTrigger)
  | round id number => do return .goesOn (← site.reach.round id number)
  | shutDown => do return .dismissed (← site.reach.shutDown)

/-- The session that a request looks at. -/
def session? : Request → Option String
  | start id | stop id | detect id | round id _ => some id
  | shutDown => none

/-- The watch that a worker was made for, if it is one that asks. -/
def worker? : Request → Option Nat
  | round _ number => some number
  | _ => none

end Request

-- ===================================================== traffic

/-- What the world answers, whichever of it is asked for. -/
structure World where
  pid : Except Failure Int
  output : Except Failure String
  code : Except Failure String
  stored : Except Failure Unit
  called : Except Failure Unit
  /-- What comes of starting a worker. -/
  launched : Except Failure Unit := .ok ()

/-- What an act is answered, and the monitor afterwards. -/
def Act.perform {η : Type} (now : Stamp) (world : World) :
    (x : Act η) → Monitor η → x.Answer × Monitor η
  | look, m => (m, m)
  | register id pid, m => m.register now id pid
  | deregister id, m => m.deregister id
  | record id a trigger, m => m.commit now id a trigger
  | dismiss, m => m.shutDown
  | resolvePid _, m => (world.pid, m)
  | capture _, m => (world.output, m)
  | probe _, m => (world.code, m)
  | launch .., m => (world.launched, m)
  | store .., m => (world.stored, m)
  | enter, m => ((), m)
  | leave, m => ((), m)
  | call .., m => (world.called, m)
  | note .., m => ((), m)

/-- An act of a call, with what it was answered and the monitor that it found. -/
structure Move (η : Type) where
  /-- The number of the call. -/
  call : Nat
  request : Request
  act : Act η
  answer : act.Answer
  now : Stamp
  before : Monitor η

/-- The call that is alone, if one is. -/
def holder {η : Type} : List (Move η) → Option Nat
  | [] => none
  | e :: older =>
    match e.act with
    | .enter => some e.call
    | .leave => none
    | _ => holder older

/-- Whether an act has to wait: nobody comes to be alone while somebody is. -/
def Act.waits {η : Type} (x : Act η) (log : List (Move η)) : Bool :=
  match x with
  | enter => (holder log).isSome
  | _ => false

/-- A monitor with the calls to it, numbered in the order in which they were made, and the
moves of all calls, the last one first. -/
structure Traffic (η : Type) where
  monitor : Monitor η
  calls : List (Request × Task η Answer) := []
  log : List (Move η) := []

/-- Something that happens. -/
inductive Event (η : Type) where
  /-- A call is made. -/
  | make (r : Request)
  /-- A call does its next act. -/
  | move (call : Nat) (now : Stamp) (world : World)
  /-- Something is added to what is called on every change. -/
  | addHook (hook : η)

namespace Traffic

variable {η γ : Type}

/-- A new monitor, without calls. -/
def new (table : List Signal.Row) (hooks : List η) : Traffic η := { monitor := { table, hooks } }

/-- What a call that waits does next. -/
def act (s : Traffic η) (call : Nat) (r : Request) (now : Stamp) (world : World) (x : Act η)
    (next : x.Answer → Task η Answer) : Traffic η :=
  let (y, monitor) := x.perform now world s.monitor
  { monitor
    calls := s.calls.set call (r, next y)
    log := ⟨call, r, x, y, now, s.monitor⟩ :: s.log }

/-- What happens in an event. Nothing does if the call is not there, or done, or has to wait. -/
def play (site : Site η) (s : Traffic η) : Event η → Traffic η
  | .make r => { s with calls := s.calls ++ [(r, r.task site)] }
  | .move call now world =>
    match s.calls[call]? with
    | some (r, .act x next) =>
      if x.waits s.log then s else s.act call r now world x next
    | _ => s
  | .addHook hook => { s with monitor := s.monitor.addHook hook }

/-- What happens in some events, one after the other. -/
def playAll (site : Site η) (s : Traffic η) (events : List (Event η)) : Traffic η :=
  events.foldl (play site) s

/-- What holds at first and is preserved by every event holds after all events. -/
theorem playAll_induction {P : Traffic η → Prop} {site : Site η} {s : Traffic η} (hfirst : P s)
    (hstep : ∀ s e, P s → P (play site s e)) (events : List (Event η)) :
    P (playAll site s events) := by
  induction events generalizing s with
  | nil => exact hfirst
  | cons e events ih => exact ih (hstep s e hfirst)

/-- A move does nothing, or a call does its next act. -/
theorem play_move_cases (site : Site η) (s : Traffic η) (call : Nat) (now : Stamp) (world : World) :
    s.play site (.move call now world) = s
      ∨ ∃ r x next, s.calls[call]? = some (r, .act x next) ∧ x.waits s.log = false
        ∧ s.play site (.move call now world) = s.act call r now world x next := by
  unfold play
  dsimp only
  split
  · next r x next hcall =>
    split
    · exact .inl rfl
    · next hfree => exact .inr ⟨r, x, next, hcall, by simpa using hfree, rfl⟩
  · exact .inl rfl

/-- A call is there after another one was made if it was there before or is that one. -/
theorem calls_make_cases {s : Traffic η} {r r' : Request} {t t' : Task η Answer} {call : Nat}
    (h : (s.calls ++ [(r, t)])[call]? = some (r', t')) :
    s.calls[call]? = some (r', t') ∨ s.calls.length ≤ call ∧ r' = r ∧ t' = t := by
  rw [List.getElem?_append] at h
  split at h
  · exact .inl h
  · next hge =>
    obtain ⟨hlt, hnew⟩ := List.getElem?_eq_some_iff.1 h
    rw [List.getElem_singleton] at hnew
    cases hnew
    exact .inr ⟨Nat.le_of_not_lt hge, rfl, rfl⟩

/-- A call that does an act goes on, and all others are where they were. -/
theorem calls_act_cases {s : Traffic η} {call other : Nat} {r r' : Request} {x : Act η}
    {next : x.Answer → Task η Answer} {t : Task η Answer} {now : Stamp} {world : World}
    (hcall : s.calls[call]? = some (r, .act x next))
    (h : (s.act call r now world x next).calls[other]? = some (r', t)) :
    call = other ∧ r' = r ∧ t = next (x.perform now world s.monitor).1
      ∨ call ≠ other ∧ s.calls[other]? = some (r', t) := by
  have hset : (s.calls.set call (r, next (x.perform now world s.monitor).1))[other]?
      = some (r', t) := h
  by_cases hsame : call = other
  · subst hsame
    rw [List.getElem?_set_self (List.getElem?_eq_some_iff.1 hcall).1] at hset
    cases hset
    exact .inl ⟨rfl, rfl, rfl⟩
  · rw [List.getElem?_set_ne hsame] at hset
    exact .inr ⟨hsame, hset⟩

/-- A call stays where it is, with its request. -/
theorem calls_play (site : Site η) {s : Traffic η} {call : Nat} {r : Request} {t : Task η Answer}
    (h : s.calls[call]? = some (r, t)) (e : Event η) :
    ∃ t', (s.play site e).calls[call]? = some (r, t') := by
  have hlt : call < s.calls.length := (List.getElem?_eq_some_iff.1 h).1
  cases e with
  | addHook hook => exact ⟨t, h⟩
  | make r' =>
      refine ⟨t, ?_⟩
      show (s.calls ++ [_])[call]? = _
      rw [List.getElem?_append_left hlt]
      exact h
  | move other now world =>
      rcases play_move_cases site s other now world with hidle | ⟨r', x, next, hother, -, hplay⟩
      · rw [hidle]
        exact ⟨t, h⟩
      · rw [hplay]
        show ∃ t', (s.calls.set other _)[call]? = some (r, t')
        by_cases hsame : other = call
        · subst hsame
          rw [h] at hother
          cases hother
          exact ⟨_, List.getElem?_set_self hlt⟩
        · rw [List.getElem?_set_ne hsame]
          exact ⟨t, h⟩

/-- What holds of the monitor and the log holds after an event if it still does when a hook is
added and when a call that waits does its next act. -/
theorem play_invariant {P : Monitor η → List (Move η) → Prop} {s : Traffic η}
    (h : P s.monitor s.log) (hhook : ∀ hook, P (s.monitor.addHook hook) s.log)
    (hact : ∀ call r x next now world, s.calls[call]? = some (r, .act x next) →
      x.waits s.log = false → P (x.perform now world s.monitor).2
        (⟨call, r, x, (x.perform now world s.monitor).1, now, s.monitor⟩ :: s.log))
    (site : Site η) (e : Event η) : P (s.play site e).monitor (s.play site e).log := by
  cases e with
  | make r => exact h
  | addHook hook => exact hhook hook
  | move call now world =>
      rcases play_move_cases site s call now world with hidle | ⟨r, x, next, hcall, hfree, hplay⟩
      · rw [hidle]
        exact h
      · rw [hplay]
        exact hact call r x next now world hcall hfree

-- ===================================================== rules along a log

/-- The record that a rule has kept of a call. -/
def observed (rule : Request → Rule η γ) (start : γ) (call : Nat) : List (Move η) → γ
  | [] => start
  | e :: older =>
    if e.call = call then (rule e.request).after (observed rule start call older) e.act e.answer
    else observed rule start call older

variable {rule : Request → Rule η γ} {post : Request → γ → Answer → Prop} {start : γ}
  {site : Site η} {s : Traffic η}

/-- That all calls keep to a rule for what is left of them, and in the end to what is asked of
their records and answers, and that no move is one of a call that was not made. -/
structure KeepsTo (rule : Request → Rule η γ) (post : Request → γ → Answer → Prop) (start : γ)
    (s : Traffic η) : Prop where
  calls : ∀ call r (t : Task η Answer), s.calls[call]? = some (r, t) →
    t.Keeps (rule r) (post r) (observed rule start call s.log)
  made : ∀ e ∈ s.log, e.call < s.calls.length
  allowed : ∀ newer e older, s.log = newer ++ e :: older →
    (rule e.request).allows (observed rule start e.call older) e.act

/-- That nothing but what the rule asks for itself is asked in the end. -/
abbrev Keeps (rule : Request → Rule η γ) (start : γ) (s : Traffic η) : Prop :=
  KeepsTo rule (fun r g _ => (rule r).ends g) start s

/-- A call that is done has done all that is asked of it. -/
theorem KeepsTo.of_done (h : KeepsTo rule post start s) {call : Nat} {r : Request} {a : Answer}
    (hdone : s.calls[call]? = some (r, .done a)) :
    post r (observed rule start call s.log) a := h.calls call r _ hdone

/-- A call that is done has come to an end its rule allows. -/
theorem Keeps.ends_of_done (h : Keeps rule start s) {call : Nat} {r : Request} {a : Answer}
    (hdone : s.calls[call]? = some (r, .done a)) :
    (rule r).ends (observed rule start call s.log) := h.of_done hdone

/-- A record is as at the start as long as no act of the call changes it. -/
theorem observed_eq_start {call : Nat} {log : List (Move η)}
    (h : ∀ e ∈ log, e.call = call → ∀ g, (rule e.request).after g e.act e.answer = g) :
    observed rule start call log = start := by
  induction log with
  | nil => rfl
  | cons e older ih =>
      have hbefore := ih fun e' he' => h e' (List.mem_cons_of_mem e he')
      rw [observed, hbefore]
      split
      · next hcall => exact h e List.mem_cons_self hcall start
      · rfl

/-- A call without moves has observed nothing. -/
theorem observed_of_notMem {call : Nat} {log : List (Move η)} (h : ∀ e ∈ log, e.call ≠ call) :
    observed rule start call log = start :=
  observed_eq_start fun e he hcall => absurd hcall (h e he)

/-- What a call observes is carried on from the older moves to the newer ones. -/
theorem observed_append (call : Nat) (newer older : List (Move η)) :
    observed rule start call (newer ++ older)
      = observed rule (observed rule start call older) call newer := by
  induction newer with
  | nil => rfl
  | cons e newer ih => rw [List.cons_append, observed, observed, ih]

/-- What is true of a record that was not at the start has become so in a move of the call. -/
theorem exists_move_of_observed {P : γ → Prop} {call : Nat} {log : List (Move η)}
    (h : P (observed rule start call log)) (hstart : ¬P start) :
    ∃ newer e older, log = newer ++ e :: older ∧ e.call = call
      ∧ ¬P (observed rule start call older)
      ∧ P ((rule e.request).after (observed rule start call older) e.act e.answer) := by
  induction log with
  | nil => exact absurd h hstart
  | cons e log ih =>
      by_cases hbefore : P (observed rule start call log)
      · obtain ⟨newer, e', older, rfl, hmove⟩ := ih hbefore
        exact ⟨e :: newer, e', older, rfl, hmove⟩
      · by_cases hcall : e.call = call
        · rw [observed, if_pos hcall] at h
          exact ⟨[], e, log, rfl, hcall, hbefore, h⟩
        · rw [observed, if_neg hcall] at h
          exact absurd h hbefore

/-- The next move of a call keeps to the rule. -/
theorem KeepsTo.act (h : KeepsTo rule post start s) {call : Nat} {r : Request} {x : Act η}
    {next : x.Answer → Task η Answer} (hcall : s.calls[call]? = some (r, .act x next))
    (now : Stamp) (world : World) : KeepsTo rule post start (s.act call r now world x next) := by
  obtain ⟨hallowed, hnext⟩ := h.calls call r _ hcall
  have hlt : call < s.calls.length := (List.getElem?_eq_some_iff.1 hcall).1
  refine ⟨?_, ?_, ?_⟩
  · intro other r' t hother
    rcases calls_act_cases hcall hother with ⟨rfl, rfl, rfl⟩ | ⟨hne, hold⟩
    · show (next _).Keeps _ _ (observed rule start call (_ :: s.log))
      rw [observed, if_pos rfl]
      exact hnext _
    · show t.Keeps _ _ (observed rule start other (_ :: s.log))
      rw [observed, if_neg hne]
      exact h.calls other r' t hold
  · intro e he
    show e.call < (s.calls.set _ _).length
    rw [List.length_set]
    rcases List.mem_cons.1 he with rfl | hold
    · exact hlt
    · exact h.made e hold
  · intro newer e older hlog
    cases newer with
    | nil =>
        cases hlog
        exact hallowed
    | cons e' newer =>
        exact h.allowed newer e older (List.cons.inj hlog).2

/-- A new call keeps to the rule if its task does. -/
theorem KeepsTo.make (h : KeepsTo rule post start s) {r : Request} {t : Task η Answer}
    (ht : t.Keeps (rule r) (post r) start) :
    KeepsTo rule post start { s with calls := s.calls ++ [(r, t)] } := by
  refine ⟨?_, ?_, h.allowed⟩
  · intro call r' t' hcall
    rcases calls_make_cases hcall with hold | ⟨hge, rfl, rfl⟩
    · exact h.calls call r' t' hold
    · have hfresh : observed rule start call s.log = start := by
        refine observed_of_notMem ?_
        rintro e he rfl
        exact Nat.not_lt.2 hge (h.made e he)
      show t'.Keeps _ _ (observed rule start call s.log)
      rw [hfresh]
      exact ht
  · intro e he
    have hmade := h.made e he
    show e.call < (s.calls ++ [_]).length
    rw [List.length_append]
    omega

/-- Every event keeps to the rule if all tasks do. -/
theorem KeepsTo.play (h : KeepsTo rule post start s)
    (hrule : ∀ r : Request, (r.task site).Keeps (rule r) (post r) start) (e : Event η) :
    KeepsTo rule post start (s.play site e) := by
  cases e with
  | make r => exact h.make (hrule r)
  | move call now world =>
      rcases play_move_cases site s call now world with hidle | ⟨r, x, next, hcall, -, hplay⟩
      · rw [hidle]
        exact h
      · rw [hplay]
        exact h.act hcall now world
  | addHook hook => exact ⟨h.calls, h.made, h.allowed⟩

/-- No call has broken a rule before the first one is made. -/
theorem keeps_new (rule : Request → Rule η γ) (start : γ) (table : List Signal.Row)
    (hooks : List η) : KeepsTo rule post start (new table hooks) :=
  ⟨by simp [new], by simp [new], by simp [new]⟩

-- ===================================================== the past

/-- That something was true of the monitor and the log when each move was made, and that each
was answered as its act is. -/
def Remembers (P : Monitor η → List (Move η) → Prop) (s : Traffic η) : Prop :=
  ∀ newer e older, s.log = newer ++ e :: older →
    P e.before older ∧ ∃ world, e.answer = (e.act.perform e.now world e.before).1

/-- Nothing is to be remembered before the first call is made. -/
theorem remembers_new (P : Monitor η → List (Move η) → Prop) (table : List Signal.Row)
    (hooks : List η) : Remembers P (new table hooks) := by
  intro newer e older hlog
  simp [new] at hlog

/-- What is true now will be remembered. -/
theorem Remembers.play {P : Monitor η → List (Move η) → Prop} (h : Remembers P s)
    (hnow : P s.monitor s.log) (site : Site η) (e : Event η) : Remembers P (s.play site e) := by
  cases e with
  | make r => exact h
  | addHook hook => exact h
  | move call now world =>
      rcases play_move_cases site s call now world with hidle | ⟨r, x, next, -, -, hplay⟩
      · rw [hidle]
        exact h
      · rw [hplay]
        intro newer e older hlog
        cases newer with
        | nil =>
            cases hlog
            exact ⟨hnow, world, rfl⟩
        | cons e' newer => exact h newer e older (List.cons.inj hlog).2

-- ===================================================== requests

/-- That every move is one of a call that was made, for its request. -/
def IsCalled (s : Traffic η) : Prop := ∀ e ∈ s.log, ∃ t, s.calls[e.call]? = some (e.request, t)

/-- After every event the moves are still those of calls that were made. -/
theorem IsCalled.play (h : s.IsCalled) (site : Site η) (e : Event η) :
    (s.play site e).IsCalled := by
  have hold : ∀ e' ∈ s.log, ∃ t, (s.play site e).calls[e'.call]? = some (e'.request, t) := by
    intro e' he'
    obtain ⟨t, hcall⟩ := h e' he'
    exact calls_play site hcall e
  cases e with
  | make r => exact hold
  | addHook hook => exact hold
  | move call now world =>
      rcases play_move_cases site s call now world with hidle | ⟨r, x, next, hcall, -, hplay⟩
      · rw [hidle]
        exact h
      · rw [hplay] at hold ⊢
        intro e he
        rcases List.mem_cons.1 he with rfl | hmem
        · exact ⟨_, List.getElem?_set_self (List.getElem?_eq_some_iff.1 hcall).1⟩
        · exact hold e hmem

/-- Before the first call there are no moves. -/
theorem isCalled_new (table : List Signal.Row) (hooks : List η) : (new table hooks).IsCalled := by
  intro e he
  cases he

end Traffic

end PaneWatch.Monitor
