/-
To which watch a change belongs, and which detection brought it there.

A change is committed to the watch that stands under the ID at that moment, whichever
watch the detection was about. `Commit` sets the two side by side, and `commits` reads
all commits off the log of what has happened. A detection that began before its
watch did, asked about the process of another one, or is the work of another one's
worker, has no business there; `commits_own_iff` says when this comes about: exactly
if the session was stopped while the detection was on its way.

The invariant that carries this is `Accounted`. As long as the session is not stopped, the
watch that a call has seen stays where it is; once it has been, whatever watch comes
next has a number that was not given out when the call looked first.
-/
import PaneWatch.Proofs.Monitor.Flight

namespace PaneWatch.Monitor

open Time (Stamp)

variable {η : Type}

-- ===================================================== reading the log

/-- What a call has seen. -/
def flight (call : Nat) (log : List (Move η)) : Option Flight :=
  Traffic.observed flightRule none call log

/-- Whether a move ends the watch of a session. -/
def Move.ends (e : Move η) (id : String) : Bool :=
  match e.act, e.answer with
  | .deregister i, .ok _ => i == id
  | _, _ => false

/-- Whether a session was stopped after a call had seen it. -/
def stopped (call : Nat) : List (Move η) → Bool
  | [] => false
  | e :: older => stopped call older || (flight call older).any fun f => e.ends f.id

/-- A change that was committed. -/
structure Commit where
  id : String
  /-- The number of the watch that it went to. -/
  number : Nat
  /-- The process of that watch. -/
  pid : Int
  transition : Transition
  /-- How many watches had begun when the detection looked its session up. -/
  began : Nat
  /-- The process that the detection went by. -/
  used : Int
  /-- The watch that the worker was made for whose detection it was, if it was one's. -/
  worker : Option Nat
  /-- Whether the session was stopped after the call had seen it. -/
  stopped : Bool
  deriving DecidableEq

/-- The change that a move commits, if it does. -/
def Move.commit? (e : Move η) (older : List (Move η)) : Option Commit :=
  match e with
  | ⟨call, r, .record id _ _, .ok (some t), _, before⟩ => do
    let f ← flight call older
    let (number, w) ← before.watch? id
    return ⟨id, number, w.pid, t, f.began, f.pid, r.worker?, stopped call older⟩
  | _ => none

/-- All changes that were committed, the last one first. -/
def commits : List (Move η) → List Commit
  | [] => []
  | e :: older => (e.commit? older).toList ++ commits older

/-- The changes that went to a watch, the first one first. -/
def changes (id : String) (number : Nat) (log : List (Move η)) : List Transition :=
  (((commits log).filter fun c => c.id == id && c.number == number).map (·.transition)).reverse

/-- That a change came from a detection that began when its watch was there, went by the
process of that watch, and was not the work of another one's worker. -/
def Commit.IsOwn (c : Commit) : Prop :=
  c.number < c.began ∧ c.used = c.pid ∧ ∀ number, c.worker = some number → number = c.number

-- ===================================================== the invariant

/-- What is true of the watches and of what all calls have seen. -/
structure Accounted (m : Monitor η) (log : List (Move η)) : Prop where
  given : ∀ id n w, m.watch? id = some (n, w) → n < m.nextNumber
  past : ∀ c ∈ commits log, c.number < m.nextNumber
  history : ∀ id n w, m.watch? id = some (n, w) →
    w.history = Signal.lastOf Watch.maxHistory (changes id n log)
  unseen : ∀ call, flight call log = none → stopped call log = false
  order : ∀ call f, flight call log = some f →
    f.seen < f.first ∧ f.first ≤ f.began ∧ f.began ≤ m.nextNumber
  staying : ∀ call f, flight call log = some f → stopped call log = false →
    ∃ w, m.watch? f.id = some (f.seen, w) ∧ w.pid = f.pid
  gone : ∀ call f, flight call log = some f → stopped call log = true →
    ∀ n w, m.watch? f.id = some (n, w) → f.first ≤ n
  own : ∀ c ∈ commits log, c.IsOwn ↔ c.stopped = false

variable {m m' : Monitor η} {log : List (Move η)} {e : Move η}

/-- There is nothing to account for before the first commit. -/
private theorem accounted_new (table : List Signal.Row) (hooks : List η) :
    Accounted { table, hooks } ([] : List (Move η)) := by
  have hnone (id : String) : ({ table, hooks } : Monitor η).watch? id = none := rfl
  constructor <;> simp [commits, flight, Traffic.observed, stopped, hnone]

-- ===================================================== moves that change nothing

/-- That a move is no look, ends no watch and commits nothing. -/
structure Idle (e : Move η) (older : List (Move η)) : Prop where
  looks : ∀ g, (flightRule e.request).after g e.act e.answer = g
  ends : ∀ id, e.ends id = false
  commits : e.commit? older = none

/-- A move that the rule does not follow leaves the flight as it is. -/
private theorem flight_cons (h : ∀ g, (flightRule e.request).after g e.act e.answer = g)
    (call : Nat) :
    flight call (e :: log) = flight call log := by
  show (if e.call = call then _ else _) = _
  rw [h, ite_self]
  rfl

/-- A move that ends no watch stops no call. -/
private theorem stopped_cons (h : ∀ id, e.ends id = false) (call : Nat) :
    stopped call (e :: log) = stopped call log := by
  have hnone : ((flight call log).any fun f => e.ends f.id) = false := by
    cases flight call log with
    | none => rfl
    | some f => exact h f.id
  rw [stopped, hnone, Bool.or_false]

/-- A move that commits nothing adds no commit. -/
theorem commits_cons (h : e.commit? log = none) : commits (e :: log) = commits log := by
  rw [commits, h]
  rfl

/-- An idle move that leaves the watches as they are changes nothing. -/
theorem Accounted.idle (h : Accounted m log) (hm : SameWatches m m') (he : Idle e log) :
    Accounted m' (e :: log) := by
  have hwatch (id : String) : m'.watch? id = m.watch? id := by rw [watch?, hm.1, watch?]
  constructor
  case given =>
    simpa only [hwatch, hm.2] using h.given
  case past =>
    simpa only [commits_cons he.commits, hm.2] using h.past
  case history =>
    simpa only [hwatch, changes, commits_cons he.commits] using h.history
  case unseen =>
    simpa only [flight_cons he.looks, stopped_cons he.ends] using h.unseen
  case order =>
    simpa only [flight_cons he.looks, hm.2] using h.order
  case staying =>
    simpa only [flight_cons he.looks, stopped_cons he.ends, hwatch] using h.staying
  case gone =>
    simpa only [flight_cons he.looks, stopped_cons he.ends, hwatch] using h.gone
  case own =>
    simpa only [commits_cons he.commits] using h.own

-- ===================================================== looks

/-- What a call has seen after a look is what it had seen, or the watch that it looks at. -/
theorem Flight.look_cases {id : String} {g : Option Flight} {f : Flight}
    (h : Flight.look id m g = some f) :
    g = some f
      ∨ (∃ f₀ n w, g = some f₀ ∧ m.watch? f₀.id = some (n, w)
        ∧ f = { f₀ with began := m.nextNumber, pid := w.pid })
      ∨ g = none ∧ ∃ n w, m.watch? id = some (n, w)
        ∧ f = ⟨id, n, m.nextNumber, m.nextNumber, w.pid⟩ := by
  cases g with
  | none =>
      obtain ⟨⟨n, w⟩, hwatch, hf⟩ := Option.map_eq_some_iff.1 h
      exact .inr (.inr ⟨rfl, n, w, hwatch, hf.symm⟩)
  | some f₀ =>
      cases hwatch : m.watch? f₀.id with
      | none =>
          rw [Flight.look, hwatch] at h
          exact .inl h
      | some e =>
          rw [Flight.look, hwatch] at h
          cases h
          exact .inr (.inl ⟨f₀, e.1, e.2, rfl, hwatch, rfl⟩)

/-- A look begins a flight, sees the watch of one anew, or changes nothing. -/
private theorem flight_look_cases {call c : Nat} {r : Request} {now : Stamp} {f : Flight}
    (h : flight c (⟨call, r, .look, m, now, m⟩ :: log) = some f) :
    flight c log = some f
      ∨ (∃ f₀ n w, flight c log = some f₀ ∧ m.watch? f₀.id = some (n, w)
        ∧ f = { f₀ with began := m.nextNumber, pid := w.pid })
      ∨ flight c log = none ∧ ∃ id n w, m.watch? id = some (n, w)
        ∧ f = ⟨id, n, m.nextNumber, m.nextNumber, w.pid⟩ := by
  have hcons : (if call = c then r.session?.elim (flight c log) (Flight.look · m (flight c log))
      else flight c log) = some f := h
  split at hcons
  · cases hid : r.session? with
    | none =>
        rw [hid] at hcons
        exact .inl hcons
    | some id =>
        rw [hid] at hcons
        rcases Flight.look_cases hcons with hsame | hagain | ⟨hnone, n, w, hwatch, hf⟩
        · exact .inl hsame
        · exact .inr (.inl hagain)
        · exact .inr (.inr ⟨hnone, id, n, w, hwatch, hf⟩)
  · exact .inl hcons

/-- A look at the watches as they are. -/
theorem Accounted.look (h : Accounted m log) (call : Nat) (r : Request) (now : Stamp) :
    Accounted m (⟨call, r, .look, m, now, m⟩ :: log) := by
  have hstopped (c : Nat) : stopped c (⟨call, r, .look, m, now, m⟩ :: log) = stopped c log :=
    stopped_cons (fun _ => rfl) c
  constructor
  case given => exact h.given
  case past => exact h.past
  case history => exact h.history
  case unseen =>
    intro c hnone
    rw [hstopped]
    cases hflight : flight c log with
    | none => exact h.unseen c hflight
    | some f =>
        -- a call does not forget what it has seen
        have hcons : (if call = c then r.session?.elim (flight c log)
            (Flight.look · m (flight c log)) else flight c log) = none := hnone
        rw [hflight] at hcons
        split at hcons
        · cases hid : r.session? <;> (rw [hid] at hcons; cases hcons)
        · cases hcons
  case order =>
    intro c f hf
    rcases flight_look_cases hf with hsame | ⟨f₀, n, w, h₀, -, rfl⟩ | ⟨-, id, n, w, hwatch, rfl⟩
    · exact h.order c f hsame
    · obtain ⟨hseen, hfirst, hbegan⟩ := h.order c f₀ h₀
      exact ⟨hseen, Nat.le_trans hfirst hbegan, Nat.le_refl _⟩
    · exact ⟨h.given id n w hwatch, Nat.le_refl _, Nat.le_refl _⟩
  case staying =>
    intro c f hf hstays
    rw [hstopped] at hstays
    rcases flight_look_cases hf with hsame | ⟨f₀, n, w, h₀, hwatch, rfl⟩
      | ⟨-, id, n, w, hwatch, rfl⟩
    · exact h.staying c f hsame hstays
    · obtain ⟨w₀, hw₀, -⟩ := h.staying c f₀ h₀ hstays
      obtain ⟨rfl, rfl⟩ : f₀.seen = n ∧ w₀ = w := by
        rw [hwatch] at hw₀
        cases hw₀
        exact ⟨rfl, rfl⟩
      exact ⟨w₀, hw₀, rfl⟩
    · exact ⟨w, hwatch, rfl⟩
  case gone =>
    intro c f hf hgone
    rw [hstopped] at hgone
    rcases flight_look_cases hf with hsame | ⟨f₀, n, w, h₀, -, rfl⟩ | ⟨hnone, -⟩
    · exact h.gone c f hsame hgone
    · exact h.gone c f₀ h₀ hgone
    · rw [h.unseen c hnone] at hgone
      cases hgone
  case own => exact h.own

-- ===================================================== watches that begin and end

/-- A watch that begins has a number that nobody has seen. -/
theorem Accounted.register (h : Accounted m log) {id : String} {pid : Int} {now : Stamp}
    (hm : Began m now id pid m') (he : Idle e log) : Accounted m' (e :: log) := by
  constructor
  case given =>
    intro i n w hi
    rw [hm.next]
    rcases hm.watch_cases hi with ⟨hold, -⟩ | ⟨-, rfl, -⟩
    · exact Nat.lt_succ_of_lt (h.given i n w hold)
    · exact Nat.lt_succ_self _
  case past =>
    intro c hc
    rw [commits_cons he.commits] at hc
    rw [hm.next]
    exact Nat.lt_succ_of_lt (h.past c hc)
  case history =>
    intro i n w hi
    rw [changes, commits_cons he.commits]
    rcases hm.watch_cases hi with ⟨hold, -⟩ | ⟨-, rfl, rfl⟩
    · exact h.history i n w hold
    · have hnone : (commits log).filter (fun c => c.id == i && c.number == m.nextNumber) = [] := by
        rw [List.filter_eq_nil_iff]
        intro c hc
        have := h.past c hc
        simp only [Bool.and_eq_true, beq_iff_eq, not_and]
        omega
      rw [hnone]
      rfl
  case unseen =>
    simpa only [flight_cons he.looks, stopped_cons he.ends] using h.unseen
  case order =>
    intro c f hf
    rw [flight_cons he.looks] at hf
    obtain ⟨hseen, hfirst, hbegan⟩ := h.order c f hf
    rw [hm.next]
    exact ⟨hseen, hfirst, Nat.le_succ_of_le hbegan⟩
  case staying =>
    intro c f hf hstays
    rw [flight_cons he.looks] at hf
    rw [stopped_cons he.ends] at hstays
    obtain ⟨w, hw, hpid⟩ := h.staying c f hf hstays
    refine ⟨w, ?_, hpid⟩
    -- the watch that the call has seen still stands, so it is not under this ID
    rw [hm.other f.id ?_, hw]
    rintro rfl
    rw [hm.vacant] at hw
    cases hw
  case gone =>
    intro c f hf hgone n w hi
    rw [flight_cons he.looks] at hf
    rw [stopped_cons he.ends] at hgone
    rcases hm.watch_cases hi with ⟨hold, -⟩ | ⟨-, rfl, -⟩
    · exact h.gone c f hf hgone n w hold
    · -- the number of the new watch was not given out when the call looked
      obtain ⟨-, hfirst, hbegan⟩ := h.order c f hf
      exact Nat.le_trans hfirst hbegan
  case own =>
    simpa only [commits_cons he.commits] using h.own

/-- A watch that ends leaves those without one that have seen it. -/
theorem Accounted.deregister (h : Accounted m log) {id : String} (hm : Ended m id m')
    (call : Nat) (r : Request) (now : Stamp) :
    Accounted m' (⟨call, r, .deregister id, .ok (), now, m⟩ :: log) := by
  have hflight (c : Nat) : flight c (⟨call, r, .deregister id, .ok (), now, m⟩ :: log)
      = flight c log := flight_cons (fun _ => rfl) c
  have hstopped (c : Nat) (f : Flight) (hf : flight c log = some f) :
      stopped c (⟨call, r, .deregister id, .ok (), now, m⟩ :: log)
        = (stopped c log || id == f.id) := by
    rw [stopped, hf]
    rfl
  constructor
  case given =>
    intro i n w hi
    rw [hm.next]
    exact h.given i n w (hm.of_watch hi).1
  case past =>
    intro c hc
    rw [hm.next]
    exact h.past c hc
  case history =>
    intro i n w hi
    exact h.history i n w (hm.of_watch hi).1
  case unseen =>
    intro c hnone
    rw [hflight] at hnone
    rw [stopped, hnone, h.unseen c hnone]
    rfl
  case order =>
    intro c f hf
    rw [hflight] at hf
    rw [hm.next]
    exact h.order c f hf
  case staying =>
    intro c f hf hstays
    rw [hflight] at hf
    rw [hstopped c f hf, Bool.or_eq_false_iff] at hstays
    obtain ⟨w, hw, hpid⟩ := h.staying c f hf hstays.1
    have hne : f.id ≠ id := by
      rintro rfl
      simp at hstays
    exact ⟨w, (hm.other f.id hne).trans hw, hpid⟩
  case gone =>
    intro c f hf hgone n w hi
    rw [hflight] at hf
    -- a watch that is still there is of another session than the one that was ended
    obtain ⟨hold, hne⟩ := hm.of_watch hi
    rw [hstopped c f hf, Bool.or_eq_true, beq_iff_eq] at hgone
    exact h.gone c f hf (hgone.resolve_right (Ne.symm hne)) n w hold
  case own => exact h.own

-- ===================================================== commits

/-- A change is its detection's own exactly if the session was not stopped on the way. -/
theorem isOwn_iff (h : Accounted m log) {call : Nat} {r : Request} {id : String} {t : Transition}
    {n : Nat} {w : Watch} {f : Flight} (hf : flight call log = some f) (hbears : f.Bears r id)
    (hwatch : m.watch? id = some (n, w)) :
    (Commit.mk id n w.pid t f.began f.pid r.worker? (stopped call log)).IsOwn
      ↔ stopped call log = false := by
  obtain ⟨hseen, hfirst, -⟩ := h.order call f hf
  constructor
  · rintro ⟨hbegan, -, hworker⟩
    dsimp only at hbegan hworker
    cases hstopped : stopped call log with
    | false => rfl
    | true =>
        -- the watch began after the first look, which is the last one or saw a worker's own
        have hnew := h.gone call f hf hstopped n w (by rw [hbears.same, hwatch])
        cases hr : r.worker? with
        | none =>
            have := hbears.asked hr
            omega
        | some number =>
            have hmade := hbears.worker number hr
            have hsame := hworker number hr
            omega
  · intro hstays
    obtain ⟨w₀, hw₀, hpid⟩ := h.staying call f hf hstays
    rw [hbears.same, hwatch] at hw₀
    cases hw₀
    refine ⟨Nat.lt_of_lt_of_le hseen hfirst, hpid.symm, ?_⟩
    intro number hnumber
    exact (hbears.worker number hnumber).symm

/-- A change that a call commits is in the log as one of the watch that stands. -/
theorem commits_record {call : Nat} {r : Request} {id trigger : String} {a : Activity}
    {t : Transition} {n : Nat} {w : Watch} {f : Flight} (hf : flight call log = some f)
    (hwatch : m.watch? id = some (n, w)) (now : Stamp) :
    commits (⟨call, r, .record id a trigger, .ok (some t), now, m⟩ :: log)
      = ⟨id, n, w.pid, t, f.began, f.pid, r.worker?, stopped call log⟩ :: commits log := by
  simp only [commits, Move.commit?, hf, hwatch]
  rfl

/-- A commit that rests on what the call has seen is accounted for. -/
theorem Accounted.commit (h : Accounted m log) {call : Nat} {r : Request} {id trigger : String}
    {a : Activity} {t : Transition} {n : Nat} {w : Watch} {f : Flight}
    (hf : flight call log = some f) (hbears : f.Bears r id) (hm : Took m id t n w m')
    (now : Stamp) :
    Accounted m' (⟨call, r, .record id a trigger, .ok (some t), now, m⟩ :: log) := by
  have hcommits : commits (⟨call, r, .record id a trigger, .ok (some t), now, m⟩ :: log)
      = ⟨id, n, w.pid, t, f.began, f.pid, r.worker?, stopped call log⟩ :: commits log :=
    commits_record hf hm.before now
  have hflight (c : Nat) : flight c (⟨call, r, .record id a trigger, .ok (some t), now, m⟩ :: log)
      = flight c log := flight_cons (fun _ => rfl) c
  have hstopped (c : Nat) : stopped c (⟨call, r, .record id a trigger, .ok (some t), now, m⟩ :: log)
      = stopped c log := stopped_cons (fun _ => rfl) c
  constructor
  case given =>
    intro i n' w' hi
    rw [hm.next]
    rcases hm.watch_cases hi with ⟨hold, -⟩ | ⟨rfl, rfl, -⟩
    · exact h.given i n' w' hold
    · exact h.given i n' w hm.before
  case past =>
    intro c hc
    rw [hm.next]
    rw [hcommits] at hc
    rcases List.mem_cons.1 hc with rfl | hold
    · exact h.given id n w hm.before
    · exact h.past c hold
  case history =>
    intro i n' w' hi
    rw [changes, hcommits]
    rcases hm.watch_cases hi with ⟨hold, hne⟩ | ⟨rfl, rfl, rfl⟩
    · -- the change belongs to one watch, and the history of every other one stays
      have hskip : (id == i && n == n') = false := by simp [Ne.symm hne]
      rw [List.filter_cons_of_neg (by simp [hskip])]
      exact h.history i n' w' hold
    · rw [List.filter_cons_of_pos (by simp), List.map_cons, List.reverse_cons]
      show Signal.lastOf Watch.maxHistory (w.history ++ [t]) = _
      rw [h.history i n' w hm.before, lastOf_lastOf_concat]
      rfl
  case unseen =>
    simpa only [hflight, hstopped] using h.unseen
  case order =>
    simpa only [hflight, hm.next] using h.order
  case staying =>
    intro c g hg hstays
    rw [hflight] at hg
    rw [hstopped] at hstays
    obtain ⟨w', hw', hpid⟩ := h.staying c g hg hstays
    by_cases hid : g.id = id
    · rw [hid, hm.before] at hw'
      cases hw'
      exact ⟨w.record t, hid ▸ hm.self, hpid⟩
    · exact ⟨w', (hm.other g.id hid).trans hw', hpid⟩
  case gone =>
    intro c g hg hgone n' w' hi
    rw [hflight] at hg
    rw [hstopped] at hgone
    rcases hm.watch_cases hi with ⟨hold, -⟩ | ⟨hid, rfl, -⟩
    · exact h.gone c g hg hgone n' w' hold
    · exact h.gone c g hg hgone n' w (hid ▸ hm.before)
  case own =>
    intro c hc
    rw [hcommits] at hc
    rcases List.mem_cons.1 hc with rfl | hold
    · exact isOwn_iff h hf hbears hm.before
    · exact h.own c hold

-- ===================================================== runs

/-- Every move keeps the account. -/
theorem Accounted.move (h : Accounted m log) {call : Nat} {r : Request} {x : Act η}
    (hallows : (flightRule r).allows (flight call log) x) (now : Stamp) (world : World) :
    Accounted (x.perform now world m).2
      (⟨call, r, x, (x.perform now world m).1, now, m⟩ :: log) := by
  have hsame : SameWatches m m := ⟨rfl, rfl⟩
  cases x with
  | look => exact h.look call r now
  | register id pid =>
      have hidle (y : Except Failure Nat) :
          Idle ⟨call, r, .register id pid, y, now, m⟩ log := ⟨fun _ => rfl, fun _ => rfl, rfl⟩
      rcases register_cases m now id pid with ⟨-, hbegan⟩ | hrefused
      · exact h.register hbegan (hidle _)
      · show Accounted (m.register now id pid).2
          (⟨_, _, .register id pid, (m.register now id pid).1, _, _⟩ :: log)
        rw [hrefused]
        exact h.idle hsame (hidle _)
  | deregister id =>
      show Accounted (m.deregister id).2 (⟨_, _, .deregister id, (m.deregister id).1, _, _⟩ :: log)
      rcases deregister_cases m id with ⟨hok, hended⟩ | hrefused
      · rw [hok]
        exact h.deregister hended call r now
      · rw [hrefused]
        exact h.idle hsame ⟨fun _ => rfl, fun _ => rfl, rfl⟩
  | record id a trigger =>
      obtain ⟨f, hf, hbears⟩ := hallows
      show Accounted (m.commit now id a trigger).2
        (⟨_, _, .record id a trigger, (m.commit now id a trigger).1, _, _⟩ :: log)
      rcases commit_cases m now id a trigger with ⟨t, n, w, hok, -, -, -, htook⟩ | ⟨hnone, hm⟩
      · rw [hok]
        exact h.commit hf hbears htook now
      · rw [hm]
        rcases houtcome : (m.commit now id a trigger).1 with f | _ | t
        · exact h.idle hsame ⟨fun _ => rfl, fun _ => rfl, rfl⟩
        · exact h.idle hsame ⟨fun _ => rfl, fun _ => rfl, rfl⟩
        · exact absurd houtcome (hnone t)
  -- no other act touches a watch
  | dismiss => exact h.idle hsame ⟨fun _ => rfl, fun _ => rfl, rfl⟩
  | resolvePid id => exact h.idle hsame ⟨fun _ => rfl, fun _ => rfl, rfl⟩
  | capture id => exact h.idle hsame ⟨fun _ => rfl, fun _ => rfl, rfl⟩
  | probe pid => exact h.idle hsame ⟨fun _ => rfl, fun _ => rfl, rfl⟩
  | launch id number => exact h.idle hsame ⟨fun _ => rfl, fun _ => rfl, rfl⟩
  | store id a time => exact h.idle hsame ⟨fun _ => rfl, fun _ => rfl, rfl⟩
  | enter => exact h.idle hsame ⟨fun _ => rfl, fun _ => rfl, rfl⟩
  | leave => exact h.idle hsame ⟨fun _ => rfl, fun _ => rfl, rfl⟩
  | call hook id source target => exact h.idle hsame ⟨fun _ => rfl, fun _ => rfl, rfl⟩
  | note level message => exact h.idle hsame ⟨fun _ => rfl, fun _ => rfl, rfl⟩

/-- That the account is true of what is under way, and all calls keep to the rule by which
it is kept. -/
structure Traffic.IsAccounted (s : Traffic η) : Prop where
  keeps : Traffic.Keeps flightRule none s
  account : Accounted s.monitor s.log

/-- Every event keeps the account. -/
theorem Traffic.IsAccounted.play {s : Traffic η} (h : s.IsAccounted) (site : Site η) (e : Event η) :
    (s.play site e).IsAccounted := by
  refine ⟨h.keeps.play (keeps_flightRule site) e, play_invariant h.account ?_ ?_ site e⟩
  · intro hook
    obtain ⟨given, past, history, unseen, order, staying, gone, own⟩ := h.account
    exact ⟨given, past, history, unseen, order, staying, gone, own⟩
  · intro call r x next now world hcall _
    exact h.account.move (h.keeps.calls _ _ _ hcall).1 now world

/-- A new monitor is accounted for. -/
theorem Traffic.isAccounted_new (table : List Signal.Row) (hooks : List η) :
    (Traffic.new table hooks).IsAccounted :=
  ⟨Traffic.keeps_new flightRule none table hooks, accounted_new table hooks⟩

/-- All that happens keeps the account. -/
theorem accounted (site : Site η) (table : List Signal.Row) (hooks : List η)
    (events : List (Event η)) :
    (Traffic.playAll site (Traffic.new table hooks) events).IsAccounted :=
  Traffic.playAll_induction (Traffic.isAccounted_new table hooks) (fun _ e h => h.play site e)
    events

/-- However calls are interleaved, the history of a watch is made of the changes that were
committed to it, and a process is asked about only as the call has seen it. A change comes
from a detection that began when its watch was there, went by the process of that watch,
and was not the work of another one's worker, exactly if the session was not stopped
between the first look of the call and the commit. -/
theorem commits_own_iff (site : Site η) (table : List Signal.Row) (hooks : List η)
    (events : List (Event η)) :
    let s := Traffic.playAll site (Traffic.new table hooks) events
    (∀ id n w, s.monitor.watch? id = some (n, w) →
        w.history = Signal.lastOf Watch.maxHistory (changes id n s.log))
      ∧ (∀ newer e older pid, s.log = newer ++ e :: older → e.act = .probe pid →
          ∃ f, flight e.call older = some f ∧ f.pid = pid)
      ∧ ∀ c ∈ commits s.log, c.IsOwn ↔ c.stopped = false := by
  intro s
  obtain ⟨hkeeps, h⟩ := accounted site table hooks events
  refine ⟨h.history, ?_, h.own⟩
  intro newer e older pid hlog hprobe
  have hallowed := hkeeps.allowed newer e older hlog
  rw [hprobe] at hallowed
  exact hallowed

-- ===================================================== a case

/-- A world in which a session has a process that sleeps, and no output can be had. -/
def sleeping (pid : Int) : World where
  pid := .ok pid
  output := .error (.noPanes "a")
  code := .ok "S"
  stored := .ok ()
  called := .ok ()

/-- A session is stopped and started again while a detection waits for the world. -/
def crossing : List (Event Unit) :=
  let go (call : Nat) (pid : Int) : Event Unit :=
    .move call (Stamp.midnight ⟨2024, 6, 15⟩) (sleeping pid)
  [.make (.start "a"), go 0 10, go 0 10, go 0 10,
   .make (.detect "a"), go 1 10,
   .make (.stop "a"), go 2 10,
   .make (.start "a"), go 3 20, go 3 20, go 3 20,
   go 1 20, go 1 20, go 1 20]

/-- What was under way afterwards. -/
def crossed : Traffic Unit :=
  Traffic.playAll ⟨false, fun _ => ""⟩ (Traffic.new Signal.defaultTable []) crossing

private theorem commits_crossed :
    commits crossed.log = [⟨"a", 1, 20, ⟨.unknown, .idle, Stamp.midnight ⟨2024, 6, 15⟩,
      Reach.demandTrigger⟩, 1, 10, none, true⟩] := by decide +kernel

/-- The detection of the first watch, which went by its process, is in the history of the
second. -/
theorem crossed_not_own :
    (∃ c ∈ commits crossed.log, ¬c.IsOwn)
      ∧ (crossed.monitor.watch? "a").map (fun (n, w) => (n, w.pid, w.history))
        = some (1, 20, [⟨.unknown, .idle, Stamp.midnight ⟨2024, 6, 15⟩, Reach.demandTrigger⟩]) := by
  refine ⟨⟨_, by rw [commits_crossed]; exact List.mem_singleton_self _, ?_⟩, by decide +kernel⟩
  rintro ⟨hbegan, -, -⟩
  exact Nat.lt_irrefl 1 hbegan

end PaneWatch.Monitor
