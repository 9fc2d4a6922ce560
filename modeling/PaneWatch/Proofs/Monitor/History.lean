/-
The history of a watch.

Each change that a watch takes starts from its current activity, goes to another one, and is made
at the time of the commit. So all changes that it has taken form a chain without gaps that began
with nothing known, and the watch stands where the last one has led (`Chained`). What it keeps is
the end of this chain.

The invariant is `Recorded`: every change is dated by the move that committed it, and as long as the
clock has not gone back in the log, the changes of every watch are chained. A watch that begins has
taken none, since no change can have gone to a number that was not given out.
-/
import Mathlib.Data.List.Chain
import PaneWatch.Proofs.Monitor.Changes

namespace PaneWatch.Monitor

open Time (Stamp)

variable {η : Type}

-- ===================================================== chains of changes

/-- That some changes, the first one first, lead without a gap from a watch that knows nothing to
one as it is. -/
structure Chained (ts : List Transition) (w : Watch) : Prop where
  moves : ∀ t ∈ ts, t.source ≠ t.target
  links : ts.IsChain fun t u => t.target = u.source
  times : ts.Pairwise fun t u => u.time.before t.time = false
  first : ∀ t, ts.head? = some t → t.source = .unknown
  last : ∀ t, ts.getLast? = some t → w.current = t.target ∧ w.lastChange = t.time
  fresh : ts = [] → w.current = .unknown

private theorem chained_nil {w : Watch} (h : w.current = .unknown) : Chained [] w where
  moves := by simp
  links := .nil
  times := .nil
  first := by simp
  last := by simp
  fresh _ := h

/-- One more change from where the watch stands. -/
theorem Chained.record {ts : List Transition} {w : Watch} (h : Chained ts w) {t : Transition}
    (hsource : t.source = w.current) (hmoves : t.source ≠ t.target)
    (hlater : ∀ u ∈ ts, t.time.before u.time = false) : Chained (ts ++ [t]) (w.record t) where
  moves := by
    intro u hu
    rcases List.mem_append.1 hu with hold | hnew
    · exact h.moves u hold
    · rw [List.mem_singleton.1 hnew]
      exact hmoves
  links := by
    refine List.isChain_append.2 ⟨h.links, .singleton t, ?_⟩
    intro u hu v hv
    cases hv
    rw [hsource]
    exact (h.last u hu).1.symm
  times := by
    refine List.pairwise_append.2 ⟨h.times, List.pairwise_singleton _ _, ?_⟩
    intro u hu v hv
    rw [List.mem_singleton.1 hv]
    exact hlater u hu
  first := by
    intro u hu
    cases ts with
    | nil =>
        cases hu
        rw [hsource]
        exact h.fresh rfl
    | cons v ts => exact h.first u hu
  last := by
    intro u hu
    rw [List.getLast?_concat] at hu
    cases hu
    exact ⟨rfl, rfl⟩
  fresh hnil := absurd hnil (by simp)

-- ===================================================== clocks

/-- That the clock never went back, as far as a log tells. -/
def Clocked (log : List (Move η)) : Prop :=
  log.Pairwise fun newer older => newer.now.before older.now = false

/-- What the clock shows at an event, if a call does something in it. -/
def Event.now? : Event η → Option Stamp
  | move _ now _ => some now
  | _ => none

/-- Every move of a log is one of an event. -/
theorem times_playAll (site : Site η) (s : Traffic η) (events : List (Event η)) :
    ((s.playAll site events).log.map (·.now)).reverse.Sublist
      ((s.log.map (·.now)).reverse ++ events.filterMap Event.now?) := by
  induction events generalizing s with
  | nil =>
      rw [List.filterMap_nil, List.append_nil]
      exact List.Sublist.refl _
  | cons e events ih =>
      refine (ih (s.play site e)).trans ?_
      cases e with
      | make r => exact List.Sublist.refl _
      | addHook hook => exact List.Sublist.refl _
      | move call now world =>
          show List.Sublist _ (_ ++ now :: events.filterMap Event.now?)
          rcases Traffic.play_move_cases site s call now world with
            hidle | ⟨r, x, next, -, -, hplay⟩
          · rw [hidle]
            exact (List.Sublist.refl _).append (List.sublist_cons_self _ _)
          · rw [hplay]
            show ((now :: s.log.map (·.now)).reverse ++ _).Sublist _
            rw [List.reverse_cons, List.append_assoc]
            exact List.Sublist.refl _

private theorem clocked_playAll (site : Site η) (table : List Signal.Row) (hooks : List η)
    {events : List (Event η)}
    (h : (events.filterMap Event.now?).Pairwise fun t u => u.before t = false) :
    Clocked (Traffic.playAll site (Traffic.new table hooks) events).log := by
  have htimes := h.sublist (times_playAll site (Traffic.new table hooks) events)
  rw [List.pairwise_reverse, List.pairwise_map] at htimes
  exact htimes

-- ===================================================== the invariant

/-- That all changes are dated by their moves, and those of each watch are chained. -/
structure Recorded (m : Monitor η) (log : List (Move η)) : Prop where
  dated : ∀ e ∈ log, ∀ id t, e.change? = some (id, t) → t.time = e.now
  chained : Clocked log → ∀ id n w, m.watch? id = some (n, w) → Chained (taken id n log) w

variable {m m' : Monitor η} {log : List (Move η)}

/-- What a watch has taken was committed by some move. -/
theorem exists_move_of_mem_taken {id : String} {n : Nat} {t : Transition}
    (h : t ∈ taken id n log) : ∃ e ∈ log, e.change? = some (id, t) := by
  obtain ⟨e, he, hchange⟩ := List.mem_filterMap.1 (List.mem_reverse.1 h)
  refine ⟨e, he, ?_⟩
  unfold Move.changeOf? at hchange
  split at hchange
  · next i u heq =>
    split at hchange
    · next hcond =>
      cases hchange
      rw [heq, hcond.1]
    · cases hchange
  · cases hchange

/-- A watch that has just begun has taken no change. -/
theorem taken_fresh (haccount : Accounted m log) (htells : TellsAll log) (id : String) :
    taken id m.nextNumber log = [] := by
  rw [htells, changes, List.reverse_eq_nil_iff, List.map_eq_nil_iff, List.filter_eq_nil_iff]
  intro c hc
  have hpast := haccount.past c hc
  simp only [Bool.and_eq_true, beq_iff_eq, not_and]
  omega

/-- A move that commits nothing and leaves every watch as it is, or ends it, changes nothing. -/
theorem Recorded.idle (h : Recorded m log) {e : Move η} (he : e.change? = none)
    (hm : ∀ id n w, m'.watch? id = some (n, w) → m.watch? id = some (n, w)) :
    Recorded m' (e :: log) where
  dated := by
    intro e' he' id t hchange
    rcases List.mem_cons.1 he' with rfl | hold
    · rw [he] at hchange
      cases hchange
    · exact h.dated e' hold id t hchange
  chained := by
    intro hclock id n w hw
    rw [taken_cons (changeOf?_eq_none he)]
    exact h.chained hclock.of_cons id n w (hm id n w hw)

/-- As a watch begins the changes of each are still chained. -/
theorem Recorded.register (h : Recorded m log) (haccount : Accounted m log)
    (htells : TellsAll log) {id : String} {pid : Int} {now : Stamp} (hm : Began m now id pid m')
    {e : Move η} (he : e.change? = none) : Recorded m' (e :: log) where
  dated := (h.idle he fun _ _ _ hw => hw).dated
  chained := by
    intro hclock i n w hw
    rw [taken_cons (changeOf?_eq_none he)]
    rcases hm.watch_cases hw with ⟨hold, -⟩ | ⟨-, rfl, rfl⟩
    · exact h.chained hclock.of_cons i n w hold
    · rw [taken_fresh haccount htells]
      exact chained_nil rfl

/-- A change is chained to those that its watch has taken before. -/
theorem Recorded.commit (h : Recorded m log) {id trigger : String} {a : Activity} {t : Transition}
    {n : Nat} {w : Watch} {now : Stamp} (hm : Took m id t n w m') (hmoves : t.source ≠ t.target)
    (htime : t.time = now) (call : Nat) (r : Request) :
    Recorded m' (⟨call, r, .record id a trigger, .ok (some t), now, m⟩ :: log) where
  dated := by
    intro e he i u hchange
    rcases List.mem_cons.1 he with rfl | hold
    · cases hchange
      exact htime
    · exact h.dated e hold i u hchange
  chained := by
    intro hclock i k w' hw'
    obtain ⟨hnow, hbefore⟩ := List.pairwise_cons.1 hclock
    rcases hm.watch_cases hw' with ⟨hold, hne⟩ | ⟨rfl, rfl, rfl⟩
    · rw [taken_record_ne hm.before fun hsame => hne hsame.1.symm]
      exact h.chained hbefore i k w' hold
    · rw [taken_record_self hm.before]
      refine (h.chained hbefore i k w hm.before).record hm.source hmoves ?_
      -- what was taken before was dated by an earlier move
      intro u hu
      obtain ⟨e, he, hchange⟩ := exists_move_of_mem_taken hu
      rw [htime, h.dated e he i u hchange]
      exact hnow e he

/-- Every move leaves the histories those of the changes. -/
theorem Recorded.move (h : Recorded m log) (haccount : Accounted m log) (htells : TellsAll log)
    (call : Nat) (r : Request) (x : Act η) (now : Stamp) (world : World) :
    Recorded (x.perform now world m).2
      (⟨call, r, x, (x.perform now world m).1, now, m⟩ :: log) := by
  cases x with
  | register id pid =>
      show Recorded (m.register now id pid).2 _
      rcases register_cases m now id pid with ⟨-, hbegan⟩ | hrefused
      · exact h.register haccount htells hbegan rfl
      · rw [hrefused]
        exact h.idle rfl fun _ _ _ hw => hw
  | deregister id =>
      show Recorded (m.deregister id).2 _
      rcases deregister_cases m id with ⟨-, hended⟩ | hrefused
      · exact h.idle rfl fun i n w hw => (hended.of_watch hw).1
      · rw [hrefused]
        exact h.idle rfl fun _ _ _ hw => hw
  | record id a trigger =>
      show Recorded (m.commit now id a trigger).2
        (⟨_, _, .record id a trigger, (m.commit now id a trigger).1, _, _⟩ :: log)
      rcases commit_cases m now id a trigger with
        ⟨t, n, w, hok, htarget, hmoves, htime, htook⟩ | ⟨hnone, hm⟩
      · rw [hok]
        exact h.commit htook (by rwa [htarget]) htime call r
      · rw [hm]
        exact h.idle (change?_record_eq_none hnone) fun _ _ _ hw => hw
  | dismiss => exact h.idle rfl fun _ _ _ hw => hw
  | look => exact h.idle rfl fun _ _ _ hw => hw
  | resolvePid id => exact h.idle rfl fun _ _ _ hw => hw
  | capture id => exact h.idle rfl fun _ _ _ hw => hw
  | probe pid => exact h.idle rfl fun _ _ _ hw => hw
  | launch id number => exact h.idle rfl fun _ _ _ hw => hw
  | store id a time => exact h.idle rfl fun _ _ _ hw => hw
  | enter => exact h.idle rfl fun _ _ _ hw => hw
  | leave => exact h.idle rfl fun _ _ _ hw => hw
  | call hook id source target => exact h.idle rfl fun _ _ _ hw => hw
  | note level message => exact h.idle rfl fun _ _ _ hw => hw

-- ===================================================== runs

private theorem recorded_new (table : List Signal.Row) (hooks : List η) :
    Recorded { table, hooks } ([] : List (Move η)) where
  dated := by simp
  chained _ _ _ _ hw := nomatch hw

/-- Whatever happens is recorded. -/
theorem recorded (site : Site η) (table : List Signal.Row) (hooks : List η)
    (events : List (Event η)) :
    Recorded (Traffic.playAll site (Traffic.new table hooks) events).monitor
      (Traffic.playAll site (Traffic.new table hooks) events).log := by
  refine (Traffic.playAll_induction
    (P := fun s => (s.IsAccounted ∧ TellsAll s.log) ∧ Recorded s.monitor s.log)
    ⟨⟨Traffic.isAccounted_new table hooks, fun _ _ => rfl⟩, recorded_new table hooks⟩ ?_ events).2
  rintro s e ⟨⟨haccount, htells⟩, h⟩
  refine ⟨⟨haccount.play site e, haccount.tellsAll_play site e htells⟩, ?_⟩
  refine Traffic.play_invariant h (fun _ => ⟨h.dated, h.chained⟩) ?_ site e
  intro call r x next now world _ _
  exact h.move haccount.account htells call r x now world

/-- However calls are interleaved, with a clock that does not go back: the history of a watch that
stands is the last hundred of the changes that it has taken, as many as there are. No change
leads to where it came from, each comes from where the one before has led, and none is dated earlier
than the one before. The watch stands where the last one has led, since the time of that
one. The first of the history came from nothing known if no change was dropped, and a watch
without a history knows nothing. -/
theorem history_chained (site : Site η) (table : List Signal.Row) (hooks : List η)
    {events : List (Event η)}
    (hclock : (events.filterMap Event.now?).Pairwise fun t u => u.before t = false) :
    let s := Traffic.playAll site (Traffic.new table hooks) events
    ∀ id n w, s.monitor.watch? id = some (n, w) →
      w.history = (taken id n s.log).drop ((taken id n s.log).length - 100)
        ∧ (∀ t ∈ w.history, t.source ≠ t.target)
        ∧ (w.history.IsChain fun t u => t.target = u.source)
        ∧ (w.history.Pairwise fun t u => u.time.before t.time = false)
        ∧ (∀ t, w.history.getLast? = some t → w.current = t.target ∧ w.lastChange = t.time)
        ∧ ((taken id n s.log).length < 101 →
            ∀ t, w.history.head? = some t → t.source = .unknown)
        ∧ (w.history = [] → w.current = .unknown) := by
  intro s id n w hw
  have h := (recorded site table hooks events).chained (clocked_playAll site table hooks hclock)
    id n w hw
  have hhistory : w.history = (taken id n s.log).drop ((taken id n s.log).length - 100) := by
    rw [(accounted site table hooks events).account.history id n w hw,
      ← tellsAll site table hooks events id n]
    rfl
  change Chained (taken id n s.log) w at h
  generalize taken id n s.log = ts at h hhistory
  refine ⟨hhistory, ?_, ?_, ?_, ?_, ?_, ?_⟩
  · rw [hhistory]
    exact fun t ht => h.moves t (List.mem_of_mem_drop ht)
  · rw [hhistory]
    exact h.links.drop _
  · rw [hhistory]
    exact h.times.drop
  · intro t ht
    rw [hhistory, List.getLast?_drop] at ht
    split at ht
    · cases ht
    · exact h.last t ht
  · intro hfew t ht
    rw [hhistory, Nat.sub_eq_zero_of_le (by omega), List.drop_zero] at ht
    exact h.first t ht
  · intro hnone
    rw [hhistory, List.drop_eq_nil_iff] at hnone
    exact h.fresh (List.length_eq_zero_iff.1 (by omega))

/-- A session is watched, found idle at midnight, and at noon found idle again and then busy. -/
def waking : List (Event Unit) :=
  let go (call count : Nat) (now : Stamp) (code : String) : List (Event Unit) :=
    List.replicate count (.move call now { sleeping 10 with code := .ok code })
  .make (.start "a") :: go 0 5 (Stamp.midnight ⟨2024, 6, 15⟩) "S"
    ++ .make (.detect "a") :: go 1 9 (Stamp.midnight ⟨2024, 6, 15⟩) "S"
    ++ .make (.detect "a") :: go 2 9 ⟨⟨2024, 6, 15⟩, 12, 0, 0, 0⟩ "S"
    ++ .make (.detect "a") :: go 3 9 ⟨⟨2024, 6, 15⟩, 12, 0, 0, 0⟩ "R"

theorem history_chained_waking : ∃ w,
    (Traffic.playAll ⟨true, fun _ => ""⟩ (Traffic.new Signal.defaultTable []) waking).monitor.watch?
        "a" = some (0, w)
      ∧ w.history.map (fun t => (t.source, t.target, t.time.hour))
        = [(.unknown, .idle, 0), (.idle, .busy, 12)]
      ∧ ∃ t, w.history.getLast? = some t ∧ w.current = t.target ∧ w.lastChange = t.time := by
  have hrun : ((Traffic.playAll ⟨true, fun _ => ""⟩ (Traffic.new Signal.defaultTable [])
      waking).monitor.watch? "a").any fun e => decide (e.1 = 0 ∧
        e.2.history.map (fun t => (t.source, t.target, t.time.hour))
          = [(.unknown, .idle, 0), (.idle, .busy, 12)]) := by decide +kernel
  obtain ⟨⟨n, w⟩, hw, hfound⟩ := (Option.any_eq_true _ _).1 hrun
  obtain ⟨rfl, hhistory⟩ := of_decide_eq_true hfound
  obtain ⟨-, -, -, -, hlast, -, -⟩ :=
    history_chained ⟨true, fun _ => ""⟩ Signal.defaultTable [] (by decide +kernel) "a" 0 w hw
  have hsome : w.history ≠ [] := by
    intro hnil
    rw [hnil] at hhistory
    cases hhistory
  exact ⟨w, hw, hhistory, w.history.getLast hsome, List.getLast?_eq_some_getLast hsome,
    hlast _ (List.getLast?_eq_some_getLast hsome)⟩

end PaneWatch.Monitor
