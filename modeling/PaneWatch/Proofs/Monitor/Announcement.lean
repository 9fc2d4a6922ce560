/-
Every change is announced once to every hook.

A log tells the changes that each call has committed and the hooks that it has called
(`changedBy`, `heardBy`). By the rule of `Notice` a call that has committed a change calls the
hooks for it in their order, and `Tells` says how far it has come. The hooks that were
there at the beginning are the first ones of every list that a call takes, since hooks are only
added. So a call that is done has called them all, once for each time that
they were added, unless a failure that nothing holds up has ended it (`Move.isBreach`): it has
called the first ones of them then. What all calls have done together is the sum of what each has
done (`coe_filterMap_eq_sum`).
-/
import Mathlib.Algebra.BigOperators.Group.Finset.Piecewise
import Mathlib.Algebra.Order.Group.Multiset
import PaneWatch.Proofs.Monitor.Changes
import PaneWatch.Proofs.Monitor.Notice

namespace PaneWatch.Monitor

open Time (Stamp)

variable {η β γ : Type}

-- ===================================================== reading the log

/-- What hooks are told: a session, and what it went from and to. -/
abbrev Notification := String × Activity × Activity

/-- What hooks are told of a change. -/
def told (c : String × Transition) : Notification := (c.1, c.2.source, c.2.target)

/-- The calls of some hooks about a change. -/
def announcements (hooks : List η) (c : String × Transition) : List (η × Notification) :=
  hooks.map fun hook => (hook, told c)

/-- The hook that a move calls, with what it is told. -/
def Move.heard? (e : Move η) : Option (η × Notification) :=
  match e.act with
  | .call hook id source target => some (hook, id, source, target)
  | _ => none

/-- What is read off the moves of a call, the first one first. -/
def readBy (f : Move η → Option β) (call : Nat) (log : List (Move η)) : List β :=
  ((log.filter (·.call == call)).filterMap f).reverse

/-- The changes that a call has committed. -/
def changedBy (call : Nat) (log : List (Move η)) : List (String × Transition) :=
  readBy Move.change? call log

/-- The hooks that a call has called, with what they were told. -/
def heardBy (call : Nat) (log : List (Move η)) : List (η × Notification) :=
  readBy Move.heard? call log

/-- What is told to a hook, if it is the one that is called. -/
def toHook [DecidableEq η] (hook : η) (c : η × Notification) : Option Notification :=
  if c.1 = hook then some c.2 else none

/-- What a move tells a hook. -/
def Move.tells? [DecidableEq η] (hook : η) (e : Move η) : Option Notification :=
  e.heard?.bind (toHook hook)

/-- What a hook was told, the last thing first. -/
def heard [DecidableEq η] (hook : η) (log : List (Move η)) : List Notification :=
  log.filterMap (·.tells? hook)

/-- How far a call is with its announcement. -/
def notice (call : Nat) (log : List (Move η)) : Notice η :=
  Traffic.observed noticeRule .silent call log

/-- A move adds what is read from it, if it is one of the call. -/
private theorem readBy_cons (f : Move η → Option β) (call : Nat) (e : Move η)
    (log : List (Move η)) :
    readBy f call (e :: log)
      = readBy f call log ++ if e.call = call then (f e).toList else [] := by
  unfold readBy
  by_cases hcall : e.call = call
  · rw [List.filter_cons_of_pos (by simpa using hcall), List.filterMap_cons, if_pos hcall]
    cases f e <;> simp
  · rw [List.filter_cons_of_neg (by simpa using hcall), if_neg hcall, List.append_nil]

/-- Reading in two steps is reading once and going through what was read. -/
private theorem readBy_bind (f : Move η → Option β) (g : β → Option γ) (call : Nat)
    (log : List (Move η)) :
    readBy (fun e => (f e).bind g) call log = (readBy f call log).filterMap g := by
  unfold readBy
  rw [← List.filterMap_filterMap, List.filterMap_reverse]

/-- What is read can be changed before it is listed or after that. -/
private theorem readBy_map (f : Move η → Option β) (g : β → γ) (call : Nat) (log : List (Move η)) :
    readBy (fun e => (f e).map g) call log = (readBy f call log).map g := by
  unfold readBy
  rw [← List.map_filterMap, List.map_reverse]

/-- What is read off a log is what is read off the moves of each call, taken together. -/
theorem coe_filterMap_eq_sum (f : Move η → Option β) {log : List (Move η)} {n : Nat}
    (h : ∀ e ∈ log, e.call < n) :
    (log.filterMap f : Multiset β) = ∑ call ∈ Finset.range n, (readBy f call log : Multiset β) := by
  induction log with
  | nil => exact (Finset.sum_const_zero).symm
  | cons e log ih =>
      have hlt : e.call ∈ Finset.range n := Finset.mem_range.2 (h e List.mem_cons_self)
      have hbefore := ih fun e' he' => h e' (List.mem_cons_of_mem e he')
      -- the move adds to one summand only, that of its own call
      have hnew (call : Nat) : (readBy f call (e :: log) : Multiset β)
          = readBy f call log + if e.call = call then ((f e).toList : Multiset β) else 0 := by
        rw [readBy_cons, ← Multiset.coe_add]
        split <;> rfl
      simp only [hnew]
      rw [Finset.sum_add_distrib, Finset.sum_ite_eq, if_pos hlt, ← hbefore, Multiset.coe_add,
        Multiset.coe_eq_coe, List.filterMap_cons]
      cases f e with
      | none => simp
      | some b => exact (List.perm_append_singleton b _).symm

-- ===================================================== how far a call has come

/-- What a call has committed and whom it has called by then, if some hooks were there at the
beginning and some are there now. -/
def Tells (first now : List η) : Notice η → List (String × Transition) →
    List (η × Notification) → Prop
  | .silent, changes, calls => changes = [] ∧ calls = []
  | .due id t, changes, calls | .storing id t, changes, calls => changes = [(id, t)] ∧ calls = []
  | .calling id t rest, changes, calls =>
    changes = [(id, t)] ∧ ∃ hooks, first <+: hooks ∧ hooks <+: now
      ∧ calls ++ announcements rest (id, t) = announcements hooks (id, t)
  | .left id t, changes, calls =>
    changes = [(id, t)] ∧ ∃ hooks, first <+: hooks ∧ hooks <+: now
      ∧ calls <+: announcements hooks (id, t)

variable {first now : List η} {g : Notice η} {changes : List (String × Transition)}
  {calls : List (η × Notification)}

/-- More hooks may be added. -/
theorem Tells.mono (h : Tells first now g changes calls) {later : List η} (hlater : now <+: later) :
    Tells first later g changes calls := by
  cases g with
  | calling id t rest =>
      obtain ⟨hchange, hooks, hfirst, hnow, hcalls⟩ := h
      exact ⟨hchange, hooks, hfirst, hnow.trans hlater, hcalls⟩
  | left id t =>
      obtain ⟨hchange, hooks, hfirst, hnow, hcalls⟩ := h
      exact ⟨hchange, hooks, hfirst, hnow.trans hlater, hcalls⟩
  | _ => exact h

/-- Nobody has been called by the time a change is stored, or that has failed. -/
private theorem Tells.store {id : String} {t : Transition}
    (h : Tells first now (.storing id t) changes calls) (hfirst : first <+: now) (i : String)
    (a : Activity) (time : Stamp) (stored : Except Failure Unit) :
    Tells first now (Notice.after (.storing id t) (.store i a time) stored) changes calls := by
  obtain ⟨rfl, rfl⟩ := h
  cases stored with
  | error f =>
      show Tells first now (if f.kind.isOwn then .storing id t else .left id t) _ _
      split
      · exact ⟨rfl, rfl⟩
      · exact ⟨rfl, now, hfirst, List.prefix_rfl, List.nil_prefix⟩
  | ok u => exact ⟨rfl, rfl⟩

/-- The next hook has been called, whether or not the call goes on to the one behind it. -/
private theorem Tells.call {id : String} {t : Transition} {hook : η} {rest : List η}
    (h : Tells first now (.calling id t (hook :: rest)) changes calls)
    (called : Except Failure Unit) :
    Tells first now
      (Notice.after (.calling id t (hook :: rest)) (.call hook id t.source t.target) called) changes
      (calls ++ [(hook, told (id, t))]) := by
  obtain ⟨rfl, hooks, hbegin, hnow, hcalls⟩ := h
  have hcalled : (calls ++ [(hook, told (id, t))]) ++ announcements rest (id, t)
      = announcements hooks (id, t) := by
    rw [← hcalls, List.append_assoc]
    rfl
  have hnext : Tells first now (.calling id t rest) [(id, t)] (calls ++ [(hook, told (id, t))]) :=
    ⟨rfl, hooks, hbegin, hnow, hcalled⟩
  cases called with
  | error f =>
      show Tells first now (if f.isHeld then .calling id t rest else .left id t) _ _
      split
      · exact hnext
      · refine ⟨rfl, hooks, hbegin, hnow, ?_⟩
        rw [← hcalled]
        exact List.prefix_append _ _
  | ok u => exact hnext

/-- Every act takes a call further on its way. -/
theorem Tells.move {m : Monitor η} (h : Tells first m.hooks g changes calls)
    (hfirst : first <+: m.hooks) {x : Act η} (hallows : g.allows x) (call : Nat) (r : Request)
    (now : Stamp) (world : World) :
    let e : Move η := ⟨call, r, x, (x.perform now world m).1, now, m⟩
    Tells first m.hooks (g.after x e.answer) (changes ++ e.change?.toList)
      (calls ++ e.heard?.toList) := by
  intro e
  have hstay (hchange : e.change? = none) (hheard : e.heard? = none)
      (hafter : g.after x e.answer = g) :
      Tells first m.hooks (g.after x e.answer) (changes ++ e.change?.toList)
        (calls ++ e.heard?.toList) := by
    rw [hchange, hheard, hafter, Option.toList_none, List.append_nil, Option.toList_none,
      List.append_nil]
    exact h
  -- only a commit adds to the changes and only a call of a hook to what was heard; the look before
  -- the calls settles which hooks are told
  cases g with
  | silent =>
      cases x with
      | record id a trigger =>
          obtain ⟨rfl, rfl⟩ := h
          show Tells first m.hooks
            (Notice.after .silent (.record id a trigger) (m.commit now id a trigger).1)
            (Move.mk call r (.record id a trigger)
              (m.commit now id a trigger).1 now m).change?.toList
            []
          rcases (m.commit now id a trigger).1 with f | _ | t <;> exact ⟨rfl, rfl⟩
      | call hook id source target => exact hallows.elim
      | _ => exact hstay rfl rfl rfl
  | due i t =>
      obtain ⟨rfl, rfl⟩ := h
      cases x with
      | enter => exact ⟨rfl, rfl⟩
      | look => exact ⟨rfl, m.hooks, hfirst, List.prefix_rfl, rfl⟩
      | note level message => exact ⟨rfl, rfl⟩
      | _ => exact hallows.elim
  | storing i t =>
      cases x with
      | look => exact hstay rfl rfl rfl
      | store id a time =>
          show Tells first m.hooks (Notice.after (.storing i t) (.store id a time) world.stored)
            (changes ++ []) (calls ++ [])
          rw [List.append_nil, List.append_nil]
          exact h.store hfirst id a time world.stored
      | leave =>
          obtain ⟨rfl, rfl⟩ := h
          exact ⟨rfl, rfl⟩
      | note level message => exact hstay rfl rfl rfl
      | _ => exact hallows.elim
  | left i t =>
      cases x with
      | note level message => exact hstay rfl rfl rfl
      | leave => exact hstay rfl rfl rfl
      | _ => exact hallows.elim
  | calling i t rest =>
      cases x with
      | note level message => exact hstay rfl rfl (by cases rest <;> rfl)
      | call hook id source target =>
          cases rest with
          | nil => exact hallows.elim
          | cons next rest =>
              obtain ⟨rfl, rfl, rfl, rfl⟩ := hallows
              show Tells first m.hooks (Notice.after (.calling id t (hook :: rest))
                (.call hook id t.source t.target) world.called) (changes ++ [])
                (calls ++ [(hook, told (id, t))])
              rw [List.append_nil]
              exact h.call world.called
      | _ => cases rest <;> exact hallows.elim

-- ===================================================== all calls

/-- That every call has told what it has committed, as far as it has come. -/
structure Announced (first : List η) (m : Monitor η) (log : List (Move η)) : Prop where
  grown : first <+: m.hooks
  tells : ∀ call, Tells first m.hooks (notice call log) (changedBy call log) (heardBy call log)

/-- Nothing was announced by a monitor that has done nothing. -/
private theorem announced_new (table : List Signal.Row) (hooks : List η) :
    Announced hooks { table, hooks } [] where
  grown := List.prefix_rfl
  tells _ := ⟨rfl, rfl⟩

/-- No act takes a hook away. -/
theorem hooks_perform (x : Act η) (now : Stamp) (world : World) (m : Monitor η) :
    (x.perform now world m).2.hooks = m.hooks := by
  cases x with
  | register id pid =>
      show (m.register now id pid).2.hooks = m.hooks
      unfold register
      split <;> rfl
  | deregister id =>
      show (m.deregister id).2.hooks = m.hooks
      unfold deregister
      split <;> rfl
  | record id a trigger =>
      show (m.commit now id a trigger).2.hooks = m.hooks
      unfold commit
      split
      · rfl
      · split <;> rfl
  | _ => rfl

variable {m : Monitor η} {log : List (Move η)}

/-- Quiet acts commit nothing and call no hook. -/
theorem readings_of_isQuiet {e : Move η} (h : e.act.IsQuiet) :
    e.change? = none ∧ e.heard? = none := by
  obtain ⟨call, r, x, y, now, m⟩ := e
  cases x with
  | record id a trigger => exact h.elim
  | call hook id source target => exact h.elim
  | _ => exact ⟨rfl, rfl⟩

/-- A move that the rule allows announces what has been changed, and nothing else. -/
theorem Announced.move (h : Announced first m log) {call : Nat} {r : Request} {x : Act η}
    (hallows : (noticeRule r).allows (notice call log) x) (now : Stamp) (world : World) :
    Announced first (x.perform now world m).2
      (⟨call, r, x, (x.perform now world m).1, now, m⟩ :: log) where
  grown := by
    rw [hooks_perform]
    exact h.grown
  tells := by
    intro other
    rw [hooks_perform, changedBy, heardBy, readBy_cons, readBy_cons]
    by_cases hcall : call = other
    · subst hcall
      rw [if_pos rfl, if_pos rfl, notice, Traffic.observed, if_pos rfl]
      show Tells first m.hooks
        ((noticeRule r).after (notice call log) x (x.perform now world m).1) _ _
      unfold noticeRule at hallows ⊢
      split at hallows
      · next hdetects =>
        rw [if_pos hdetects]
        exact (h.tells call).move h.grown hallows call r now world
      · next hdetects =>
        rw [if_neg hdetects]
        obtain ⟨hchange, hheard⟩ := readings_of_isQuiet
          (e := ⟨call, r, x, (x.perform now world m).1, now, m⟩) hallows
        rw [hchange, hheard, Option.toList_none, List.append_nil, Option.toList_none,
          List.append_nil]
        exact h.tells call
    · -- all other calls are as far as they were
      rw [if_neg hcall, if_neg hcall, List.append_nil, List.append_nil, notice, Traffic.observed,
        if_neg hcall]
      exact h.tells other

-- ===================================================== everything under way

/-- Whether a task is done. -/
def Task.isDone {α : Type} : Task η α → Bool
  | done _ => true
  | act .. => false

namespace Traffic

/-- Whether a detection is under way. -/
def isDetecting (s : Traffic η) : Bool := s.calls.any fun e => e.1.detects && !e.2.isDone

/-- That everything under way goes by the rule, and has told what it has committed. -/
structure IsAnnounced (first : List η) (s : Traffic η) : Prop where
  keeps : Keeps noticeRule .silent s
  called : s.IsCalled
  announced : Announced first s.monitor s.log

private theorem isAnnounced_new (table : List Signal.Row) (hooks : List η) :
    IsAnnounced hooks (new table hooks) :=
  ⟨keeps_new noticeRule .silent table hooks, isCalled_new table hooks, announced_new table hooks⟩

/-- Every event leaves the announcements in step with the changes. -/
theorem IsAnnounced.play {s : Traffic η} (h : IsAnnounced first s) (site : Site η) (e : Event η) :
    IsAnnounced first (s.play site e) := by
  refine ⟨h.keeps.play (keeps_noticeRule site) e, h.called.play site e,
    play_invariant h.announced ?_ ?_ site e⟩
  · intro hook
    have hgrown : s.monitor.hooks <+: s.monitor.hooks ++ [hook] := List.prefix_append _ _
    exact ⟨h.announced.grown.trans hgrown, fun call => (h.announced.tells call).mono hgrown⟩
  · intro call r x next now world hcall _
    exact h.announced.move (h.keeps.calls _ _ _ hcall).1 now world

/-- A call that has left its way was answered a failure that nothing holds up. -/
theorem exists_isBreach {s : Traffic η} {call : Nat} (hleft : (notice call s.log).isLeft) :
    ∃ e ∈ s.log, e.call = call ∧ e.isBreach := by
  obtain ⟨newer, e, older, hlog, hcall, hbefore, hafter⟩ :=
    exists_move_of_observed (P := fun g : Notice η => g.isLeft) hleft not_false
  refine ⟨e, by rw [hlog]; simp, hcall, ?_⟩
  -- it has left in a move, and only such an answer makes it leave
  unfold noticeRule at hafter
  split at hafter
  · exact Notice.isBreach_of_after hbefore hafter
  · exact absurd hafter hbefore

/-- Where no detection is under way, a call has nothing left to announce, unless it was answered a
failure that nothing holds up. -/
theorem IsAnnounced.isOver {s : Traffic η} (h : IsAnnounced first s) (hidle : s.isDetecting = false)
    {call : Nat} (hheld : ∀ e ∈ s.log, e.call = call → e.isBreach = false) :
    (notice call s.log).isOver := by
  rcases hcall : s.calls[call]? with _ | ⟨r, t⟩
  · have hnone : notice call s.log = .silent := by
      refine observed_of_notMem ?_
      rintro e he rfl
      have hmade := h.keeps.made e he
      rw [List.getElem?_eq_none_iff] at hcall
      omega
    rw [hnone]
    trivial
  · by_cases hdetects : r.detects
    · have hmem : (r, t) ∈ s.calls := List.mem_of_getElem? hcall
      have hdone := List.any_eq_false.1 hidle (r, t) hmem
      cases t with
      | act x next => exact absurd (Bool.and_eq_true_iff.2 ⟨hdetects, rfl⟩) hdone
      | done a =>
          have hends := h.keeps.ends_of_done hcall
          rw [noticeRule, if_pos hdetects] at hends
          rcases hends with hover | hleft
          · exact hover
          · obtain ⟨e, he, hown, hbreach⟩ := exists_isBreach hleft
            rw [hheld e he hown] at hbreach
            cases hbreach
    · have hsilent : notice call s.log = .silent := by
        refine observed_eq_start ?_
        rintro e he rfl g
        obtain ⟨t', hmade⟩ := h.called e he
        rw [hcall] at hmade
        cases hmade
        rw [noticeRule, if_neg hdetects]
        rfl
      rw [hsilent]
      trivial

end Traffic

/-- What is added to the hooks in an event. -/
def Event.added? : Event η → Option η
  | addHook hook => some hook
  | _ => none

/-- The hooks are those of the beginning and those that were added, in their order. -/
private theorem hooks_playAll (site : Site η) (s : Traffic η) (events : List (Event η)) :
    (s.playAll site events).monitor.hooks = s.monitor.hooks ++ events.filterMap Event.added? := by
  induction events generalizing s with
  | nil => exact (List.append_nil _).symm
  | cons e events ih =>
      refine (ih (s.play site e)).trans ?_
      cases e with
      | make r => rfl
      | addHook hook => exact List.append_assoc _ _ _
      | move call now world =>
          have hsame : (s.play site (.move call now world)).monitor.hooks = s.monitor.hooks := by
            rcases Traffic.play_move_cases site s call now world with
              hidle | ⟨r, x, next, -, -, hplay⟩
            · rw [hidle]
            · rw [hplay]
              exact hooks_perform x now world s.monitor
          rw [hsame]
          rfl

-- ===================================================== once for each hook

/-- What a call has told of its change: the hooks that it took, in order, as far as it has come. -/
theorem Tells.sound (h : Tells first now g changes calls) (hfirst : first <+: now) :
    ∃ hooks, first <+: hooks ∧ hooks <+: now
      ∧ calls <+: changes.flatMap (announcements hooks)
      ∧ (g.isOver → calls = changes.flatMap (announcements hooks)) := by
  cases g with
  | silent =>
      obtain ⟨rfl, rfl⟩ := h
      exact ⟨now, hfirst, List.prefix_rfl, List.prefix_rfl, fun _ => rfl⟩
  | due id t =>
      obtain ⟨rfl, rfl⟩ := h
      exact ⟨now, hfirst, List.prefix_rfl, List.nil_prefix, fun hover => hover.elim⟩
  | storing id t =>
      obtain ⟨rfl, rfl⟩ := h
      exact ⟨now, hfirst, List.prefix_rfl, List.nil_prefix, fun hover => hover.elim⟩
  | left id t =>
      obtain ⟨rfl, hooks, hbegin, hnow, hcalls⟩ := h
      refine ⟨hooks, hbegin, hnow, ?_, fun hover => hover.elim⟩
      rwa [List.flatMap_singleton]
  | calling id t rest =>
      obtain ⟨rfl, hooks, hbegin, hnow, hcalls⟩ := h
      refine ⟨hooks, hbegin, hnow, ?_, ?_⟩
      · rw [List.flatMap_singleton, ← hcalls]
        exact List.prefix_append _ _
      · intro hover
        cases rest with
        | nil =>
            rw [List.flatMap_singleton, ← hcalls]
            exact (List.append_nil _).symm
        | cons next rest => exact hover.elim

/-- No hook is there more often that is not added. -/
theorem count_hooks_playAll [DecidableEq η] (site : Site η) (s : Traffic η)
    {events : List (Event η)} {hook : η} (hnew : ∀ e ∈ events, e ≠ .addHook hook) :
    (s.playAll site events).monitor.hooks.count hook = s.monitor.hooks.count hook := by
  have hnone : hook ∉ events.filterMap Event.added? := by
    intro hmem
    obtain ⟨e, he, hadded⟩ := List.mem_filterMap.1 hmem
    cases e with
    | addHook other =>
        cases hadded
        exact hnew _ he rfl
    | _ => cases hadded
  rw [hooks_playAll, List.count_append, List.count_eq_zero.2 hnone, Nat.add_zero]

variable [DecidableEq η]

/-- A hook is told of a change as often as it is among the hooks. -/
theorem filterMap_toHook (hook : η) (hooks : List η) (c : String × Transition) :
    (announcements hooks c).filterMap (toHook hook)
      = List.replicate (hooks.count hook) (told c) := by
  induction hooks with
  | nil => rfl
  | cons next hooks ih =>
      rw [announcements, List.map_cons, List.filterMap_cons]
      by_cases hsame : next = hook
      · subst hsame
        rw [toHook, if_pos rfl, List.count_cons_self, List.replicate_succ, ← ih]
        rfl
      · rw [toHook, if_neg hsame, List.count_cons_of_ne hsame, ← ih]
        rfl

/-- A hook hears of each change as often as it is registered. -/
private theorem coe_filterMap_toHook (hook : η) (hooks : List η)
    (changes : List (String × Transition)) :
    ((changes.flatMap (announcements hooks)).filterMap (toHook hook)
        : Multiset Notification)
      = hooks.count hook • (changes.map told : Multiset Notification) := by
  induction changes with
  | nil => exact (nsmul_zero _).symm
  | cons c changes ih =>
      rw [List.flatMap_cons, List.filterMap_append, ← Multiset.coe_add, ih, filterMap_toHook,
        List.map_cons, ← Multiset.cons_coe, ← Multiset.singleton_add, nsmul_add,
        Multiset.nsmul_singleton, Multiset.coe_replicate]

/-- Where no detection is under way and none was ended by a failure that nothing holds up, a hook
that was there from the start has been told of all changes, as often as it is there. -/
theorem Traffic.IsAnnounced.coe_heard {s : Traffic η} (h : IsAnnounced first s)
    (hidle : s.isDetecting = false) (hheld : ∀ e ∈ s.log, e.isBreach = false) {hook : η}
    (hcount : s.monitor.hooks.count hook = first.count hook) :
    (heard hook s.log : Multiset Notification)
      = first.count hook • ((changed s.log).map told : Multiset Notification) := by
  have hcall (call : Nat) : (readBy (·.tells? hook) call s.log : Multiset Notification)
      = first.count hook • ((changedBy call s.log).map told : Multiset Notification) := by
    obtain ⟨hooks, hfirst, hnow, -, hall⟩ := (h.announced.tells call).sound h.announced.grown
    -- what the call took lies between the hooks at the start and those that are there now
    have hhooks : hooks.count hook = first.count hook :=
      Nat.le_antisymm (hcount ▸ hnow.sublist.count_le hook) (hfirst.sublist.count_le hook)
    have hheard : readBy Move.heard? call s.log = _ :=
      hall (h.isOver hidle fun e he _ => hheld e he)
    show (readBy (fun e => e.heard?.bind (toHook hook)) call s.log : Multiset Notification) = _
    rw [readBy_bind, hheard, coe_filterMap_toHook, hhooks]
  have hchanged : ((changed s.log).map told : Multiset Notification)
      = ∑ call ∈ Finset.range s.calls.length,
          ((changedBy call s.log).map told : Multiset Notification) := by
    rw [changed, List.map_filterMap, coe_filterMap_eq_sum _ h.keeps.made]
    exact Finset.sum_congr rfl fun call _ => congrArg _ (readBy_map Move.change? told call s.log)
  rw [heard, coe_filterMap_eq_sum _ h.keeps.made, hchanged, ← Finset.sum_nsmul]
  exact Finset.sum_congr rfl fun call _ => hcall call

/-- A session is watched and found idle. Nothing can be stored and hooks fail, and the first one
has the session looked at once more, which is busy by now, before the second one is called. -/
def nesting : List (Event Nat) :=
  let go (call count : Nat) (code : String) : List (Event Nat) :=
    List.replicate count (.move call (Stamp.midnight ⟨2024, 6, 15⟩)
      { sleeping 10 with
        code := .ok code, stored := .error (.unwritableFile "s" ""), called := .error .notCreated })
  .make (.start "a") :: go 0 5 "S"
    ++ .make (.detect "a") :: go 1 12 "S"
    ++ .make (.detect "a") :: go 2 15 "R" ++ go 1 3 "S"

/-- What was under way afterwards. -/
def nested : Traffic Nat :=
  Traffic.playAll ⟨true, fun _ => ""⟩ (Traffic.new Signal.defaultTable [1, 2]) nesting

end PaneWatch.Monitor
