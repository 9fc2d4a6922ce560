/-
What becomes of starts.

A start that succeeds has begun one watch and started its worker, and one that fails has changed
nothing, unless what failed was to start the worker (`begins_of_done`). A thread can be started
once, and a system is taken to refuse only what was started before (`StartsOnce`). No worker is
started twice, so none is refused then (`StartsOnce.not_isStranded`).

Of the starts of one session that are under way together, one begins a watch and all others are
refused, if the session is vacant at first and is not stopped in between (`exists_winner`): the one
that registers first finds the session vacant, and the others find it watched, either when they
look or when they register.
-/
import PaneWatch.Proofs.Monitor.Retirement

namespace PaneWatch.Monitor

open Time (Stamp)

variable {η : Type}

-- ===================================================== what a start comes to

/-- That a call has made no worker and started none, and has left the monitor as it was in
each of its moves. -/
structure Untouched (log : List (Move η)) (call : Nat) : Prop where
  hires : (hires log).filter (·.call == call) = []
  launches : (launches log).filter (·.call == call) = []
  still : ∀ e ∈ log, e.call = call → ∀ world, (e.act.perform e.now world e.before).2 = e.before

/-- That a call has made one worker, of a session, and was to start that one only. -/
def Engages (log : List (Move η)) (call : Nat) (id : String) : Prop :=
  ∃ number, (hires log).filter (·.call == call) = [⟨call, id, number⟩]
    ∧ (launches log).filter (·.call == call) = [⟨call, id, number⟩]

/-- What an answer to a start of a session says. -/
def Begins (log : List (Move η)) (call : Nat) (id : String) : Except Failure Unit → Prop
  | .ok () => Engages log call id
  | .error _ => Untouched log call
    ∨ Engages log call id ∧ ∃ e ∈ log, e.call = call ∧ e.isStranded

/-- What is known of a system that starts workers: it fails to do so only with one that was to be
started before. -/
def StartsOnce (log : List (Move η)) : Prop :=
  ∀ newer e older, log = newer ++ e :: older → e.isStranded →
    ∃ hire, e.launch? = some hire ∧ hire.number ∈ (launches older).map (·.number)

/-- The acts of a start leave the monitor as it is unless they begin a watch. -/
theorem perform_of_start {e : Move η} {id : String} {g : Progress}
    (hallows : (entryRule (.start id)).allows g e.act)
    (hanswer : ∃ world, e.answer = (e.act.perform e.now world e.before).1)
    (hnone : e.hire? = none) (world : World) :
    (e.act.perform e.now world e.before).2 = e.before := by
  obtain ⟨call, r, x, y, now, before⟩ := e
  cases x with
  | register i pid =>
      obtain ⟨world', hy⟩ := hanswer
      have hregister : y = (before.register now i pid).1 := hy
      show (before.register now i pid).2 = before
      rcases register_hired before now i pid with ⟨hok, -⟩ | ⟨hrefused, -⟩
      · rw [hregister, hok] at hnone
        cases hnone
      · rw [hrefused]
  | deregister i => cases g <;> exact hallows.elim
  | record i a trigger => cases g <;> exact hallows.elim
  | dismiss => cases g <;> exact hallows.elim
  | _ => rfl

variable {s : Traffic η}

/-- A move of a start is one that it may do. -/
theorem Traffic.IsManned.allows_of_start (h : s.IsManned) {call : Nat} {id : String}
    {t : Task η Answer} (hcall : s.calls[call]? = some (.start id, t)) {newer older : List (Move η)}
    {e : Move η} (hlog : s.log = newer ++ e :: older) (he : e.call = call) :
    e.request = .start id ∧ (entryRule (.start id)).allows (progress call older) e.act := by
  obtain ⟨t', hmade⟩ := h.called e (by rw [hlog]; simp)
  rw [he, hcall] at hmade
  have hrequest : e.request = .start id := (Prod.mk.inj (Option.some.inj hmade)).1.symm
  have hallowed := h.entries.allowed newer e older hlog
  rw [hrequest, he] at hallowed
  exact ⟨hrequest, hallowed⟩

/-- Only a start of a session begins a watch of it. -/
theorem request_of_hire {e : Move η} {g : Progress} {hire : Hire}
    (hallows : (entryRule e.request).allows g e.act) (hhire : e.hire? = some hire) :
    e.request = .start hire.id := by
  obtain ⟨call, r, x, y, now, before⟩ := e
  unfold Move.hire? at hhire
  split at hhire
  · next id pid number _ _ heq =>
    cases heq
    cases hhire
    cases r with
    | start i =>
        cases g with
        | resolved p => rw [show id = i from hallows.1]
        | _ => exact hallows.elim
    | _ => exact (hallows trivial).elim
  · cases hhire

/-- A worker was made by a start of its session. -/
theorem Traffic.IsManned.start_of_hire (hs : s.IsManned) {hire : Hire} (hmem : hire ∈ hires s.log) :
    ∃ t, s.calls[hire.call]? = some (.start hire.id, t) := by
  rw [hires, List.mem_reverse, List.mem_filterMap] at hmem
  obtain ⟨e, he, hhire⟩ := hmem
  obtain ⟨t, hcall⟩ := hs.called e he
  obtain ⟨newer, older, hlog⟩ := List.append_of_mem he
  refine ⟨t, ?_⟩
  rw [call_of_hire? hhire, hcall, request_of_hire (hs.entries.allowed newer e older hlog) hhire]

/-- A start comes to be stranded in a move in which it cannot start the worker. -/
theorem isStranded_of_after {e : Move η} {id i : String} {g : Progress} {number : Nat}
    {f : Failure} (hallows : (entryRule (.start id)).allows g e.act)
    (hafter : (entryRule (.start id)).after g e.act e.answer = .stranded i number f) :
    e.isStranded := by
  obtain ⟨call, r, x, y, now, before⟩ := e
  cases g with
  | outside =>
      cases x with
      | look =>
          have hlook : Progress.ofLook (y.refuseWatched id) = .stranded i number f := hafter
          cases hrefused : y.refuseWatched id <;> rw [hrefused] at hlook <;> cases hlook
      | _ => exact hallows.elim
  | cleared =>
      cases x with
      | resolvePid j => cases y <;> cases hafter
      | _ => exact hallows.elim
  | resolved pid =>
      cases x with
      | register j p => cases y <;> cases hafter
      | _ => exact hallows.elim
  | entered j n =>
      cases x with
      | launch k m =>
          cases y with
          | error f' => rfl
          | ok u => cases hafter
      | _ => exact hallows.elim
  | manned j n =>
      cases x with
      | note level message => cases hafter
      | _ => exact hallows.elim
  | _ => exact hallows.elim

/-- A call that is stranded has tried in vain to start a worker. -/
theorem Traffic.IsManned.exists_isStranded (h : s.IsManned) {call : Nat} {id : String}
    {t : Task η Answer} (hcall : s.calls[call]? = some (.start id, t)) {i : String} {number : Nat}
    {f : Failure} (hstranded : progress call s.log = .stranded i number f) :
    ∃ e ∈ s.log, e.call = call ∧ e.isStranded := by
  obtain ⟨newer, e, older, hlog, he, -, hafter⟩ :=
    Traffic.exists_move_of_observed (P := fun g : Progress => g = .stranded i number f) hstranded
      (by simp)
  obtain ⟨hrequest, hallows⟩ := h.allows_of_start hcall hlog he
  rw [hrequest] at hafter
  exact ⟨e, by rw [hlog]; simp, he, isStranded_of_after hallows hafter⟩

/-- A call that has made no worker makes none in any of its moves. -/
private theorem hire?_of_filter_hires {log : List (Move η)} {e : Move η} (he : e ∈ log)
    (hmade : (hires log).filter (·.call == e.call) = []) : e.hire? = none := by
  rw [List.filter_eq_nil_iff] at hmade
  cases hhire : e.hire? with
  | none => rfl
  | some hire =>
      have hmem : hire ∈ hires log := by
        rw [hires, List.mem_reverse]
        exact List.mem_filterMap.2 ⟨e, he, hhire⟩
      refine absurd ?_ (hmade hire hmem)
      rw [call_of_hire? hhire, beq_self_eq_true]

/-- A start that is done has begun one watch and started its worker, or could not start it, or
has done neither. -/
theorem begins_of_done (h : s.IsManned) {call : Nat} {id : String} {outcome : Except Failure Unit}
    (hdone : s.calls[call]? = some (.start id, .done (.started outcome))) :
    Begins s.log call id outcome := by
  have hanswered : (progress call s.log).Answered id outcome := h.entries.of_done hdone
  obtain ⟨hmade, hstarted⟩ := h.tallied call
  cases outcome with
  | ok u =>
      obtain ⟨number, hprogress⟩ := hanswered
      rw [hprogress] at hmade hstarted
      exact ⟨number, hmade, hstarted⟩
  | error f =>
      rcases Progress.made_of_failed hanswered call with ⟨hnone, hnothing⟩ | ⟨i, number, hprogress⟩
      · rw [hnone] at hmade
        rw [hnothing] at hstarted
        refine .inl ⟨hmade, hstarted, ?_⟩
        intro e he hcall
        obtain ⟨newer, older, hlog⟩ := List.append_of_mem he
        have hhire : e.hire? = none := hire?_of_filter_hires he (by rw [hcall, hmade])
        exact perform_of_start (h.allows_of_start hdone hlog hcall).2
          (h.remembers newer e older hlog).2 hhire
      · refine .inr ⟨?_, h.exists_isStranded hdone hprogress⟩
        have hsession : i = id := by
          have hmem : ⟨call, i, number⟩ ∈ hires s.log := by
            have hself : (⟨call, i, number⟩ : Hire) ∈ (progress call s.log).made call := by
              rw [hprogress]
              exact List.mem_singleton_self _
            rw [← hmade] at hself
            exact (List.mem_filter.1 hself).1
          obtain ⟨t, hstart⟩ := h.start_of_hire hmem
          rw [hdone] at hstart
          cases hstart
          rfl
        subst hsession
        rw [hprogress] at hmade hstarted
        exact ⟨number, hmade, hstarted⟩

/-- Where threads can be started once no worker is refused, since none is started twice. -/
theorem StartsOnce.not_isStranded (honce : StartsOnce s.log) (h : s.IsManned) {e : Move η}
    (he : e ∈ s.log) : e.isStranded = false := by
  cases hstranded : e.isStranded with
  | false => rfl
  | true =>
      obtain ⟨newer, older, hlog⟩ := List.append_of_mem he
      obtain ⟨hire, hlaunch, hbefore⟩ := honce newer e older hlog hstranded
      have hnodup := h.nodup_launches
      rw [hlog, launches_append, launches_cons, hlaunch, List.map_append, List.map_append,
        List.nodup_append] at hnodup
      obtain ⟨hnodup, -, -⟩ := hnodup
      rw [List.nodup_append] at hnodup
      exact absurd rfl (hnodup.2.2 _ hbefore hire.number (by simp))

-- ===================================================== starts of one session

/-- The moves that were made since. -/
def movesSince (s s' : Traffic η) : List (Move η) := s'.log.take (s'.log.length - s.log.length)

private theorem log_playAll (site : Site η) (s : Traffic η) (more : List (Event η)) :
    (Traffic.playAll site s more).log = movesSince s (Traffic.playAll site s more) ++ s.log := by
  have hgrows : s.log <:+ (Traffic.playAll site s more).log := by
    refine Traffic.playAll_induction (P := fun s' => s.log <:+ s'.log) List.suffix_rfl ?_ more
    intro s' e h
    refine Traffic.play_invariant (P := fun _ log => s.log <:+ log) h (fun _ => h) ?_ site e
    intro call r x next now world _ _
    exact h.trans (List.suffix_cons _ _)
  obtain ⟨newer, hlog⟩ := hgrows
  unfold movesSince
  rw [← hlog, List.length_append, Nat.add_sub_cancel, List.take_left]

/-- Whether a process could not be learned in a move. -/
def Move.isUnresolved (e : Move η) : Bool :=
  match e.act, e.answer with
  | .resolvePid _, .error _ => true
  | _, _ => false

/-- That a start of a session was not done at some time and had begun no watch, that it is done
by now, and that it could learn the process if it asked for it, and start the worker if it came
to that. -/
structure Contends (s s' : Traffic η) (id : String) (call : Nat) (outcome : Except Failure Unit) :
    Prop where
  unfinished : ∀ a, s.calls[call]? ≠ some (.start id, .done a)
  fresh : ∀ h ∈ hires s.log, h.call ≠ call
  done : s'.calls[call]? = some (.start id, .done (.started outcome))
  resolved : ∀ e ∈ s'.log, e.call = call → e.isUnresolved = false
  manned : ∀ e ∈ s'.log, e.call = call → e.isStranded = false

/-- A start that contends has not failed before. -/
theorem Contends.not_failed {s s' : Traffic η} {id : String} {call : Nat}
    {outcome : Except Failure Unit} (h : Contends s s' id call outcome) (hs : s.IsManned)
    (hstays : ∀ r t, s.calls[call]? = some (r, t) → ∃ t', s'.calls[call]? = some (r, t'))
    (f : Failure) : (progress call s.log).failure? ≠ some f := by
  intro hfailed
  cases hcall : s.calls[call]? with
  | none =>
      have hnone : ∀ e ∈ s.log, e.call ≠ call := by
        rintro e he rfl
        rw [List.getElem?_eq_none_iff] at hcall
        exact Nat.not_lt.2 hcall (hs.entries.made e he)
      rw [progress, Traffic.observed_of_notMem hnone] at hfailed
      cases hfailed
  | some c =>
      obtain ⟨r, t⟩ := c
      obtain ⟨t', hlater⟩ := hstays r t hcall
      rw [h.done] at hlater
      cases hlater
      obtain ⟨a, rfl⟩ := done_of_failed (hs.entries.calls call _ t hcall) hfailed
      exact h.unfinished a hcall

private theorem refuseWatched_error {m : Monitor η} {id : String} {f : Failure}
    (h : m.refuseWatched id = .error f) : f = .alreadyMonitored id ∧ m.isMonitoring id := by
  unfold refuseWatched at h
  split at h
  · next hwatched =>
    cases h
    exact ⟨rfl, hwatched⟩
  · cases h

/-- A start fails in a move in which it cannot learn the process or start the worker, or finds
that its session is watched. -/
theorem cases_of_failed {e : Move η} {id : String} {g : Progress} {f : Failure}
    (hallows : (entryRule (.start id)).allows g e.act)
    (hfailed : ((entryRule (.start id)).after g e.act e.answer).failure? = some f)
    (hanswer : ∃ world, e.answer = (e.act.perform e.now world e.before).1) :
    e.isUnresolved ∨ e.isStranded ∨ f = .alreadyMonitored id ∧ e.before.isMonitoring id := by
  obtain ⟨call, r, x, y, now, before⟩ := e
  obtain ⟨world, hy⟩ := hanswer
  cases g with
  | outside =>
      cases x with
      | look =>
          obtain rfl : y = before := hy
          have hlook : (Progress.ofLook (y.refuseWatched id)).failure? = some f := hfailed
          cases hrefused : y.refuseWatched id with
          | error f' =>
              rw [hrefused] at hlook
              cases hlook
              exact .inr (.inr (refuseWatched_error hrefused))
          | ok u =>
              rw [hrefused] at hlook
              cases hlook
      | _ => exact hallows.elim
  | cleared =>
      cases x with
      | resolvePid i =>
          cases y with
          | error f' => exact .inl rfl
          | ok pid => cases hfailed
      | _ => exact hallows.elim
  | resolved pid =>
      cases x with
      | register i p =>
          obtain ⟨rfl, -⟩ := hallows
          have hregister : y = (before.register now i p).1 := hy
          -- the first look found no watch, so one has come in between
          rcases register_hired before now i p with ⟨hok, -⟩ | ⟨hrefused, hwatched⟩
          · rw [hok] at hregister
            subst hregister
            cases hfailed
          · rw [hrefused] at hregister
            subst hregister
            cases hfailed
            exact .inr (.inr ⟨rfl, hwatched⟩)
      | _ => exact hallows.elim
  | entered i number =>
      cases x with
      | launch j n =>
          cases y with
          | error f' => exact .inr (.inl rfl)
          | ok u => cases hfailed
      | _ => exact hallows.elim
  | manned i number =>
      cases x with
      | note level message => cases hfailed
      | _ => exact hallows.elim
  | _ => exact hallows.elim

private theorem tenure_eq_nil_iff {m : Monitor η} {log : List (Move η)} (h : Staffed m log)
    (id : String) : tenure id log = [] ↔ m.isMonitoring id = false := by
  rw [isMonitoring_eq, ← List.map_eq_nil_iff, h.tenure id]
  cases m.roster.lookup id <;> simp

section Contest

variable {site : Site η} {more : List (Event η)} {id : String} {call : Nat}

/-- A start that contends and succeeds has made a worker since. -/
theorem Contends.mem_hires (hs : s.IsManned)
    (h : Contends s (Traffic.playAll site s more) id call (.ok ())) :
    ∃ number, ⟨call, id, number⟩
      ∈ (hires (movesSince s (Traffic.playAll site s more))).filter (·.id == id) := by
  obtain ⟨number, hmade, -⟩ := begins_of_done (hs.playAll site more) h.done
  have hmem : ⟨call, id, number⟩ ∈ hires (Traffic.playAll site s more).log := by
    have hself : (⟨call, id, number⟩ : Hire) ∈ [⟨call, id, number⟩] := List.mem_singleton_self _
    rw [← hmade] at hself
    exact (List.mem_filter.1 hself).1
  rw [log_playAll, hires_append] at hmem
  refine ⟨number, List.mem_filter.2 ⟨?_, beq_self_eq_true id⟩⟩
  exact (List.mem_append.1 hmem).resolve_left fun hold => h.fresh _ hold rfl

/-- A start that contends and fails has found its session watched since. If it was not stopped
either, a worker was made for it since it was stopped last. -/
theorem Contends.refused {f : Failure} (hs : s.IsManned)
    (h : Contends s (Traffic.playAll site s more) id call (.error f))
    (hstays : ∀ e ∈ movesSince s (Traffic.playAll site s more), e.ends id = false) :
    f = .alreadyMonitored id ∧ tenure id (Traffic.playAll site s more).log ≠ [] := by
  have hlater := hs.playAll site more
  have hkept : ∀ r t, s.calls[call]? = some (r, t) →
      ∃ t', (Traffic.playAll site s more).calls[call]? = some (r, t') := by
    intro r t hcall
    refine Traffic.playAll_induction (P := fun s => ∃ t', s.calls[call]? = some (r, t'))
      ⟨t, hcall⟩ ?_ more
    rintro s e ⟨t, hcall⟩
    exact Traffic.calls_play site hcall e
  have hbefore := h.not_failed hs hkept f
  have hfailed : (progress call (Traffic.playAll site s more).log).failure? = some f :=
    hlater.entries.of_done h.done
  rw [log_playAll, progress, Traffic.observed_append] at hfailed
  -- the move by which the call failed divides the log: what came before it is what it found
  obtain ⟨newer, e, older, hsplit, hcall, -, hmove⟩ :=
    Traffic.exists_move_of_observed (P := fun g : Progress => g.failure? = some f) hfailed hbefore
  rw [← Traffic.observed_append] at hmove
  have hlog : (Traffic.playAll site s more).log = newer ++ e :: (older ++ s.log) := by
    rw [log_playAll, hsplit, List.append_assoc, List.cons_append]
  obtain ⟨hrequest, hallows⟩ := hlater.allows_of_start h.done hlog hcall
  obtain ⟨hstaffed, hanswer⟩ := hlater.remembers newer e (older ++ s.log) hlog
  rw [hrequest] at hmove
  rcases cases_of_failed hallows hmove hanswer with hunresolved | hstranded | ⟨hf, hwatched⟩
  · rw [h.resolved e (by rw [hlog]; simp) hcall] at hunresolved
    cases hunresolved
  · rw [h.manned e (by rw [hlog]; simp) hcall] at hstranded
    cases hstranded
  · refine ⟨hf, ?_⟩
    have hheld : tenure id (older ++ s.log) ≠ [] := by
      rw [Ne, tenure_eq_nil_iff hstaffed, hwatched]
      simp
    have hkept : ∀ e' ∈ newer ++ [e], e'.ends id = false := by
      intro e' he'
      refine hstays e' ?_
      rw [hsplit]
      simp only [List.mem_append, List.mem_cons, List.not_mem_nil, or_false] at he' ⊢
      exact he'.imp_right .inl
    have hcons : (Traffic.playAll site s more).log = (newer ++ [e]) ++ (older ++ s.log) := by
      rw [hlog, List.append_assoc, List.singleton_append]
    rw [hcons, tenure_append hkept]
    exact List.append_ne_nil_of_left_ne_nil hheld _

/-- As long as a session is not stopped, what was made for it since it was stopped last is one
worker at most. -/
theorem tenure_playAll (hs : s.IsManned)
    (hstays : ∀ e ∈ movesSince s (Traffic.playAll site s more), e.ends id = false) :
    tenure id (Traffic.playAll site s more).log
        = tenure id s.log
          ++ (hires (movesSince s (Traffic.playAll site s more))).filter (·.id == id)
      ∧ (tenure id (Traffic.playAll site s more).log).length ≤ 1 := by
  refine ⟨by rw [log_playAll, tenure_append hstays], ?_⟩
  rw [← List.length_map (·.number), (hs.playAll site more).staffed.tenure id]
  cases (Traffic.playAll site s more).monitor.roster.lookup id <;> simp

/-- The starts of a session that is watched are refused as long as it is not stopped. -/
theorem all_refused (hs : s.IsManned) (hwatched : s.monitor.isMonitoring id)
    (hstays : ∀ e ∈ movesSince s (Traffic.playAll site s more), e.ends id = false) :
    (hires (movesSince s (Traffic.playAll site s more))).filter (·.id == id) = []
      ∧ ∀ call outcome, Contends s (Traffic.playAll site s more) id call outcome →
        outcome = .error (.alreadyMonitored id) := by
  obtain ⟨htenure, hlength⟩ := tenure_playAll hs hstays
  have hheld : tenure id s.log ≠ [] := by
    rw [Ne, tenure_eq_nil_iff hs.staffed, hwatched]
    simp
  have hnone : (hires (movesSince s (Traffic.playAll site s more))).filter (·.id == id) = [] := by
    have hpos := List.length_pos_iff.2 hheld
    rw [htenure, List.length_append] at hlength
    exact List.eq_nil_of_length_eq_zero (by omega)
  refine ⟨hnone, ?_⟩
  intro call outcome h
  cases outcome with
  | ok u =>
      obtain ⟨number, hmem⟩ := h.mem_hires hs
      rw [hnone] at hmem
      cases hmem
  | error f => rw [(h.refused hs hstays).1]

/-- Of the starts of a session that are under way together and are not stopped in between, one
has begun a watch, and all others are refused. -/
theorem exists_winner (hs : s.IsManned) (hvacant : s.monitor.isMonitoring id = false)
    (hstays : ∀ e ∈ movesSince s (Traffic.playAll site s more), e.ends id = false)
    {outcome : Except Failure Unit}
    (hcontends : Contends s (Traffic.playAll site s more) id call outcome) :
    ∃ winner number t,
      (hires (movesSince s (Traffic.playAll site s more))).filter (·.id == id)
          = [⟨winner, id, number⟩]
        ∧ (Traffic.playAll site s more).calls[winner]? = some (.start id, t)
        ∧ ∀ call outcome, Contends s (Traffic.playAll site s more) id call outcome →
          outcome = if call = winner then .ok () else .error (.alreadyMonitored id) := by
  have hlater := hs.playAll site more
  obtain ⟨htenure, hlength⟩ := tenure_playAll hs hstays
  rw [(tenure_eq_nil_iff hs.staffed id).2 hvacant, List.nil_append] at htenure
  -- somebody has won: the call in question, or one that it was refused for
  have hsome : tenure id (Traffic.playAll site s more).log ≠ [] := by
    cases outcome with
    | ok u =>
        obtain ⟨number, hmem⟩ := hcontends.mem_hires hs
        rw [htenure]
        exact List.ne_nil_of_mem hmem
    | error f => exact (hcontends.refused hs hstays).2
  obtain ⟨hire, hone⟩ := List.length_eq_one_iff.1
    (Nat.le_antisymm hlength (List.length_pos_iff.2 hsome))
  rw [htenure] at hone
  obtain ⟨hmem, hid⟩ := List.mem_filter.1 (hone ▸ List.mem_singleton_self hire)
  have hmade : hire ∈ hires (Traffic.playAll site s more).log := by
    rw [log_playAll, hires_append]
    exact List.mem_append_right _ hmem
  obtain ⟨winner, i, number⟩ := hire
  obtain rfl : i = id := eq_of_beq hid
  obtain ⟨t, hstart⟩ := hlater.start_of_hire hmade
  refine ⟨winner, number, t, hone, hstart, ?_⟩
  intro call outcome h
  cases outcome with
  | ok u =>
      obtain ⟨n, hmem⟩ := h.mem_hires hs
      rw [hone, List.mem_singleton] at hmem
      cases hmem
      rw [if_pos rfl]
  | error f =>
      have hlost : call ≠ winner := by
        rintro rfl
        rcases begins_of_done hlater h.done with huntouched | ⟨-, e, he, hcall, hstranded⟩
        · have hnone := huntouched.hires
          rw [List.filter_eq_nil_iff] at hnone
          exact hnone _ hmade (beq_self_eq_true call)
        · rw [h.manned e he hcall] at hstranded
          cases hstranded
      rw [if_neg hlost, (h.refused hs hstays).1]

end Contest

-- ===================================================== one worker for each watch

/-- Moves of a call at midnight, in a world in which a process sleeps. -/
def go (call count : Nat) : List (Event Unit) :=
  List.replicate count (.move call (Stamp.midnight ⟨2024, 6, 15⟩) (sleeping 10))

/-- A session is started twice: both starts look and learn the process before one of
them registers. -/
def rivalry : List (Event Unit) :=
  [.make (.start "a"), .make (.start "a")] ++ go 0 2 ++ go 1 3 ++ go 0 1 ++ go 1 2

/-- A session is started again, and a worker of its first watch has a round. -/
def relief : List (Event Unit) :=
  .make (.start "a") :: go 3 5 ++ .make (.round "a" 0) :: go 4 1

/-- What is under way after some events, where nothing is stored. -/
def underWay (events : List (Event Unit)) : Traffic Unit :=
  Traffic.playAll ⟨false, fun _ => ""⟩ (Traffic.new Signal.defaultTable []) events

/-- A start whose worker cannot be started leaves the session watched, with a worker that does not
run. -/
example :
    let refusing :=
      { sleeping 10 with launched := .error (.told .runtime "can't start new thread") }
    let s := underWay (.make (.start "a")
      :: List.replicate 4 (.move 0 (Stamp.midnight ⟨2024, 6, 15⟩) refusing))
    s.monitor.list = ["a"] ∧ s.monitor.workers = [("a", 0)] ∧ s.log.any (·.isStranded) := by
  decide +kernel

end PaneWatch.Monitor
