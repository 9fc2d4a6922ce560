/-
One worker for each watch.

However calls are interleaved, a watch has exactly one worker that passes the check whether it is
current, and that is the worker that was made when the watch began. What the log has made and
started for a call is what the progress of the call says (`Tallied`), so a worker is started
at most once, and only if it was made. `Traffic.IsManned` is all that is invariant about what is
under way; starts and retired workers are treated on top of it.
-/
import Mathlib.Data.List.Nodup
import PaneWatch.Proofs.Monitor.Entry
import PaneWatch.Proofs.Monitor.Roster

namespace PaneWatch.Monitor

variable {η : Type}

-- ===================================================== what starts have done

namespace Progress

/-- The workers that a call has made that has come so far. -/
def made (call : Nat) : Progress → List Hire
  | entered id number | manned id number | stranded id number _ => [⟨call, id, number⟩]
  | _ => []

/-- The workers that a call has started that has come so far, or has tried to. -/
def started (call : Nat) : Progress → List Hire
  | manned id number | stranded id number _ => [⟨call, id, number⟩]
  | _ => []

/-- A start that has failed has made no worker and started none, unless it was the worker that
could not be started. -/
theorem made_of_failed {g : Progress} {f : Failure} (h : g.failure? = some f) (call : Nat) :
    g.made call = [] ∧ g.started call = [] ∨ ∃ id number, g = stranded id number f := by
  cases g with
  | refused f => exact .inl ⟨rfl, rfl⟩
  | unresolved f => exact .inl ⟨rfl, rfl⟩
  | stranded id number f =>
      cases h
      exact .inr ⟨id, number, rfl⟩
  | _ => cases h

end Progress

/-- How far a call has come with the beginning of a watch. -/
def progress (call : Nat) (log : List (Move η)) : Progress :=
  Traffic.observed entryRule .outside call log

variable {m : Monitor η} {e : Move η} {log : List (Move η)}

/-- What an act adds to what a call has made and started. -/
theorem tally_after {g : Progress} (h : (entryRule e.request).allows g e.act) :
    ((entryRule e.request).after g e.act e.answer).made e.call = g.made e.call ++ e.hire?.toList
      ∧ ((entryRule e.request).after g e.act e.answer).started e.call
        = g.started e.call ++ e.launch?.toList := by
  obtain ⟨call, r, x, y, now, before⟩ := e
  cases r with
  | start id =>
      cases g with
      | outside =>
          cases x with
          | look =>
              show (Progress.ofLook (y.refuseWatched id)).made call = _
                ∧ (Progress.ofLook (y.refuseWatched id)).started call = _
              cases y.refuseWatched id <;> exact ⟨rfl, rfl⟩
          | _ => exact h.elim
      | cleared =>
          cases x with
          | resolvePid i => cases y <;> exact ⟨rfl, rfl⟩
          | _ => exact h.elim
      | resolved pid =>
          cases x with
          | register i p =>
              obtain ⟨rfl, -⟩ := h
              cases y <;> exact ⟨rfl, rfl⟩
          | _ => exact h.elim
      | entered i number =>
          cases x with
          | launch j n =>
              obtain ⟨rfl, rfl⟩ := h
              cases y <;> exact ⟨rfl, rfl⟩
          | _ => exact h.elim
      | manned i number =>
          cases x with
          | note level message => exact ⟨rfl, rfl⟩
          | _ => exact h.elim
      | refused f => exact h.elim
      | unresolved f => exact h.elim
      | stranded i number f => exact h.elim
  | _ =>
      cases x with
      | register i p => exact (h trivial).elim
      | launch i n => exact (h trivial).elim
      | _ => exact ⟨(List.append_nil _).symm, (List.append_nil _).symm⟩

/-- That the log has made and started for each call what its progress says. -/
def Tallied (log : List (Move η)) : Prop :=
  ∀ call, (hires log).filter (·.call == call) = (progress call log).made call
    ∧ (launches log).filter (·.call == call) = (progress call log).started call

/-- A worker was made by the call that made the move. -/
theorem call_of_hire? {h : Hire} (hhire : e.hire? = some h) : h.call = e.call := by
  unfold Move.hire? at hhire
  split at hhire
  · cases hhire
    rfl
  · cases hhire

private theorem call_of_launch? {h : Hire} (hlaunch : e.launch? = some h) : h.call = e.call := by
  unfold Move.launch? at hlaunch
  split at hlaunch
  · cases hlaunch
    rfl
  · cases hlaunch

/-- What one move adds is added to what its own call has done. -/
theorem filter_toList_call {o : Option Hire} {owner : Nat} (h : ∀ hire, o = some hire →
    hire.call = owner) (call : Nat) :
    o.toList.filter (·.call == call) = if owner = call then o.toList else [] := by
  cases o with
  | none => simp
  | some hire =>
      obtain rfl := h hire rfl
      by_cases hcall : hire.call = call <;> simp [hcall]

/-- A move that the rule allows keeps the workers in step with the calls. -/
theorem Tallied.cons (h : Tallied log) (hallows : (entryRule e.request).allows
    (progress e.call log) e.act) : Tallied (e :: log) := by
  intro call
  obtain ⟨hmade, hstarted⟩ := h call
  rw [hires_cons, launches_cons, List.filter_append, List.filter_append, hmade, hstarted,
    filter_toList_call (fun _ => call_of_hire?), filter_toList_call (fun _ => call_of_launch?)]
  by_cases hcall : e.call = call
  · subst hcall
    have hprogress : progress e.call (e :: log)
        = (entryRule e.request).after (progress e.call log) e.act e.answer := if_pos rfl
    obtain ⟨hmakes, hstarts⟩ := tally_after hallows
    rw [if_pos rfl, if_pos rfl, hprogress, hmakes, hstarts]
    exact ⟨rfl, rfl⟩
  · have hprogress : progress call (e :: log) = progress call log := if_neg hcall
    rw [if_neg hcall, if_neg hcall, hprogress, List.append_nil, List.append_nil]
    exact ⟨rfl, rfl⟩

/-- A worker that was made is the one that its call has made. -/
theorem Tallied.mem_hires (h : Tallied log) {hire : Hire} :
    hire ∈ hires log ↔ hire ∈ (progress hire.call log).made hire.call := by
  rw [← (h hire.call).1]
  simp

/-- A worker was started if its call has come so far. -/
private theorem Tallied.mem_launches (h : Tallied log) {hire : Hire} :
    hire ∈ launches log ↔ hire ∈ (progress hire.call log).started hire.call := by
  rw [← (h hire.call).2]
  simp

-- ===================================================== the invariant

/-- That what is under way is in order: starts and rounds go their ways, the staff is in order
and was so when each move was made, and the log has done what the progress of the starts says. -/
structure Traffic.IsManned (s : Traffic η) : Prop where
  entries : Traffic.KeepsTo entryRule IsAnswered .outside s
  rounds : Traffic.KeepsTo roundRule IsTurnedAway none s
  called : s.IsCalled
  staffed : Staffed s.monitor s.log
  tallied : Tallied s.log
  remembers : Traffic.Remembers Staffed s

/-- A new monitor is manned: it watches nothing. -/
theorem Traffic.isManned_new (table : List Signal.Row) (hooks : List η) :
    (Traffic.new table hooks).IsManned :=
  ⟨Traffic.keeps_new _ _ table hooks, Traffic.keeps_new _ _ table hooks,
    Traffic.isCalled_new table hooks, staffed_new table hooks, fun _ => ⟨rfl, rfl⟩,
    Traffic.remembers_new Staffed table hooks⟩

/-- Every event keeps the order. -/
theorem Traffic.IsManned.play {s : Traffic η} (h : s.IsManned) (site : Site η) (e : Event η) :
    (s.play site e).IsManned := by
  have hstaffed : Staffed (s.play site e).monitor (s.play site e).log := by
    refine play_invariant h.staffed ?_ ?_ site e
    · intro hook
      exact ⟨h.staffed.given, h.staffed.numbered, h.staffed.current, h.staffed.tenure,
        h.staffed.distinct, h.staffed.workers⟩
    · intro call r x next now world _ _
      exact h.staffed.move call r x now world
  have htallied : Tallied (s.play site e).log := by
    refine play_invariant (P := fun _ log => Tallied log) h.tallied (fun _ => h.tallied) ?_ site e
    intro call r x next now world hcall _
    exact h.tallied.cons (h.entries.calls _ _ _ hcall).1
  exact ⟨h.entries.play (keeps_entryRule site) e, h.rounds.play (keeps_roundRule site) e,
    h.called.play site e, hstaffed, htallied, h.remembers.play h.staffed site e⟩

/-- All that happens keeps the order. -/
theorem Traffic.IsManned.playAll {s : Traffic η} (h : s.IsManned) (site : Site η)
    (events : List (Event η)) : (Traffic.playAll site s events).IsManned :=
  Traffic.playAll_induction h (fun _ e h => h.play site e) events

-- ===================================================== one worker for each watch

/-- That the sessions watched are those that have a worker until the monitor is shut down, that
each has one worker that is current, which was made for its watch, and that workers were
started only if they were made, and each at most once. -/
structure OneWorkerEach (m : Monitor η) (log : List (Move η)) : Prop where
  same : m.isShutDown = false → m.workers.map (·.1) = m.list
  distinct : m.list.Nodup
  own : ∀ id n w, m.watch? id = some (n, w) → ∃ call,
    (hires log).filter (fun h => h.id == id && m.isCurrent h.id h.number) = [⟨call, id, n⟩]
  made : ∀ h ∈ launches log, h ∈ hires log
  once : ((launches log).map (·.number)).Nodup

/-- Where keys are distinct the entries of a key are the one that is found under it. -/
theorem filter_key_eq {α β : Type} [BEq α] [LawfulBEq α] {es : List (α × β)} {key : α} {value : β}
    (h : (es.map (·.1)).Nodup) (hfound : es.lookup key = some value) :
    es.filter (·.1 == key) = [(key, value)] := by
  obtain ⟨before, after, rfl, hbefore⟩ := List.lookup_eq_some_iff.1 hfound
  have hafter : ∀ e ∈ after, e.1 ≠ key := by
    rintro e he rfl
    rw [List.map_append, List.nodup_append, List.map_cons, List.nodup_cons] at h
    exact h.2.1.1 (List.mem_map.2 ⟨e, he, rfl⟩)
  have hnone : before.filter (·.1 == key) = [] := by
    rw [List.filter_eq_nil_iff]
    intro e he heq
    have hne := hbefore e he
    rw [eq_of_beq heq] at hne
    simp at hne
  have hrest : after.filter (·.1 == key) = [] := by
    rw [List.filter_eq_nil_iff]
    intro e he heq
    exact hafter e he (eq_of_beq heq)
  rw [List.filter_append, List.filter_cons_of_pos (by simp), hnone, hrest, List.nil_append]

/-- A watched session has one worker that is current. -/
theorem Staffed.own (h : Staffed m log) {id : String} {n : Nat} {w : Watch}
    (hw : m.watch? id = some (n, w)) : ∃ call,
    (hires log).filter (fun h => h.id == id && m.isCurrent h.id h.number) = [⟨call, id, n⟩] := by
  have hlookup : m.roster.lookup id = some n := by
    rw [lookup_roster, hw]
    rfl
  have hentries : ((hires log).filter fun h => h.id == id && m.isCurrent h.id h.number).map
      Hire.entry = [(id, n)] := by
    rw [← filter_key_eq h.distinct hlookup, ← h.current, List.filter_filter, List.filter_map]
    congr 1
    apply List.filter_congr
    intro hire _
    rw [isCurrent_eq]
    rfl
  obtain ⟨hire, hfilter, hentry⟩ := List.map_eq_singleton_iff.1 hentries
  obtain ⟨call, i, number⟩ := hire
  cases hentry
  exact ⟨call, hfilter⟩

/-- No worker is started twice. -/
theorem Tallied.nodup_launches (h : Tallied log) : (launches log).Nodup := by
  rw [List.nodup_iff_count_le_one]
  intro hire
  have hcount : (launches log).count hire
      = ((launches log).filter (·.call == hire.call)).count hire := by
    rw [List.count_filter]
    simp
  rw [hcount, (h hire.call).2]
  cases progress hire.call log with
  | manned id number =>
      rw [Progress.started]
      exact List.count_le_length
  | stranded id number f =>
      rw [Progress.started]
      exact List.count_le_length
  | _ => exact Nat.zero_le 1

/-- Only workers that were made are started. -/
private theorem Tallied.hires_of_launches (h : Tallied log) {hire : Hire}
    (hmem : hire ∈ launches log) :
    hire ∈ hires log := by
  rw [h.mem_launches] at hmem
  rw [h.mem_hires]
  cases hprogress : progress hire.call log with
  | manned id number =>
      rw [hprogress] at hmem
      exact hmem
  | stranded id number f =>
      rw [hprogress] at hmem
      exact hmem
  | _ =>
      rw [hprogress] at hmem
      cases hmem

/-- No two workers that are started have the same number. -/
theorem Traffic.IsManned.nodup_launches {s : Traffic η} (h : s.IsManned) :
    ((launches s.log).map (·.number)).Nodup := by
  refine List.Nodup.map_on ?_ h.tallied.nodup_launches
  intro first hfirst second hsecond hsame
  exact List.inj_on_of_nodup_map h.staffed.numbered (h.tallied.hires_of_launches hfirst)
    (h.tallied.hires_of_launches hsecond) hsame

/-- In a manned monitor every watched session has one worker. -/
theorem Traffic.IsManned.oneWorkerEach {s : Traffic η} (h : s.IsManned) :
    OneWorkerEach s.monitor s.log := by
  constructor
  case same =>
    intro hopen
    rw [h.staffed.workers hopen, list_eq]
  case distinct =>
    rw [list_eq]
    exact h.staffed.distinct
  case own =>
    intro id n w hw
    exact h.staffed.own hw
  case made => exact fun hire hmem => h.tallied.hires_of_launches hmem
  case once => exact h.nodup_launches

end PaneWatch.Monitor
