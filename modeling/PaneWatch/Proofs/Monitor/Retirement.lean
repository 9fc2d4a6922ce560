/-
What becomes of the workers of watches that are over.

A watch that is over never comes back under its number, so its worker never passes the check
again. By the rule of rounds (`keeps_roundRule`) a round begins with that check, and one that
does not pass is done: it polls nothing and says that its worker does not go on (`Retired`).
-/
import PaneWatch.Proofs.Monitor.Sight
import PaneWatch.Proofs.Monitor.Workers

namespace PaneWatch.Monitor

open Time (Stamp)

variable {η : Type} {s : Traffic η} {past : List (Move η)} {id : String} {number : Nat}

/-- The number of a watch that is over is never current again. -/
theorem IsOver.isCurrent_eq {m : Monitor η} (h : IsOver m id number) :
    m.isCurrent id number = false := by
  cases hcurrent : m.isCurrent id number with
  | false => rfl
  | true =>
      obtain ⟨w, hw⟩ := isCurrent_iff.1 hcurrent
      exact absurd hw (h.ended w)

/-- The watch of a worker that was made and does not pass is over. -/
theorem Staffed.isOver {m : Monitor η} {log : List (Move η)} (h : Staffed m log) {hire : Hire}
    (hmem : hire ∈ hires log) (hnot : m.isCurrent hire.id hire.number = false) :
    IsOver m hire.id hire.number := by
  refine ⟨h.given hire hmem, ?_⟩
  intro w hw
  rw [isCurrent_iff.2 ⟨w, hw⟩] at hnot
  cases hnot

/-- That the watch of a worker is over, and that the rounds of the worker that had done nothing by
some time have only looked at the monitor since, and say that it does not go on. -/
structure Retired (past : List (Move η)) (id : String) (number : Nat) (s : Traffic η) : Prop where
  gone : s.monitor.isCurrent id number = false
  looks : ∀ call t, (∀ e ∈ past, e.call ≠ call) → s.calls[call]? = some (.round id number, t) →
    (∀ e ∈ s.log, e.call = call → e.act = .look)
      ∧ ∀ a, t = .done a → a = .goesOn (.ok false)

-- ===================================================== rounds that are turned away

/-- That a call has only looked, and found no watch of its worker. -/
def IsTurned (call : Nat) (log : List (Move η)) : Prop :=
  Traffic.observed roundRule none call log ≠ some true ∧ ∀ e ∈ log, e.call = call → e.act = .look

private theorem isTurned_of_notMem {call : Nat} {log : List (Move η)}
    (h : ∀ e ∈ log, e.call ≠ call) :
    IsTurned call log := by
  refine ⟨?_, fun e he hcall => absurd hcall (h e he)⟩
  rw [Traffic.observed_of_notMem h]
  simp

theorem IsTurned.cons {call : Nat} {log : List (Move η)} (h : IsTurned call log) {e : Move η}
    (he : e.call = call → e.act = .look
      ∧ (roundRule e.request).after (Traffic.observed roundRule none call log) e.act e.answer
        ≠ some true) : IsTurned call (e :: log) := by
  refine ⟨?_, ?_⟩
  · rw [Traffic.observed]
    split
    · next hcall => exact (he hcall).2
    · exact h.1
  · intro e' he' hcall
    rcases List.mem_cons.1 he' with rfl | hold
    · exact (he hcall).1
    · exact h.2 e' hold hcall

/-- A round that has been turned away so far, and whose watch is over, is turned away by its
next act. -/
theorem IsTurned.act (hs : s.IsManned) {call : Nat} {x : Act η}
    {next : x.Answer → Task η Answer} (h : IsTurned call s.log)
    (hcall : s.calls[call]? = some (.round id number, .act x next))
    (hover : IsOver s.monitor id number) (now : Stamp) (world : World) :
    x = .look ∧ (roundRule (.round id number)).after (Traffic.observed roundRule none call s.log) x
      (x.perform now world s.monitor).1 ≠ some true := by
  have hallowed := (hs.rounds.calls _ _ _ hcall).1
  cases hseen : Traffic.observed roundRule none call s.log with
  | none =>
      rw [hseen] at hallowed
      obtain rfl : x = .look := hallowed
      refine ⟨rfl, ?_⟩
      show some (s.monitor.isCurrent id number) ≠ some true
      rw [hover.isCurrent_eq]
      simp
  | some passed =>
      rw [hseen] at hallowed
      obtain rfl : passed = true := hallowed
      exact absurd hseen h.1

-- ===================================================== workers that are away

/-- That a watch is over, and no round of its worker that had done nothing by some time passed. -/
structure IsAway (past : List (Move η)) (id : String) (number : Nat) (s : Traffic η) : Prop where
  gone : IsOver s.monitor id number
  turned : ∀ call t, (∀ e ∈ past, e.call ≠ call) →
    s.calls[call]? = some (.round id number, t) → IsTurned call s.log

private theorem IsAway.retired (h : IsAway past id number s) (hs : s.IsManned) :
    Retired past id number s := by
  refine ⟨h.gone.isCurrent_eq, ?_⟩
  intro call t hfresh hcall
  obtain ⟨haway, hlooks⟩ := h.turned call t hfresh hcall
  refine ⟨hlooks, ?_⟩
  rintro a rfl
  rcases hs.rounds.of_done hcall with hpassed | ⟨-, hanswer⟩
  · exact absurd hpassed haway
  · exact hanswer

/-- After every event the worker is still away. -/
theorem IsAway.play (h : IsAway past id number s) (hs : s.IsManned) (site : Site η)
    (e : Event η) : IsAway past id number (s.play site e) := by
  have hover : IsOver (s.play site e).monitor id number := by
    refine Traffic.play_invariant (P := fun m _ => IsOver m id number) h.gone
      (fun _ => ?_) ?_ site e
    · exact h.gone.follows (SameWatches.follows ⟨rfl, rfl⟩)
    · intro call r x next now world _ _
      exact h.gone.follows (follows_perform x now world s.monitor)
  refine ⟨hover, ?_⟩
  cases e with
  | addHook hook => exact h.turned
  | make r =>
      intro call t hfresh hcall
      rcases Traffic.calls_make_cases hcall with hold | ⟨hge, -, -⟩
      · exact h.turned call t hfresh hold
      · -- a call that has just been made has done nothing
        refine isTurned_of_notMem ?_
        rintro e he rfl
        exact Nat.not_lt.2 hge (hs.entries.made e he)
  | move call now world =>
      rcases Traffic.play_move_cases site s call now world with
        hidle | ⟨r, x, next, hcall, -, hplay⟩
      · rw [hidle]
        exact h.turned
      · rw [hplay]
        intro other t hfresh hother
        rcases Traffic.calls_act_cases hcall hother with ⟨rfl, rfl, -⟩ | ⟨hne, hold⟩
        · have hturned := h.turned call _ hfresh hcall
          exact hturned.cons fun _ => hturned.act hs hcall h.gone now world
        · exact (h.turned other t hfresh hold).cons fun heq => absurd heq hne

/-- A worker that was made and does not pass is retired, whatever happens from there on. -/
theorem retired_playAll (hs : s.IsManned) {hire : Hire} (hmem : hire ∈ hires s.log)
    (hnot : s.monitor.isCurrent hire.id hire.number = false) (site : Site η)
    (more : List (Event η)) :
    Retired s.log hire.id hire.number (Traffic.playAll site s more) := by
  have hfirst : IsAway s.log hire.id hire.number s :=
    ⟨hs.staffed.isOver hmem hnot, fun _ _ hfresh _ => isTurned_of_notMem hfresh⟩
  have hplayed := Traffic.playAll_induction
    (P := fun s' => s'.IsManned ∧ IsAway s.log hire.id hire.number s') ⟨hs, hfirst⟩
    (fun _ e h => ⟨h.1.play site e, h.2.play h.1 site e⟩) more
  exact hplayed.2.retired hplayed.1

end PaneWatch.Monitor
