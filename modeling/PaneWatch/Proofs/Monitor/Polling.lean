/-
What ends a worker.

In each of its ticks a worker waits, checks whether its watch is still the current one, and polls
its session. A `Tick` is what it has done in one of them. Three things end a worker: its wait
finds the monitor shut down, its check finds that the watch is not the current one, and its
detection finds the session not watched at all. Every other failure of a detection is taken for
one poll that has failed, even if panes or hooks fail with the kind of failure by which
a detection says that it has found no session (`polling_ends_iff`). What is no failure at all, the
order to end the program, goes through the loop when a poll is given it.
-/
import PaneWatch.Proofs.Monitor.Deed

namespace PaneWatch.Monitor

variable {η : Type}

-- ===================================================== ticks

/-- What a worker has done in a tick. -/
structure Tick (η : Type) where
  /-- The looks of its wait for a shutdown. -/
  wait : List (Deed η)
  /-- The looks whether its watch is still the current one. -/
  checks : List (Deed η) := []
  /-- What each of its detections has done. -/
  detections : List (List (Deed η)) := []
  notes : List (Deed η) := []

namespace Tick

/-- All that a worker has done in a tick, in order. -/
def deeds (t : Tick η) : List (Deed η) :=
  t.wait ++ t.checks ++ t.detections.flatten ++ t.notes

/-- That the wait has observed a shutdown. -/
def FindsShutDown (t : Tick η) : Prop := ∃ d ∈ t.wait, d.scene.monitor.isShutDown

/-- That the check has found that the watch is not the current one. -/
def FindsReplaced (id : String) (number : Nat) (t : Tick η) : Prop :=
  ∃ d ∈ t.checks, d.scene.monitor.isCurrent id number = false

/-- That the detection has found the session not watched at all. -/
def FindsNone (id : String) (t : Tick η) : Prop := ∃ poll ∈ t.detections, MissesWatch id poll

/-- That something has been found that ends a worker. -/
def IsLast (id : String) (number : Nat) (t : Tick η) : Prop :=
  t.FindsShutDown ∨ t.FindsReplaced id number ∨ t.FindsNone id

/-- That the detection was given the order to end the program. -/
def FindsExit (t : Tick η) : Prop := ∃ poll ∈ t.detections, ∃ d ∈ poll, d.IsExit

/-- That a tick goes as it should: the wait looks for a shutdown, and unless there is one the
worker checks its watch once, and unless that is replaced it polls the session once. -/
structure IsRegular (site : Site η) (id : String) (number : Nat) (t : Tick η) : Prop where
  waits : t.wait ≠ [] ∧ ∀ d ∈ t.wait, d.act = .look
  stops : t.FindsShutDown → t.checks = [] ∧ t.detections = []
  checks : ¬t.FindsShutDown → ∃ scene, t.checks = [⟨.look, scene⟩]
  leaves : t.FindsReplaced id number → t.detections = []
  polls : ¬t.FindsShutDown → ¬t.FindsReplaced id number → ∃ poll outcome, t.detections = [poll]
    ∧ (site.reach.detect id Reach.pollTrigger).Does poll outcome
  notes : ∀ d ∈ t.notes, d.act = .note .error ("Unexpected error polling " ++ id)

end Tick

-- ===================================================== rounds

variable {site : Site η} {id : String} {number : Nat} {deeds : List (Deed η)}

/-- A round checks the watch, and if it is the current one it polls the session once. The worker
goes on unless the watch is not the current one or the session is not watched, and what gets through
is the order to end the program only. -/
theorem Task.Does.round_cases {goesOn : Except Failure Bool}
    (h : (site.reach.round id number).Does deeds goesOn) :
    ∃ check rest, deeds = ⟨.look, check⟩ :: rest
      ∧ (check.monitor.isCurrent id number = false ∧ rest = [] ∧ goesOn = .ok false
        ∨ check.monitor.isCurrent id number = true ∧ ∃ poll outcome notes, rest = poll ++ notes
          ∧ (site.reach.detect id Reach.pollTrigger).Does poll outcome
          ∧ (∀ d ∈ notes, d.act = .note .error ("Unexpected error polling " ++ id))
          ∧ (goesOn = .ok false ↔ MissesWatch id poll)
          ∧ Heeds poll goesOn ∧ ∀ f, goesOn = .error f → f.kind = .exit) := by
  unfold Reach.round at h
  obtain ⟨_, _, rest, rfl, hlook, hrest⟩ := h.bind_inv
  obtain ⟨check, rfl, rfl⟩ := hlook.look_inv
  refine ⟨check, rest, rfl, ?_⟩
  cases hcurrent : check.monitor.isCurrent id number with
  | false =>
      rw [hcurrent] at hrest
      obtain ⟨rfl, rfl⟩ := hrest.done_inv
      exact .inl ⟨rfl, rfl, rfl⟩
  | true =>
      rw [hcurrent] at hrest
      obtain ⟨poll, outcome, notes, rfl, hpoll, hnotes⟩ := hrest.bind_inv
      have hmisses := hpoll.detect_cases.notFound_iff
      have hheeds := hpoll.detect_cases.heeds
      -- the worker looks at nothing but the kind of a failure
      refine .inr ⟨rfl, poll, outcome, notes, rfl, hpoll, ?_⟩
      rw [← hmisses]
      cases outcome with
      | ok answer =>
          obtain ⟨rfl, rfl⟩ := hnotes.done_inv
          exact ⟨by simp, by simp, hheeds.congr (by simp), nofun⟩
      | error f =>
          dsimp only at hnotes
          split at hnotes
          · next hkind =>
            obtain ⟨rfl, rfl⟩ := hnotes.done_inv
            have hfound : f.kind = .notFound := eq_of_beq hkind
            exact ⟨by simp, by simp [hfound], hheeds.congr (by simp [hfound]), nofun⟩
          · next hkind =>
            have hother : ¬∃ g, (.error f : Except Failure (Bool × Activity)) = .error g
                ∧ g.kind = .notFound := by
              rintro ⟨_, ⟨⟩, hfound⟩
              exact hkind (by simp [hfound])
            split at hnotes
            · next hown =>
              -- the message of such a failure can always be made
              rw [Failure.text_of_isOwn hown] at hnotes
              obtain ⟨rfl, rfl⟩ := hnotes.done_inv
              have hstays : ¬f.kind = .exit := kind_ne_exit_of_isOwn hown
              exact ⟨by simp, iff_of_false nofun hother,
                hheeds.congr (iff_of_false (by simpa using hstays) (not_isExit_ok _)), nofun⟩
            · split at hnotes
              · next hexit =>
                obtain ⟨rfl, rfl⟩ := hnotes.done_inv
                refine ⟨by simp, iff_of_false nofun hother, hheeds.congr (by simp), ?_⟩
                rintro _ ⟨⟩
                exact eq_of_beq hexit
              · next hstays =>
                obtain ⟨_, _, _, rfl, hnote, hdone⟩ := hnotes.bind_inv
                obtain ⟨note, rfl, -⟩ := hnote.one_inv
                obtain ⟨rfl, rfl⟩ := hdone.done_inv
                exact ⟨by simp, iff_of_false nofun hother,
                  hheeds.congr (iff_of_false (by simpa using hstays) (not_isExit_ok _)), nofun⟩

-- ===================================================== the loop

/-- A worker that finds the monitor shut down does nothing else. -/
theorem Tick.regular_of_shutDown {wait : List (Deed η)} (hlooks : ∀ d ∈ wait, d.act = .look)
    (hshut : ∃ d ∈ wait, d.scene.monitor.isShutDown) :
    Tick.IsRegular site id number { wait } where
  waits := by
    obtain ⟨d, hd, -⟩ := hshut
    exact ⟨List.ne_nil_of_mem hd, hlooks⟩
  stops _ := ⟨rfl, rfl⟩
  checks hopen := absurd hshut hopen
  leaves _ := rfl
  polls hopen := absurd hshut hopen
  notes := by simp

section Open

variable {wait : List (Deed η)} {check : Scene η}

/-- A worker whose watch is not the current one does nothing behind its check. -/
theorem Tick.regular_of_replaced (hne : wait ≠ []) (hlooks : ∀ d ∈ wait, d.act = .look)
    (hopen : ¬∃ d ∈ wait, d.scene.monitor.isShutDown)
    (hreplaced : check.monitor.isCurrent id number = false) :
    Tick.IsRegular site id number { wait, checks := [⟨.look, check⟩] } where
  waits := ⟨hne, hlooks⟩
  stops hshut := absurd hshut hopen
  checks _ := ⟨check, rfl⟩
  leaves _ := rfl
  polls _ hstays := absurd ⟨_, List.mem_singleton_self _, hreplaced⟩ hstays
  notes := by simp

/-- Any other one polls its session. -/
theorem Tick.regular_of_polled {poll notes : List (Deed η)}
    {outcome : Except Failure (Bool × Activity)} (hne : wait ≠ [])
    (hlooks : ∀ d ∈ wait, d.act = .look) (hopen : ¬∃ d ∈ wait, d.scene.monitor.isShutDown)
    (hcurrent : check.monitor.isCurrent id number = true)
    (hpoll : (site.reach.detect id Reach.pollTrigger).Does poll outcome)
    (hnotes : ∀ d ∈ notes, d.act = .note .error ("Unexpected error polling " ++ id)) :
    Tick.IsRegular site id number ⟨wait, [⟨.look, check⟩], [poll], notes⟩ where
  waits := ⟨hne, hlooks⟩
  stops hshut := absurd hshut hopen
  checks _ := ⟨check, rfl⟩
  leaves := by
    rintro ⟨d, hd, hreplaced⟩
    obtain rfl := List.mem_singleton.1 hd
    rw [hcurrent] at hreplaced
    cases hreplaced
  polls _ _ := ⟨poll, outcome, rfl, hpoll⟩
  notes := hnotes

/-- A tick that has come to poll its session is the last one if and only if that finds no
watch. -/
theorem Tick.isLast_iff {poll notes : List (Deed η)}
    (hopen : ¬∃ d ∈ wait, d.scene.monitor.isShutDown)
    (hcurrent : check.monitor.isCurrent id number = true) :
    Tick.IsLast id number ⟨wait, [⟨.look, check⟩], [poll], notes⟩ ↔ MissesWatch id poll := by
  let t : Tick η := ⟨wait, [⟨.look, check⟩], [poll], notes⟩
  have hgoes : ¬t.FindsShutDown := hopen
  have hstays : ¬t.FindsReplaced id number := by
    simp [t, Tick.FindsReplaced, hcurrent]
  rw [Tick.IsLast, or_iff_right hgoes, or_iff_right hstays]
  simp [Tick.FindsNone]

end Open

/-- One tick of the loop of a worker. Either something has ended the worker, or it was given the
order to end the program, or the loop goes on behind the tick. -/
theorem Task.Does.tick_cases {waits : Nat} {rest : List (Task η Unit)}
    {result : Except Failure (Nat × Nat)}
    (h : (site.reach.work id number waits (pure () :: rest)).Does deeds result) :
    ∃ (t : Tick η) (later : List (Deed η)), deeds = t.deeds ++ later
      ∧ t.IsRegular site id number
      ∧ (t.IsLast id number ∧ ¬t.FindsExit ∧ later = [] ∧ (∃ left, result = .ok (waits + 1, left))
        ∨ ¬t.IsLast id number ∧ t.FindsExit ∧ later = []
          ∧ (∃ f, result = .error f ∧ f.kind = .exit)
        ∨ ¬t.IsLast id number ∧ ¬t.FindsExit
          ∧ (site.reach.work id number (waits + 1) rest).Does later result) := by
  have hunpolled {t : Tick η} (ht : t.detections = []) : ¬t.FindsExit := by
    rintro ⟨poll, hpoll, -⟩
    rw [ht] at hpoll
    cases hpoll
  unfold Reach.work at h
  obtain ⟨_, _, awaited, rfl, hfirst, hawaited⟩ := h.bind_inv
  obtain ⟨first, rfl, rfl⟩ := hfirst.look_inv
  split at hawaited
  · -- the wait is over at once
    next hshut =>
    obtain ⟨rfl, rfl⟩ := hawaited.done_inv
    have hfinds : ∃ d ∈ [(⟨.look, first⟩ : Deed η)], d.scene.monitor.isShutDown := by
      simpa using hshut
    exact ⟨{ wait := [⟨.look, first⟩] }, [], rfl, Tick.regular_of_shutDown (by simp) hfinds,
      .inl ⟨.inl hfinds, hunpolled rfl, rfl, _, rfl⟩⟩
  · next hbefore =>
    -- nothing else happens in the wait here: the scenes say what everybody else does
    obtain ⟨_, _, ended, rfl, hnothing, hended⟩ := hawaited.bind_inv
    obtain ⟨rfl, -⟩ := hnothing.done_inv
    obtain ⟨_, _, rounded, rfl, hsecond, hrounded⟩ := hended.bind_inv
    obtain ⟨second, rfl, rfl⟩ := hsecond.look_inv
    split at hrounded
    · next hshut =>
      obtain ⟨rfl, rfl⟩ := hrounded.done_inv
      have hfinds : ∃ d ∈ [(⟨.look, first⟩ : Deed η), ⟨.look, second⟩],
          d.scene.monitor.isShutDown := by
        simp [hshut]
      exact ⟨{ wait := [⟨.look, first⟩, ⟨.look, second⟩] }, [], rfl,
        Tick.regular_of_shutDown (by simp) hfinds, .inl ⟨.inl hfinds, hunpolled rfl, rfl, _, rfl⟩⟩
    · next hafter =>
      have hopen : ¬∃ d ∈ [(⟨.look, first⟩ : Deed η), ⟨.look, second⟩],
          d.scene.monitor.isShutDown := by
        simp [hbefore, hafter]
      obtain ⟨_, goesOn, later, rfl, hround, hlater⟩ := hrounded.bind_inv
      obtain ⟨check, polled, rfl, hcheck⟩ := hround.round_cases
      rcases hcheck with ⟨hreplaced, rfl, rfl⟩
        | ⟨hcurrent, poll, outcome, notes, rfl, hpoll, hnotes, hmisses, hheeds, hexits⟩
      · obtain ⟨rfl, rfl⟩ := hlater.done_inv
        exact ⟨_, [], rfl,
          Tick.regular_of_replaced (List.cons_ne_nil _ _) (by simp) hopen hreplaced,
          .inl ⟨.inr (.inl ⟨_, List.mem_singleton_self _, hreplaced⟩), hunpolled rfl, rfl, _, rfl⟩⟩
      · refine ⟨_, later, ?_, Tick.regular_of_polled (List.cons_ne_nil _ _) (by simp) hopen hcurrent
          hpoll hnotes, ?_⟩
        · simp [Tick.deeds]
        · have hfinds : Tick.FindsExit ⟨[⟨.look, first⟩, ⟨.look, second⟩], [⟨.look, check⟩], [poll],
              notes⟩ ↔ IsExit goesOn := by
            refine Iff.trans ?_ hheeds
            simp [Tick.FindsExit]
          rw [Tick.isLast_iff hopen hcurrent, ← hmisses, hfinds]
          match goesOn with
          | .ok false =>
              obtain ⟨rfl, rfl⟩ := hlater.done_inv
              exact .inl ⟨rfl, not_isExit_ok _, rfl, _, rfl⟩
          | .ok true => exact .inr (.inr ⟨by simp, not_isExit_ok _, hlater⟩)
          | .error f =>
              obtain ⟨rfl, rfl⟩ := hlater.done_inv
              exact .inr (.inl ⟨nofun, isExit_error.2 (hexits f rfl), rfl, f, rfl, hexits f rfl⟩)

/-- What the loop of a worker comes to that has waited some times before, and the ticks that it has
done of as many as it is followed: it is over behind a tick in which something was found that ends
a worker, or it waits again behind all of them; or it was given the order to end the program
in the last one. -/
def Tick.Ends (id : String) (number waits n : Nat) (ticks : List (Tick η)) :
    Except Failure (Nat × Nat) → Prop
  | .ok (total, _) =>
    ticks.length ≤ n ∧ (total = waits + ticks.length ∨ total = waits + n + 1 ∧ ticks.length = n)
      ∧ ∀ k t, ticks[k]? = some t →
        ¬t.FindsExit ∧ (t.IsLast id number ↔ total = waits + k + 1)
  | .error f => f.kind = .exit ∧ 0 < ticks.length ∧ ticks.length ≤ n
      ∧ ∀ k t, ticks[k]? = some t → ¬t.IsLast id number ∧ (t.FindsExit ↔ ticks.length = k + 1)

/-- A tick that ends nothing comes before the ticks behind it. -/
theorem Tick.Ends.cons {waits n : Nat} {t : Tick η} {ticks : List (Tick η)}
    {result : Except Failure (Nat × Nat)} (h : Tick.Ends id number (waits + 1) n ticks result)
    (hlate : ∀ total left, result = .ok (total, left) → waits + 1 < total)
    (hgoes : ¬t.IsLast id number) (hstays : ¬t.FindsExit) :
    Tick.Ends id number waits (n + 1) (t :: ticks) result := by
  match result with
  | .ok (total, left) =>
      obtain ⟨hle, htotal, hticks⟩ := h
      have hlater := hlate total left rfl
      refine ⟨Nat.succ_le_succ hle, by rw [List.length_cons]; omega, ?_⟩
      intro k t' hk
      cases k with
      | zero =>
          obtain rfl : t = t' := by simpa using hk
          exact ⟨hstays, iff_of_false hgoes (by omega)⟩
      | succ k =>
          obtain ⟨hnot, hlast⟩ := hticks k t' (by simpa using hk)
          exact ⟨hnot, hlast.trans (by omega)⟩
  | .error f =>
      obtain ⟨hkind, hpos, hle, hticks⟩ := h
      refine ⟨hkind, Nat.succ_pos _, Nat.succ_le_succ hle, ?_⟩
      intro k t' hk
      cases k with
      | zero =>
          obtain rfl : t = t' := by simpa using hk
          exact ⟨hgoes, iff_of_false hstays (by rw [List.length_cons]; omega)⟩
      | succ k =>
          obtain ⟨hnot, hexit⟩ := hticks k t' (by simpa using hk)
          exact ⟨hnot, hexit.trans (by rw [List.length_cons]; omega)⟩

/-- The loop of a worker that has waited some times before, tick by tick. -/
theorem Task.Does.ticks_of_work {n waits : Nat} {result : Except Failure (Nat × Nat)}
    (h : (site.reach.work id number waits (List.replicate n (pure ()))).Does deeds result) :
    (∀ total left, result = .ok (total, left) → waits < total)
      ∧ ∃ ticks : List (Tick η), deeds = ticks.flatMap Tick.deeds
        ∧ (∀ t ∈ ticks, t.IsRegular site id number)
        ∧ Tick.Ends id number waits n ticks result := by
  -- on the ticks that are left; the waits before count on
  induction n generalizing waits deeds with
  | zero =>
      obtain ⟨rfl, rfl⟩ := h.done_inv
      refine ⟨?_, [], rfl, by simp, Nat.le_refl 0, .inr ⟨rfl, rfl⟩, by simp⟩
      rintro _ _ ⟨⟩
      exact Nat.lt_succ_self _
  | succ n ih =>
      rw [List.replicate_succ] at h
      obtain ⟨t, later, rfl, hregular, ⟨hlast, hstays, rfl, left, rfl⟩
        | ⟨hgoes, hexit, rfl, f, rfl, hkind⟩ | ⟨hgoes, hstays, hlater⟩⟩ := h.tick_cases
      · refine ⟨?_, [t], by simp, by simpa using hregular, Nat.succ_pos n, .inl rfl, ?_⟩
        · rintro _ _ ⟨⟩
          exact Nat.lt_succ_self _
        · intro k t' hk
          obtain ⟨rfl, rfl⟩ : k = 0 ∧ t = t' := by simpa [List.getElem?_singleton] using hk
          exact ⟨hstays, iff_of_true hlast rfl⟩
      · refine ⟨nofun, [t], by simp, by simpa using hregular, hkind, Nat.one_pos,
          Nat.succ_pos n, ?_⟩
        intro k t' hk
        obtain ⟨rfl, rfl⟩ : k = 0 ∧ t = t' := by simpa [List.getElem?_singleton] using hk
        exact ⟨hgoes, iff_of_true hexit rfl⟩
      · obtain ⟨hlate, ticks, rfl, hall, hends⟩ := ih hlater
        refine ⟨?_, t :: ticks, by simp, List.forall_mem_cons.2 ⟨hregular, hall⟩,
          hends.cons hlate hgoes hstays⟩
        intro total left hresult
        exact Nat.lt_of_succ_lt (hlate total left hresult)

/-- A monitor of one session, with one hook. -/
def soleWatch : Monitor String where
  watches := [("a", 0, { id := "a", pid := 10, lastChange := Time.Stamp.midnight ⟨2024, 6, 15⟩ })]
  hooks := ["h"]
  nextNumber := 1

/-- A scene in which the process is busy, and all else says that it finds no session. -/
def missingScene : Scene String where
  now := Time.Stamp.midnight ⟨2024, 6, 15⟩
  world :=
    { pid := .error (.unknownSession "a")
      output := .error (.unknownSession "a")
      code := .ok "R"
      stored := .error (.unknownSession "a")
      called := .error (.unknownSession "a") }
  monitor := soleWatch

/-- Three ticks of a worker that finds such scenes. -/
def missedPolls : List (Deed String) × Except Failure (Nat × Nat) :=
  ((Site.reach ⟨true, fun hook => hook⟩).work "a" 0 0 (List.replicate 3 (pure ()))).play
    fun _ => missingScene

end PaneWatch.Monitor
