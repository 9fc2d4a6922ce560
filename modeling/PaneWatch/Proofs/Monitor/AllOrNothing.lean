/-
A detection is all or nothing.

What becomes of a detection is settled by what the two signals say. If they cannot be read it
fails and nothing has changed, and if they say what is known already nothing has changed either.
Otherwise exactly one change is committed, and no failure of the store or of a hook that is held up
keeps the detection from answering with the change (`detect_all_or_nothing`). What is not held up
ends it, with the change made all the same. `Changed` says what the change has touched, and that
everything else is as it was. The entry that it touches is the one that is filed under the ID of
the session (`detect_by_key`).
-/
import PaneWatch.Proofs.Monitor.Room
import PaneWatch.Proofs.Registry.Reconcile

namespace PaneWatch.Monitor

open Session (Record)
open Time (Stamp)

variable {η ω : Type}

/-- That exactly one change of a session was committed, and stored where that could be done, and
that hooks were told of nothing else. -/
structure Changed (s : Surroundings η ω) (id : String) (w : Watch) (t : Transition)
    (r r' : Room η ω) : Prop where
  watch : r'.monitor.find id = .ok { w with
    current := t.target, lastChange := t.time, history := Signal.lastOf 100 (w.history ++ [t]) }
  others : ∀ other, other ≠ id → r'.monitor.watch? other = r.monitor.watch? other
  roster : r'.monitor.roster = r.monitor.roster
  monitor : r'.monitor = { r.monitor with watches := r'.monitor.watches }
  entry : s.isStored → ∀ e : Record, r.registry.find? id = some e → s.copy e = .ok () →
    e.isWritable →
    r'.registry.find? id = some { e with lastState := t.target, lastAccess := t.time }
  entries : ∀ other, other ≠ id → r'.registry.find? other = r.registry.find? other
  keys : r'.registry.sessions.keys = r.registry.sessions.keys
  /-- Where there is nothing to store to, nothing is stored. -/
  unstored : (s.isStored → ∀ e : Record, r.registry.find? id = some e → s.copy e = .ok () →
    e.isWritable = false) → r'.registry = r.registry
  /-- The first ones of the hooks were called, once each and in order. -/
  calls : ∃ told, told <+: announcements r.monitor.hooks (id, t) ∧ r'.calls = r.calls ++ told

/-- How a detection ends that has made a change: it answers with it and has called all hooks, or
something has gone wrong that is not held up. -/
def Answers (s : Surroundings η ω) (id : String) (t : Transition) (r r' : Room η ω) :
    Except Failure (Bool × Activity) → Prop
  | .ok (isChange, a) => isChange = true ∧ a = t.target
    ∧ r'.calls = r.calls ++ announcements r.monitor.hooks (id, t)
  | .error f => f.kind.isOwn = false ∧ ¬s.HoldsUp

variable {s : Surroundings η ω} {r : Room η ω} {id trigger : String} {w : Watch}

-- ===================================================== the steps of a detection

/-- What the two signals say of a session, and the surroundings after they have been asked. -/
def Surroundings.signals (s : Surroundings η ω) (r : Room η ω) (id : String) (w : Watch) :
    Except Failure Activity × ω :=
  (Signal.classify r.monitor.table id (s.capture id) (s.probe w.pid)).run r.around

/-- What a commit does that finds another activity than the current one. -/
theorem commit_of_ne {m : Monitor η} {a : Activity} (hw : m.find id = .ok w) (ha : a ≠ w.current)
    (now : Stamp) (trigger : String) : m.commit now id a trigger
      = (.ok (some ⟨w.current, a, now, trigger⟩),
        m.setWatch id (w.record ⟨w.current, a, now, trigger⟩)) := by
  have hne : (w.current == a) = false := by simpa using Ne.symm ha
  simp [commit, hw, hne]

/-- The watch has taken the change then. -/
theorem took_of_ne {m : Monitor η} {a : Activity} (hw : m.find id = .ok w) (ha : a ≠ w.current)
    (now : Stamp) (trigger : String) :
    ∃ n, Took m id ⟨w.current, a, now, trigger⟩ n w
      (m.setWatch id (w.record ⟨w.current, a, now, trigger⟩)) := by
  have hcommit := commit_of_ne hw ha now trigger
  rcases commit_cases m now id a trigger with ⟨t, n, w', hok, -, -, -, htook⟩ | ⟨hnone, -⟩
  · rw [hcommit] at hok htook
    cases hok
    have hsame : m.find id = .ok w' := find_eq_ok.2 ⟨n, htook.before⟩
    rw [hw] at hsame
    cases hsame
    exact ⟨n, htook⟩
  · exact absurd (by rw [hcommit]) (hnone ⟨w.current, a, now, trigger⟩)

/-- A detection asks for its signals in the room it is in. -/
private theorem run_classify (s : Surroundings η ω) (r : Room η ω) (id : String) (w : Watch) :
    (Signal.classify r.monitor.table id (s.reach.capture id) (s.reach.probe w.pid)).run r
      = ((s.signals r id w).1, { r with around := (s.signals r id w).2 }) := by
  show (Signal.classify r.monitor.table id (Room.ask (s.capture id))
    (Room.ask (s.probe w.pid))).run r = _
  rw [ask_classify]
  rfl

/-- A detection of a session that is not watched fails at once. -/
theorem run_detect_unwatched {f : Failure} (hfind : r.monitor.find id = .error f) :
    (s.reach.detect id trigger).run r = (.error f, r) := by
  unfold Reach.detect
  rw [run_bind, run_look, hfind]
  rfl

/-- If the signals cannot be read, the detection fails. -/
theorem run_detect_failed {f : Failure} {around : ω} (hw : r.monitor.find id = .ok w)
    (hsignals : s.signals r id w = (.error f, around)) :
    (s.reach.detect id trigger).run r = (.error f, { r with around }) := by
  unfold Reach.detect
  rw [run_bind, run_look, hw]
  dsimp only
  rw [run_bind, run_classify, hsignals]
  rfl

/-- A commit of what is known already changes nothing. -/
theorem run_commit_same (hw : r.monitor.find id = .ok w) :
    (s.reach.commit id w.current trigger).run r = (.ok none, r) := by
  have hrecord : (s.reach.record id w.current trigger).run r = (.ok none, r) := by
    have hcommit : r.monitor.commit (s.now r.around) id w.current trigger
        = (.ok none, r.monitor) := by
      simp [commit, hw]
    show ((r.monitor.commit (s.now r.around) id w.current trigger).1,
      { r with monitor := (r.monitor.commit (s.now r.around) id w.current trigger).2 }) = _
    rw [hcommit]
  unfold Reach.commit
  rw [run_bind, hrecord]
  rfl

/-- A commit of anything else is one change. -/
theorem run_commit_changed {a : Activity} (hw : r.monitor.find id = .ok w) (ha : a ≠ w.current) :
    let t : Transition := ⟨w.current, a, s.now r.around, trigger⟩
    (s.reach.commit id a trigger).run r
      = (.ok (some t), { r with
        monitor := r.monitor.setWatch id (w.record t)
        log := r.log ++ [⟨.info, Reach.changeText id t⟩] }) := by
  intro t
  have hrecord : (s.reach.record id a trigger).run r
      = (.ok (some t), { r with monitor := r.monitor.setWatch id (w.record t) }) := by
    show ((r.monitor.commit (s.now r.around) id a trigger).1,
      { r with monitor := (r.monitor.commit (s.now r.around) id a trigger).2 }) = _
    rw [commit_of_ne hw ha]
  unfold Reach.commit
  rw [run_bind, hrecord]
  rfl

/-- If they say what is known already, there is no change. -/
theorem run_detect_same {around : ω} (hw : r.monitor.find id = .ok w)
    (hsignals : s.signals r id w = (.ok w.current, around)) :
    (s.reach.detect id trigger).run r = (.ok (false, w.current), { r with around }) := by
  have hsame : ({ r with around } : Room η ω).monitor.find id = .ok w := hw
  unfold Reach.detect
  rw [run_bind, run_look, hw]
  dsimp only
  rw [run_bind, run_classify, hsignals]
  dsimp only
  rw [run_bind, run_commit_same hsame]
  rfl

/-- If they say anything else, it goes on to store and to announce the change, and answers with it
unless one of the two fails. -/
theorem run_detect_commit {a : Activity} {around : ω} {t : Transition} {r₁ : Room η ω}
    (hw : r.monitor.find id = .ok w) (hsignals : s.signals r id w = (.ok a, around))
    (hcommit : (s.reach.commit id a trigger).run { r with around } = (.ok (some t), r₁)) :
    let stored := (s.reach.writeThrough id t).run r₁
    let announced := (s.reach.announce id t).run stored.2
    (s.reach.detect id trigger).run r
      = match stored.1, announced.1 with
        | .error f, _ => (.error f, stored.2)
        | .ok _, .error f => (.error f, announced.2)
        | .ok _, .ok _ => (.ok (true, a), announced.2) := by
  intro stored announced
  unfold Reach.detect
  rw [run_bind, run_look, hw]
  dsimp only
  rw [run_bind, run_classify, hsignals]
  dsimp only
  rw [run_bind, hcommit]
  dsimp only
  rw [run_bind]
  show StateT.run (match stored.1 with
    | .error f => _
    | .ok _ => _) stored.2 = _
  cases hstored : stored.1 with
  | error f => rfl
  | ok u =>
      dsimp only
      rw [run_bind]
      show StateT.run (match announced.1 with
        | .error f => _
        | .ok _ => _) announced.2 = _
      cases announced.1 <;> rfl

-- ===================================================== what is left of a change

section Leavings

variable {t : Transition} {r₁ r₂ r₃ : Room η ω}

variable {stored announced : Except Failure Unit}

/-- An entry that can be copied and written has the new state and time. -/
theorem Filed.entry (h : Filed s id t r₁ stored r₂) (hstored : s.isStored) {e : Record}
    (he : r₁.registry.find? id = some e) (hcopy : s.copy e = .ok ()) (hwritable : e.isWritable) :
    r₂.registry.find? id = some { e with lastState := t.target, lastAccess := t.time } := by
  have hcopied : s.copied r₁.registry id = .ok () := by
    rw [Surroundings.copied, he]
    exact hcopy
  rw [h.registry, hstored, hcopied]
  exact Registry.find?_stateUpdate he hwritable t.target t.time _

/-- All other entries stay as they are. -/
theorem Filed.entries (h : Filed s id t r₁ stored r₂) {other : String} (hother : other ≠ id) :
    r₂.registry.find? other = r₁.registry.find? other := by
  rw [h.registry]
  split
  · exact Registry.find?_update_ne hother _ _ r₁.registry
  · rfl

/-- And nobody is added or removed. -/
theorem Filed.keys (h : Filed s id t r₁ stored r₂) :
    r₂.registry.sessions.keys = r₁.registry.sessions.keys := by
  rw [h.registry]
  split
  · exact Registry.keys_stateUpdate r₁.registry id t.target t.time _
  · rfl

/-- Where the entry cannot be written nothing is stored. -/
private theorem Filed.unstored (h : Filed s id t r₁ stored r₂)
    (hunstored : s.isStored → ∀ e : Record, r₁.registry.find? id = some e → s.copy e = .ok () →
      e.isWritable = false) : r₂.registry = r₁.registry := by
  rw [h.registry]
  split
  · next hfiled =>
    rw [Bool.and_eq_true] at hfiled
    refine Registry.effect_stateUpdate_eq_self ?_ t.target t.time _
    intro e he
    refine hunstored hfiled.1 e he ?_
    have hcopied := hfiled.2
    rw [Surroundings.copied, he] at hcopied
    cases hcopy : s.copy e with
    | error f =>
        rw [Option.elim_some, hcopy] at hcopied
        cases hcopied
    | ok u => rfl
  · rfl

/-- An entry that cannot be copied ends a detection only where copies fail in such ways. -/
theorem Filed.not_holdsUp (h : Filed s id t r₁ stored r₂) {f : Failure} (hf : stored = .error f) :
    f.kind.isOwn = false ∧ ¬s.HoldsUp := by
  obtain ⟨hforeign, hcopied⟩ := h.left f hf
  refine ⟨hforeign, fun hs => ?_⟩
  rw [Surroundings.copied] at hcopied
  cases hfind : r₁.registry.find? id with
  | none =>
      rw [hfind] at hcopied
      cases hcopied
  | some e =>
      rw [hfind] at hcopied
      rw [hs.copies e f hcopied] at hforeign
      cases hforeign

/-- A change that was committed and then stored is one, whatever was told of it. -/
theorem changed_of_filed {n : Nat} {told : List (η × Notification)}
    (htook : Took r.monitor id t n w r₁.monitor)
    (hcommit : r₁.monitor = r.monitor.setWatch id (w.record t))
    (hregistry : r₁.registry = r.registry) (hfiled : Filed s id t r₁ stored r₂)
    (hmonitor : r₃.monitor = r₂.monitor) (hkept : r₃.registry = r₂.registry)
    (htold : told <+: announcements r.monitor.hooks (id, t)) (hcalls : r₃.calls = r.calls ++ told) :
    Changed s id w t r r₃ := by
  have hcommitted : r₃.monitor = r₁.monitor := hmonitor.trans hfiled.monitor
  exact {
    watch := by
      rw [hcommitted]
      exact find_eq_ok.2 ⟨n, htook.self⟩
    others := by
      intro other hother
      rw [hcommitted]
      exact htook.other other hother
    roster := by
      rw [hcommitted, hcommit]
      exact roster_setWatch r.monitor id (w.record t)
    monitor := by
      rw [hcommitted, hcommit]
      rfl
    entry := by
      intro hstored e he hcopy hwritable
      rw [hkept]
      rw [← hregistry] at he
      exact hfiled.entry hstored he hcopy hwritable
    entries := by
      intro other hother
      rw [hkept, hfiled.entries hother, hregistry]
    keys := by
      rw [hkept, hfiled.keys, hregistry]
    unstored := by
      intro hunstored
      rw [← hregistry] at hunstored
      rw [hkept, hfiled.unstored hunstored, hregistry]
    calls := ⟨told, htold, hcalls⟩ }

end Leavings

/-- Such a detection makes exactly one change. -/
theorem run_detect_changed {a : Activity} {around : ω} (hw : r.monitor.find id = .ok w)
    (hsignals : s.signals r id w = (.ok a, around)) (ha : a ≠ w.current) (trigger : String) :
    let t : Transition := ⟨w.current, a, s.now around, trigger⟩
    let done := (s.reach.detect id trigger).run r
    Changed s id w t r done.2 ∧ Answers s id t r done.2 done.1 := by
  intro t done
  let r₁ : Room η ω := { r with
    around
    monitor := r.monitor.setWatch id (w.record t)
    log := r.log ++ [⟨.info, Reach.changeText id t⟩] }
  have hsame : ({ r with around } : Room η ω).monitor.find id = .ok w := hw
  have hcommit : (s.reach.commit id a trigger).run { r with around } = (.ok (some t), r₁) :=
    run_commit_changed hsame ha
  obtain ⟨n, htook⟩ := took_of_ne hw ha (s.now around) trigger
  -- nobody else has committed in between, so what is stored is the change itself
  have hlatest : r₁.monitor.latest id t = (t.target, t.time) := by
    rw [latest, find_eq_ok.2 ⟨n, htook.self⟩]
    rfl
  have hfiled := filed_writeThrough (s := s) hlatest
  let r₂ := ((s.reach.writeThrough id t).run r₁).2
  have hhooks : r₂.monitor.hooks = r.monitor.hooks := by
    rw [hfiled.monitor]
    rfl
  have htold : Told s (announcements r₂.monitor.hooks (id, t)) r₂ ((s.reach.announce id t).run r₂).1
      ((s.reach.announce id t).run r₂).2 := told_announce t
  rw [hhooks] at htold
  obtain ⟨told, hbegins, hcalls, hall⟩ := htold.calls
  have hcalled : ((s.reach.announce id t).run r₂).2.calls = r.calls ++ told := by
    rw [hcalls, hfiled.calls]
  have hset : r₁.monitor = r.monitor.setWatch id (w.record t) := rfl
  have hmade := changed_of_filed htook hset rfl hfiled htold.monitor htold.registry hbegins hcalled
  have hdone : done = _ := run_detect_commit hw hsignals hcommit
  rw [hdone]
  cases hstored : ((s.reach.writeThrough id t).run r₁).1 with
  | error f =>
      refine ⟨changed_of_filed htook hset rfl hfiled rfl rfl List.nil_prefix ?_,
        hfiled.not_holdsUp hstored⟩
      rw [hfiled.calls, List.append_nil]
  | ok u =>
      cases hannounced : ((s.reach.announce id t).run r₂).1 with
      | error f => exact ⟨hmade, htold.left f hannounced⟩
      | ok u =>
          refine ⟨hmade, rfl, rfl, ?_⟩
          rw [hcalled, hall hannounced]

/-- A detection begins and ends no watch. -/
theorem roster_detect (s : Surroundings η ω) (r : Room η ω) (id trigger : String) :
    ((s.reach.detect id trigger).run r).2.monitor.roster = r.monitor.roster := by
  cases hfind : r.monitor.find id with
  | error f => rw [run_detect_unwatched hfind]
  | ok w =>
      rcases hsignals : s.signals r id w with ⟨f | a, around⟩
      · rw [run_detect_failed hfind hsignals]
      · by_cases ha : a = w.current
        · subst ha
          rw [run_detect_same hfind hsignals]
        · exact (run_detect_changed hfind hsignals ha trigger).1.roster

/-- A round of a worker leaves the monitor as it is or as a detection does. -/
theorem monitor_round (s : Surroundings η ω) (r : Room η ω) (id : String) (number : Nat) :
    ((s.reach.round id number).run r).2.monitor = r.monitor
      ∨ ((s.reach.round id number).run r).2.monitor
        = ((s.reach.detect id Reach.pollTrigger).run r).2.monitor := by
  unfold Reach.round
  rw [run_bind, run_look]
  cases r.monitor.isCurrent id number with
  | false => exact .inl rfl
  | true =>
      -- behind the detection a round can only log
      right
      show ((_ >>= _ : StateM (Room η ω) (Except Failure Bool)).run r).2.monitor = _
      rw [run_bind]
      split
      · rfl
      · split
        · rfl
        · split
          · rfl
          · split
            · rfl
            · rfl

/-- Nor does a round of a worker begin or end one. -/
theorem roster_round (s : Surroundings η ω) (r : Room η ω) (id : String) (number : Nat) :
    ((s.reach.round id number).run r).2.monitor.roster = r.monitor.roster := by
  rcases monitor_round s r id number with hkept | hdetected
  · rw [hkept]
  · rw [hdetected, roster_detect]

-- ===================================================== the whole

/-- For every room, every session that is watched in it and whatever its signals say: the detection
fails with what keeps it from classifying and changes nothing, or it answers that there is no change
and changes nothing, or it makes exactly one change and answers with it. The surroundings have been
asked in any case. Where what fails behind the commit is held up, nothing keeps the detection from
answering; else it may end with what is not held up, and the change is made all the same. -/
theorem detect_all_or_nothing (s : Surroundings η ω) (r : Room η ω) (id : String) (w : Watch)
    (hw : r.monitor.find id = .ok w) :
    let (said, around) := s.signals r id w
    let (outcome, r') := (s.reach.detect id Reach.demandTrigger).run r
    (∃ f, said = .error f ∧ outcome = .error f ∧ r' = { r with around })
      ∨ (said = .ok w.current ∧ outcome = .ok (false, w.current) ∧ r' = { r with around })
      ∨ ∃ a, a ≠ w.current ∧ said = .ok a
        ∧ Changed s id w ⟨w.current, a, s.now around, Reach.demandTrigger⟩ r r'
        ∧ Answers s id ⟨w.current, a, s.now around, Reach.demandTrigger⟩ r r' outcome
        ∧ (s.HoldsUp → outcome = .ok (true, a)) := by
  rcases hsignals : s.signals r id w with ⟨f | a, around⟩
  · rw [run_detect_failed hw hsignals]
    exact .inl ⟨f, rfl, rfl, rfl⟩
  · by_cases ha : a = w.current
    · subst ha
      rw [run_detect_same hw hsignals]
      exact .inr (.inl ⟨rfl, rfl, rfl⟩)
    · have hchanged := run_detect_changed hw hsignals ha Reach.demandTrigger
      rcases hrun : (s.reach.detect id Reach.demandTrigger).run r with ⟨outcome, r'⟩
      rw [hrun] at hchanged
      obtain ⟨hmade, hanswers⟩ := hchanged
      refine .inr (.inr ⟨a, ha, rfl, hmade, hanswers, fun hs => ?_⟩)
      cases outcome with
      | error f => exact absurd hs hanswers.2
      | ok answer =>
          obtain ⟨hchange, hactivity, -⟩ := hanswers
          exact congrArg Except.ok (Prod.ext hchange hactivity)

-- ===================================================== signals that cannot be read

/-- That a question fails in no way but one that comes from an external command. -/
def FailsExternally {α : Type} (question : StateM ω (Except Failure α)) : Prop :=
  ∀ x f, (question.run x).1 = .error f → f.kind.isCommand

/-- That the two questions about a watch do so. -/
structure Surroundings.AsksExternally (s : Surroundings η ω) (id : String) (w : Watch) : Prop where
  output : FailsExternally (s.capture id)
  code : FailsExternally (s.probe w.pid)

/-- That all questions about panes and processes do so, and that what fails behind a commit is held
up. -/
structure Surroundings.IsExternal (s : Surroundings η ω) : Prop extends s.HoldsUp where
  pid : ∀ id, FailsExternally (s.resolvePid id)
  output : ∀ id, FailsExternally (s.capture id)
  code : ∀ pid, FailsExternally (s.probe pid)

theorem Surroundings.IsExternal.asks (hs : s.IsExternal) (id : String) (w : Watch) :
    s.AsksExternally id w := ⟨hs.output id, hs.code w.pid⟩

/-- Whether neither signal of a watch can be read. -/
def Surroundings.isSilent (s : Surroundings η ω) (r : Room η ω) (id : String) (w : Watch) : Bool :=
  let (output, around) := (s.capture id).run r.around
  !output.isOk && !((s.probe w.pid).run around).1.isOk

/-- What fails in a command fails with an error of the program. -/
theorem isOwn_of_isCommand {k : Failure.Kind} (h : k.isCommand) : k.isOwn := by
  cases k <;> first | rfl | cases h

/-- A process that cannot be asked is no failure where the output could be read. -/
theorem ofProbe_none (id : String) {probed : Except Failure String}
    (hown : ∀ f, probed = .error f → f.kind.isOwn) :
    ∃ a, Signal.ofProbe id none probed = .ok a := by
  cases probed with
  | ok code => exact ⟨_, rfl⟩
  | error f => exact ⟨.unknown, by simp [Signal.ofProbe, hown f rfl]⟩

/-- Where it could not, both have failed. -/
theorem ofProbe_some (id : String) {probed : Except Failure String} (output : Failure)
    (hown : ∀ f, probed = .error f → f.kind.isOwn) :
    (probed.isOk = false
        ∧ ∃ f, Signal.ofProbe id (some output) probed = .error f ∧ f.kind = .undetected)
      ∨ probed.isOk ∧ ∃ a, Signal.ofProbe id (some output) probed = .ok a := by
  cases probed with
  | ok code => exact .inr ⟨rfl, _, rfl⟩
  | error f => exact .inl ⟨rfl, .undetected id output f, by simp [Signal.ofProbe, hown f rfl], rfl⟩

/-- A detection cannot classify a session if and only if neither signal can be read. -/
theorem signals_cases (hs : s.AsksExternally id w) (r : Room η ω) :
    (s.isSilent r id w ∧ ∃ f, (s.signals r id w).1 = .error f ∧ f.kind = .undetected)
      ∨ s.isSilent r id w = false ∧ ∃ a, (s.signals r id w).1 = .ok a := by
  unfold Surroundings.isSilent Surroundings.signals Signal.classify
  rw [run_bind]
  -- the process is asked in the surroundings that the capture has left
  rcases hcapture : (s.capture id).run r.around with ⟨captured, around⟩
  have hown (f : Failure) (hf : ((s.probe w.pid).run around).1 = .error f) : f.kind.isOwn :=
    isOwn_of_isCommand (hs.code around f hf)
  cases captured with
  | ok output =>
      refine .inr ⟨rfl, ?_⟩
      dsimp only
      split
      · exact ofProbe_none id hown
      · exact ⟨_, rfl⟩
  | error f =>
      have hf : f.kind.isOwn := isOwn_of_isCommand (hs.output r.around f (by rw [hcapture]))
      dsimp only
      rw [if_pos hf]
      rcases ofProbe_some id f hown with ⟨hfails, hboth⟩ | ⟨hspeaks, hone⟩
      · exact .inl ⟨by rw [hfails]; rfl, hboth⟩
      · exact .inr ⟨by rw [hspeaks]; rfl, hone⟩

-- ===================================================== cases

/-- Surroundings in which panes and hooks fail, and all processes sleep. -/
def failingSurroundings : Surroundings String Unit where
  now _ := Stamp.midnight ⟨2024, 6, 15⟩
  resolvePid id := return .error (.noPanes id)
  capture id := return .error (.noPanes id)
  probe _ := return .ok "S"
  call hook _ _ _ := return .error (.unknownSession hook)
  hookName hook := hook
  isStored := true

/-- A watch that has taken no change. -/
def freshWatch : Watch where
  id := "a"
  pid := 10
  lastChange := Stamp.midnight ⟨2024, 6, 15⟩

/-- A room with two watches, two hooks and a registry that cannot be written. -/
def failingRoom : Room String Unit where
  monitor :=
    { watches := [("a", 0, freshWatch), ("b", 1, { freshWatch with id := "b" })]
      hooks := ["first", "second"]
      nextNumber := 2 }
  registry := Registry.emptyDesk.registry.insert "a" { Registry.sampleSession with id := "a" }
  disk := { Registry.emptyDesk.machine.disk with faults := [(.rename, "denied")] }
  around := ()

/-- The change is made and shown by the entry although the registry cannot be written and every hook
fails. -/
theorem detect_all_or_nothing_failing :
    failingRoom.monitor.find "a" = .ok freshWatch
      ∧ ∃ r', (failingSurroundings.reach.detect "a" Reach.demandTrigger).run failingRoom
          = (.ok (true, .idle), r')
        ∧ Changed failingSurroundings "a" freshWatch
          ⟨.unknown, .idle, Stamp.midnight ⟨2024, 6, 15⟩, Reach.demandTrigger⟩ failingRoom r' := by
  refine ⟨rfl, ?_⟩
  have h := detect_all_or_nothing failingSurroundings failingRoom "a" freshWatch rfl
  have hsignals : failingSurroundings.signals failingRoom "a" freshWatch = (.ok .idle, ()) := rfl
  have hholds : failingSurroundings.HoldsUp := by
    constructor
    · intro e f hf
      cases hf
    · intro hook id source target x f hf
      cases hf
      rfl
  rcases hrun : (failingSurroundings.reach.detect "a" Reach.demandTrigger).run failingRoom
    with ⟨outcome, r'⟩
  rw [hsignals, hrun] at h
  rcases h with ⟨f, hsaid, -⟩ | ⟨hsaid, -⟩ | ⟨a, -, hsaid, hchanged, -, houtcome⟩
  · cases hsaid
  · cases hsaid
  · cases hsaid
    exact ⟨r', Prod.ext (houtcome hholds) rfl, hchanged⟩

/-- A room with a registry that files the second session under the ID of the first one. -/
def strayRoom : Room String Unit where
  monitor := failingRoom.monitor
  registry := Registry.emptyDesk.registry.insert "a" { Registry.sampleSession with id := "b" }
  disk := Registry.emptyDesk.machine.disk
  around := ()

/-- Hooks that give the order to end the program. -/
def endingSurroundings : Surroundings String Unit :=
  { failingSurroundings with call := fun _ _ _ _ => return .error (.told .exit "1") }

/-- What entry a detection touches does not go by its ID. A change of a session may leave the entry
that has its ID as it was, and is shown by that of another session instead, if that one is filed
under the ID. Nor does a detection always answer that has made a change: the order to end the
program, given by a hook, gets through. -/
theorem detect_by_key :
    let detected (s : Surroundings String Unit) (r : Room String Unit) (id : String) :=
      (s.reach.detect id Reach.demandTrigger).run r
    let shown (r : Room String Unit) :=
      r.registry.sessions.entries.map fun e => (e.2.id, e.2.lastState)
    shown strayRoom = [("b", .unknown)]
      ∧ (detected failingSurroundings strayRoom "b").1.toOption = some (true, .idle)
      ∧ shown (detected failingSurroundings strayRoom "b").2 = [("b", .unknown)]
      ∧ (detected failingSurroundings strayRoom "a").1.toOption = some (true, .idle)
      ∧ shown (detected failingSurroundings strayRoom "a").2 = [("b", .idle)]
      ∧ (detected endingSurroundings strayRoom "a").1.toOption = none
      ∧ shown (detected endingSurroundings strayRoom "a").2 = [("b", .idle)] := by
  decide +kernel

end PaneWatch.Monitor
