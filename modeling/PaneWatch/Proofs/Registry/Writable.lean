/-
Whether a registry can be written at all.

The file is written as a whole, so one session without a plain tree blocks the writing of
all others (`exists_encode_iff`). Adding and changing refuse such a session, so a run
brings none into memory (`lasts_writable`). Reading a file does not ask: bytes that are no
text, a list inside itself or too deep, and an integer that is too long come in with the
metadata, and stay until their session is removed or replaced. `stays_writable_iff` says that
this is the only way.
-/
import PaneWatch.Proofs.Registry.Corrupt
import PaneWatch.Proofs.Registry.Entries
import PaneWatch.Proofs.Registry.Reload

namespace PaneWatch.Registry

open Session (Record)
open Time (Stamp)

-- ===================================================== one for all

private theorem isWritable_iff {s : Record} :
    s.isWritable ↔ ∃ tree, s.toJson = .ok tree ∧ tree.isPrintable := by
  unfold Record.isWritable
  cases s.toJson with
  | error why => simp
  | ok tree => simp

/-- The sessions have members that can be printed exactly if each of them is writable. -/
theorem exists_members_iff (entries : List (String × Record)) :
    (∃ members, entries.mapM memberOf = .ok members ∧ Json.areMembersPrintable members)
      ↔ ∀ e ∈ entries, e.2.isWritable := by
  induction entries with
  | nil => simp [Json.areMembersPrintable, pure, Except.pure]
  | cons e rest ih =>
      rw [List.forall_mem_cons, ← ih, isWritable_iff]
      constructor
      · rintro ⟨members, hmembers, hprintable⟩
        rw [List.mapM_cons] at hmembers
        obtain ⟨member, hmember, hrest⟩ := exists_of_bind_eq_ok hmembers
        obtain ⟨others, hothers, hall⟩ := exists_of_bind_eq_ok hrest
        obtain ⟨tree, htree, hpair⟩ := exists_of_bind_eq_ok hmember
        cases hall
        cases hpair
        rw [Json.areMembersPrintable, Bool.and_eq_true] at hprintable
        exact ⟨⟨tree, htree, hprintable.1⟩, others, hothers, hprintable.2⟩
      · rintro ⟨⟨tree, htree, hfirst⟩, others, hothers, hprintable⟩
        refine ⟨(e.1, tree) :: others, ?_, ?_⟩
        · rw [List.mapM_cons, hothers, memberOf, htree]
          rfl
        · rw [Json.areMembersPrintable, hfirst, hprintable, Bool.and_self]

/-- That every session of a registry can be written. -/
def IsWritable (r : Registry) : Prop := ∀ s ∈ r.list, s.isWritable

instance (r : Registry) : Decidable r.IsWritable :=
  inferInstanceAs (Decidable (∀ s ∈ r.list, s.isWritable))

private theorem isWritable_iff_entries {r : Registry} :
    r.IsWritable ↔ ∀ e ∈ r.sessions.entries, e.2.isWritable := by
  simp only [IsWritable, list, Keyed.values, List.forall_mem_map]

/-- A registry has bytes exactly if every session of it can be written. -/
theorem exists_encode_iff (r : Registry) : (∃ bytes, r.encode = .ok bytes) ↔ r.IsWritable := by
  rw [isWritable_iff_entries, ← exists_members_iff]
  show (∃ bytes, (do
    let members ← r.sessions.entries.mapM memberOf
    if Json.areMembersPrintable members then return (Yaml.print members).toUTF8.toList
    else throw .number : Except Value.Unwritable (List UInt8)) = .ok bytes) ↔ _
  constructor
  · rintro ⟨bytes, hbytes⟩
    obtain ⟨members, hmembers, hprint⟩ := exists_of_bind_eq_ok hbytes
    split at hprint
    · next hprintable => exact ⟨members, hmembers, hprintable⟩
    · cases hprint
  · rintro ⟨members, hmembers, hprintable⟩
    refine ⟨(Yaml.print members).toUTF8.toList, ?_⟩
    rw [hmembers]
    exact if_pos hprintable

private theorem write_unwritable_iff {r : Registry} {disk : Disk} :
    (r.write disk).1 = .error .unwritableRegistry ↔ ¬r.IsWritable := by
  rw [← exists_encode_iff, write]
  cases r.encode with
  | error why => simp
  | ok bytes =>
      dsimp only
      split <;> simp

-- ===================================================== operations

/-- The first element that fails makes the whole fail. -/
theorem exists_of_mapM_eq_error {ε α β : Type} {f : α → Except ε β} {xs : List α} {why : ε}
    (h : xs.mapM f = .error why) : ∃ x ∈ xs, f x = .error why := by
  induction xs with
  | nil => cases h
  | cons x xs ih =>
      rw [List.mapM_cons] at h
      cases hx : f x with
      | error why' =>
          rw [hx] at h
          cases h
          exact ⟨x, List.mem_cons_self, hx⟩
      | ok y =>
          cases hrest : xs.mapM f with
          | error why' =>
              rw [hx, hrest] at h
              cases h
              obtain ⟨x', hmem, hx'⟩ := ih hrest
              exact ⟨x', List.mem_cons_of_mem x hmem, hx'⟩
          | ok ys =>
              rw [hx, hrest] at h
              cases h

/-- A value of the wrong type is no trouble with storage. -/
theorem Change.kind_wrongType {α : Type} {field wanted : String} {v : Value} {f : Failure}
    (h : (Change.wrongType field wanted v : Except Failure α) = .error f) : f.kind ≠ .storage := by
  unfold Change.wrongType at h
  split at h <;> (cases h; simp [Failure.kind])

/-- A change that is refused fails with no failure of the storage. -/
theorem Change.kind_read [Time.Zone] {key : String} {v : Value} {f : Failure}
    (h : Change.read key v = .error f) : f.kind ≠ .storage := by
  have htext (field : String) (make : String → Change)
      (h : Change.readText field make v = .error f) : f.kind ≠ .storage := by
    unfold Change.readText at h
    split at h
    · cases h
    · exact Change.kind_wrongType h
  unfold Change.read at h
  split at h
  · unfold Change.readAccess at h
    split at h
    · exact Change.kind_wrongType h
    · split at h
      · cases h
      · cases h
        simp [Failure.kind]
  · unfold Change.readState at h
    split at h
    · cases h
    · exact Change.kind_wrongType h
  · exact htext _ _ h
  · exact htext _ _ h
  · cases h

namespace Operation

/-- An operation that is refused has no trouble with storage. -/
theorem kind_of_plan_error {now : Stamp} {r : Registry} {op : Operation} {f : Failure}
    (h : op.plan now r = .error f) : f.kind ≠ .storage := by
  cases op with
  | add s =>
      simp only [plan] at h
      split at h
      · cases h
        simp [Failure.kind]
      · split at h
        · cases h
          simp [Failure.kind]
        · cases h
  | update key updates =>
      simp only [plan] at h
      split at h
      · next hread =>
        cases h
        obtain ⟨⟨key', v⟩, -, hbad⟩ := exists_of_mapM_eq_error hread
        exact Change.kind_read hbad
      · cases h
        simp [Failure.kind]
      · split at h
        · cases h
          simp [Failure.kind]
        · cases h
  | remove key =>
      simp only [plan] at h
      split at h
      · cases h
        simp [Failure.kind]
      · cases h
  | cleanUp age panes =>
      cases panes with
      | none =>
          cases h
          simp [Failure.kind]
      | some answer =>
          simp only [plan] at h
          split at h
          · next hgone =>
            cases h
            intro hstorage
            have hforeign := isOwn_of_gone hgone
            rw [hstorage] at hforeign
            cases hforeign
          · cases h
  | save => cases h

/-- An operation fails for a session that cannot be written exactly if it gets to its write
and the registry that it makes holds one. -/
theorem run_unwritable_iff (op : Operation) (d : Desk) :
    (op.run d).1 = .error .unwritableRegistry
      ↔ ∃ r, op.plan d.machine.now d.registry = .ok (some r) ∧ ¬r.IsWritable := by
  rcases op.run_cases d with ⟨f, hplan, hrun⟩ | ⟨hplan, hrun⟩ | ⟨r, hplan, hsaves, -⟩
  · rw [hplan, hrun]
    have hkind := kind_of_plan_error hplan
    constructor
    · intro h
      cases h
      exact absurd rfl hkind
    · rintro ⟨r, h, -⟩
      cases h
  · rw [hplan, hrun]
    simp
  · have hsame : (op.run d).1 = .error .unwritableRegistry
        ↔ (r.write d.machine.disk).1 = .error .unwritableRegistry := by
      rw [← hsaves.outcome]
      cases (op.run d).1 <;> simp [Except.map]
    rw [hsame, write_unwritable_iff, hplan]
    constructor
    · exact fun h => ⟨r, rfl, h⟩
    · rintro ⟨r', hr', h⟩
      cases hr'
      exact h

end Operation

-- ===================================================== runs

/-- A session that was accepted can be written; any other was there before. -/
theorem lasts_writable (r : Registry) :
    Lasts fun e => e.2.isWritable ∨ e ∈ r.sessions.entries where
  added _ h := .inl h
  changed _ _ _ _ _ h := .inl h

/-- In every run from a loaded registry, whatever happens to the disk between the operations:

- a session that cannot be written stood so in the file that was loaded, and nobody has
  changed or replaced it since;
- an operation fails for such a session exactly if it gets to its write and the registry
  that it makes holds one;
- all sessions can be written in all runs, and no operation of any run ever fails so, exactly
  if every session that was loaded can be written. -/
theorem stays_writable_iff {path : Path} {m m' : Machine} {r : Registry}
    (hload : load path m = (.ok r, m')) :
    (∀ events, ∀ e ∈ (Event.playAll ⟨r, m'⟩ events).registry.sessions.entries,
        ¬e.2.isWritable → ∃ bytes sessions, m.disk.readFile path = .ok bytes
          ∧ HoldsSessions m.now bytes sessions ∧ e ∈ sessions.entries)
      ∧ (∀ events (e : Event), let d := e.find (Event.playAll ⟨r, m'⟩ events)
          (e.op.run d).1 = .error .unwritableRegistry
            ↔ ∃ r', e.op.plan e.now d.registry = .ok (some r') ∧ ¬r'.IsWritable)
      ∧ ((∀ events, (Event.playAll ⟨r, m'⟩ events).registry.IsWritable) ↔ r.IsWritable)
      ∧ ((∀ events (e : Event),
          (e.op.run (e.find (Event.playAll ⟨r, m'⟩ events))).1 ≠ .error .unwritableRegistry)
            ↔ r.IsWritable) := by
  have hfrom : ∀ events, ∀ e ∈ (Event.playAll ⟨r, m'⟩ events).registry.sessions.entries,
      e.2.isWritable ∨ e ∈ r.sessions.entries :=
    fun events => (lasts_writable r).playAll ⟨r, m'⟩ events fun _ he => .inr he
  have hall : r.IsWritable → ∀ events, (Event.playAll ⟨r, m'⟩ events).registry.IsWritable := by
    intro h events
    rw [isWritable_iff_entries] at h ⊢
    exact fun e he => (hfrom events e he).elim id (h e)
  refine ⟨?_, fun events e => e.op.run_unwritable_iff _, ⟨fun h => h [], hall⟩, ?_, ?_⟩
  · intro events e he hunwritable
    have hloaded := (hfrom events e he).resolve_left hunwritable
    rcases load_sessions_cases hload with hempty | ⟨bytes, hread, hholds⟩
    · rw [hempty] at hloaded
      cases hloaded
    · exact ⟨bytes, r.sessions, hread, hholds, hloaded⟩
  · intro h
    by_contra hr
    refine h [] ⟨m'.now, id, .save⟩ ?_
    exact (Operation.run_unwritable_iff _ _).2 ⟨r, rfl, hr⟩
  · intro h events e hfail
    obtain ⟨r', hplan, hr'⟩ := (Operation.run_unwritable_iff _ _).1 hfail
    have hafter := hall h (events ++ [e])
    rw [Event.playAll_concat, Event.play, Operation.registry_run, Operation.effect, hplan] at hafter
    exact hr' hafter

-- ===================================================== cases

/-- A session about which one thing is noted twice. -/
def sharedNote : String := "s:\n  id: s\n  metadata:\n    k: &a\n      x: y\n    l: *a\n"

/-- A session whose metadata contain themselves. -/
def circularNote : String := "s:\n  id: s\n  metadata: &a\n    k: *a\n"

/-- Another session than that of these files. -/
def otherSession : Record := { sampleSession with id := "t" }

/-- What is noted twice is written twice, and nothing ever fails for this session. -/
theorem stays_writable_sharedNote : ∃ r m', load sampleFile (fileOf sharedNote) = (.ok r, m')
    ∧ r.sessions.keys = ["s"] ∧ ∀ events (e : Event),
      (e.op.run (e.find (Event.playAll ⟨r, m'⟩ events))).1 ≠ .error .unwritableRegistry := by
  obtain ⟨r, hload, hr⟩ := load_fileOf sharedNote
    (p := fun r => decide (r.sessions.keys = ["s"]) && decide r.IsWritable) (by decide +kernel)
  rw [Bool.and_eq_true, decide_eq_true_eq, decide_eq_true_eq] at hr
  exact ⟨r, _, hload, hr.1, (stays_writable_iff hload).2.2.2.2 hr.2⟩

/-- Metadata that contain themselves are read without complaint, and from then on no other
session can be added to the file, though nothing is wrong with it. -/
theorem circularNote_blocks_writing : ∃ r m', load sampleFile (fileOf circularNote) = (.ok r, m')
    ∧ ¬r.IsWritable ∧ otherSession.isWritable
    ∧ ((Operation.add otherSession).run ⟨r, m'⟩).1 = .error .unwritableRegistry := by
  have hother : otherSession.isWritable = true := by decide +kernel
  obtain ⟨r, hload, hr⟩ := load_fileOf circularNote
    (p := fun r => !decide r.IsWritable && !decide (r.insert "t" otherSession).IsWritable)
    (by decide +kernel)
  rw [Bool.and_eq_true, Bool.not_eq_true', Bool.not_eq_true', decide_eq_false_iff_not,
    decide_eq_false_iff_not] at hr
  have hplan : (Operation.add otherSession).plan (fileOf circularNote).now r
      = .ok (some (r.insert "t" otherSession)) := by
    rw [Operation.plan, hother]
    rfl
  exact ⟨r, _, hload, hr.1, hother,
    (Operation.run_unwritable_iff _ _).2 ⟨r.insert "t" otherSession, hplan, hr.2⟩⟩

end PaneWatch.Registry
