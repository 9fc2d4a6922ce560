/-
Where the sessions of a registry come from.

A session comes under a key by being read from the file, by being added under its own ID,
or by taking the place of one with the same ID. Operations do nothing else to sessions
but remove them. What is true of all that is added, and stays true of what takes the place
of something it is true of, therefore holds in every run if it holds of all that was
read (`Lasts.playAll`).
-/
import PaneWatch.Proofs.Lookup
import PaneWatch.Proofs.Registry.Run

namespace PaneWatch.Registry

open Session (Record)
open Time (Stamp)

-- ===================================================== changes

/-- A change keeps the ID of a session. -/
theorem Change.id_apply (s : Record) (c : Change) : (c.apply s).id = s.id := by
  cases c <;> rfl

private theorem Change.id_foldl_apply (changes : List Change) (s : Record) :
    (changes.foldl Change.apply s).id = s.id := by
  induction changes generalizing s with
  | nil => rfl
  | cons c changes ih => rw [List.foldl_cons, ih, Change.id_apply]

-- ===================================================== single operations

/-- A session that is found is an entry under its key. -/
theorem mem_entries_of_find? {r : Registry} {key : String} {s : Record}
    (h : r.find? key = some s) : (key, s) ∈ r.sessions.entries := mem_of_lookup h

/-- That something is true of a session under its own ID once it is accepted, and stays true
under a key when a session that was accepted takes the place of one with its ID. -/
structure Lasts (P : String × Record → Prop) : Prop where
  added : ∀ s : Record, s.isWritable → P (s.id, s)
  changed : ∀ key (old s : Record), P (key, old) → s.id = old.id → s.isWritable → P (key, s)

variable {P : String × Record → Prop}

/-- What lasts holds of all sessions that an operation makes if it held before. -/
theorem Lasts.plan (hP : Lasts P) {now : Stamp} {r r' : Registry} {op : Operation}
    (hplan : op.plan now r = .ok (some r')) (h : ∀ e ∈ r.sessions.entries, P e) :
    ∀ e ∈ r'.sessions.entries, P e := by
  -- an entry behind the operation is the one that it wrote, or was there before
  cases op with
  | add s =>
      simp only [Operation.plan] at hplan
      split at hplan
      · cases hplan
      · split at hplan
        · cases hplan
        · next hwritable =>
          cases hplan
          intro e he
          rcases mem_insert he with rfl | hold
          · exact hP.added s (by simpa using hwritable)
          · exact h e hold
  | update key updates =>
      simp only [Operation.plan] at hplan
      split at hplan
      · cases hplan
      · cases hplan
      · next changes old hread hfind =>
        split at hplan
        · cases hplan
        · next hwritable =>
          cases hplan
          intro e he
          rcases mem_insert he with rfl | hold
          · exact hP.changed key old _ (h _ (mem_entries_of_find? hfind))
              (Change.id_foldl_apply changes old) (by simpa using hwritable)
          · exact h e hold
  | remove key =>
      simp only [Operation.plan] at hplan
      split at hplan
      · cases hplan
      · cases hplan
        exact fun e he => h e (List.mem_filter.1 he).1
  | cleanUp age panes =>
      cases panes with
      | none => cases hplan
      | some answer =>
          simp only [Operation.plan] at hplan
          split at hplan
          · cases hplan
          · simp only [Except.ok.injEq] at hplan
            split at hplan
            · cases hplan
            · cases hplan
              exact fun e he => h e (List.mem_filter.1 he).1
  | save =>
      cases hplan
      exact h

/-- What lasts is true of every entry after an operation if it was before. -/
theorem Lasts.effect (hP : Lasts P) (now : Stamp) {r : Registry} (op : Operation)
    (h : ∀ e ∈ r.sessions.entries, P e) : ∀ e ∈ (op.effect now r).sessions.entries, P e := by
  unfold Operation.effect
  split
  · next hplan => exact hP.plan hplan h
  · exact h

-- ===================================================== storing what a session does

private theorem readAll_stateUpdate (a : Activity) (time : Stamp) :
    Change.readAll (stateUpdate a time) = .ok [.lastState a, .lastAccess time] := by
  have hstate : Change.read "last_state" (.activity a) = .ok (.lastState a) := by
    show Change.readState (.activity a) = _
    rw [Change.readState, Value.asText?, Option.bind_some, Activity.ofName?_name]
  have haccess : Change.read "last_access" (.moment ⟨time, none⟩) = .ok (.lastAccess time) := rfl
  rw [stateUpdate, Change.readAll, List.mapM_cons, List.mapM_cons]
  dsimp only
  rw [hstate, haccess]
  rfl

/-- The session is as writable as before. -/
theorem isWritable_withState (s : Record) (a : Activity) (time : Stamp) :
    { s with lastState := a, lastAccess := time }.isWritable = s.isWritable := by
  have hmetadata :
      { s with lastState := a, lastAccess := time }.metadataTree = s.metadataTree := rfl
  unfold Record.isWritable Record.toJson Record.toMembers
  rw [hmetadata]
  cases s.metadataTree with
  | error why => rfl
  | ok tree =>
      simp [Record.members, Functor.map, Except.map, Json.isPrintable, Json.areMembersPrintable]

/-- An entry that can be written has the new state and time after an update of these. -/
theorem find?_stateUpdate {r : Registry} {key : String} {s : Record} (h : r.find? key = some s)
    (hwritable : s.isWritable) (a : Activity) (time now : Stamp) :
    ((Operation.update key (stateUpdate a time)).effect now r).find? key
      = some { s with lastState := a, lastAccess := time } := by
  have hplan : (Operation.update key (stateUpdate a time)).plan now r
      = .ok (some (r.insert key { s with lastState := a, lastAccess := time })) := by
    simp only [Operation.plan, readAll_stateUpdate, h, List.foldl_cons, List.foldl_nil,
      Change.apply,
      isWritable_withState, hwritable]
    rfl
  rw [Operation.effect, hplan]
  exact lookup_insert_self key _ _

/-- Where there is no session to store to, or one that no file can be written from, nothing
changes. -/
theorem effect_stateUpdate_eq_self {r : Registry} {key : String}
    (h : ∀ s, r.find? key = some s → s.isWritable = false) (a : Activity) (time now : Stamp) :
    (Operation.update key (stateUpdate a time)).effect now r = r := by
  unfold Operation.effect
  simp only [Operation.plan, readAll_stateUpdate]
  cases hfind : r.find? key with
  | none => rfl
  | some s =>
      have hunwritable : { s with lastState := a, lastAccess := time }.isWritable = false := by
        rw [isWritable_withState]
        exact h s hfind
      simp only [List.foldl_cons, List.foldl_nil, Change.apply, hunwritable]
      rfl

/-- Sessions keep their keys and their places. -/
theorem keys_stateUpdate (r : Registry) (key : String) (a : Activity) (time now : Stamp) :
    ((Operation.update key (stateUpdate a time)).effect now r).sessions.keys = r.sessions.keys := by
  unfold Operation.effect
  split
  · next r' hplan =>
    simp only [Operation.plan] at hplan
    split at hplan
    · cases hplan
    · cases hplan
    · next changes old hread hfind =>
      split at hplan
      · cases hplan
      · cases hplan
        have hmem : key ∈ r.sessions.entries.map (·.1) :=
          List.mem_map_of_mem (mem_entries_of_find? hfind)
        exact Json.keys_insert_of_mem hmem _
  · rfl

/-- Writing a registry fails only in a way that is announced. -/
theorem isOwn_of_write {r : Registry} {disk : Disk} {f : Failure}
    (h : (r.write disk).1 = .error f) : f.kind.isOwn := by
  rw [kind_of_write h]
  rfl

/-- So does storing what a session does: whoever stores it need not expect anything else. -/
theorem isOwn_of_stateUpdate {key : String} {a : Activity} {time : Stamp} {d : Desk} {f : Failure}
    (h : ((Operation.update key (stateUpdate a time)).run d).1 = .error f) : f.kind.isOwn := by
  rcases (Operation.update key (stateUpdate a time)).run_cases d with
    ⟨f', hplan, hrun⟩ | ⟨-, hrun⟩ | ⟨r, -, hsaves, -⟩
  · rw [hrun] at h
    cases h
    simp only [Operation.plan, readAll_stateUpdate] at hplan
    cases hfind : d.registry.find? key with
    | none =>
        rw [hfind] at hplan
        cases hplan
        rfl
    | some old =>
        rw [hfind] at hplan
        dsimp only at hplan
        split at hplan
        · cases hplan
          rfl
        · cases hplan
  · rw [hrun] at h
    cases h
  · have houtcome := hsaves.outcome
    rw [h] at houtcome
    exact isOwn_of_write houtcome.symm

/-- An update leaves all other sessions alone. -/
theorem find?_update_ne {key other : String} (h : other ≠ key) (updates : List (String × Value))
    (now : Stamp) (r : Registry) :
    ((Operation.update key updates).effect now r).find? other = r.find? other := by
  unfold Operation.effect
  split
  · next r' hplan =>
    simp only [Operation.plan] at hplan
    split at hplan
    · cases hplan
    · cases hplan
    · split at hplan
      · cases hplan
      · cases hplan
        exact lookup_insert_ne h _ _
  · rfl

-- ===================================================== runs

/-- What lasts holds of all sessions after a run if it held of those at the start. -/
theorem Lasts.playAll (hP : Lasts P) (d : Desk) (events : List Event)
    (h : ∀ e ∈ d.registry.sessions.entries, P e) :
    ∀ e ∈ (Event.playAll d events).registry.sessions.entries, P e := by
  rw [Event.registry_playAll]
  generalize d.registry = r at h
  induction events generalizing r with
  | nil => exact h
  | cons e events ih => exact ih _ (hP.effect e.now e.op h)

end PaneWatch.Registry
