/-
What the steps of a monitor do to its watches.

A step concerns the watch under one ID. `Began`, `Ended` and `Took` say what has become of
it, and each leaves all other watches as they were. A step that none of these
describes changes no watch at all.
-/
import PaneWatch.Monitor
import PaneWatch.Proofs.Lookup

namespace PaneWatch.Monitor

open Time (Stamp)

variable {η : Type}

/-- The watch under an ID, with its number. -/
def watch? (m : Monitor η) (id : String) : Option (Nat × Watch) := m.watches.lookup id

/-- That two monitors have the same watches, and will give the next one the same number. -/
def SameWatches (m m' : Monitor η) : Prop :=
  m'.watches = m.watches ∧ m'.nextNumber = m.nextNumber

variable {m m' : Monitor η} {id other : String} {now : Stamp} {a : Activity} {trigger : String}

/-- A session is found with the watch it has. -/
theorem find_eq_ok {w : Watch} : m.find id = .ok w ↔ ∃ n, m.watch? id = some (n, w) := by
  unfold find watch?
  cases m.watches.lookup id with
  | none => simp
  | some e => simp [Prod.ext_iff]

/-- It is not found if it is not watched. -/
theorem find_eq_error {f : Failure} :
    m.find id = .error f ↔ m.isMonitoring id = false ∧ f = .unmonitored id := by
  unfold find isMonitoring
  cases m.watches.lookup id with
  | none => simp [eq_comm]
  | some e => simp

theorem isMonitoring_iff : m.isMonitoring id ↔ ∃ w, m.find id = .ok w := by
  unfold find isMonitoring
  cases m.watches.lookup id <;> simp

/-- A commit fails if and only if the session is not watched. -/
theorem commit_eq_error {f : Failure} :
    (m.commit now id a trigger).1 = .error f
      ↔ m.isMonitoring id = false ∧ f = .unmonitored id := by
  rw [← find_eq_error]
  unfold commit
  cases m.find id with
  | error g => simp
  | ok w => by_cases hcurrent : w.current == a <;> simp [hcurrent]

theorem isCurrent_iff {n : Nat} : m.isCurrent id n ↔ ∃ w, m.watch? id = some (n, w) := by
  unfold isCurrent watch?
  cases m.watches.lookup id with
  | none => simp
  | some e => simp [Prod.ext_iff]

-- ===================================================== beginning

/-- That a watch of a process has begun under an ID. -/
structure Began (m : Monitor η) (now : Stamp) (id : String) (pid : Int) (m' : Monitor η) :
    Prop where
  vacant : m.watch? id = none
  self : m'.watch? id = some (m.nextNumber, { id, pid, lastChange := now })
  other : ∀ other, other ≠ id → m'.watch? other = m.watch? other
  next : m'.nextNumber = m.nextNumber + 1

/-- A watch after the beginning was there before, or is the one that has begun. -/
theorem Began.watch_cases {pid : Int} {n : Nat} {w : Watch} (h : Began m now id pid m')
    (hw : m'.watch? other = some (n, w)) :
    m.watch? other = some (n, w) ∧ other ≠ id
      ∨ other = id ∧ n = m.nextNumber ∧ w = { id, pid, lastChange := now } := by
  by_cases hid : other = id
  · rw [hid, h.self] at hw
    cases hw
    exact .inr ⟨hid, rfl, rfl⟩
  · rw [h.other other hid] at hw
    exact .inl ⟨hw, hid⟩

/-- Registering begins a watch, or fails because there is one and changes nothing. -/
theorem register_cases (m : Monitor η) (now : Stamp) (id : String) (pid : Int) :
    ((m.register now id pid).1 = .ok m.nextNumber
        ∧ Began m now id pid (m.register now id pid).2)
      ∨ m.register now id pid = (.error (.alreadyMonitored id), m) := by
  unfold register refuseWatched isMonitoring
  cases hlookup : m.watches.lookup id with
  | some e => exact .inr rfl
  | none =>
      refine .inl ⟨rfl, hlookup, ?_, ?_, rfl⟩
      · show (m.watches ++ [_]).lookup id = _
        rw [List.lookup_append, hlookup]
        simp
      · intro other hother
        show (m.watches ++ [_]).lookup other = m.watches.lookup other
        have hne : (other == id) = false := by simpa using hother
        rw [List.lookup_append, List.lookup_cons, hne, List.lookup_nil, Option.or_none]

-- ===================================================== ending

/-- That the watch under an ID has ended. -/
structure Ended (m : Monitor η) (id : String) (m' : Monitor η) : Prop where
  self : m'.watch? id = none
  other : ∀ other, other ≠ id → m'.watch? other = m.watch? other
  next : m'.nextNumber = m.nextNumber

/-- A watch after the end was there before, under another ID. -/
theorem Ended.of_watch {n : Nat} {w : Watch} (h : Ended m id m')
    (hw : m'.watch? other = some (n, w)) : m.watch? other = some (n, w) ∧ other ≠ id := by
  by_cases hid : other = id
  · rw [hid, h.self] at hw
    cases hw
  · rw [h.other other hid] at hw
    exact ⟨hw, hid⟩

/-- Deregistering ends a watch, or fails because there is none and changes nothing. -/
theorem deregister_cases (m : Monitor η) (id : String) :
    ((m.deregister id).1 = .ok () ∧ Ended m id (m.deregister id).2)
      ∨ m.deregister id = (.error (.unmonitored id), m) := by
  unfold deregister find
  cases hlookup : m.watches.lookup id with
  | none => exact .inr rfl
  | some e =>
      exact .inl ⟨rfl, lookup_filter_self id m.watches,
        fun other hother => lookup_filter_ne hother m.watches, rfl⟩

-- ===================================================== changes

/-- Keeping the last elements, one more at a time, is keeping the last elements. -/
theorem lastOf_lastOf_concat {α : Type} (n : Nat) (xs : List α) (x : α) :
    Signal.lastOf n (Signal.lastOf n xs ++ [x]) = Signal.lastOf n (xs ++ [x]) := by
  unfold Signal.lastOf
  rcases Nat.le_total xs.length n with hle | hge
  · rw [Nat.sub_eq_zero_of_le hle, List.drop_zero]
  · rw [← List.drop_append_of_le_length (Nat.sub_le xs.length n), List.drop_drop]
    congr 1
    simp only [List.length_drop, List.length_append, List.length_cons, List.length_nil]
    omega

/-- That the watch under an ID has taken a change. -/
structure Took (m : Monitor η) (id : String) (t : Transition) (n : Nat) (w : Watch)
    (m' : Monitor η) : Prop where
  before : m.watch? id = some (n, w)
  source : t.source = w.current
  self : m'.watch? id = some (n, w.record t)
  other : ∀ other, other ≠ id → m'.watch? other = m.watch? other
  next : m'.nextNumber = m.nextNumber

/-- A watch after the change was there before, or is the one that has changed. -/
theorem Took.watch_cases {t : Transition} {n n' : Nat} {w w' : Watch} (h : Took m id t n w m')
    (hw : m'.watch? other = some (n', w')) :
    m.watch? other = some (n', w') ∧ other ≠ id ∨ other = id ∧ n' = n ∧ w' = w.record t := by
  by_cases hid : other = id
  · rw [hid, h.self] at hw
    cases hw
    exact .inr ⟨hid, rfl, rfl⟩
  · rw [h.other other hid] at hw
    exact .inl ⟨hw, hid⟩

/-- A commit changes the watch under its ID, or no watch. -/
theorem commit_cases (m : Monitor η) (now : Stamp) (id : String) (a : Activity)
    (trigger : String) :
    (∃ t n w, (m.commit now id a trigger).1 = .ok (some t) ∧ t.target = a ∧ t.source ≠ a
        ∧ t.time = now ∧ Took m id t n w (m.commit now id a trigger).2)
      ∨ (∀ t, (m.commit now id a trigger).1 ≠ .ok (some t))
        ∧ (m.commit now id a trigger).2 = m := by
  unfold commit
  cases hfind : m.find id with
  | error f => exact .inr ⟨by simp, rfl⟩
  | ok w =>
      dsimp only
      split
      · exact .inr ⟨by simp, rfl⟩
      · next hne =>
        obtain ⟨n, hwatch⟩ := find_eq_ok.1 hfind
        refine .inl ⟨_, n, w, rfl, rfl, by simpa using hne, rfl, hwatch, rfl, ?_, ?_, rfl⟩
        · have hself := lookup_map_self id
            (fun e : Nat × Watch => (e.1, w.record ⟨w.current, a, now, trigger⟩)) m.watches
          rw [show m.watches.lookup id = _ from hwatch] at hself
          exact hself
        · intro other hother
          exact lookup_map_ne hother
            (fun e : Nat × Watch => (e.1, w.record ⟨w.current, a, now, trigger⟩)) m.watches

end PaneWatch.Monitor
