/-
When the check of a record ends with an accident instead of a verdict.

All checks but one give a value or faults. The exception are the two
timestamps: a moment with an offset may have no local time in the calendar, and
then the check has no verdict. `LosesMoment` says exactly when that is.
-/
import PaneWatch.Proofs.Check.Field
import PaneWatch.Proofs.Value.Plain
import PaneWatch.Session.Record

namespace PaneWatch.Session.Record

open Time (Stamp Moment)

/-- The fields that hold timestamps. -/
def stampLabels : List String := ["created", "last_access"]

/-- That a timestamp of some entries is a moment without a local time in the calendar. -/
def LosesMoment [Time.Zone] (entries : List (Value × Value)) : Prop :=
  ∃ label ∈ stampLabels, ∃ v m, Value.lookup? label entries = some v
    ∧ Check.moment v = .ok m ∧ m.toLocal? = none

/-- A moment fails the check with an accident if it has no local time. -/
theorem checkStamp_eq_error [Time.Zone] {v : Value} {what : Accident} :
    checkStamp v = .error what
      ↔ what = .outOfRange ∧ ∃ m, Check.moment v = .ok m ∧ m.toLocal? = none := by
  unfold checkStamp
  cases hmoment : Check.moment v with
  | error c => simp
  | ok m =>
      cases hlocal : m.toLocal? with
      | none => simp [hlocal, eq_comm]
      | some s => simp [hlocal]

/-- A moment that has a local time passes as this time. -/
theorem checkStamp_of_moment [Time.Zone] {v : Value} {m : Moment} {t : Stamp}
    (hmoment : Check.moment v = .ok m)
    (hlocal : m.toLocal? = some t) : checkStamp v = .ok (.valid t) := by
  unfold checkStamp
  simp only [hmoment, hlocal, Option.elim_some]

private theorem stampField_eq_error [Time.Zone] {entries : List (Value × Value)} {label : String}
    {now : Stamp}
    {what : Accident} :
    stampField entries label now = .error what
      ↔ what = .outOfRange ∧ ∃ v m, Value.lookup? label entries = some v
        ∧ Check.moment v = .ok m ∧ m.toLocal? = none := by
  unfold stampField
  cases hlookup : Value.lookup? label entries with
  | none => simp
  | some v =>
      have hcheck : checkStamp v = .error what ↔ _ := checkStamp_eq_error
      cases hstamp : checkStamp v with
      | error what' =>
          rw [hstamp] at hcheck
          simpa [hstamp, Functor.map, Except.map] using hcheck
      | ok c =>
          rw [hstamp] at hcheck
          simpa [hstamp, Functor.map, Except.map] using hcheck

/-- The check of a record ends with an accident exactly if a timestamp loses its moment. -/
theorem check_eq_error [Time.Zone] {now : Stamp} {entries : List (Value × Value)}
    {what : Accident} :
    check now (.map entries) = .error what ↔ what = .outOfRange ∧ LosesMoment entries := by
  have hcreated : stampField entries "created" now = .error what ↔ _ := stampField_eq_error
  have haccess : stampField entries "last_access" now = .error what ↔ _ := stampField_eq_error
  have hloses : LosesMoment entries
      ↔ (∃ v m, Value.lookup? "created" entries = some v
          ∧ Check.moment v = .ok m ∧ m.toLocal? = none)
        ∨ ∃ v m, Value.lookup? "last_access" entries = some v
          ∧ Check.moment v = .ok m ∧ m.toLocal? = none := by
    simp [LosesMoment, stampLabels]
  rw [hloses, and_or_left, ← hcreated, ← haccess]
  show (stampField entries "created" now >>= fun created =>
    stampField entries "last_access" now >>= fun lastAccess => _) = _ ↔ _
  rcases hc : stampField entries "created" now with what' | created
  · -- the first timestamp has no verdict, so the second is not looked at
    obtain ⟨rfl, -⟩ := stampField_eq_error.1 hc
    constructor
    · intro h
      cases h
      exact .inl rfl
    · rintro (h | h)
      · cases h
        rfl
      · obtain ⟨rfl, -⟩ := stampField_eq_error.1 h
        rfl
  · rcases ha : stampField entries "last_access" now with what' | access
    · simp [bind, Except.bind]
    · simp [bind, Except.bind, pure, Except.pure]

/-- The last access of a record that passes is what its timestamp was checked as. -/
theorem stampField_of_check [Time.Zone] {now : Stamp} {entries : List (Value × Value)} {r : Record}
    (h : check now (.map entries) = .ok (.valid r)) :
    stampField entries "last_access" now = .ok (.valid r.lastAccess) := by
  obtain ⟨created, -, hrest⟩ := exists_of_bind_eq_ok h
  obtain ⟨lastAccess, haccess, hfields⟩ := exists_of_bind_eq_ok hrest
  -- all fields passed, and the record has what each of them was checked as
  obtain ⟨_, hten, metadata, -, rfl⟩ := Checked.seq_eq_valid.1 (Except.ok.inj hfields)
  obtain ⟨_, hnine, environment, -, rfl⟩ := Checked.seq_eq_valid.1 hten
  obtain ⟨_, height, lastState, -, rfl⟩ := Checked.seq_eq_valid.1 hnine
  obtain ⟨_, hseven, t, rfl, rfl⟩ := Checked.seq_eq_valid.1 height
  obtain ⟨_, hsix, created, -, rfl⟩ := Checked.seq_eq_valid.1 hseven
  obtain ⟨_, hfive, directory, -, rfl⟩ := Checked.seq_eq_valid.1 hsix
  obtain ⟨_, hfour, branch, -, rfl⟩ := Checked.seq_eq_valid.1 hfive
  obtain ⟨_, hthree, worktree, -, rfl⟩ := Checked.seq_eq_valid.1 hfour
  obtain ⟨_, htwo, project, -, rfl⟩ := Checked.seq_eq_valid.1 hthree
  obtain ⟨_, hone, name, -, rfl⟩ := Checked.seq_eq_valid.1 htwo
  obtain ⟨id, -, rfl⟩ := Checked.map_eq_valid.1 hone
  exact haccess

end PaneWatch.Session.Record
