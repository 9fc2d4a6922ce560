/-
Stamps and the instants that they stand for.

A stamp that a clock shows which is so far ahead of UTC stands for an instant (`Stamp.instant`).
Instants are counted, so they need no calendar; a stamp is there for one only if the calendar
reaches it. Going from one zone to another keeps the instant (`toZone?_eq_some_iff`), and in one
zone stamps are in the order of their instants (`before_iff_instant`). So it makes no difference
for the order in which zones the stamps were written.
-/
import PaneWatch.Proofs.Time.Order

namespace PaneWatch.Time

/-- That the calendar reaches a number of microseconds from the start of year 1. -/
def InCalendar (n : Int) : Prop := 0 ≤ n ∧ n < (calendarDays * day : Nat)

instance (n : Int) : Decidable (InCalendar n) := by
  unfold InCalendar
  infer_instance

namespace Stamp

-- ===================================================== stamps by their microseconds

private theorem inCalendar_micros (s : Stamp) : InCalendar s.micros :=
  ⟨Int.natCast_nonneg _, Int.ofNat_lt.2 s.micros_lt⟩

private theorem micros_inj {a b : Stamp} (h : a.micros = b.micros) : a = b := by
  rcases lt_trichotomy a.fields b.fields with hlt | heq | hgt
  · exact absurd h (Nat.ne_of_lt (micros_lt_of_fields_lt hlt))
  · exact fields_inj heq
  · exact absurd h.symm (Nat.ne_of_lt (micros_lt_of_fields_lt hgt))

/-- A stamp can be moved to wherever the calendar reaches. -/
theorem exists_add? {s : Stamp} {n : Int} (h : InCalendar (s.micros + n)) :
    ∃ t, s.add? n = some t := by
  rw [← Option.ne_none_iff_exists']
  intro hnone
  obtain ⟨hfirst, hlast⟩ := h
  push_cast at hlast
  have hout := add?_eq_none_iff.1 hnone
  omega

private theorem add?_eq_some_iff {s t : Stamp} {n : Int} :
    s.add? n = some t ↔ (t.micros : Int) = s.micros + n := by
  refine ⟨micros_of_add?, fun h => ?_⟩
  obtain ⟨t', ht'⟩ := exists_add? (h ▸ t.inCalendar_micros)
  have hmicros := micros_of_add? ht'
  rw [ht', micros_inj (Int.ofNat.inj (hmicros.trans h.symm))]

-- ===================================================== instants

/-- The microseconds from the start of year 1 in UTC to what a clock shows that is so far ahead. -/
def instant (s : Stamp) (offset : Int) : Int := s.micros - offset

/-- In one zone, what comes first is what a clock shows first. -/
theorem before_iff_instant {a b : Stamp} {zone : Int} :
    a.before b ↔ a.instant zone < b.instant zone := by
  rw [before_iff, instant, instant]
  omega

/-- In one zone no two stamps are of the same instant. -/
theorem instant_inj {a b : Stamp} {zone : Int} : a.instant zone = b.instant zone ↔ a = b := by
  unfold instant
  constructor
  · intro h
    exact micros_inj (by omega)
  · rintro rfl
    rfl

end Stamp

-- ===================================================== from zone to zone

/-- That both UTC and a zone have a stamp for an instant. -/
structure HasStamps (zone n : Int) : Prop where
  utc : InCalendar n
  there : InCalendar (n + zone)

/-- A stamp in one zone becomes the stamp of the same instant in another one, by way of UTC. -/
theorem Moment.toZone?_eq_some_iff {s t : Stamp} {offset zone : Int} :
    (⟨s, some offset⟩ : Moment).toZone? zone = some t
      ↔ InCalendar (s.instant offset) ∧ t.instant zone = s.instant offset := by
  show (s.add? (-offset)).bind (·.add? zone) = some t ↔ _
  rw [Option.bind_eq_some_iff]
  simp only [Stamp.add?_eq_some_iff, Stamp.instant]
  constructor
  · rintro ⟨utc, hutc, ht⟩
    have hmicros := utc.inCalendar_micros
    rw [hutc] at hmicros
    exact ⟨hmicros, by omega⟩
  · rintro ⟨hutc, ht⟩
    obtain ⟨utc, hmoved⟩ := Stamp.exists_add? (n := -offset) hutc
    exact ⟨utc, Stamp.micros_of_add? hmoved, by
      rw [Stamp.micros_of_add? hmoved]
      omega⟩

/-- There is one exactly if both have a stamp for the instant. -/
theorem Moment.exists_toZone?_iff {s : Stamp} {offset zone : Int} :
    (∃ t, (⟨s, some offset⟩ : Moment).toZone? zone = some t)
      ↔ HasStamps zone (s.instant offset) := by
  simp only [toZone?_eq_some_iff]
  constructor
  · rintro ⟨t, hutc, ht⟩
    refine ⟨hutc, ?_⟩
    rw [← ht, Stamp.instant, Int.sub_add_cancel]
    exact t.inCalendar_micros
  · rintro ⟨hutc, hthere⟩
    obtain ⟨t, ht⟩ := Stamp.exists_add? (s := s) (n := zone - offset) (by
      rwa [show s.micros + (zone - offset) = s.instant offset + zone by
        rw [Stamp.instant]; omega])
    refine ⟨t, hutc, ?_⟩
    rw [Stamp.instant, Stamp.instant, Stamp.micros_of_add? ht]
    omega

end PaneWatch.Time
