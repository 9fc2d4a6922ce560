/-
Which values of a request are ages.

A value is an age if it converts to a finite, non-negative number of hours that a length of time can
hold (`IsAge`). Every other value is refused with a reason, save one kind: an integer that is too
large for a number ends the conversion with an accident (`ofJson_cases`).

For integers this comes to ranges. Those that are ages are kept exactly, since they have less than
53 bits; what has more bits is too long for a length however it is rounded (`isAge_int_iff`).
-/
import PaneWatch.Http.Age
import PaneWatch.Proofs.Time.Span

namespace PaneWatch.Http

open Number (Double)
open Time (Span)

-- ===================================================== numbers of hours

/-- The number of hours that a value converts to, if it converts to any. -/
def hours? : Json → Option Double
  | .int n => Double.ofInt? n
  | .real x => some x
  | .bool b => some (Double.ofRatio false (if b then 1 else 0) 1)
  | .text s => Number.readDouble? s
  | .null | .list _ | .object _ => none

/-- That a value converts to a finite, non-negative number of hours that a length can hold. -/
def IsAge (v : Json) (age : Span) : Prop :=
  ∃ x q, hours? v = some x ∧ x.value? = some q ∧ 0 ≤ q ∧ Span.ofHours? x = some age

/-- That a value is an integer too large for a number. -/
def IsHuge (v : Json) : Prop := ∃ n : Int, v = .int n ∧ Double.wholeBound ≤ n.natAbs

namespace Age

/-- A number is an age if it is finite, not negative and not too long. -/
private theorem ofDouble_eq_span_iff {x : Double} {age : Span} :
    ofDouble x = .span age ↔ ∃ q, x.value? = some q ∧ 0 ≤ q ∧ Span.ofHours? x = some age := by
  have hzero : (Double.zero false).value? = some 0 := by simp [Double.zero, Double.value?]
  unfold ofDouble
  rw [← Double.value?_isSome]
  cases hx : x.value? with
  | none => simp
  | some q =>
      have hneg := Double.lt_iff hx hzero
      by_cases hq : q < 0
      · simp [hneg, hq]
      · cases Span.ofHours? x <;> simp [hneg, hq, Rat.not_lt.1 hq]

/-- Any other number is refused. -/
private theorem ofDouble_cases (x : Double) :
    (∃ age, ofDouble x = .span age) ∨ ∃ reason, ofDouble x = .refused reason := by
  unfold ofDouble
  split
  · exact .inr ⟨_, rfl⟩
  · split
    · exact .inl ⟨_, rfl⟩
    · exact .inr ⟨_, rfl⟩

/-- A value that converts to a number is answered as this number. -/
private theorem ofJson_of_hours {v : Json} {x : Double} (h : hours? v = some x) :
    ofJson v = ofDouble x := by
  cases v <;> simp_all [hours?, ofJson]

/-- An integer is too large exactly if it converts to no number. -/
theorem isHuge_int_iff {n : Int} : IsHuge (.int n) ↔ Double.ofInt? n = none := by
  simp [IsHuge, Double.ofInt?_eq_none_iff]

/-- What converts to no number is refused, unless it is an integer. -/
theorem ofJson_of_no_hours {v : Json} (h : hours? v = none) :
    (IsHuge v ∧ ofJson v = .accident .outOfRange) ∨ (¬IsHuge v ∧ ofJson v = noNumber) := by
  cases v with
  | int n =>
      have hnone : Double.ofInt? n = none := h
      exact .inl ⟨isHuge_int_iff.2 hnone, by rw [ofJson, hnone]; rfl⟩
  | real x | bool b => cases h
  | text s =>
      have hnone : Number.readDouble? s = none := h
      exact .inr ⟨by simp [IsHuge], by rw [ofJson, hnone]; rfl⟩
  | null | list es | object ms => exact .inr ⟨by simp [IsHuge], rfl⟩

/-- What converts to a number is not too large for one. -/
private theorem not_isHuge_of_hours {v : Json} {x : Double} (h : hours? v = some x) :
    ¬IsHuge v := by
  intro hhuge
  obtain ⟨n, rfl, hn⟩ := hhuge
  rw [hours?, Double.ofInt?_eq_none_iff.2 hn] at h
  cases h

/-- A value is an age, or an integer too large for a number, or refused. -/
theorem ofJson_cases (v : Json) :
    (∃ age, ¬IsHuge v ∧ IsAge v age ∧ ofJson v = .span age)
      ∨ (IsHuge v ∧ (∀ age, ¬IsAge v age) ∧ ofJson v = .accident .outOfRange)
      ∨ ∃ reason, ¬IsHuge v ∧ (∀ age, ¬IsAge v age) ∧ ofJson v = .refused reason := by
  cases hx : hours? v with
  | none =>
      have hno : ∀ age, ¬IsAge v age := by simp [IsAge, hx]
      rcases ofJson_of_no_hours hx with ⟨hhuge, hv⟩ | ⟨hhuge, hv⟩
      · exact .inr (.inl ⟨hhuge, hno, hv⟩)
      · exact .inr (.inr ⟨_, hhuge, hno, hv⟩)
  | some x =>
      have hv := ofJson_of_hours hx
      have hage : ∀ age, IsAge v age ↔ ofDouble x = .span age := by
        simp [IsAge, hx, ofDouble_eq_span_iff]
      have hhuge := not_isHuge_of_hours hx
      rcases ofDouble_cases x with ⟨age, hx⟩ | ⟨reason, hx⟩
      · exact .inl ⟨age, hhuge, (hage age).2 hx, hv.trans hx⟩
      · refine .inr (.inr ⟨reason, hhuge, fun age => ?_, hv.trans hx⟩)
        rw [hage, hx]
        simp

/-- A value that is an age is answered with it. -/
theorem ofJson_of_isAge {v : Json} {age : Span} (h : IsAge v age) : ofJson v = .span age := by
  obtain ⟨x, q, hx, hq⟩ := h
  rw [ofJson_of_hours hx]
  exact ofDouble_eq_span_iff.2 ⟨q, hq⟩

-- ===================================================== integers

/-- Whole hours are a length of time below a thousand million days. -/
private theorem ofHours?_eq_some_of_whole {x : Double} {z : Int} {age : Span}
    (h : x.value? = some (z : ℚ)) (hpos : 0 ≤ z) :
    Span.ofHours? x = some age ↔ z < 24000000000 ∧ age = Span.ofWholeHours z := by
  rw [Span.ofHours?_of_whole h, Span.ofMicros?_hours, Span.maxDays]
  split
  · next hdays =>
    rw [Option.some_inj, eq_comm]
    exact (and_iff_right (by omega)).symm
  · next hdays =>
    refine iff_of_false (by simp) ?_
    omega

/-- An integer that is not kept exactly is too long for a length however it is rounded. -/
theorem not_isAge_of_le {n : Int} {age : Span} (hsize : 2 ^ 53 ≤ n.natAbs) :
    ¬IsAge (.int n) age := by
  intro h
  obtain ⟨x, q, hx, hq, hpos, hspan⟩ := h
  have hx : Double.ofInt? n = some x := hx
  obtain ⟨-, hnone⟩ | ⟨-, y, z, hy, hz, hvalue⟩ := Double.ofInt?_of_le hsize
  · rw [hx] at hnone
    cases hnone
  · rw [hx] at hy
    cases hy
    have hsigned : q = (if decide (n < 0) then -1 else 1) * (z : ℚ) :=
      Option.some_inj.1 (hq.symm.trans hvalue)
    by_cases hneg : n < 0
    · have hmany : (0 : ℚ) < z := by
        have hcast : 0 < z := by omega
        exact_mod_cast hcast
      simp only [hneg, decide_true, if_true] at hsigned
      linarith
    · simp only [hneg, decide_false, Bool.false_eq_true, if_false, one_mul] at hsigned
      have hwhole : x.value? = some ((z : Int) : ℚ) := by
        rw [hq, hsigned]
        rfl
      obtain ⟨hfew, -⟩ := (ofHours?_eq_some_of_whole hwhole (Int.natCast_nonneg z)).1 hspan
      omega

/-- The integers that are ages, and the ages that they are. -/
theorem isAge_int_iff {n : Int} {age : Span} :
    IsAge (.int n) age ↔ (0 ≤ n ∧ n < 24000000000) ∧ age = Span.ofWholeHours n := by
  by_cases hsize : n.natAbs < 2 ^ 53
  · obtain ⟨x, hx, hvalue⟩ := Double.ofInt?_of_lt hsize
    have hage : IsAge (.int n) age ↔ 0 ≤ n ∧ Span.ofHours? x = some age := by
      simp [IsAge, hours?, hx, hvalue]
    rw [hage, and_assoc]
    exact and_congr_right fun hpos => ofHours?_eq_some_of_whole hvalue hpos
  · refine iff_of_false (not_isAge_of_le (Nat.le_of_not_lt hsize)) ?_
    omega

end Age

end PaneWatch.Http
