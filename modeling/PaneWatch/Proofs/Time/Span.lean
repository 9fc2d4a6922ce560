/-
Whole hours as lengths of time.

A whole number of hours has nothing beyond its integer part, so nothing is rounded and its length is
exact. It is out of range exactly if it has more days than a length can have.
-/
import PaneWatch.Proofs.Number.Exact
import PaneWatch.Time.Span

namespace PaneWatch

namespace Number

private theorem roundDiv_mul (n : Nat) {den : Nat} (h : 0 < den) : roundDiv (n * den) den = n := by
  simp [roundDiv, Nat.mul_div_cancel n h, h]

namespace Double

private theorem ratio_finite_zero (s : Bool) (e : Int) :
    ∃ den, 0 < den ∧ (finite s 0 e).ratio = (0, den) := by
  by_cases h : e < 0
  · exact ⟨2 ^ e.natAbs, Nat.two_pow_pos _, by simp [ratio, h]⟩
  · exact ⟨1, Nat.one_pos, by simp [ratio, h]⟩

private theorem mul_zero_right {x : Double} (h : x.isFinite) (s : Bool) :
    ∃ s', x.mul (zero s) = zero s' := by
  cases x with
  | nan | infinite t => cases h
  | finite t m e =>
      refine ⟨t != s, ?_⟩
      simp only [zero, mul, Nat.mul_zero, Nat.zero_mul]
      split <;> rfl

end Double

end Number

namespace Time.Span

open Number (Double)

private theorem nearest_zero (n : Int) (s : Bool) : nearest n (Double.zero s) = n := by
  obtain ⟨den, hpos, hratio⟩ : ∃ den, 0 < den ∧ (Double.zero s).ratio = (0, den) :=
    Number.Double.ratio_finite_zero s Double.minExponent
  have hround : Number.roundDiv (n.natAbs * den) den = n.natAbs := Number.roundDiv_mul _ hpos
  have hnone : (if (Double.zero s).isNegative then -((0 : Nat) : Int) else (0 : Nat)) = 0 := by
    cases s <;> rfl
  have hsign : n * den < 0 ↔ n < 0 := by
    constructor
    · intro h
      by_contra hn
      exact absurd h (Int.not_lt.2 (Int.mul_nonneg (Int.not_lt.1 hn) (Int.natCast_nonneg den)))
    · intro h
      exact Int.mul_neg_of_neg_of_pos h (by exact_mod_cast hpos)
  simp only [nearest, hratio, hnone, Int.add_zero, Int.natAbs_mul, Int.natAbs_natCast, hround,
    hsign]
  split <;> omega

/-- A number of hours with a whole value is that many hours, if a length can have so many. -/
theorem ofHours?_of_whole {x : Double} {z : Int} (h : x.value? = some (z : ℚ)) :
    ofHours? x = ofMicros? (z * hour) := by
  obtain ⟨htruncate, s, hfraction⟩ := Double.parts_of_whole h
  have hhour : (Double.ofRatio false hour 1).isFinite := by
    rw [← Double.value?_isSome, Double.ofRatio_of_lt (by decide)]
    rfl
  obtain ⟨s', hrest⟩ := Number.Double.mul_zero_right hhour s
  simp only [ofHours?, htruncate, hfraction, hrest, nearest_zero]

/-- Whole hours are a length of time unless they are too many days. -/
theorem ofMicros?_hours (z : Int) :
    ofMicros? (z * hour)
      = if -maxDays ≤ z / 24 ∧ z / 24 ≤ maxDays then some (ofWholeHours z) else none := by
  have hpos : (0 : Int) < hour := by decide
  have hdays : (z * hour).fdiv day = z / 24 := by
    have hday : (day : Int) = 24 * hour := by decide
    rw [hday, Int.mul_fdiv_mul_of_pos_left _ _ hpos, Int.fdiv_eq_ediv_of_nonneg _ (by decide)]
  rw [ofMicros?, hdays]
  rfl

end Time.Span

end PaneWatch
