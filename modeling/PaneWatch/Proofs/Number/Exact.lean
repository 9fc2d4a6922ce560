/-
The exact value of a floating point number.

Every finite number is a fraction, and comparing numbers compares these (`lt_iff`, `le_iff`). A NaN
compares with nothing, so a check against a lower and an upper bound leaves finite numbers only
(`between_iff`).

Integers are rounded to the nearest number. Up to 53 bits nothing has to be rounded; what has more
bits is rounded to a whole number that still has more. An integer is too large for any number from
`wholeBound` on (`ofInt?_eq_none_iff`): at this half way point the significand, being odd, is
carried beyond the greatest exponent.
-/
import Mathlib.Algebra.Order.Field.Power
import Mathlib.Algebra.Order.Field.Rat
import Mathlib.Tactic.Linarith
import Mathlib.Tactic.Ring
import PaneWatch.Number.Double

namespace PaneWatch.Number

/-- A whole number is rounded to itself. -/
private theorem roundDiv_one (n : Nat) : roundDiv n 1 = n := by
  simp [roundDiv, Nat.mod_one]

/-- A quotient is rounded to one of its two neighbours. -/
theorem roundDiv_bounds (num den : Nat) :
    num / den ≤ roundDiv num den ∧ roundDiv num den ≤ num / den + 1 := by
  unfold roundDiv
  dsimp only
  split
  · omega
  · split <;> omega

namespace Double

-- ===================================================== values

/-- The number as a fraction, if it is finite. -/
def value? : Double → Option ℚ
  | .finite s m e => some ((if s then -1 else 1) * m * 2 ^ e)
  | _ => none

/-- The finite numbers are those with a value. -/
theorem value?_isSome {x : Double} : x.value?.isSome = x.isFinite := by
  cases x <;> rfl

/-- A number that is scaled to a lower exponent has the same value. -/
private theorem scaledInt_mul (s : Bool) (m : Nat) {e base : Int} (h : base ≤ e) :
    (scaledInt s m e base : ℚ) * 2 ^ base = (if s then -1 else 1) * m * 2 ^ e := by
  have hpow : (2 : ℚ) ^ (e - base).natAbs * 2 ^ base = 2 ^ e := by
    rw [← zpow_natCast, ← zpow_add₀ two_ne_zero]
    congr 1
    omega
  have hint : (scaledInt s m e base : ℚ) = (if s then -1 else 1) * m * 2 ^ (e - base).natAbs := by
    unfold scaledInt
    cases s <;> simp
  rw [hint, mul_assoc, hpow]

variable {a b x : Double} {p q : ℚ}

/-- Numbers compare as their values do. -/
theorem compare?_eq (ha : a.value? = some p) (hb : b.value? = some q) :
    a.compare? b = some (compare p q) := by
  cases a <;> cases b <;> cases ha <;> cases hb
  next s m e s' m' e' =>
  have hpos : (0 : ℚ) < 2 ^ min e e' := zpow_pos two_pos _
  rw [compare?, ← scaledInt_mul s m (Int.min_le_left e e'),
    ← scaledInt_mul s' m' (Int.min_le_right e e')]
  generalize scaledInt s m e (min e e') = i
  generalize scaledInt s' m' e' (min e e') = j
  congr 1
  rcases lt_trichotomy i j with h | h | h
  · rw [compare_lt_iff_lt.2 h, eq_comm, compare_lt_iff_lt]
    exact mul_lt_mul_of_pos_right (by exact_mod_cast h) hpos
  · simp [h]
  · rw [compare_gt_iff_gt.2 h, eq_comm, compare_gt_iff_gt]
    exact mul_lt_mul_of_pos_right (by exact_mod_cast h) hpos

/-- Finite numbers are ordered as their values. -/
theorem lt_iff (ha : a.value? = some p) (hb : b.value? = some q) : a.lt b ↔ p < q := by
  rw [lt, compare?_eq ha hb, ← compare_lt_iff_lt]
  simp

/-- And so are they by at most. -/
private theorem le_iff (ha : a.value? = some p) (hb : b.value? = some q) : a.le b ↔ p ≤ q := by
  rw [le, compare?_eq ha hb, ← compare_le_iff_le]
  simp [Ordering.isLE_iff_ne_gt]

/-- What lies between two finite numbers is finite, and so is no NaN. -/
theorem between_iff (ha : a.value? = some p) (hb : b.value? = some q) :
    a.lt x ∧ x.le b ↔ ∃ r, x.value? = some r ∧ p < r ∧ r ≤ q := by
  cases hx : x.value? with
  | some r => simp [lt_iff ha hx, le_iff hx hb]
  | none =>
      refine iff_of_false ?_ (by simp)
      rintro ⟨hlt, hle⟩
      cases a <;> cases b <;> cases ha <;> cases hb
      cases x with
      | nan => cases hlt
      | infinite s =>
          cases s with
          | true => cases hlt
          | false => cases hle
      | finite s m e => cases hx

-- ===================================================== whole numbers

/-- A whole number in the place of the significand has its bits up to the 53rd. -/
theorem exponentFor_one {n : Nat} (h : n ≠ 0) : exponentFor n 1 = (n.log2 : Int) - 52 := by
  have hself : 2 ^ n.log2 ≤ n := Nat.log2_self_le h
  have hguess : ¬(scaleDown n 1 ((n.log2 : Int) - 52)).1
      < (scaleDown n 1 ((n.log2 : Int) - 52)).2 * Nat.pow 2 52 := by
    unfold scaleDown
    rw [Nat.pow_eq, Nat.pow_eq, not_lt]
    split
    · have hpow : 2 ^ 52 = 2 ^ n.log2 * 2 ^ ((n.log2 : Int) - 52).natAbs := by
        rw [← Nat.pow_add]
        congr 1
        omega
      rw [one_mul, hpow]
      exact Nat.mul_le_mul_right _ hself
    · have hpow : 2 ^ n.log2 = 2 ^ ((n.log2 : Int) - 52).natAbs * 2 ^ 52 := by
        rw [← Nat.pow_add]
        congr 1
        omega
      rwa [one_mul, ← hpow]
  have hlog : Nat.log2 1 = 0 := by decide
  unfold exponentFor
  dsimp only
  rw [hlog, Nat.cast_zero, sub_zero, if_neg hguess, minExponent]
  omega

/-- A number of fewer than 53 bits is scaled up to 53. -/
private theorem scaleDown_of_lt {n : Nat} (h : n.log2 < 53) :
    scaleDown n 1 ((n.log2 : Int) - 52) = (n * 2 ^ (52 - n.log2), 1) := by
  unfold scaleDown
  split
  · next hneg =>
    rw [Nat.pow_eq]
    congr 3
    omega
  · next hneg =>
    have h52 : n.log2 = 52 := by omega
    simp [h52]

/-- A whole number of at most 53 bits is shifted up to the full significand, not rounded. -/
theorem ofRatio_eq_of_lt {n : Nat} (hzero : n ≠ 0) (h : n < 2 ^ 53) (s : Bool) :
    ofRatio s n 1 = .finite s (n * 2 ^ (52 - n.log2)) ((n.log2 : Int) - 52) := by
  have hlog : n.log2 < 53 := (Nat.log2_lt hzero).2 h
  have hsize : n * 2 ^ (52 - n.log2) < 2 ^ 53 := by
    have hpow : 2 ^ 53 = 2 ^ (n.log2 + 1) * 2 ^ (52 - n.log2) := by
      rw [← Nat.pow_add]
      congr 1
      omega
    rw [hpow]
    exact Nat.mul_lt_mul_of_pos_right Nat.lt_log2_self (Nat.two_pow_pos _)
  have hcarry : ¬n * 2 ^ (52 - n.log2) = Nat.pow 2 53 := Nat.ne_of_lt hsize
  have hexp : ¬maxExponent < (n.log2 : Int) - 52 := by
    unfold maxExponent
    omega
  unfold ofRatio
  rw [if_neg hzero, exponentFor_one hzero]
  dsimp only
  rw [scaleDown_of_lt hlog]
  simp only [roundDiv_one, if_neg hcarry, if_neg hexp]

/-- A whole number of at most 53 bits is the number itself. -/
theorem ofRatio_of_lt {n : Nat} (h : n < 2 ^ 53) (s : Bool) :
    (ofRatio s n 1).value? = some ((if s then -1 else 1) * (n : ℚ)) := by
  by_cases hzero : n = 0
  · simp [ofRatio, hzero, zero, value?]
  · have hlog : n.log2 < 53 := (Nat.log2_lt hzero).2 h
    have hpow : (2 : ℚ) ^ (52 - n.log2) * 2 ^ ((n.log2 : Int) - 52) = 1 := by
      rw [← zpow_natCast, ← zpow_add₀ two_ne_zero]
      have hexp : ((52 - n.log2 : Nat) : Int) + ((n.log2 : Int) - 52) = 0 := by omega
      rw [hexp, zpow_zero]
    rw [ofRatio_eq_of_lt hzero h, value?]
    push_cast
    rw [mul_assoc, mul_assoc, hpow, mul_one]

/-- The least whole number that is too large for a number: what lies half way between the greatest
finite number and the power of two behind it. -/
def wholeBound : Nat := 2 ^ 1024 - 2 ^ 970

/-- A whole number of more than 53 bits has 53 of them left when it is rounded, or is carried to the
next power of two. -/
theorem ofRatio_of_le {n : Nat} (h : 2 ^ 53 ≤ n) (s : Bool) :
    ofRatio s n 1 =
      if roundDiv n (2 ^ (n.log2 - 52)) = 2 ^ 53 then
        if 1022 < n.log2 then .infinite s else .finite s (2 ^ 52) ((n.log2 : Int) - 51)
      else if 1023 < n.log2 then .infinite s
      else .finite s (roundDiv n (2 ^ (n.log2 - 52))) ((n.log2 : Int) - 52) := by
  have hzero : n ≠ 0 := by omega
  have hlog : 53 ≤ n.log2 := (Nat.le_log2 hzero).2 h
  have hscale : scaleDown n 1 ((n.log2 : Int) - 52) = (n, 2 ^ (n.log2 - 52)) := by
    have hexp : ((n.log2 : Int) - 52).natAbs = n.log2 - 52 := by omega
    rw [scaleDown, if_neg (by omega), hexp, Nat.pow_eq, one_mul]
  unfold ofRatio
  rw [if_neg hzero, exponentFor_one hzero]
  dsimp only
  rw [hscale]
  dsimp only
  rw [Nat.pow_eq, Nat.pow_eq, maxExponent]
  split
  · congr 1
    · simp
      omega
    · congr 1
      omega
  · congr 1
    simp
    omega

variable {n : Nat}

/-- A number of more bits is rounded to 53, or to the next power of two. -/
private theorem two_pow_le_roundDiv (h : 53 ≤ n.log2) :
    2 ^ 52 ≤ roundDiv n (2 ^ (n.log2 - 52)) ∧ roundDiv n (2 ^ (n.log2 - 52)) ≤ 2 ^ 53 := by
  have hzero : n ≠ 0 := by
    rintro rfl
    simp at h
  have hpos : 0 < 2 ^ (n.log2 - 52) := Nat.two_pow_pos _
  have hlower : 2 ^ 52 * 2 ^ (n.log2 - 52) ≤ n := by
    rw [← Nat.pow_add, Nat.add_sub_cancel' (by omega)]
    exact Nat.log2_self_le hzero
  have hupper : n < 2 ^ 53 * 2 ^ (n.log2 - 52) := by
    rw [← Nat.pow_add, show 53 + (n.log2 - 52) = n.log2 + 1 by omega]
    exact Nat.lt_log2_self
  have hleast : 2 ^ 52 ≤ n / 2 ^ (n.log2 - 52) := (Nat.le_div_iff_mul_le hpos).2 hlower
  have hmost : n / 2 ^ (n.log2 - 52) < 2 ^ 53 := (Nat.div_lt_iff_lt_mul hpos).2 hupper
  have hround := roundDiv_bounds n (2 ^ (n.log2 - 52))
  omega

/-- The greatest significand is odd, so a half beyond it goes up and is carried. -/
theorem roundDiv_eq_carry_iff {half : Nat} (h : n < 2 ^ 53 * (half * 2)) :
    roundDiv n (half * 2) = 2 ^ 53 ↔ (2 ^ 54 - 1) * half ≤ n := by
  have hpos : 0 < half * 2 := by omega
  have hdiv : half * 2 * (n / (half * 2)) + n % (half * 2) = n := Nat.div_add_mod n (half * 2)
  have hmod : n % (half * 2) < half * 2 := Nat.mod_lt n hpos
  have hquot : n / (half * 2) < 2 ^ 53 := (Nat.div_lt_iff_lt_mul hpos).2 h
  unfold roundDiv
  generalize n / (half * 2) = q at *
  generalize n % (half * 2) = r at *
  dsimp only
  by_cases hlast : q = 2 ^ 53 - 1
  · subst hlast
    split
    · omega
    · split <;> omega
  · have hless : half * 2 * q ≤ half * 2 * (2 ^ 53 - 2) := Nat.mul_le_mul_left _ (by omega)
    split
    · omega
    · split <;> omega

variable {k : Nat}

private theorem lt_of_log2_lt (h : n.log2 < k + 53) : n < (2 ^ 54 - 1) * 2 ^ k :=
  calc n < 2 ^ (n.log2 + 1) := Nat.lt_log2_self
    _ ≤ 2 ^ (53 + k) := Nat.pow_le_pow_right two_pos (by omega)
    _ = 2 ^ 53 * 2 ^ k := Nat.pow_add 2 53 k
    _ ≤ (2 ^ 54 - 1) * 2 ^ k := Nat.mul_le_mul_right _ (by decide)

private theorem le_of_lt_log2 (h : k + 53 < n.log2) : (2 ^ 54 - 1) * 2 ^ k ≤ n := by
  have hzero : n ≠ 0 := by
    rintro rfl
    simp at h
  calc (2 ^ 54 - 1) * 2 ^ k ≤ 2 ^ 54 * 2 ^ k := Nat.mul_le_mul_right _ (by decide)
    _ = 2 ^ (54 + k) := (Nat.pow_add 2 54 k).symm
    _ ≤ 2 ^ n.log2 := Nat.pow_le_pow_right two_pos (by omega)
    _ ≤ n := Nat.log2_self_le hzero

/-- Rounding reaches the next power of two exactly from half a unit below it on. -/
private theorem carried_iff (h : n.log2 = k + 53) :
    roundDiv n (2 ^ (n.log2 - 52)) = 2 ^ 53 ↔ (2 ^ 54 - 1) * 2 ^ k ≤ n := by
  have hshift : n.log2 - 52 = k + 1 := by omega
  have hupper : n < 2 ^ 53 * (2 ^ k * 2) :=
    calc n < 2 ^ (n.log2 + 1) := Nat.lt_log2_self
      _ = 2 ^ 53 * (2 ^ k * 2) := by rw [← Nat.pow_succ, ← Nat.pow_add, h, Nat.add_comm 53]
  rw [hshift, Nat.pow_succ]
  exact roundDiv_eq_carry_iff hupper

/-- The bound is half a unit below the power of two beyond the largest number. -/
private theorem wholeBound_eq : wholeBound = (2 ^ 54 - 1) * 2 ^ 970 := by
  rw [wholeBound, Nat.sub_mul, ← Nat.pow_add, one_mul]

/-- A significand before a power of two is a whole number. -/
theorem value?_whole (s : Bool) {m k : Nat} {e : Int} (he : e = k) :
    (finite s m e).value? = some ((if s then -1 else 1) * ((m * 2 ^ k : Nat) : ℚ)) := by
  subst he
  rw [value?, zpow_natCast, mul_assoc]
  push_cast
  rfl

private theorem two_pow_le_mul {m k : Nat} (hm : 2 ^ 52 ≤ m) (hk : 1 ≤ k) : 2 ^ 53 ≤ m * 2 ^ k :=
  calc 2 ^ 53 = 2 ^ 52 * 2 ^ 1 := rfl
    _ ≤ m * 2 ^ k := Nat.mul_le_mul hm (Nat.pow_le_pow_right two_pos hk)

/-- A whole number of more than 53 bits is too large, or the number nearest to it is a whole number
with as many bits at least. -/
theorem ofRatio_whole (h : 2 ^ 53 ≤ n) (s : Bool) :
    wholeBound ≤ n ∧ ofRatio s n 1 = .infinite s
      ∨ n < wholeBound ∧ ∃ z : Nat, 2 ^ 53 ≤ z
        ∧ (ofRatio s n 1).value? = some ((if s then -1 else 1) * (z : ℚ)) := by
  have hzero : n ≠ 0 := by omega
  have hlog : 53 ≤ n.log2 := (Nat.le_log2 hzero).2 h
  have hround := two_pow_le_roundDiv hlog
  -- as long as the exponent fits, the number is finite whether or not it is carried
  have hkept (hexp : n.log2 ≤ 1023)
      (hroom : n.log2 = 1023 → roundDiv n (2 ^ (n.log2 - 52)) ≠ 2 ^ 53) :
      ∃ z : Nat, 2 ^ 53 ≤ z
        ∧ (ofRatio s n 1).value? = some ((if s then -1 else 1) * (z : ℚ)) := by
    rw [ofRatio_of_le h]
    by_cases hcarry : roundDiv n (2 ^ (n.log2 - 52)) = 2 ^ 53
    · have hless : ¬1022 < n.log2 := fun hlt => hroom (by omega) hcarry
      rw [if_pos hcarry, if_neg hless, value?_whole s (k := n.log2 - 51) (by omega)]
      exact ⟨_, two_pow_le_mul le_rfl (by omega), rfl⟩
    · rw [if_neg hcarry, if_neg (by omega), value?_whole s (k := n.log2 - 52) (by omega)]
      exact ⟨_, two_pow_le_mul hround.1 (by omega), rfl⟩
  rw [wholeBound_eq]
  rcases Nat.lt_trichotomy n.log2 (970 + 53) with hexp | hexp | hexp
  · exact .inr ⟨lt_of_log2_lt hexp, hkept (by omega) (by omega)⟩
  · have hcarry := carried_iff hexp
    by_cases hbound : (2 ^ 54 - 1) * 2 ^ 970 ≤ n
    · refine .inl ⟨hbound, ?_⟩
      rw [ofRatio_of_le h, if_pos (hcarry.2 hbound), if_pos (by omega)]
    · exact .inr ⟨Nat.lt_of_not_le hbound, hkept (by omega) fun _ hq => hbound (hcarry.1 hq)⟩
  · refine .inl ⟨le_of_lt_log2 hexp, ?_⟩
    rw [ofRatio_of_le h, if_pos (by omega : 1022 < n.log2), if_pos hexp]
    exact ite_self _

-- ===================================================== integers

/-- An integer has a number if the nearest one is finite, and then it is that. -/
private theorem ofInt?_eq_some_iff {n : Int} :
    ofInt? n = some x ↔ ofRatio (n < 0) n.natAbs 1 = x ∧ x.isFinite := by
  unfold ofInt?
  cases ofRatio (n < 0) n.natAbs 1 with
  | nan =>
      refine iff_of_false (by simp) ?_
      rintro ⟨rfl, h⟩
      cases h
  | infinite s =>
      refine iff_of_false (by simp) ?_
      rintro ⟨rfl, h⟩
      cases h
  | finite s m e =>
      rw [Option.some_inj]
      refine ⟨?_, And.left⟩
      rintro rfl
      exact ⟨rfl, rfl⟩

private theorem sign_mul_natAbs (n : Int) :
    (if decide (n < 0) then -1 else 1) * (n.natAbs : ℚ) = n := by
  by_cases h : n < 0
  · have habs : (n.natAbs : ℤ) = -n := by omega
    simp only [h, decide_true, if_true]
    rw [← Int.cast_natCast, habs]
    push_cast
    ring
  · have habs : (n.natAbs : ℤ) = n := by omega
    simp only [h, decide_false, Bool.false_eq_true, if_false, one_mul]
    rw [← Int.cast_natCast, habs]

/-- An integer of at most 53 bits is kept. -/
theorem ofInt?_of_lt {n : Int} (h : n.natAbs < 2 ^ 53) :
    ∃ x, ofInt? n = some x ∧ x.value? = some (n : ℚ) := by
  have hvalue := ofRatio_of_lt h (n < 0)
  rw [sign_mul_natAbs] at hvalue
  refine ⟨_, ofInt?_eq_some_iff.2 ⟨rfl, ?_⟩, hvalue⟩
  rw [← value?_isSome, hvalue]
  rfl

/-- A longer integer is too large, or rounded to a whole number with as many bits at least. -/
theorem ofInt?_of_le {n : Int} (h : 2 ^ 53 ≤ n.natAbs) :
    wholeBound ≤ n.natAbs ∧ ofInt? n = none
      ∨ n.natAbs < wholeBound ∧ ∃ x, ∃ z : Nat, ofInt? n = some x ∧ 2 ^ 53 ≤ z
        ∧ x.value? = some ((if decide (n < 0) then -1 else 1) * (z : ℚ)) := by
  rcases ofRatio_whole h (n < 0) with ⟨hbound, hinfinite⟩ | ⟨hbound, z, hz, hvalue⟩
  · refine .inl ⟨hbound, ?_⟩
    rw [ofInt?, hinfinite]
  · refine .inr ⟨hbound, _, z, ofInt?_eq_some_iff.2 ⟨rfl, ?_⟩, hz, hvalue⟩
    rw [← value?_isSome, hvalue]
    rfl

/-- The integers that are too large for a number. -/
theorem ofInt?_eq_none_iff {n : Int} : ofInt? n = none ↔ wholeBound ≤ n.natAbs := by
  by_cases h : n.natAbs < 2 ^ 53
  · obtain ⟨x, hx, -⟩ := ofInt?_of_lt h
    have hbound : 2 ^ 53 ≤ wholeBound := by
      rw [wholeBound_eq]
      have hmul := Nat.mul_le_mul_left (2 ^ 54 - 1) (Nat.two_pow_pos 970)
      omega
    rw [hx]
    refine iff_of_false (by simp) (by omega)
  · rcases ofInt?_of_le (Nat.le_of_not_lt h) with ⟨hbound, hnone⟩ | ⟨hbound, x, z, hx, -⟩
    · exact iff_of_true hnone hbound
    · rw [hx]
      exact iff_of_false (by simp) (by omega)

-- ===================================================== parts

/-- The size of a number whose value is whole, and its sign. -/
theorem size_of_whole {s : Bool} {m : Nat} {e z : Int}
    (h : (if s then -1 else 1) * (m : ℚ) * 2 ^ e = z) :
    (m : ℚ) * 2 ^ e = z.natAbs ∧ (if s then -(z.natAbs : Int) else z.natAbs) = z := by
  have hpos : 0 ≤ (m : ℚ) * 2 ^ e := mul_nonneg (Nat.cast_nonneg m) (zpow_nonneg two_pos.le e)
  have habs : (z.natAbs : ℚ) = |(z : ℚ)| := by rw [Nat.cast_natAbs, Int.cast_abs]
  cases s with
  | true =>
      have hneg : (z : ℚ) = -(m * 2 ^ e) := by
        rw [← h]
        simp only [if_true]
        ring
      have hle : z ≤ 0 := by
        have hle : (z : ℚ) ≤ 0 := by linarith
        exact_mod_cast hle
      refine ⟨?_, by simp only [if_true]; omega⟩
      rw [habs, hneg, abs_neg, abs_of_nonneg hpos]
  | false =>
      have hsame : (z : ℚ) = m * 2 ^ e := by
        rw [← h]
        simp only [Bool.false_eq_true, if_false, one_mul]
      have hle : 0 ≤ z := by
        have hle : (0 : ℚ) ≤ z := by linarith
        exact_mod_cast hle
      refine ⟨?_, by simp only [Bool.false_eq_true, if_false]; omega⟩
      rw [habs, hsame, abs_of_nonneg hpos]

/-- A number whose value is whole has that value for its integer part and nothing beyond it. -/
theorem parts_of_whole {z : Int} (h : x.value? = some (z : ℚ)) :
    x.truncate = z ∧ ∃ s, x.fraction = zero s := by
  cases x with
  | nan | infinite s => cases h
  | finite s m e =>
      obtain ⟨hsize, hsign⟩ := size_of_whole (Option.some_inj.1 h)
      by_cases he : e < 0
      · have hpow : (2 : ℚ) ^ e * 2 ^ e.natAbs = 1 := by
          rw [← zpow_natCast, ← zpow_add₀ two_ne_zero]
          have hexp : e + (e.natAbs : Int) = 0 := by omega
          rw [hexp, zpow_zero]
        have hm : m = z.natAbs * 2 ^ e.natAbs := by
          have hrat : (m : ℚ) = z.natAbs * 2 ^ e.natAbs := by
            rw [← hsize, mul_assoc, hpow, mul_one]
          exact_mod_cast hrat
        refine ⟨?_, s, ?_⟩
        · have hdiv : m / 2 ^ e.natAbs = z.natAbs := by
            rw [hm, Nat.mul_div_cancel _ (Nat.two_pow_pos _)]
          rw [truncate, if_pos he, Nat.pow_eq, ← Int.natCast_ediv, hdiv]
          exact hsign
        · rw [fraction, if_pos he, Nat.pow_eq, hm, Nat.mul_mod_left, ofRatio, if_pos rfl]
      · have hm : z.natAbs = m * 2 ^ e.natAbs := by
          have hexp : e = (e.natAbs : Int) := by omega
          rw [hexp, zpow_natCast] at hsize
          exact_mod_cast hsize.symm
        refine ⟨?_, s, ?_⟩
        · rw [truncate, if_neg he, Nat.pow_eq, ← Nat.cast_mul, ← hm]
          exact hsign
        · rw [fraction, if_neg he]

end Double
end PaneWatch.Number
