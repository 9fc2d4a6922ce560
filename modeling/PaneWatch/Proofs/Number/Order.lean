/-
Numbers in order.

Every number but the NaN has a rank: its value, or one of the two ends if it is infinite. Numbers
compare as their ranks do (`compare?_of_rank`), so apart from the NaN, which compares with nothing,
they are in a linear order.
-/
import Mathlib.Order.WithBot
import PaneWatch.Proofs.Number.Exact

namespace PaneWatch.Number.Double

variable {a b c : Double}

/-- Where a number stands among all numbers; a NaN stands nowhere. -/
def rank? : Double → Option (WithBot (WithTop ℚ))
  | .nan => none
  | .infinite negative => some (if negative then ⊥ else ⊤)
  | .finite s m e =>
    (value? (.finite s m e)).map fun q => ((q : WithTop ℚ) : WithBot (WithTop ℚ))

/-- Every number but NaN has a rank. -/
private theorem exists_rank (h : a ≠ .nan) : ∃ p, a.rank? = some p := by
  cases a with
  | nan => exact absurd rfl h
  | infinite s => exact ⟨_, rfl⟩
  | finite s m e => exact ⟨_, rfl⟩

-- ===================================================== ranks

private theorem compare_coe (p q : ℚ) :
    compare ((p : WithTop ℚ) : WithBot (WithTop ℚ)) ((q : WithTop ℚ) : WithBot (WithTop ℚ))
      = compare p q := by
  rw [← cmp_eq_compare, ← cmp_eq_compare]
  exact (WithBot.coe_strictMono.comp WithTop.coe_strictMono).cmp_map_eq p q

section Ranks

variable {p q : WithBot (WithTop ℚ)}

/-- Numbers compare as their ranks do. -/
theorem compare?_of_rank (ha : a.rank? = some p) (hb : b.rank? = some q) :
    a.compare? b = some (compare p q) := by
  have hbot (r : ℚ) : (⊥ : WithBot (WithTop ℚ)) < ((r : WithTop ℚ) : WithBot (WithTop ℚ)) :=
    WithBot.bot_lt_coe _
  have htop (r : ℚ) : ((r : WithTop ℚ) : WithBot (WithTop ℚ)) < ⊤ :=
    WithBot.coe_lt_coe.2 (WithTop.coe_lt_top r)
  cases a with
  | nan => cases ha
  | infinite s =>
      cases b with
      | nan => cases hb
      | infinite s' =>
          cases ha
          cases hb
          cases s <;> cases s' <;> rfl
      | finite s' m' e' =>
          cases ha
          cases hb
          cases s with
          | true => exact congrArg some (compare_lt_iff_lt.2 (hbot _)).symm
          | false => exact congrArg some (compare_gt_iff_gt.2 (htop _)).symm
  | finite s m e =>
      cases b with
      | nan => cases hb
      | infinite s' =>
          cases ha
          cases hb
          cases s' with
          | true => exact congrArg some (compare_gt_iff_gt.2 (hbot _)).symm
          | false => exact congrArg some (compare_lt_iff_lt.2 (htop _)).symm
      | finite s' m' e' =>
          cases ha
          cases hb
          rw [compare_coe]
          exact compare?_eq rfl rfl

/-- Numbers are ordered as their ranks, the infinities at both ends. -/
private theorem lt_iff_of_rank (ha : a.rank? = some p) (hb : b.rank? = some q) :
    a.lt b ↔ p < q := by
  rw [lt, compare?_of_rank ha hb, ← compare_lt_iff_lt]
  simp

/-- So are they by at most. -/
private theorem le_iff_of_rank (ha : a.rank? = some p) (hb : b.rank? = some q) :
    a.le b ↔ p ≤ q := by
  rw [le, compare?_of_rank ha hb, ← compare_le_iff_le]
  simp [Ordering.isLE_iff_ne_gt]

/-- And they are equal as numbers if their ranks are. -/
private theorem numEq_iff_of_rank (ha : a.rank? = some p) (hb : b.rank? = some q) :
    a.numEq b ↔ p = q := by
  rw [numEq, compare?_of_rank ha hb, ← compare_eq_iff_eq]
  simp

end Ranks

-- ===================================================== laws of the order

/-- Only numbers that are no NaN are less than others or greater. -/
theorem ne_nan_of_lt (h : a.lt b) : a ≠ .nan ∧ b ≠ .nan := by
  constructor
  · rintro rfl
    cases h
  · rintro rfl
    cases a <;> cases h

/-- Unless one is NaN, one number is at most another or the other is less. -/
theorem le_iff_not_lt (ha : a ≠ .nan) (hb : b ≠ .nan) : a.le b ↔ ¬b.lt a := by
  obtain ⟨p, hp⟩ := exists_rank ha
  obtain ⟨q, hq⟩ := exists_rank hb
  rw [le_iff_of_rank hp hq, lt_iff_of_rank hq hp, not_lt]

theorem numEq_symm (h : a.numEq b) : b.numEq a := by
  have hne : a ≠ .nan ∧ b ≠ .nan := by
    constructor
    · rintro rfl
      cases h
    · rintro rfl
      cases a <;> cases h
  obtain ⟨p, hp⟩ := exists_rank hne.1
  obtain ⟨q, hq⟩ := exists_rank hne.2
  rw [numEq_iff_of_rank hp hq] at h
  exact (numEq_iff_of_rank hq hp).2 h.symm

/-- Numbers that are at most each other are equal as numbers. -/
theorem numEq_of_le_of_le (ha : a ≠ .nan) (hb : b ≠ .nan) (hab : a.le b) (hba : b.le a) :
    a.numEq b := by
  obtain ⟨p, hp⟩ := exists_rank ha
  obtain ⟨q, hq⟩ := exists_rank hb
  rw [le_iff_of_rank hp hq] at hab
  rw [le_iff_of_rank hq hp] at hba
  exact (numEq_iff_of_rank hp hq).2 (le_antisymm hab hba)

/-- The order is transitive. -/
theorem lt_trans (hab : a.lt b) (hbc : b.lt c) : a.lt c := by
  obtain ⟨p, hp⟩ := exists_rank (ne_nan_of_lt hab).1
  obtain ⟨q, hq⟩ := exists_rank (ne_nan_of_lt hab).2
  obtain ⟨r, hr⟩ := exists_rank (ne_nan_of_lt hbc).2
  rw [lt_iff_of_rank hp hq] at hab
  rw [lt_iff_of_rank hq hr] at hbc
  exact (lt_iff_of_rank hp hr).2 (hab.trans hbc)

/-- No number is less than itself, NaN included. -/
theorem lt_irrefl (a : Double) : ¬a.lt a := by
  intro h
  obtain ⟨p, hp⟩ := exists_rank (ne_nan_of_lt h).1
  exact ((lt_iff_of_rank hp hp).1 h).false

/-- Every number but NaN is at most itself. -/
theorem le_refl (h : a ≠ .nan) : a.le a := (le_iff_not_lt h h).2 (lt_irrefl a)

theorem le_of_lt (h : a.lt b) : a.le b := by
  obtain ⟨ha, hb⟩ := ne_nan_of_lt h
  exact (le_iff_not_lt ha hb).2 fun hba => lt_irrefl a (lt_trans h hba)

/-- What is at most a number is less than what is more than that. -/
theorem lt_of_le_of_lt (ha : a ≠ .nan) (hab : a.le b) (hbc : b.lt c) : a.lt c := by
  obtain ⟨p, hp⟩ := exists_rank ha
  obtain ⟨q, hq⟩ := exists_rank (ne_nan_of_lt hbc).1
  obtain ⟨r, hr⟩ := exists_rank (ne_nan_of_lt hbc).2
  rw [le_iff_of_rank hp hq] at hab
  rw [lt_iff_of_rank hq hr] at hbc
  exact (lt_iff_of_rank hp hr).2 (hab.trans_lt hbc)

end PaneWatch.Number.Double
