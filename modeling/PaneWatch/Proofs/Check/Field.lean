/-
When a check passes.

A check of a record passes exactly if the check of every field passes: combining outcomes keeps all
faults and makes up none. What a field then holds is what its value was read as, or the default if
there is no value (`Gives`).
-/
import PaneWatch.Check
import PaneWatch.Proofs.Number.Order

namespace PaneWatch

variable {α β : Type}

namespace Checked

/-- A reading passes if it gives a value. -/
theorem ofExcept_eq_valid {r : Except Cause α} {a : α} : ofExcept r = .valid a ↔ r = .ok a := by
  cases r <;> simp [ofExcept]

/-- A check passes under a label as it does without one. -/
private theorem under_eq_valid {label : String} {x : Checked α} {a : α} :
    x.under label = .valid a ↔ x = .valid a := by
  cases x <;> simp [under]

/-- Two checks pass together if each of them does. -/
theorem seq_eq_valid {f : Checked (α → β)} {x : Checked α} {b : β} :
    f <*> x = .valid b ↔ ∃ g, f = .valid g ∧ ∃ a, x = .valid a ∧ g a = b := by
  show f.apply x = .valid b ↔ _
  cases f <;> cases x <;> simp [apply]

/-- A check passes with what is made of its value. -/
theorem map_eq_valid {f : α → β} {x : Checked α} {b : β} :
    f <$> x = .valid b ↔ ∃ a, x = .valid a ∧ f a = b := by
  show (Checked.valid f).apply x = .valid b ↔ _
  cases x <;> simp [apply]

end Checked

namespace Check

open Number (Double)
open Bounding (within)

-- ===================================================== bounds

/-- A check of bounds that refuses a number that is not above the one bound, a number that is above
the other one, and what is no number, and gives back every other number. -/
class LawfulBounding [Bounding] : Prop where
  gives {above most x y : Double} (h : within above most x = .ok y) : y = x
  low {above most x y : Double} (h : x.le above) : within above most x ≠ .ok y
  high {above most x y : Double} (h : most.lt x) : within above most x ≠ .ok y
  noNumber {above most y : Double} : within above most .nan ≠ .ok y
  lets {above most x : Double} (habove : above ≠ .nan) (hmost : most ≠ .nan) (hx : x ≠ .nan)
    (hlow : x.le above = false) (hhigh : most.lt x = false) : within above most x = .ok x

instance : LawfulBounding where
  gives h := by
    simp only [within] at h
    split at h
    · cases h
    · split at h
      · cases h
      · exact (Except.ok.inj h).symm
  low {above most x y} h hok := by
    simp only [within] at hok
    split at hok
    · cases hok
    · split at hok
      · cases hok
      · next hlow =>
        have hlt : above.lt x := by simpa using hlow
        obtain ⟨habove, hx⟩ := Double.ne_nan_of_lt hlt
        exact (Double.le_iff_not_lt hx habove).1 h hlt
  high {above most x y} h hok := by
    simp only [within] at hok
    split at hok
    · cases hok
    · next hhigh =>
      have hle : x.le most := by simpa using hhigh
      obtain ⟨hmost, hx⟩ := Double.ne_nan_of_lt h
      exact (Double.le_iff_not_lt hx hmost).1 hle h
  noNumber {above most y} hok := by
    cases most <;> cases hok
  lets {above most x} habove hmost hx hlow hhigh := by
    have hle : x.le most := (Double.le_iff_not_lt hx hmost).2 (Bool.eq_false_iff.1 hhigh)
    have hlt : above.lt x := by
      by_contra hnot
      exact Bool.eq_false_iff.1 hlow ((Double.le_iff_not_lt hx habove).2 hnot)
    simp [within, hle, hlt]

/-- A number passes such a check exactly if it is within the bounds. -/
theorem within_eq_ok [Bounding] [LawfulBounding] {above most x y : Double} (habove : above ≠ .nan)
    (hmost : most ≠ .nan) :
    within above most x = .ok y ↔ x = y ∧ above.lt x ∧ x.le most := by
  constructor
  · intro h
    obtain rfl := LawfulBounding.gives h
    have hx : y ≠ .nan := by
      rintro rfl
      exact LawfulBounding.noNumber h
    refine ⟨rfl, ?_, (Double.le_iff_not_lt hx hmost).2 fun hlt => LawfulBounding.high hlt h⟩
    by_contra hnot
    exact LawfulBounding.low ((Double.le_iff_not_lt hx habove).2 hnot) h
  · rintro ⟨rfl, hlt, hle⟩
    have hx : x ≠ .nan := (Double.ne_nan_of_lt hlt).2
    refine LawfulBounding.lets habove hmost hx ?_ ?_
    · exact Bool.eq_false_iff.2 fun hlow => (Double.le_iff_not_lt hx habove).1 hlow hlt
    · exact Bool.eq_false_iff.2 ((Double.le_iff_not_lt hx hmost).1 hle)

/-- A number lies between two bounds if it is at least the one and at most the other. -/
private theorem between_eq_ok {least most n k : Int} :
    between least most n = .ok k ↔ n = k ∧ least ≤ n ∧ n ≤ most := by
  unfold between
  split
  · next h => simp; omega
  · split
    · next h => simp; omega
    · next h hle => simp; omega

/-- A value is a number between two bounds if it is an integer there. -/
private theorem integerBetween_eq_ok {v : Value} {least most n : Int} :
    integer v >>= between least most = .ok n ↔ integer v = .ok n ∧ least ≤ n ∧ n ≤ most := by
  cases integer v with
  | error c => simp [bind, Except.bind]
  | ok k =>
      show between least most k = .ok n ↔ _
      rw [between_eq_ok, Except.ok.injEq]
      exact and_congr_right fun hk => by rw [hk]

-- ===================================================== fields

/-- What a field of a record holds: what its value is read as, or the default without a value. -/
def Gives (entries : List (Value × Value)) (label : String) (absent : α)
    (reads : Value → α → Prop) (a : α) : Prop :=
  match Value.lookup? label entries with
  | none => a = absent
  | some v => reads v a

variable {entries : List (Value × Value)} {label : String} {absent a : α}

/-- A field passes if it is absent, or what stands there is a valid value. -/
theorem field_eq_valid (reads : Value → α → Prop) {check : Value → Checked α}
    (h : ∀ v, check v = .valid a ↔ reads v a) :
    field entries label absent check = .valid a ↔ Gives entries label absent reads a := by
  unfold field Gives
  cases Value.lookup? label entries with
  | none => simp [eq_comm]
  | some v => exact Checked.under_eq_valid.trans (h v)

/-- A field that is only read passes if it is absent or can be read. -/
theorem plainField_eq_valid {read : Value → Except Cause α} :
    field entries label absent (Checked.ofExcept ∘ read) = .valid a
      ↔ Gives entries label absent (fun v a => read v = .ok a) a :=
  field_eq_valid _ fun _ => Checked.ofExcept_eq_valid

/-- A field with bounds that its default keeps is read whatever the bounds, and is within them. -/
theorem field_eq_valid_of_fits (reads : Value → α → Prop) (fits : α → Prop)
    {check : Value → Checked α} (hfits : fits absent)
    (h : ∀ v, check v = .valid a ↔ reads v a ∧ fits a) :
    field entries label absent check = .valid a
      ↔ Gives entries label absent reads a ∧ fits a := by
  rw [field_eq_valid (fun v a => reads v a ∧ fits a) h]
  unfold Gives
  cases Value.lookup? label entries with
  | none =>
      refine ⟨?_, And.left⟩
      rintro rfl
      exact ⟨rfl, hfits⟩
  | some v => exact Iff.rfl

/-- A bounded field passes with a number within its bounds if its default is within them. -/
theorem rangeField_eq_valid {least most absent n : Int} (hfits : least ≤ absent ∧ absent ≤ most) :
    field entries label absent (fun v => .ofExcept (integer v >>= between least most)) = .valid n
      ↔ Gives entries label absent (fun v n => integer v = .ok n) n ∧ least ≤ n ∧ n ≤ most :=
  field_eq_valid_of_fits (fun v n => integer v = .ok n) (fun n => least ≤ n ∧ n ≤ most) hfits
    fun _ => Checked.ofExcept_eq_valid.trans integerBetween_eq_ok

end Check

end PaneWatch
