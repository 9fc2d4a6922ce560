/-
Offsets read back from their text.

An offset is written as a sign, hours and minutes, and further down only as far as something is left
to say. Data entry reads no further than minutes. So an offset is read back there exactly as far as
its text ends with them: that is what `IsWholeMinutes` asks for.
-/
import PaneWatch.Proofs.Time.ReadBack

namespace PaneWatch.Time

open Moment (offsetMinutes offsetText)

-- ===================================================== how offsets are written

/-- The sign of an offset. -/
def signOf (o : Int) : Char := if o < 0 then '-' else '+'

/-- An offset is its size with its sign. -/
theorem ite_natAbs (o : Int) : (if o < 0 then -(o.natAbs : Int) else o.natAbs) = o := by
  split <;> omega

/-- An offset is written with its sign, hours and minutes. -/
theorem toList_offsetMinutes (o : Int) : (offsetMinutes o).toList
    = signOf o :: ((padded 2 (o.natAbs / (60 * second) / 60)).toList
      ++ ':' :: (padded 2 (o.natAbs / (60 * second) % 60)).toList) := by
  unfold offsetMinutes signOf
  split <;> simp

/-- An offset of whole minutes. -/
def IsWholeMinutes (o : Int) : Prop := o.natAbs % (60 * second) = 0

instance (o : Int) : Decidable (IsWholeMinutes o) := by
  unfold IsWholeMinutes
  infer_instance

private theorem offsetText_of_wholeMinutes {o : Int} (h : IsWholeMinutes o) :
    offsetText o = offsetMinutes o := by
  unfold IsWholeMinutes second at h
  have hmicro : o.natAbs % second = 0 := by
    unfold second
    omega
  have hseconds : o.natAbs / second % 60 = 0 := by
    unfold second
    omega
  simp [offsetText, hmicro, hseconds]

/-- The hours and minutes of an offset of less than a day, as they are written. -/
theorem offset_bounds {o : Int} (h : o.natAbs < day) :
    o.natAbs / (60 * second) / 60 < 24 ∧ o.natAbs / (60 * second) % 60 < 60 := by
  unfold day hour second at *
  omega

-- ===================================================== lenient reading

namespace Lenient

private theorem isMinus_signOf (o : Int) : isMinus (signOf o) = decide (o < 0) := by
  unfold signOf
  split
  · next h => simp [h, isMinus]
  · next h => simp [h, isMinus]

/-- An offset of whole minutes is read back from its text. -/
theorem offset?_offsetText {o : Int} (hday : o.natAbs < day) (hwhole : IsWholeMinutes o) :
    offset? (offsetText o).toList = some (some o) := by
  obtain ⟨hhours, hminutes⟩ := offset_bounds hday
  have hsize : (o.natAbs / (60 * second) / 60 * 60 + o.natAbs / (60 * second) % 60) * 60 * second
      = o.natAbs := by
    unfold IsWholeMinutes second at *
    omega
  have hmarked : (signOf o == 'Z' || signOf o == 'z') = false
      ∧ (signOf o == '+' || decide (o < 0)) = true := by
    unfold signOf
    split
    · next h => simp [h]
    · simp
  have hminutes' : digits? 2 (padded 2 (o.natAbs / (60 * second) % 60)).toList
      = some (o.natAbs / (60 * second) % 60, []) := by
    have h := digits?_two (Nat.lt_trans hminutes (by decide)) []
    rwa [List.append_nil] at h
  have hfits : ([] : List Char).isEmpty && decide (o.natAbs / (60 * second) % 60 < 60)
      && decide (o.natAbs / (60 * second) / 60 < 24) := by
    simp [hhours, hminutes]
  rw [offsetText_of_wholeMinutes hwhole, toList_offsetMinutes]
  simp only [offset?, hmarked.1, hmarked.2, digits?_two (Nat.lt_trans hhours (by decide)),
    hminutes', guard_of hfits, hsize, isMinus_signOf, decide_eq_true_eq, ite_natAbs, if_true,
    Bool.false_eq_true, if_false, Option.bind_eq_bind, Option.bind_some]
  rfl

end Lenient

end PaneWatch.Time
