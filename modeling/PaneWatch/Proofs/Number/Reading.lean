/-
Numbers read from text can be written as text.

No more digits are read of an integer than may be written of one (`maxIntDigits`), in whatever
script they are. So an integer that was read has a text (`hasText_of_readInt?`).
-/
import Mathlib.Data.Nat.Digits.Defs
import PaneWatch.Number.Reading

namespace PaneWatch.Number

-- ===================================================== digits

/-- A digit of any script is one of ten. -/
theorem lt_of_digitValue? {c : Char} {d : Nat} (h : Text.digitValue? c = some d) : d < 10 := by
  unfold Text.digitValue? at h
  split at h
  · next hdigit =>
    obtain rfl := Option.some.inj h
    simp only [Char.isDigit, Bool.and_eq_true, decide_eq_true_eq] at hdigit
    have htop : c.val.toNat ≤ 57 := UInt32.le_iff_toNat_le.1 hdigit.2
    show c.val.toNat - 0x30 < 10
    omega
  · obtain ⟨base, hbase, rfl⟩ := Option.map_eq_some_iff.1 h
    have hnear := List.find?_some hbase
    simp only [Bool.and_eq_true, decide_eq_true_eq] at hnear
    omega

private theorem digits_of_spanMoreDigits (cs : List Char) :
    ∀ d ∈ (spanMoreDigits cs).1, d < 10 := by
  fun_induction spanMoreDigits cs with
  | case1 => exact nofun
  | case2 c rest d hd ds tail hspan ih =>
      rw [hspan] at ih
      exact List.forall_mem_cons.2 ⟨lt_of_digitValue? hd, ih⟩
  | case3 c rest hnone => exact nofun
  | case4 c rest hnot d hd ds tail hspan ih =>
      rw [hspan] at ih
      exact List.forall_mem_cons.2 ⟨lt_of_digitValue? hd, ih⟩
  | case5 c rest hnot hnone => exact nofun

private theorem digits_of_spanDigits (cs : List Char) : ∀ d ∈ (spanDigits cs).1, d < 10 := by
  fun_cases spanDigits cs with
  | case1 => exact nofun
  | case2 c rest d hd ds tail hspan =>
      have hmore := digits_of_spanMoreDigits rest
      rw [hspan] at hmore
      exact List.forall_mem_cons.2 ⟨lt_of_digitValue? hd, hmore⟩
  | case3 c rest hnone => exact nofun

-- ===================================================== their value

private theorem foldl_digits_lt (ds : List Nat) (h : ∀ d ∈ ds, d < 10) (n : Nat) :
    ds.foldl (fun n d => 10 * n + d) n < (n + 1) * 10 ^ ds.length := by
  induction ds generalizing n with
  | nil => simp
  | cons d ds ih =>
      obtain ⟨hd, hds⟩ := List.forall_mem_cons.1 h
      calc (d :: ds).foldl (fun n d => 10 * n + d) n
          < (10 * n + d + 1) * 10 ^ ds.length := ih hds _
        _ ≤ ((n + 1) * 10) * 10 ^ ds.length := Nat.mul_le_mul_right _ (by omega)
        _ = (n + 1) * 10 ^ (d :: ds).length := by rw [List.length_cons, Nat.pow_succ']; ring

/-- What some digits come to has no more digits itself. -/
theorem ofDigits_lt {ds : List Nat} (h : ∀ d ∈ ds, d < 10) : ofDigits ds < 10 ^ ds.length := by
  simpa [ofDigits] using foldl_digits_lt ds h 0

/-- An integer that is read from text can be written as text. -/
theorem hasText_of_readInt? {s : String} {n : Int} (h : readInt? s = some n) : hasText n := by
  unfold readInt? at h
  rcases hsign : splitSign (Text.strip Text.isSpace s.toList) with ⟨negative, body⟩
  rw [hsign] at h
  dsimp only at h
  have hdigits := digits_of_spanDigits body
  rcases hspan : spanDigits body with ⟨ds, rest⟩
  rw [hspan] at h hdigits
  dsimp only at h hdigits
  split at h
  · cases h
  · next hfew hds =>
    obtain ⟨rfl, -⟩ := Prod.mk.inj hds
    split at h
    · cases h
    · next hfew =>
      have hsize : n.natAbs = ofDigits ds := by
        rw [← Option.some.inj h]
        split <;> simp
      have hbound : n.natAbs < 10 ^ maxIntDigits := by
        rw [hsize]
        exact (ofDigits_lt hdigits).trans_le (Nat.pow_le_pow_right (by decide) (Nat.not_lt.1 hfew))
      exact decide_eq_true (Nat.toDigits_length 10 n.natAbs maxIntDigits (by decide) hbound)
  · cases h

end PaneWatch.Number
