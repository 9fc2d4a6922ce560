/-
An object with one integer, as a request brings it.

Bytes of ASCII are read as the characters that they are, whichever encoding they might have had. An
object that holds a single integer is then read as just that, as long as the integer does not have
more digits than are counted; with more of them the whole text is none (`ofBytes?_integer`).
-/
import Mathlib.Data.List.TakeWhile
import Mathlib.Data.Option.Basic
import PaneWatch.Json.Encoding
import PaneWatch.Proofs.Text.Utf8

namespace PaneWatch.Json

-- ===================================================== bytes

namespace Encoding

private theorem toNat_byte {c : Char} (h : c.toNat < 0x80) : c.val.toUInt8.toNat = c.toNat := by
  rw [UInt32.toNat_toUInt8]
  exact Nat.mod_eq_of_lt (Nat.lt_trans h (by decide))

private theorem byte_lt {c : Char} (h : c.toNat < 0x80) : c.val.toUInt8 < 0x80 := by
  rw [UInt8.lt_iff_toNat_lt, toNat_byte h]
  exact h

private theorem byte_ne_zero {c : Char} (h : c.toNat < 0x80) (hne : c.toNat ≠ 0) :
    c.val.toUInt8 ≠ 0 := by
  intro hzero
  have hnat := toNat_byte h
  rw [hzero] at hnat
  exact hne hnat.symm

/-- An ASCII character is read from its one byte. -/
private theorem takeUtf8?_ascii {c : Char} (h : c.toNat < 0x80) (rest : List UInt8) :
    takeUtf8? (c.val.toUInt8 :: rest) = some (c, rest) := by
  rw [takeUtf8?, if_pos (byte_lt h), toNat_byte h, Char.ofNat_toNat]

/-- ASCII text is decoded byte by byte. -/
private theorem decode?_utf8_of_ascii {cs : List Char} (h : ∀ c ∈ cs, c.toNat < 0x80) :
    decode? utf8 cs.length (cs.map (·.val.toUInt8)) = some cs := by
  induction cs with
  | nil => rfl
  | cons c cs ih =>
      have hc := takeUtf8?_ascii (h c List.mem_cons_self) (cs.map (·.val.toUInt8))
      have hcs := ih fun d hd => h d (List.mem_cons_of_mem c hd)
      simp only [List.map_cons, List.length_cons, decode?, take?, hc, Option.bind_eq_bind,
        Option.bind_some, hcs]
      rfl

/-- Without a mark and without zeros at the start the encoding is UTF-8. -/
theorem detect_of_small {a b : UInt8} (ha : a < 0x80) (hzero : a ≠ 0 ∧ b ≠ 0)
    (rest : List UInt8) : detect (a :: b :: rest) = (utf8, a :: b :: rest) := by
  have hzeros : ofZeros (a :: b :: rest) = utf8 := by
    unfold ofZeros
    split <;> simp_all
  unfold detect
  split <;> simp_all

end Encoding

/-- ASCII text that starts with two characters other than zero is read from its bytes. -/
theorem ofBytes?_of_ascii {a b : Char} {cs : List Char} (h : ∀ c ∈ a :: b :: cs, c.toNat < 0x80)
    (hzero : a.toNat ≠ 0 ∧ b.toNat ≠ 0) :
    ofBytes? (String.ofList (a :: b :: cs)).toUTF8.toList
      = ofText? (String.ofList (a :: b :: cs)) := by
  have ha : a.toNat < 0x80 := h a (by simp)
  have hb : b.toNat < 0x80 := h b (by simp)
  have hdecode := Encoding.decode?_utf8_of_ascii h
  have hdetect := Encoding.detect_of_small (Encoding.byte_lt ha)
    ⟨Encoding.byte_ne_zero ha hzero.1, Encoding.byte_ne_zero hb hzero.2⟩ (cs.map (·.val.toUInt8))
  rw [Text.toList_toUTF8_of_ascii h, ofBytes?, List.map_cons, List.map_cons, hdetect]
  simp only [List.map_cons, List.length_cons, List.length_map] at hdecode ⊢
  rw [hdecode]
  rfl

-- ===================================================== keys

namespace Reader

/-- A character that stands for itself inside a string. -/
def IsPlain (c : Char) : Prop := 0x20 ≤ c.toNat ∧ c.toNat ≠ 0x22 ∧ c.toNat ≠ 0x5c

/-- Plain characters are read as they are, up to the closing quote. -/
private theorem string?_plain {cs : List Char} (h : ∀ c ∈ cs, IsPlain c) (fuel : Nat)
    (rest : List Char) :
    string? (fuel + cs.length + 1) (cs ++ Char.ofNat 0x22 :: rest) = some (cs, rest) := by
  induction cs with
  | nil => simp [string?]
  | cons c cs ih =>
      obtain ⟨hleast, hquote, hslash⟩ := h c List.mem_cons_self
      have hcs := ih fun d hd => h d (List.mem_cons_of_mem c hd)
      have hcontrol : ¬c.toNat < 0x20 := Nat.not_lt.2 hleast
      rw [List.cons_append, List.length_cons, ← Nat.add_assoc, string?.eq_def]
      dsimp only
      rw [if_neg hquote, if_neg hslash, if_neg hcontrol, hcs]
      rfl

/-- Nothing is skipped where no blank stands. -/
private theorem skipBlanks_cons {c : Char} (h : c ∉ [' ', '\t', '\n', '\r']) (rest : List Char) :
    skipBlanks (c :: rest) = c :: rest := by
  simp only [List.mem_cons, List.not_mem_nil, or_false, not_or] at h
  simp [skipBlanks, h]

-- ===================================================== digits

private theorem toNat_of_isDigit {d : Char} (h : d.isDigit) : 48 ≤ d.toNat ∧ d.toNat ≤ 57 := by
  simpa [Char.isDigit, UInt32.le_iff_toNat_le] using h

/-- A character that is no digit is not equal to one that is. -/
theorem ne_of_isDigit {c d : Char} (hd : d.isDigit) (hc : c.isDigit = false) : d ≠ c := by
  intro h
  rw [h, hc] at hd
  cases hd

private theorem notMem_of_isDigit {cs : List Char} {d : Char} (hd : d.isDigit)
    (hcs : cs.any Char.isDigit = false) : d ∉ cs := by
  intro hmem
  exact List.any_eq_false.1 hcs d hmem hd

/-- Digits are read up to the first character that is none. -/
private theorem spanDigits_append {ds : List Char} (h : ∀ d ∈ ds, d.isDigit) {c : Char}
    (hc : c.isDigit = false) (rest : List Char) :
    spanDigits (ds ++ c :: rest) = (ds, c :: rest) := by
  have hds : (ds ++ c :: rest).takeWhile Char.isDigit = ds := by
    rw [List.takeWhile_append_of_pos h, List.takeWhile_cons_of_neg (by simp [hc]),
      List.append_nil]
  simp [spanDigits, hds]

/-- Digits that spell a number above zero. -/
structure IsNumeral (ds : List Char) : Prop where
  digits : ∀ d ∈ ds, d.isDigit
  ne_nil : ds ≠ []
  first : ds.head? ≠ some '0'

/-- The text of a sign. -/
def sign (negative : Bool) : List Char := if negative then ['-'] else []

/-- The integer of a sign and digits. -/
def integer (negative : Bool) (ds : List Char) : Int :=
  if negative then -digitsValue ds else digitsValue ds

variable {key : String} {ds : List Char} {d : Char}

/-- A numeral is read as its integer, unless it has too many digits; then it is not read at all.
-/
private theorem number?_numeral (h : IsNumeral ds) (negative : Bool) (rest : List Char) :
    number? (sign negative ++ ds ++ Char.ofNat 0x7d :: rest)
      = if ds.length ≤ Number.maxIntDigits
        then some (.int (integer negative ds), Char.ofNat 0x7d :: rest) else none := by
  have hspan := spanDigits_append h.digits (c := Char.ofNat 0x7d) (by decide) rest
  obtain ⟨d, tail, hds⟩ := List.exists_cons_of_ne_nil h.ne_nil
  have hminus : d ≠ '-' := ne_of_isDigit (h.digits d (by simp [hds])) (by decide)
  have hzero : d ≠ '0' := by simpa [hds] using h.first
  have htext : ds ++ Char.ofNat 0x7d :: rest = d :: (tail ++ Char.ofNat 0x7d :: rest) := by
    rw [hds, List.cons_append]
  have hread : number? (sign negative ++ ds ++ Char.ofNat 0x7d :: rest)
      = (guard (ds.length ≤ Number.maxIntDigits) : Option Unit).bind fun _ =>
        some (.int (integer negative ds), Char.ofNat 0x7d :: rest) := by
    rw [List.append_assoc, htext]
    rw [htext] at hspan
    cases negative <;> simp [number?, sign, integer, exponent?, hspan, hminus, hzero, h.ne_nil]
  rw [hread]
  change (if ds.length ≤ Number.maxIntDigits then some () else none).bind _ = _
  split <;> rfl

/-- A numeral is none of the names that stand for values. -/
private theorem name?_digits (h : d.isDigit) (negative : Bool) (rest : List Char) :
    name? (sign negative ++ d :: rest) = none := by
  have hne : d ∉ ['n', 't', 'f', 'N', 'I', '-'] := notMem_of_isDigit h (by decide)
  simp only [List.mem_cons, not_or, eq_comm (a := d)] at hne
  cases negative <;> simp [name?, names, sign, hne]

/-- A value that starts with a digit, or with a sign and a digit, is a number. -/
theorem value?_digits (h : d.isDigit) (negative : Bool) (fuel : Nat) (rest : List Char) :
    value? (fuel + 1) (sign negative ++ d :: rest) = number? (sign negative ++ d :: rest) := by
  have hname := name?_digits h negative rest
  have hrange := toNat_of_isDigit h
  have hquote : d.toNat ≠ 0x22 := by omega
  have hbrace : d.toNat ≠ 0x7b := by omega
  have hbracket : d ≠ '[' := ne_of_isDigit h (by decide)
  rw [value?.eq_def]
  cases negative with
  | false =>
      simp only [sign, Bool.false_eq_true, if_false, List.nil_append] at hname ⊢
      simp [hquote, hbrace, hbracket, hname]
  | true =>
      simp only [sign, if_true, List.cons_append, List.nil_append] at hname ⊢
      simp [hname]

private theorem skipBlanks_digits (h : d.isDigit) (negative : Bool) (rest : List Char) :
    skipBlanks (sign negative ++ d :: rest) = sign negative ++ d :: rest := by
  cases negative with
  | false => exact skipBlanks_cons (notMem_of_isDigit h (by decide)) rest
  | true => exact skipBlanks_cons (by decide) (d :: rest)

-- ===================================================== the object

/-- An object with one member that is an integer, as text. -/
def integerText (key : String) (negative : Bool) (ds : List Char) : List Char :=
  Char.ofNat 0x7b :: Char.ofNat 0x22 :: (key.toList ++ Char.ofNat 0x22 :: ':' ::
    (sign negative ++ ds ++ [Char.ofNat 0x7d]))

/-- An object with one member that is a numeral is read by what becomes of the numeral. -/
private theorem members?_integer (hkey : ∀ c ∈ key.toList, IsPlain c) (h : IsNumeral ds)
    (negative : Bool) (fuel : Nat) :
    members? (fuel + key.toList.length + 2) [] (integerText key negative ds).tail
      = if ds.length ≤ Number.maxIntDigits then some ([(key, .int (integer negative ds))], [])
        else none := by
  have hnumber := number?_numeral h negative []
  obtain ⟨d, ds, rfl⟩ := List.exists_cons_of_ne_nil h.ne_nil
  have hd : d.isDigit := h.digits d List.mem_cons_self
  rw [integerText, List.tail_cons]
  rw [List.append_assoc, List.cons_append] at hnumber ⊢
  have hvalue := value?_digits hd negative (fuel + key.toList.length) (ds ++ [Char.ofNat 0x7d])
  have hblanks := skipBlanks_digits hd negative (ds ++ [Char.ofNat 0x7d])
  have hcolon := skipBlanks_cons (c := ':') (by decide)
    (sign negative ++ d :: (ds ++ [Char.ofNat 0x7d]))
  have hbrace := skipBlanks_cons (c := Char.ofNat 0x7d) (by decide) []
  have hquote : (guard ((Char.ofNat 0x22).toNat = 0x22) : Option Unit) = some () := if_pos rfl
  rw [members?.eq_def]
  dsimp only
  rw [hquote]
  simp only [string?_plain hkey, hcolon, hblanks, hvalue, hnumber, Option.bind_eq_bind,
    Option.bind_some, String.ofList_toList]
  by_cases hfew : (d :: ds).length ≤ Number.maxIntDigits
  · rw [if_pos hfew, if_pos hfew]
    simp [hbrace, insert]
  · rw [if_neg hfew, if_neg hfew]
    simp

end Reader

open Reader

variable {key : String} {ds : List Char}

/-- So it is with the whole text. -/
private theorem ofText?_integer (hkey : ∀ c ∈ key.toList, IsPlain c) (h : IsNumeral ds)
    (negative : Bool) :
    ofText? (String.ofList (integerText key negative ds))
      = if ds.length ≤ Number.maxIntDigits then some (.object [(key, .int (integer negative ds))])
        else none := by
  -- the reader has more steps to spare than it takes: so many are left behind the key
  have hmembers := members?_integer hkey h negative
    (2 * (integerText key negative ds).length - 1 - key.toList.length)
  have hlength : key.toList.length + 2 ≤ (integerText key negative ds).length := by
    simp [integerText]
  have hfuel : 2 * (integerText key negative ds).length - 1 - key.toList.length
      + key.toList.length + 2 = 2 * (integerText key negative ds).length + 1 := by omega
  rw [hfuel] at hmembers
  have hquote := skipBlanks_cons (c := Char.ofNat 0x22) (by decide)
  have hvalue : value? (2 * (integerText key negative ds).length + 2)
        (integerText key negative ds)
      = if ds.length ≤ Number.maxIntDigits
        then some (.object [(key, .int (integer negative ds))], []) else none := by
    rw [value?.eq_def]
    simp only [integerText, List.tail_cons, hquote] at hmembers ⊢
    rw [hmembers]
    by_cases hfew : ds.length ≤ Number.maxIntDigits <;> simp [hfew]
  have hblanks : skipBlanks (integerText key negative ds) = integerText key negative ds :=
    skipBlanks_cons (by decide) _
  simp only [ofText?, String.toList_ofList, hblanks, hvalue]
  by_cases hfew : ds.length ≤ Number.maxIntDigits <;> simp [hfew, skipBlanks]

/-- An object with an integer is read from its bytes exactly if the integer does not have too many
digits. -/
theorem ofBytes?_integer (hkey : ∀ c ∈ key.toList, IsPlain c ∧ c.toNat < 0x80)
    (h : IsNumeral ds) (negative : Bool) :
    ofBytes? (String.ofList (integerText key negative ds)).toUTF8.toList
      = if ds.length ≤ Number.maxIntDigits then some (.object [(key, .int (integer negative ds))])
        else none := by
  rw [← ofText?_integer (fun c hc => (hkey c hc).1) h negative]
  refine ofBytes?_of_ascii ?_ (by decide)
  intro c hc
  simp only [List.mem_cons, List.mem_append, List.not_mem_nil, or_false] at hc
  rcases hc with rfl | rfl | hc | rfl | rfl | (hc | hc) | rfl
  · decide
  · decide
  · exact (hkey c hc).2
  · decide
  · decide
  · cases negative with
    | false => cases hc
    | true =>
        rw [List.mem_singleton.1 hc]
        decide
  · have hdigit := toNat_of_isDigit (h.digits c hc)
    omega
  · decide

end PaneWatch.Json
