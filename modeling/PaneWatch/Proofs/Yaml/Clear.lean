/-
What is printed needs no escape.

A pen writes marks, blanks, line ends, digits, words of its own and characters of texts. Of these
only characters of texts can be anything else than a line feed or printable ASCII, and a text that
holds such a one is written between double quotes, where it is escaped. So whoever reads the file
with another notion of text, or of the end of a line, reads what was printed
(`isClear_print`).
-/
import PaneWatch.Proofs.Lookup
import PaneWatch.Yaml.Printer

namespace PaneWatch.Yaml

open Number (Double)

/-- That no character of a text needs an escape. -/
def IsClear (cs : List Char) : Prop := ∀ c ∈ cs, Style.needsEscape c = false

namespace IsClear

variable {cs ds : List Char}

theorem nil : IsClear [] := nofun

/-- What is put together of clear text is clear. -/
theorem append (h : IsClear cs) (h' : IsClear ds) : IsClear (cs ++ ds) :=
  List.forall_mem_append.2 ⟨h, h'⟩

theorem cons {c : Char} (h : Style.needsEscape c = false) (h' : IsClear cs) : IsClear (c :: cs) :=
  List.forall_mem_cons.2 ⟨h, h'⟩

theorem reverse (h : IsClear cs) : IsClear cs.reverse := fun c hc => h c (List.mem_reverse.1 hc)

theorem replicate (n : Nat) {c : Char} (h : Style.needsEscape c = false) :
    IsClear (List.replicate n c) := by
  intro d hd
  rw [List.eq_of_mem_replicate hd]
  exact h

/-- Text of which no character needs an escape is clear. -/
private theorem of_any (h : cs.any Style.needsEscape = false) : IsClear cs := fun c hc => by
  simpa using List.any_eq_false.1 h c hc

/-- So is text of characters that all occur in clear text. -/
private theorem of_subset (h : IsClear ds) (hsub : cs ⊆ ds) :
    IsClear cs := fun c hc => h c (hsub hc)

end IsClear

-- ===================================================== digits

/-- A number is written in digits. -/
private theorem exists_digitChar_of_mem {base n : Nat} (hbase : 1 < base) {c : Char}
    (h : c ∈ Nat.toDigits base n) : ∃ d, c = Nat.digitChar d := by
  induction n using Nat.strongRecOn with
  | ind n ih =>
      rw [Nat.toDigits_eq_if hbase] at h
      split at h
      · exact ⟨n, List.mem_singleton.1 h⟩
      · rcases List.mem_append.1 h with hfront | hlast
        · exact ih (n / base) (Nat.div_lt_self (by omega) hbase) hfront
        · exact ⟨n % base, List.mem_singleton.1 hlast⟩

/-- A digit of any base is clear, in upper case as well. -/
theorem needsEscape_digitChar (d : Nat) : Style.needsEscape (Nat.digitChar d) = false
    ∧ Style.needsEscape (Nat.digitChar d).toUpper = false := by
  by_cases h : d < 16
  · revert d
    decide
  · have hstar : Nat.digitChar d = '*' := Nat.digitChar_eq_star.2 (by omega)
    rw [hstar]
    decide

/-- Digits need no escape in any base. -/
private theorem isClear_toDigits {base : Nat} (hbase : 1 < base) (n : Nat) :
    IsClear (Nat.toDigits base n) := by
  intro c hc
  obtain ⟨d, rfl⟩ := exists_digitChar_of_mem hbase hc
  exact (needsEscape_digitChar d).1

private theorem isClear_hexText (width n : Nat) : IsClear (hexText width n) := by
  refine (IsClear.replicate _ (by decide)).append fun c hc => ?_
  obtain ⟨digit, hdigit, rfl⟩ := List.mem_map.1 hc
  obtain ⟨d, rfl⟩ := exists_digitChar_of_mem (by decide) hdigit
  exact (needsEscape_digitChar d).2

/-- Nor does an integer, with its sign. -/
private theorem isClear_integer (n : Int) : IsClear (toString n).toList := by
  have hnat (m : Nat) : IsClear (toString m).toList := by
    rw [Nat.toString_eq_ofList_toDigits, String.toList_ofList]
    exact isClear_toDigits (by decide) m
  cases n with
  | ofNat m => exact hnat m
  | negSucc m =>
      have htext : toString (Int.negSucc m) = "-" ++ toString (m + 1) := rfl
      rw [htext, String.toList_append]
      exact .append (.of_any (by decide)) (hnat (m + 1))

-- ===================================================== numbers

/-- A decimal point and zeros keep digits clear. -/
private theorem isClear_layOut {ds : List Char} (h : IsClear ds) (point : Int) :
    IsClear (Double.layOut ds point) := by
  have hexponent (e : Int) : IsClear (Double.exponentText e) := by
    have hdigits : IsClear (Nat.toDigits 10 e.natAbs) := isClear_toDigits (by decide) _
    unfold Double.exponentText
    refine .cons (by split <;> decide) ?_
    split
    · exact .cons (by decide) hdigits
    · exact hdigits
  unfold Double.layOut
  split
  · split
    · exact .cons (by decide) (.cons (by decide) ((IsClear.replicate _ (by decide)).append h))
    · dsimp only
      split
      · exact (h.append (IsClear.replicate _ (by decide))).append
          (.of_any (by decide))
      · exact (h.of_subset (List.take_subset _ _)).append
          (.cons (by decide) (h.of_subset (List.drop_subset _ _)))
  · split
    · exact .nil
    · exact h.append (.cons (by decide) (hexponent _))
    · next d rest _ =>
      have hrest : IsClear rest := h.of_subset (List.subset_cons_self d rest)
      exact .cons (h d List.mem_cons_self)
        (.cons (by decide) (hrest.append (.cons (by decide) (hexponent _))))

private theorem isClear_trimZeros {ds : List Char} (h : IsClear ds) :
    IsClear (Double.trimZeros ds) := by
  unfold Double.trimZeros
  split
  · exact .of_any (by decide)
  · exact (h.reverse.of_subset (List.dropWhile_sublist _).subset).reverse

/-- A real number needs no escape. -/
private theorem isClear_toText (x : Double) : IsClear x.toText.toList := by
  cases x with
  | nan => exact .of_any (by decide)
  | infinite negative =>
      cases negative with
      | false => exact .of_any (by decide)
      | true => exact .of_any (by decide)
  | finite negative m e =>
      have hsigned {cs : List Char} (h : IsClear cs) :
          IsClear (if negative then '-' :: cs else cs) := by
        split
        · exact .cons (by decide) h
        · exact h
      rw [Double.toText, String.toList_ofList]
      refine hsigned ?_
      split
      · exact .of_any (by decide)
      · exact isClear_layOut (isClear_trimZeros (isClear_toDigits (by decide) _)) _

/-- Nor does it in the spelling of the format. -/
private theorem isClear_realText (x : Double) : IsClear (Pen.realText x).toList := by
  have htext := isClear_toText x
  unfold Pen.realText
  split
  · exact .of_any (by decide)
  · exact .of_any (by decide)
  · exact .of_any (by decide)
  · dsimp only
    split
    · rwa [String.toList_ofList]
    · rw [String.toList_ofList]
      exact ((htext.of_subset (List.takeWhile_sublist _).subset).append
        (.of_any (by decide))).append (htext.of_subset (List.dropWhile_sublist _).subset)

-- ===================================================== texts

/-- Nor does an escape itself. -/
private theorem isClear_escape (c : Char) : IsClear (escape c) := by
  have hletters : ∀ e ∈ escapeLetters, Style.needsEscape e.2 = false := by decide
  refine .cons (by decide) ?_
  split
  · next letter hletter =>
    exact .cons (hletters _ (mem_of_lookup hletter)) .nil
  · split
    · exact .cons (by decide) (isClear_hexText _ _)
    · split
      · exact .cons (by decide) (isClear_hexText _ _)
      · exact .cons (by decide) (isClear_hexText _ _)

/-- A text that is not written between double quotes is clear. -/
theorem isClear_of_ofText {cs : List Char} (h : Style.ofText cs ≠ .double) : IsClear cs := by
  cases hany : cs.any Style.needsEscape with
  | false => exact .of_any hany
  | true => simp [Style.ofText, Style.isPlain, hany] at h

namespace Pen

-- ===================================================== single moves

/-- That all a pen has written is clear. -/
def IsClear (p : Pen) : Prop := Yaml.IsClear p.written

variable {p : Pen}

/-- Clear text keeps a pen clear. -/
theorem IsClear.put (h : p.IsClear) {cs : List Char} (hcs : Yaml.IsClear cs) : (p.put cs).IsClear :=
  hcs.reverse.append h

theorem IsClear.newLine (h : p.IsClear) : p.newLine.IsClear := .cons (by decide) h

theorem IsClear.inText (h : p.IsClear) : p.inText.IsClear := h

theorem IsClear.indent (h : p.IsClear) (column : Nat) : (p.indent column).IsClear := by
  have hblanks {q : Pen} (hq : q.IsClear) : (if q.column < column then
      { q.put (List.replicate (column - q.column) ' ') with afterBlank := true }
      else q).IsClear := by
    split
    · exact hq.put (.replicate _ (by decide))
    · exact hq
  unfold Pen.indent
  dsimp only
  split
  · exact hblanks h
  · exact hblanks h.newLine

theorem IsClear.space (h : p.IsClear) : p.space.IsClear := by
  unfold Pen.space
  split
  · exact h
  · exact h.put (.of_any (by decide))

theorem IsClear.mark (h : p.IsClear) {cs : List Char} (hcs : Yaml.IsClear cs) :
    (p.mark cs).IsClear := h.space.put hcs

/-- So does a line that is folded. -/
theorem IsClear.fold (h : p.IsClear) (folds : Bool) (column count : Nat) :
    (p.fold folds column count).IsClear := by
  unfold Pen.fold
  split
  · exact h.indent column
  · exact h.put (.replicate _ (by decide))

-- ===================================================== scalars

/-- So does clear text without quotes, wherever it is folded. -/
theorem IsClear.plainFrom (h : p.IsClear) {cs : List Char} (hcs : Yaml.IsClear cs) (folds : Bool)
    (column blanks : Nat) : (plainFrom folds column blanks p cs).IsClear := by
  induction cs generalizing blanks p with
  | nil => exact h.put (.replicate _ (by decide))
  | cons c cs ih =>
      obtain ⟨hc, hrest⟩ := List.forall_mem_cons.1 hcs
      have hput {q : Pen} (hq : q.IsClear) : (q.put [c]).IsClear := hq.put (.cons hc .nil)
      unfold Pen.plainFrom
      split
      · exact ih h hrest _
      · dsimp only
        split
        · exact ih (hput h) hrest 0
        · exact ih (hput (h.fold folds column blanks).inText) hrest 0

/-- So do the blanks and line ends that have waited for what comes next. -/
theorem IsClear.release (h : p.IsClear) (folds : Bool) (column : Nat) (waiting : Waiting) :
    (p.release folds column waiting).IsClear := by
  have hlines (units : List Unit) {q : Pen} (hq : q.IsClear) :
      (units.foldl (fun p _ => p.newLine) q).IsClear := by
    induction units generalizing q with
    | nil => exact hq
    | cons u units ih => exact ih hq.newLine
  cases waiting with
  | nothing => exact h
  | blanks count => exact h.fold folds column count
  | breaks count => exact (hlines _ h).indent column

/-- So does clear text between single quotes. -/
theorem IsClear.singleFrom (h : p.IsClear) {cs : List Char} (hcs : Yaml.IsClear cs) (folds : Bool)
    (column : Nat) (atStart : Bool) (waiting : Waiting) :
    (singleFrom folds column atStart waiting p cs).IsClear := by
  induction cs generalizing atStart waiting p with
  | nil => exact h.release false column waiting
  | cons c cs ih =>
      obtain ⟨hc, hrest⟩ := List.forall_mem_cons.1 hcs
      have hreleased (folds : Bool) : (p.release folds column waiting).IsClear :=
        h.release folds column waiting
      unfold Pen.singleFrom
      split
      · split
        · exact ih h hrest atStart _
        · exact ih (hreleased _) hrest atStart _
      · split
        · split
          · exact ih h hrest false _
          · exact ih (hreleased _) hrest false _
        · refine ih ((hreleased _).put ?_) hrest false _
          split
          · exact .cons hc (.cons hc .nil)
          · exact .cons hc .nil

/-- So does a line end within double quotes, with its backslash. -/
theorem IsClear.breakQuoted (h : p.IsClear) (column : Nat) (next : Char) :
    (p.breakQuoted column next).IsClear := by
  have hmark {q : Pen} (hq : q.IsClear) : (q.put [backslash]).IsClear :=
    hq.put (.of_any (by decide))
  unfold Pen.breakQuoted
  dsimp only
  split
  · exact hmark ((hmark h).indent column)
  · exact (hmark h).indent column

/-- Between double quotes any text is written clear. -/
theorem IsClear.doubleFrom (h : p.IsClear) {run : List Char} (hrun : Yaml.IsClear run)
    (cs : List Char) (folds : Bool) (column : Nat) (atStart : Bool) :
    (doubleFrom folds column atStart run p cs).IsClear := by
  induction cs generalizing atStart run p with
  | nil => exact h.put hrun.reverse
  | cons c cs ih =>
      unfold Pen.doubleFrom
      dsimp only
      split
      · have hescape : ((p.put run.reverse).put (escape c)).IsClear :=
          (h.put hrun.reverse).put (isClear_escape c)
        split
        · exact ih (hescape.breakQuoted column _) .nil false
        · exact ih hescape .nil false
      · next hplain =>
        have hc : Style.needsEscape c = false := by
          simp only [Bool.or_eq_true, not_or, Bool.not_eq_true] at hplain
          exact hplain.1.1.1
        split
        · exact ih ((h.put hrun.reverse).breakQuoted column c) (.cons hc .nil) false
        · exact ih h (.cons hc hrun) false

/-- Whatever is not between double quotes has to be clear itself. -/
theorem IsClear.scalar (h : p.IsClear) {style : Style} {cs : List Char}
    (hcs : style ≠ .double → Yaml.IsClear cs) (folds : Bool) (column : Nat) :
    (p.scalar style folds column cs).IsClear := by
  cases style with
  | plain =>
      unfold Pen.scalar
      dsimp only
      split
      · exact h
      · exact h.space.inText.plainFrom (hcs nofun) folds column 0
  | single =>
      have hquote : Yaml.IsClear [singleQuote] := .of_any (by decide)
      exact ((h.mark hquote).inText.singleFrom (hcs nofun) folds column true .nothing).put hquote
  | double =>
      have hquote : Yaml.IsClear [doubleQuote] := .of_any (by decide)
      exact ((h.mark hquote).inText.doubleFrom .nil cs folds column true).put hquote

/-- A text of any characters is written clear in the style that is chosen for it. -/
theorem IsClear.text (h : p.IsClear) (cs : List Char) (folds : Bool) (column : Nat) :
    (p.scalar (Style.ofText cs) folds column cs).IsClear :=
  h.scalar (fun hstyle => isClear_of_ofText hstyle) folds column

-- ===================================================== collections

/-- So is any key. -/
theorem IsClear.key (h : p.IsClear) (column : Nat) (k : String) : (p.key column k).IsClear := by
  have hcolon : Yaml.IsClear [':'] := .of_any (by decide)
  unfold Pen.key
  dsimp only
  split
  · exact ((h.indent column).text _ false _).put hcolon
  · exact ((((h.indent column).mark (.of_any (by decide))).text _ true _).indent column).mark
      hcolon

mutual

/-- A tree keeps the pen clear that writes it, whatever it holds. -/
private theorem isClear_tree {p : Pen} (h : p.IsClear) (column : Nat) (underKey : Bool) (j : Json) :
    (tree column underKey j p).IsClear := by
  cases j with
  | null => exact h.scalar (fun _ => .of_any (by decide)) _ _
  | bool b => exact h.scalar (fun _ => .of_any (by cases b <;> decide)) _ _
  | int n => exact h.scalar (fun _ => isClear_integer n) _ _
  | real x => exact h.scalar (fun _ => isClear_realText x) _ _
  | text s => exact h.text s.toList _ _
  | list es =>
      cases es with
      | nil => exact (h.mark (.of_any (by decide))).inText
      | cons e es => exact isClear_items h _ (e :: es)
  | object ms =>
      cases ms with
      | nil => exact (h.mark (.of_any (by decide))).inText
      | cons m ms => exact isClear_entries h _ (m :: ms)

/-- So do the elements of a list. -/
private theorem isClear_items {p : Pen} (h : p.IsClear) (column : Nat) (es : List Json) :
    (items column es p).IsClear := by
  cases es with
  | nil => exact h
  | cons e es =>
      have hdash : Yaml.IsClear ['-'] := .of_any (by decide)
      exact isClear_items (isClear_tree ((h.indent column).mark hdash) column false e) column es

/-- So do the members of an object. -/
private theorem isClear_entries {p : Pen} (h : p.IsClear) (column : Nat)
    (ms : List (String × Json)) :
    (entries column ms p).IsClear := by
  cases ms with
  | nil => exact h
  | cons m ms => exact isClear_entries (isClear_tree (h.key column m.1) column true m.2) column ms

end

end Pen

/-- The text of a mapping needs no escape, whatever is in the mapping. -/
theorem isClear_print (members : List (String × Json)) : IsClear (print members).toList := by
  cases members with
  | nil => exact .of_any (by decide)
  | cons m ms =>
      have hwritten : (Pen.entries 0 (m :: ms) {}).newLine.IsClear :=
        (Pen.isClear_entries (p := {}) .nil 0 (m :: ms)).newLine
      rw [print, Pen.text, String.toList_ofList]
      · exact hwritten.reverse
      · exact nofun

end PaneWatch.Yaml
