/-
What a table reads from an output.

Only the last lines of an output count (`IsRecent`). Of the rows whose pattern occurs there and
whose confidence is above zero, the first of the best tells the activity (`ofOutput_firstBest`). The
table is gone through once, and `Leads` is what holds on the way: the best row so far is the first
of the best among the rows that were looked at. Adding one row keeps that up (`Leads.step`),
although the pattern of a row is not even tried if its confidence is not greater. Confidences may
be any numbers, so the argument only uses that those above zero are in order.
-/
import Mathlib.Data.List.Pairwise
import PaneWatch.Proofs.Number.Order
import PaneWatch.Proofs.Text.Lines
import PaneWatch.Signal.Output

namespace PaneWatch.Signal

open Number (Double)

-- ===================================================== the last lines

/-- That a text is the last lines of an output: the whole output if it has no more lines than count,
or else as many of them as count, behind the line feed that ends the lines before. -/
def IsRecent (output text : String) : Prop :=
  (text.toList.count '\n' < window ∧ output = text)
    ∨ (text.toList.count '\n' + 1 = window ∧ ∃ earlier, output = earlier ++ "\n" ++ text)

private theorem lastOf_map {α β : Type} (n : Nat) (f : α → β) (xs : List α) :
    lastOf n (xs.map f) = (lastOf n xs).map f := by
  simp [lastOf]

/-- The recent lines are the last lines of the text, joined as they were. -/
private theorem toList_recent (output : String) :
    (recent output).toList = ['\n'].intercalate (lastOf window (output.toList.splitOn '\n')) := by
  have hlines : output.splitOn "\n" = (output.toList.splitOn '\n').map String.ofList :=
    Text.splitOn_singleton output '\n'
  rw [recent, hlines, lastOf_map, String.toList_intercalate, List.map_map]
  simp [Function.comp_def]

/-- The recent part of an output is what its description says. -/
theorem recent_eq {output text : String} (h : IsRecent output text) : recent output = text := by
  rw [← String.toList_inj, toList_recent]
  rcases h with ⟨hcount, rfl⟩ | ⟨hcount, earlier, rfl⟩
  · have hall : (output.toList.splitOn '\n').length - window = 0 := by
      rw [Text.length_splitOn]
      omega
    rw [lastOf, hall, List.drop_zero, List.intercalate_splitOn]
  · have hcut : (earlier ++ "\n" ++ text).toList = earlier.toList ++ '\n' :: text.toList := by simp
    have hkept : lastOf window ((earlier ++ "\n" ++ text).toList.splitOn '\n')
        = text.toList.splitOn '\n' := by
      rw [hcut, List.splitOn_append_cons_self, lastOf]
      refine List.drop_left' ?_
      rw [List.length_append, Text.length_splitOn '\n' text.toList, hcount, Nat.add_sub_cancel]
    rw [hkept, List.intercalate_splitOn]

/-- A text with enough line feeds is cut at one with so many behind it. -/
theorem exists_cut {n : Nat} (cs : List Char) (h : n < cs.count '\n') :
    ∃ earlier rest, cs = earlier ++ '\n' :: rest ∧ rest.count '\n' = n := by
  induction cs with
  | nil => cases h
  | cons c cs ih =>
      by_cases hmore : n < cs.count '\n'
      · obtain ⟨earlier, rest, rfl, hrest⟩ := ih hmore
        exact ⟨c :: earlier, rest, rfl, hrest⟩
      · -- the first character is the line feed then
        rw [List.count_cons] at h
        split at h
        · next hc =>
          refine ⟨[], cs, ?_, by omega⟩
          rw [eq_of_beq hc]
          rfl
        · omega

/-- Every output has a recent part. -/
private theorem exists_isRecent (output : String) : ∃ text, IsRecent output text := by
  by_cases hcount : output.toList.count '\n' < window
  · exact ⟨output, .inl ⟨hcount, rfl⟩⟩
  · have hmany : 19 < output.toList.count '\n' := Nat.lt_of_succ_le (Nat.le_of_not_lt hcount)
    obtain ⟨earlier, rest, hcut, hrest⟩ := exists_cut output.toList hmany
    refine ⟨String.ofList rest, .inr ⟨by simp [hrest, window], String.ofList earlier, ?_⟩⟩
    rw [← String.toList_inj, hcut]
    simp

-- ===================================================== the best rows

/-- That a row counts for a text: its confidence is above zero, and its pattern occurs. -/
def Row.Counts (text : String) (row : Row) : Prop :=
  (Double.zero false).lt row.confidence ∧ row.occursIn text

instance (text : String) (row : Row) : Decidable (row.Counts text) :=
  inferInstanceAs (Decidable (_ ∧ _))

/-- That a row between others is the first of the best ones that count for a text. -/
structure IsFirstBest (text : String) (before : List Row) (row : Row) (after : List Row) :
    Prop where
  counts : row.Counts text
  /-- No row that counts has a greater confidence. -/
  greatest : ∀ other ∈ before ++ row :: after, other.Counts text →
    other.confidence.le row.confidence
  /-- Those that stand before it have less. -/
  first : ∀ other ∈ before, other.Counts text → other.confidence.lt row.confidence

instance (text : String) (before : List Row) (row : Row) (after : List Row) :
    Decidable (IsFirstBest text before row after) :=
  decidable_of_iff (row.Counts text
      ∧ (∀ other ∈ before ++ row :: after, other.Counts text → other.confidence.le row.confidence)
      ∧ ∀ other ∈ before, other.Counts text → other.confidence.lt row.confidence)
    ⟨fun ⟨counts, greatest, first⟩ => ⟨counts, greatest, first⟩,
      fun h => ⟨h.counts, h.greatest, h.first⟩⟩

/-- That an activity and a confidence are those of the first of the best rows of a table; or
nothing and zero, if no row counts. -/
inductive Leads (text : String) (table : List Row) : Activity × Double → Prop where
  | best {before : List Row} {row : Row} {after : List Row}
      (htable : table = before ++ row :: after) (hbest : IsFirstBest text before row after) :
      Leads text table (row.activity, row.confidence)
  | nothing (hnone : ∀ row ∈ table, ¬row.Counts text) :
      Leads text table (.unknown, Double.zero false)

/-- That a table tells an activity for a text. -/
def Tells (text : String) (table : List Row) (a : Activity) : Prop :=
  ∃ confidence, Leads text table (a, confidence)

variable {text : String} {table : List Row}

/-- No row counts whose weight is NaN. -/
private theorem Row.Counts.ne_nan {row : Row} (h : row.Counts text) : row.confidence ≠ .nan :=
  (Double.ne_nan_of_lt h.1).2

/-- What leads is zero, or above. -/
theorem Leads.eq_or_lt {best : Activity × Double} (h : Leads text table best) :
    best.2 = Double.zero false ∨ (Double.zero false).lt best.2 := by
  cases h with
  | best _ hbest => exact .inr hbest.counts.1
  | nothing _ => exact .inl rfl

-- ===================================================== one row more

/-- A row that counts and is better than the best so far is the first of the best ones. -/
theorem Leads.better {best : Activity × Double} {row : Row} (h : Leads text table best)
    (hrow : best.2.lt row.confidence) (hoccurs : row.occursIn text) :
    IsFirstBest text table row [] := by
  have hcounts : row.Counts text := by
    refine ⟨?_, hoccurs⟩
    rcases h.eq_or_lt with hzero | hpos
    · rwa [hzero] at hrow
    · exact Double.lt_trans hpos hrow
  have hworse : ∀ other ∈ table, other.Counts text → other.confidence.lt row.confidence := by
    intro other hother hcount
    cases h with
    | best htable hbest =>
        subst htable
        exact Double.lt_of_le_of_lt hcount.ne_nan (hbest.greatest other hother hcount) hrow
    | nothing hnone => exact absurd hcount (hnone other hother)
  refine ⟨hcounts, ?_, hworse⟩
  intro other hother hcount
  rcases List.mem_append.1 hother with hother | hother
  · exact Double.le_of_lt (hworse other hother hcount)
  · rw [List.mem_singleton.1 hother]
    exact Double.le_refl hcounts.ne_nan

/-- What leads a table with one row more is the better of what led it and that row. -/
theorem Leads.step {best : Activity × Double} (h : Leads text table best) (row : Row) :
    Leads text (table ++ [row]) (Signal.better text best row) := by
  unfold Signal.better
  split
  · next htaken =>
    rw [Bool.and_eq_true] at htaken
    exact .best rfl (h.better htaken.1 htaken.2)
  · next hleft =>
    rw [Bool.and_eq_true] at hleft
    cases h with
    | @best before leader after htable hbest =>
        subst htable
        have hmore : before ++ leader :: after ++ [row] = before ++ leader :: (after ++ [row]) :=
          List.append_assoc before (leader :: after) [row]
        refine .best hmore ⟨hbest.counts, ?_, hbest.first⟩
        intro other hother hcount
        rw [← hmore, List.mem_append] at hother
        rcases hother with hother | hother
        · exact hbest.greatest other hother hcount
        · rw [List.mem_singleton.1 hother] at hcount ⊢
          exact (Double.le_iff_not_lt hcount.ne_nan hbest.counts.ne_nan).2
            fun hlt => hleft ⟨hlt, hcount.2⟩
    | nothing hnone =>
        refine .nothing fun other hother => ?_
        rcases List.mem_append.1 hother with hother | hother
        · exact hnone other hother
        · rw [List.mem_singleton.1 hother]
          exact hleft

/-- So it is with any number of rows more. -/
theorem Leads.foldl {best : Activity × Double} (h : Leads text table best) (rows : List Row) :
    Leads text (table ++ rows) (rows.foldl (Signal.better text) best) := by
  induction rows generalizing table best with
  | nil => rwa [List.append_nil]
  | cons row rows ih =>
      have hrest := ih (h.step row)
      rwa [List.append_assoc] at hrest

/-- The fold over a table ends with what leads it. -/
private theorem leads_foldl (text : String) (table : List Row) :
    Leads text table (table.foldl (Signal.better text) (.unknown, Double.zero false)) := by
  have hstart : Leads text [] (.unknown, Double.zero false) := .nothing fun _ hrow => nomatch hrow
  exact hstart.foldl table

/-- What is read from an output is what the table tells of its recent part. -/
private theorem tells_ofOutput (table : List Row) (output : String) :
    Tells (recent output) table (ofOutput table output) :=
  ⟨_, leads_foldl (recent output) table⟩

-- ===================================================== only one row is the first of the best

/-- However a table is split at its best row, that row does not stand in front of itself. -/
theorem IsFirstBest.notMem {before before' after after' : List Row} {row row' : Row}
    (h : IsFirstBest text before row after) (h' : IsFirstBest text before' row' after')
    (hsame : before ++ row :: after = before' ++ row' :: after') : row ∉ before' := by
  intro hmem
  have hlt := h'.first row hmem h.counts
  have hle := h.greatest row' (by simp [hsame]) h'.counts
  exact Double.lt_irrefl _ (Double.lt_of_le_of_lt h'.counts.ne_nan hle hlt)

/-- Only one row leads a table. -/
theorem Leads.unique {best best' : Activity × Double} (h : Leads text table best)
    (h' : Leads text table best') : best = best' := by
  cases h with
  | @best before row after htable hbest =>
      subst htable
      cases h' with
      | @best before' row' after' hsame hbest' =>
          -- one of the two rows would stand before the other
          rcases List.append_eq_append_iff.1 hsame with
            ⟨between, hbefore, hrest⟩ | ⟨between, hbefore, hrest⟩
          · cases between with
            | nil =>
                cases hrest
                rfl
            | cons first between =>
                cases hrest
                exact absurd (by simp [hbefore]) (hbest.notMem hbest' hsame)
          · cases between with
            | nil =>
                cases hrest
                rfl
            | cons first between =>
                cases hrest
                exact absurd (by simp [hbefore]) (hbest'.notMem hbest hsame.symm)
      | nothing hnone => exact absurd hbest.counts (hnone row (by simp))
  | nothing hnone =>
      cases h' with
      | best htable hbest =>
          subst htable
          exact absurd hbest.counts (hnone _ (by simp))
      | nothing _ => rfl

/-- So an output is read as an activity exactly if the table tells it. -/
private theorem ofOutput_eq_iff {output : String} {a : Activity} :
    ofOutput table output = a ↔ Tells (recent output) table a := by
  constructor
  · rintro rfl
    exact tells_ofOutput table output
  · rintro ⟨confidence, h⟩
    exact congrArg Prod.fst ((leads_foldl (recent output) table).unique h)

-- ===================================================== what makes no difference

/-- A row without a confidence above zero is passed over. -/
theorem Leads.better_eq_self {best : Activity × Double} {row : Row} (h : Leads text table best)
    (hrow : row.confidence = .nan ∨ row.confidence.le (Double.zero false)) :
    Signal.better text best row = best := by
  have hnot : ¬best.2.lt row.confidence := by
    intro hlt
    rcases hrow with hnan | hle
    · exact (Double.ne_nan_of_lt hlt).2 hnan
    · have hne := (Double.ne_nan_of_lt hlt).2
      rcases h.eq_or_lt with hzero | hpos
      · rw [hzero] at hlt
        exact Double.lt_irrefl _ (Double.lt_of_le_of_lt hne hle hlt)
      · exact Double.lt_irrefl _ (Double.lt_of_le_of_lt hne hle (Double.lt_trans hpos hlt))
  rw [Signal.better, Bool.eq_false_iff.2 hnot, Bool.false_and, if_neg Bool.false_ne_true]

/-- A row that is not above zero makes no difference. -/
private theorem ofOutput_of_weightless {row : Row}
    (hrow : row.confidence = .nan ∨ row.confidence.le (Double.zero false))
    (before after : List Row) (output : String) :
    ofOutput (before ++ row :: after) output = ofOutput (before ++ after) output := by
  have hsame := (leads_foldl (recent output) before).better_eq_self hrow
  rw [ofOutput, ofOutput, List.foldl_append, List.foldl_append, List.foldl_cons, hsame]

/-- That two rows have confidences that are no equal numbers. -/
def Row.Differs (a b : Row) : Prop := ¬a.confidence.numEq b.confidence

instance : DecidableRel Row.Differs := fun _ _ => inferInstanceAs (Decidable (¬_))

instance : Std.Symm Row.Differs := ⟨fun _ _ h h' => h (Double.numEq_symm h')⟩

/-- In a table without ties the best row is the same in any order. -/
theorem Leads.of_perm {table' : List Row} {best best' : Activity × Double}
    (hdiffer : table.Pairwise Row.Differs) (hperm : table.Perm table') (h : Leads text table best)
    (h' : Leads text table' best') : best = best' := by
  cases h with
  | @best before row after htable hbest =>
      have hrow : row ∈ table := by simp [htable]
      cases h' with
      | @best before' row' after' htable' hbest' =>
          have hrow' : row' ∈ table := hperm.mem_iff.2 (by simp [htable'])
          have hle := hbest.greatest row' (htable ▸ hrow') hbest'.counts
          have hge := hbest'.greatest row (htable' ▸ hperm.mem_iff.1 hrow) hbest.counts
          by_cases heq : row = row'
          · rw [heq]
          · have hequal : row'.confidence.numEq row.confidence :=
              Double.numEq_of_le_of_le hbest'.counts.ne_nan hbest.counts.ne_nan hle hge
            exact absurd hequal (hdiffer.forall hrow' hrow (Ne.symm heq))
      | nothing hnone => exact absurd hbest.counts (hnone row (hperm.mem_iff.1 hrow))
  | nothing hnone =>
      cases h' with
      | @best before' row' after' htable' hbest' =>
          exact absurd hbest'.counts (hnone row' (hperm.mem_iff.2 (by simp [htable'])))
      | nothing _ => rfl

-- ===================================================== the whole

/-- For every table and every output: the output has its last lines, and the table tells of them the
activity of the first of its best rows, or nothing if no row counts. So nothing before these lines
makes a difference, no row without a confidence above zero does, and none the order of rows with
confidences that are all different. -/
theorem ofOutput_firstBest (table : List Row) (output : String) :
    (∃ text, IsRecent output text) ∧ ∀ text, IsRecent output text →
      (∀ a, ofOutput table output = a ↔ Tells text table a)
        ∧ (∀ other, IsRecent other text → ofOutput table other = ofOutput table output)
        ∧ (∀ before row after, table = before ++ row :: after →
            (row.confidence = .nan ∨ row.confidence.le (Double.zero false)) →
            ofOutput (before ++ after) output = ofOutput table output)
        ∧ ∀ table', table.Perm table' → table.Pairwise Row.Differs →
            ofOutput table' output = ofOutput table output := by
  refine ⟨exists_isRecent output, ?_⟩
  intro text htext
  have hrecent := recent_eq htext
  refine ⟨fun a => ?_, fun other hother => ?_, ?_, ?_⟩
  · rw [ofOutput_eq_iff, hrecent]
  · rw [ofOutput, ofOutput, recent_eq hother, hrecent]
  · rintro before row after rfl hrow
    exact (ofOutput_of_weightless hrow before after output).symm
  · intro table' hperm hdiffer
    have hsame := Leads.of_perm hdiffer hperm (leads_foldl (recent output) table)
      (leads_foldl (recent output) table')
    exact congrArg Prod.fst hsame.symm

-- ===================================================== cases

/-- Lines that count, of which the first two have words. -/
def fullText : String := "a\nb\n\n\n\n\n\n\n\n\n\n\n\n\n\n\n\n\n\n"

/-- A row without a weight, and two rows with weights in hundredths. -/
def weighing (first second : Nat) : List Row :=
  let row (word : String) (a : Activity) (confidence : Double) : Row :=
    ⟨(words word).occursIn, a, confidence⟩
  [row "a" .error .nan, row "a" .idle (hundredths first), row "b" .waiting (hundredths second)]

/-- An output with a line more than count. Of two rows of one weight the first one tells, with the
row without a weight or without it; and of two rows of different weights the same one in any
order. -/
theorem ofOutput_firstBest_tied :
    let output := "b\n" ++ fullText
    IsRecent output fullText
      ∧ Tells fullText (weighing 90 90) .idle
      ∧ ofOutput (weighing 90 90) output = .idle
      ∧ ofOutput (weighing 90 90) fullText = .idle
      ∧ ofOutput (weighing 90 90).tail output = .idle
      ∧ ofOutput (weighing 90 80).reverse output = .idle := by
  intro output
  have hrecent : IsRecent output fullText := .inr ⟨by decide, "b", rfl⟩
  have hshort : IsRecent fullText fullText := .inl ⟨by decide, rfl⟩
  have htells (second : Nat) (h : IsFirstBest fullText [⟨(words "a").occursIn, .error, .nan⟩]
      ⟨(words "a").occursIn, .idle, hundredths 90⟩
      [⟨(words "b").occursIn, .waiting, hundredths second⟩]) :
      Tells fullText (weighing 90 second) .idle := ⟨hundredths 90, .best rfl h⟩
  obtain ⟨htied, hwindow, hweight, -⟩ :=
    (ofOutput_firstBest (weighing 90 90) output).2 fullText hrecent
  obtain ⟨horder, -, -, hperm⟩ :=
    (ofOutput_firstBest (weighing 90 80) output).2 fullText hrecent
  have hfirst := htells 90 (by decide +kernel)
  have hidle := (htied .idle).2 hfirst
  refine ⟨hrecent, hfirst, hidle, ?_, ?_, ?_⟩
  · rw [hwindow fullText hshort, hidle]
  · have h := hweight [] _ _ rfl (.inl rfl)
    rw [← hidle, ← h]
    rfl
  · rw [hperm _ (List.reverse_perm _).symm (by decide +kernel)]
    exact (horder .idle).2 (htells 80 (by decide +kernel))

end PaneWatch.Signal
