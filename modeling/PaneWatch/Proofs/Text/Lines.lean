/-
Text cut at a character.

`String.splitOn` looks for its separator byte by byte. For a separator of one character it cuts the
list of characters at each of its occurrences (`splitOn_singleton`), so the laws of lists hold for
the lines of a text.
-/
import Mathlib.Data.String.Basic

namespace PaneWatch.Text

open String

/-- The search for a separator of one character looks at each character once. -/
theorem splitOnAux_singleton (c : Char) (s : String) (b i : Pos.Raw) (cut : List String) :
    s.splitOnAux (String.singleton c) b i 0 cut = s.splitAux (· == c) b i cut := by
  have hget : Pos.Raw.get (String.singleton c) 0 = c := get_of_valid [] [c]
  have hnext : Pos.Raw.next (String.singleton c) 0 = ⟨c.utf8Size⟩ := by
    simpa using next_of_valid [] c []
  have hend : Pos.Raw.atEnd (String.singleton c) ⟨c.utf8Size⟩ := by
    simpa using (atEnd_of_valid [c] []).2 rfl
  fun_induction String.splitAux s (· == c) b i cut with
  | case1 b i cut hstop =>
      rw [splitOnAux, if_pos hstop]
  | case2 b i cut hstop _ hc _ ih =>
      have hhere : i.get s = c := by simpa using hc
      have hback : (i.next s).unoffsetBy ⟨c.utf8Size⟩ = i := by
        rw [Pos.Raw.next, hhere]
        exact Pos.Raw.ext (Nat.add_sub_cancel i.byteIdx c.utf8Size)
      rw [splitOnAux, if_neg hstop, hget, if_pos hc, hnext]
      dsimp only
      rw [if_pos hend, hback]
      exact ih
  | case3 b i cut hstop _ hc ih =>
      rw [splitOnAux, if_neg hstop, hget, if_neg hc]
      exact ih

/-- A text is cut at a character where its list of characters is. -/
theorem splitOn_singleton (s : String) (c : Char) :
    s.splitOn (String.singleton c) = (s.toList.splitOn c).map String.ofList := by
  have hsome : (String.singleton c == "") = false := by simp
  rw [String.splitOn, hsome, if_neg Bool.false_ne_true, splitOnAux_singleton]
  exact splitToList_of_valid s (· == c)

/-- There is one piece more than there are cuts. -/
theorem length_splitOn (c : Char) (cs : List Char) : (cs.splitOn c).length = cs.count c + 1 := by
  induction cs with
  | nil => rfl
  | cons d cs ih =>
      rw [List.splitOn_cons_eq_if_modifyHead, List.count_cons]
      split
      · rw [List.length_cons, ih]
      · rw [List.length_modifyHead, ih]

end PaneWatch.Text
