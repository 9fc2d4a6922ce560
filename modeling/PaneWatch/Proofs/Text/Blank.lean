/-
What stripping leaves.

A list is stripped of the runs of some elements at both ends. What is left begins and ends with
none of them, and begins with the first element that is none (`head?_strip`).
-/
import Mathlib.Data.List.DropRight
import PaneWatch.Text.Blank

namespace PaneWatch.Text

variable {α : Type} {p : α → Bool} {xs front back : List α} {x : α}

private theorem dropTrailing_eq (p : α → Bool) (xs : List α) :
    dropTrailing p xs = xs.rdropWhile p := rfl

/-- Dropping a run from the end leaves no element of the run at the end. -/
theorem of_getLast?_dropTrailing (h : (dropTrailing p xs).getLast? = some x) : p x = false := by
  rw [dropTrailing_eq] at h
  obtain ⟨hne, rfl⟩ := List.mem_getLast?_eq_getLast h
  simpa using List.rdropWhile_last_not p xs hne

theorem prefix_dropTrailing (p : α → Bool) (xs : List α) : dropTrailing p xs <+: xs := by
  rw [dropTrailing_eq]
  exact List.rdropWhile_prefix p xs

/-- A first element that is not of the run stays the first one. -/
theorem head?_dropTrailing (hx : xs.head? = some x) (hp : p x = false) :
    (dropTrailing p xs).head? = some x := by
  have hne : dropTrailing p xs ≠ [] := by
    intro hnil
    rw [dropTrailing_eq] at hnil
    have hall := List.rdropWhile_eq_nil_iff.1 hnil x (List.mem_of_mem_head? hx)
    rw [hp] at hall
    cases hall
  obtain ⟨y, ys, hys⟩ := List.exists_cons_of_ne_nil hne
  obtain ⟨rest, hrest⟩ := prefix_dropTrailing p xs
  rw [← hrest, hys, List.cons_append, List.head?_cons] at hx
  rw [hys, List.head?_cons, hx]

/-- What has no element of the run at its end is left alone. -/
theorem dropTrailing_eq_self (h : ∀ x, xs.getLast? = some x → p x = false) :
    dropTrailing p xs = xs := by
  rw [dropTrailing_eq, List.rdropWhile_eq_self_iff]
  intro hne
  rw [h _ (List.getLast?_eq_some_getLast hne)]
  exact Bool.false_ne_true

/-- More of the run at the end makes no difference. -/
theorem dropTrailing_append (h : ∀ x ∈ back, p x) (xs : List α) :
    dropTrailing p (xs ++ back) = dropTrailing p xs := by
  have hback : ∀ x ∈ back.reverse, p x := fun x hx => h x (List.mem_reverse.1 hx)
  rw [dropTrailing, dropTrailing, List.reverse_append, List.dropWhile_append_of_pos hback]

/-- What is left begins with the first element that is not of the run. -/
theorem head?_strip (p : α → Bool) (xs : List α) :
    (strip p xs).head? = xs.find? fun x => !p x := by
  have hfind : (xs.find? fun x => !p x) = (xs.dropWhile p).head? := by
    simp [List.find?_eq_head?_dropWhile_not]
  rw [hfind]
  cases hdrop : xs.dropWhile p with
  | nil => simp [strip, hdrop, dropTrailing]
  | cons x rest =>
      have hnot := List.head_dropWhile_not p (by simp [hdrop] : xs.dropWhile p ≠ [])
      rw [strip, hdrop]
      exact head?_dropTrailing rfl (by simpa [hdrop] using hnot)

/-- Stripping leaves no element of the run at the beginning. -/
theorem of_head?_strip (h : (strip p xs).head? = some x) : p x = false := by
  rw [head?_strip] at h
  simpa using List.find?_some h

/-- What neither begins nor ends with what is stripped is left as it is. -/
theorem strip_eq_self (hfirst : ∀ x, xs.head? = some x → p x = false)
    (hlast : ∀ x, xs.getLast? = some x → p x = false) : strip p xs = xs := by
  have hdrop : xs.dropWhile p = xs := by
    cases xs with
    | nil => rfl
    | cons x xs => rw [List.dropWhile_cons, if_neg (by simp [hfirst x rfl])]
  rw [strip, hdrop, dropTrailing_eq_self hlast]

/-- More of the runs at both ends makes no difference. -/
theorem strip_append (hfront : ∀ x ∈ front, p x) (hback : ∀ x ∈ back, p x) (xs : List α) :
    strip p (front ++ xs ++ back) = strip p xs := by
  rw [List.append_assoc, strip, List.dropWhile_append_of_pos hfront, List.dropWhile_append, strip]
  split
  · next hall =>
    -- nothing of the middle is left, so the end is one run with what stands before it
    rw [List.isEmpty_iff.1 hall, List.dropWhile_eq_nil_iff.2 hback]
  · exact dropTrailing_append hback _

theorem strip_sublist (p : α → Bool) (xs : List α) : (strip p xs).Sublist xs :=
  (prefix_dropTrailing p _).sublist.trans (List.dropWhile_sublist p)

end PaneWatch.Text
