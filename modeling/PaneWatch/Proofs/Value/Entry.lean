/-
Entries of a mapping under text keys.

A text key finds only keys that hold the same text, so changing what stands under one text leaves
what stands under every other one as it is. The same is said of keys of every kind by setting the
changed texts apart: what stands under none of them is the same list as before (`without`).
-/
import PaneWatch.Value

namespace PaneWatch.Value

/-- A text is found only under a key that holds this text. -/
private theorem sameKey_text_iff {k : Value} {key : String} :
    k.sameKey (.text key) ↔ k.asText? = some key := by
  cases k <;> simp [sameKey, asText?, fraction?]

private theorem sameKey_text_of_ne {k : Value} {key other : String} (h : k.sameKey (.text key))
    (hne : other ≠ key) : k.sameKey (.text other) = false := by
  rw [← Bool.not_eq_true, sameKey_text_iff, sameKey_text_iff.1 h]
  simpa using hne.symm

variable {key other : String}

/-- The entry in front counts where both lists have one. -/
theorem lookup?_append (key : String) (front back : List (Value × Value)) :
    lookup? key (front ++ back) = (lookup? key front).or (lookup? key back) := by
  induction front with
  | nil => rfl
  | cons e front ih =>
      rw [List.cons_append, lookup?, lookup?, ih]
      split <;> rfl

/-- What was put under a text is found there. -/
theorem lookup?_insert_self (key : String) (v : Value) (entries : List (Value × Value)) :
    lookup? key (insert (.text key) v entries) = some v := by
  induction entries with
  | nil => simp [insert, lookup?, sameKey]
  | cons e entries ih =>
      rw [insert]
      split
      · next h => rw [lookup?, if_pos h]
      · next h => rw [lookup?, if_neg h, ih]

/-- What stands under another text is found as before. -/
theorem lookup?_insert_of_ne (h : other ≠ key) (v : Value) (entries : List (Value × Value)) :
    lookup? other (insert (.text key) v entries) = lookup? other entries := by
  induction entries with
  | nil => simp [insert, lookup?, sameKey, h.symm]
  | cons e entries ih =>
      rw [insert]
      split
      · next hkey =>
        have hother := sameKey_text_of_ne hkey h
        simp [lookup?, hother]
      · rw [lookup?, lookup?, ih]

/-- Putting a value where it stands already changes nothing. -/
theorem insert_of_lookup? {v : Value} {entries : List (Value × Value)}
    (h : lookup? key entries = some v) : insert (.text key) v entries = entries := by
  induction entries with
  | nil => cases h
  | cons e entries ih =>
      rw [lookup?] at h
      rw [insert]
      split at h
      · next hkey =>
        cases h
        rw [if_pos hkey]
      · next hkey => rw [if_neg hkey, ih h]

/-- Nothing is found under a text that was taken out. -/
theorem lookup?_remove_self (key : String) (entries : List (Value × Value)) :
    lookup? key (remove key entries) = none := by
  induction entries with
  | nil => rfl
  | cons e entries ih =>
      by_cases hkey : e.1.sameKey (.text key)
      · simpa [remove, hkey] using ih
      · have hrest : remove key (e :: entries) = e :: remove key entries := by simp [remove, hkey]
        rw [hrest, lookup?, if_neg hkey, ih]

/-- What stands under another text is found as before. -/
theorem lookup?_remove_of_ne (h : other ≠ key) (entries : List (Value × Value)) :
    lookup? other (remove key entries) = lookup? other entries := by
  induction entries with
  | nil => rfl
  | cons e entries ih =>
      by_cases hkey : e.1.sameKey (.text key)
      · have hrest : remove key (e :: entries) = remove key entries := by simp [remove, hkey]
        rw [hrest, lookup?, if_neg (by simp [sameKey_text_of_ne hkey h]), ih]
      · have hrest : remove key (e :: entries) = e :: remove key entries := by simp [remove, hkey]
        rw [hrest, lookup?, lookup?, ih]

-- ===================================================== entries set apart

/-- The entries that stand under none of some texts. -/
def without (labels : List String) (entries : List (Value × Value)) : List (Value × Value) :=
  entries.filter fun e => !labels.any fun label => e.1.sameKey (.text label)

variable {labels : List String}

private theorem without_cons_of_mem (h : key ∈ labels) {e : Value × Value}
    (hkey : e.1.sameKey (.text key))
    (entries : List (Value × Value)) : without labels (e :: entries) = without labels entries := by
  have hany : (labels.any fun label => e.1.sameKey (.text label)) = true :=
    List.any_eq_true.2 ⟨key, h, hkey⟩
  simp [without, hany]

private theorem without_cons_congr {entries entries' : List (Value × Value)}
    (h : without labels entries = without labels entries') (e : Value × Value) :
    without labels (e :: entries) = without labels (e :: entries') := by
  unfold without at h ⊢
  rw [List.filter_cons, List.filter_cons, h]

/-- Taking out one of the texts changes nothing under the others. -/
theorem without_remove (h : key ∈ labels) (entries : List (Value × Value)) :
    without labels (remove key entries) = without labels entries := by
  induction entries with
  | nil => rfl
  | cons e entries ih =>
      by_cases hkey : e.1.sameKey (.text key)
      · have hrest : remove key (e :: entries) = remove key entries := by simp [remove, hkey]
        rw [hrest, ih, without_cons_of_mem h hkey]
      · have hrest : remove key (e :: entries) = e :: remove key entries := by simp [remove, hkey]
        rw [hrest, without_cons_congr ih]

/-- And neither does putting a value under one of them. -/
theorem without_insert (h : key ∈ labels) (v : Value) (entries : List (Value × Value)) :
    without labels (insert (.text key) v entries) = without labels entries := by
  induction entries with
  | nil => exact without_cons_of_mem h (sameKey_text_iff.2 rfl) []
  | cons e entries ih =>
      rw [insert]
      split
      · next hkey =>
        rw [without_cons_of_mem h hkey entries]
        exact without_cons_of_mem (e := (e.1, v)) h hkey entries
      · exact without_cons_congr ih e

/-- What stands under another text is not set apart. -/
theorem lookup?_without (h : other ∉ labels) (entries : List (Value × Value)) :
    lookup? other (without labels entries) = lookup? other entries := by
  induction entries with
  | nil => rfl
  | cons e entries ih =>
      by_cases hany : labels.any fun label => e.1.sameKey (.text label)
      · obtain ⟨key, hmem, hkey⟩ := List.any_eq_true.1 hany
        have hne : other ≠ key := by
          rintro rfl
          exact h hmem
        rw [without_cons_of_mem hmem hkey, ih, lookup?, sameKey_text_of_ne hkey hne]
        rfl
      · have hrest : without labels (e :: entries) = e :: without labels entries := by
          simp only [without, List.filter_cons, hany, Bool.not_false, if_true]
        rw [hrest, lookup?, lookup?, ih]

/-- Lists that are the same apart from some texts answer alike for every other text. -/
theorem lookup?_congr_of_without {entries entries' : List (Value × Value)}
    (h : without labels entries = without labels entries') (hother : other ∉ labels) :
    lookup? other entries = lookup? other entries' := by
  rw [← lookup?_without hother entries, h, lookup?_without hother]

end PaneWatch.Value
