/-
Lookups in lists of pairs that were changed under one key.

What stands under the key afterwards, and that the same stands under all others.
-/
import PaneWatch.Json

namespace PaneWatch

variable {α β : Type} [BEq α] [LawfulBEq α]

/-- A key that was taken out is not found. -/
theorem lookup_filter_self (key : α) (es : List (α × β)) :
    (es.filter (·.1 != key)).lookup key = none := by
  rw [List.lookup_eq_none_iff]
  intro e he
  have := (List.mem_filter.1 he).2
  simpa using Ne.symm (by simpa using this)

/-- Any other key is found as before. -/
theorem lookup_filter_ne {key other : α} (h : other ≠ key) (es : List (α × β)) :
    (es.filter (·.1 != key)).lookup other = es.lookup other := by
  induction es with
  | nil => rfl
  | cons e es ih =>
      by_cases he : e.1 = key
      · have hother : (other == e.1) = false := by simpa [he] using h
        rw [List.filter_cons_of_neg (by simpa using he), ih, List.lookup_cons, hother]
      · rw [List.filter_cons_of_pos (by simpa using he), List.lookup_cons, List.lookup_cons, ih]

/-- A key whose value was changed is found with the changed value. -/
theorem lookup_map_self (key : α) (f : β → β) (es : List (α × β)) :
    (es.map fun e => if e.1 == key then (e.1, f e.2) else e).lookup key
      = (es.lookup key).map f := by
  induction es with
  | nil => rfl
  | cons e es ih =>
      by_cases he : e.1 = key
      · rw [List.map_cons, if_pos (by simpa using he), List.lookup_cons, List.lookup_cons, he,
          beq_self_eq_true]
        rfl
      · have hkey : (key == e.1) = false := by simpa using Ne.symm he
        rw [List.map_cons, if_neg (by simpa using he), List.lookup_cons, List.lookup_cons, hkey, ih]

/-- Any other key is found as before. -/
theorem lookup_map_ne {key other : α} (h : other ≠ key) (f : β → β) (es : List (α × β)) :
    (es.map fun e => if e.1 == key then (e.1, f e.2) else e).lookup other = es.lookup other := by
  induction es with
  | nil => rfl
  | cons e es ih =>
      by_cases he : e.1 = key
      · have hother : (other == e.1) = false := by simpa [he] using h
        rw [List.map_cons, if_pos (by simpa using he), List.lookup_cons, List.lookup_cons,
          hother, ih]
      · rw [List.map_cons, if_neg (by simpa using he), List.lookup_cons, List.lookup_cons, ih]

/-- A key that was inserted is found. -/
theorem lookup_insert_self (key : α) (value : β) (es : List (α × β)) :
    (Json.insert key value es).lookup key = some value := by
  induction es with
  | nil => simp [Json.insert]
  | cons e es ih =>
      by_cases he : e.1 = key
      · simp [Json.insert, he]
      · have hkey : (key == e.1) = false := by simpa using Ne.symm he
        rw [Json.insert, if_neg (by simpa using he), List.lookup_cons, hkey, ih]

/-- Any other key is found as before. -/
theorem lookup_insert_ne {key other : α} (h : other ≠ key) (value : β) (es : List (α × β)) :
    (Json.insert key value es).lookup other = es.lookup other := by
  have hother : (other == key) = false := by simpa using h
  induction es with
  | nil => simp [Json.insert, List.lookup_cons, hother]
  | cons e es ih =>
      by_cases he : e.1 = key
      · rw [Json.insert, if_pos (by simpa using he), List.lookup_cons, List.lookup_cons, he, hother]
      · rw [Json.insert, if_neg (by simpa using he), List.lookup_cons, List.lookup_cons, ih]

/-- A key is not found if it is not there. -/
theorem lookup_eq_none_iff_notMem {key : α} {es : List (α × β)} :
    es.lookup key = none ↔ key ∉ es.map (·.1) := by
  rw [List.lookup_eq_none_iff]
  constructor
  · rintro h hmem
    obtain ⟨e, he, rfl⟩ := List.mem_map.1 hmem
    simpa using h e he
  · intro h e he
    have hne : key ≠ e.1 := fun heq => h (heq ▸ List.mem_map_of_mem he)
    simpa using hne

/-- A value that is put under a key which is there stands where the old one stood. -/
theorem insert_eq_map {key : α} {es : List (α × β)} (hnodup : (es.map (·.1)).Nodup)
    (h : key ∈ es.map (·.1)) (value : β) :
    Json.insert key value es = es.map fun e => if e.1 == key then (key, value) else e := by
  induction es with
  | nil => cases h
  | cons e es ih =>
      rw [List.map_cons, List.nodup_cons] at hnodup
      by_cases he : e.1 = key
      · have hrest : es.map (fun e => if e.1 == key then (key, value) else e) = es := by
          refine (List.map_congr_left fun e' he' => if_neg ?_).trans (List.map_id es)
          intro hkey
          rw [he, ← eq_of_beq hkey] at hnodup
          exact hnodup.1 (List.mem_map_of_mem he')
        have hkey : (e.1 == key) = true := by simpa using he
        rw [Json.insert, List.map_cons, if_pos hkey, if_pos hkey, hrest, eq_of_beq hkey]
      · have hmem : key ∈ es.map (·.1) := (List.mem_cons.1 h).resolve_left (Ne.symm he)
        have hkey : ¬(e.1 == key) = true := by simpa using he
        rw [Json.insert, List.map_cons, if_neg hkey, if_neg hkey, ih hnodup.2 hmem]

/-- Putting in a value brings no other entry. -/
theorem mem_insert {key : α} {value : β} {es : List (α × β)} {e : α × β}
    (h : e ∈ Json.insert key value es) : e = (key, value) ∨ e ∈ es := by
  induction es with
  | nil => exact .inl (List.mem_singleton.1 h)
  | cons first es ih =>
      rw [Json.insert] at h
      split at h
      · next hkey =>
        rcases List.mem_cons.1 h with rfl | hold
        · exact .inl (by rw [eq_of_beq hkey])
        · exact .inr (List.mem_cons_of_mem _ hold)
      · rcases List.mem_cons.1 h with rfl | hold
        · exact .inr List.mem_cons_self
        · exact (ih hold).imp_right (List.mem_cons_of_mem _)

/-- A key that is found is there, with its value. -/
theorem mem_of_lookup {key : α} {value : β} {es : List (α × β)}
    (h : es.lookup key = some value) : (key, value) ∈ es := by
  obtain ⟨before, after, rfl, -⟩ := List.lookup_eq_some_iff.1 h
  simp

/-- Where keys are distinct every entry is found under its key. -/
theorem lookup_of_mem {key : α} {value : β} {es : List (α × β)} (h : (es.map (·.1)).Nodup)
    (hmem : (key, value) ∈ es) : es.lookup key = some value := by
  obtain ⟨before, after, rfl⟩ := List.append_of_mem hmem
  refine List.lookup_eq_some_iff.2 ⟨before, after, rfl, ?_⟩
  intro e he
  rw [List.map_append, List.nodup_append] at h
  have hne : e.1 ≠ key := h.2.2 e.1 (List.mem_map_of_mem he) key (by simp)
  simpa using Ne.symm hne

/-- Entries under the same keys in the same order are the same if the same is found under each. -/
theorem eq_of_lookup_eq {es fs : List (α × β)} (hnodup : (es.map (·.1)).Nodup)
    (hkeys : es.map (·.1) = fs.map (·.1)) (h : ∀ key, es.lookup key = fs.lookup key) : es = fs := by
  induction es generalizing fs with
  | nil => simpa using hkeys.symm
  | cons e es ih =>
      obtain ⟨first, value⟩ := e
      obtain _ | ⟨⟨key, value'⟩, fs⟩ := fs
      · cases hkeys
      · obtain ⟨rfl, hrest⟩ := List.cons.inj hkeys
        obtain ⟨hnew, hnodup⟩ := List.nodup_cons.1 hnodup
        have hfirst : value = value' := by simpa [List.lookup_cons] using h first
        have hsame : es = fs := by
          refine ih hnodup hrest fun other => ?_
          by_cases hother : other = first
          · have hnone : es.lookup other = none ∧ fs.lookup other = none := by
              rw [lookup_eq_none_iff_notMem, lookup_eq_none_iff_notMem, ← hrest, hother]
              exact ⟨hnew, hnew⟩
            rw [hnone.1, hnone.2]
          · have hkey : (other == first) = false := by simpa using hother
            simpa [List.lookup_cons, hkey] using h other
        rw [← hfirst, hsame]

end PaneWatch
