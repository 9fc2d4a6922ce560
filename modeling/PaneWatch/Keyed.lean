/-
Values under names, in the order in which the names came.

A name stands once: that is part of the structure, so whoever holds a `Keyed`
need not ask. A value that is put under a name takes the place of the one that
stands there, and comes last under a name that is new.
-/
import PaneWatch.Json

namespace PaneWatch

/-- Values under names. -/
structure Keyed (α : Type) where
  entries : List (String × α) := []
  distinct : (entries.map (·.1)).Nodup := by exact List.nodup_nil

namespace Keyed

variable {α : Type}

/-- The names in order. -/
def keys (k : Keyed α) : List String := k.entries.map (·.1)

/-- The values in order. -/
def values (k : Keyed α) : List α := k.entries.map (·.2)

/-- The number of values. -/
def size (k : Keyed α) : Nat := k.entries.length

/-- The value under a name. -/
def find? (k : Keyed α) (key : String) : Option α := k.entries.lookup key

/-- Puts a value under a name. -/
def insert (k : Keyed α) (key : String) (a : α) : Keyed α where
  entries := Json.insert key a k.entries
  distinct := Json.nodup_insert k.distinct

/-- The entries that pass a test. -/
def filter (p : String × α → Bool) (k : Keyed α) : Keyed α where
  entries := k.entries.filter p
  distinct := (List.filter_sublist.map _).nodup k.distinct

/-- Removes the value under a name. -/
def erase (k : Keyed α) (key : String) : Keyed α := k.filter (·.1 != key)

@[ext] theorem ext {a b : Keyed α} (h : a.entries = b.entries) : a = b := by
  cases a
  cases b
  cases h
  rfl

@[simp] theorem entries_insert (k : Keyed α) (key : String) (a : α) :
    (k.insert key a).entries = Json.insert key a k.entries := rfl

@[simp] theorem entries_filter (k : Keyed α) (p : String × α → Bool) :
    (k.filter p).entries = k.entries.filter p := rfl

/-- A value under a new name comes last. -/
theorem entries_insert_of_notMem {k : Keyed α} {key : String} (h : key ∉ k.keys) (a : α) :
    (k.insert key a).entries = k.entries ++ [(key, a)] := Json.insert_of_notMem h a

/-- Entries that are put in one by one stand as they came, behind those before them. -/
theorem entries_foldl_insert (k : Keyed α) (es : List (String × α))
    (h : ((k.entries ++ es).map (·.1)).Nodup) :
    (es.foldl (fun k e => k.insert e.1 e.2) k).entries = k.entries ++ es := by
  induction es generalizing k with
  | nil => simp
  | cons e es ih =>
      have hnew : e.1 ∉ k.keys := by
        rw [List.map_append, List.nodup_append] at h
        intro hmem
        exact h.2.2 e.1 hmem e.1 (by simp) rfl
      have hput := entries_insert_of_notMem hnew e.2
      rw [List.foldl_cons, ih _ (by rw [hput]; simpa using h), hput]
      simp

end Keyed

end PaneWatch
