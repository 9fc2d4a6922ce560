/-
Plain data trees: the values that files and answers are written from.

An object keeps its members in the order they were put in, and a key stands
in it once. A tree can be printed unless it holds an integer that cannot be
written as text.
-/
import PaneWatch.Number.Double
import PaneWatch.Number.Reading

namespace PaneWatch

open Number (Double)

/-- A plain data tree. -/
inductive Json where
  | null
  | bool (b : Bool)
  | int (n : Int)
  | real (x : Double)
  | text (s : String)
  | list (elements : List Json)
  | object (members : List (String × Json))

namespace Json

/-- Puts a value under a key: in the place of the key's old value, or at the end. -/
def insert {α β : Type} [BEq α] (key : α) (value : β) : List (α × β) → List (α × β)
  | [] => [(key, value)]
  | (k, v) :: rest => if k == key then (k, value) :: rest else (k, v) :: insert key value rest

/-- A new key goes to the end. -/
theorem insert_of_notMem {α β : Type} [BEq α] [LawfulBEq α] {key : α} {es : List (α × β)}
    (h : key ∉ es.map (·.1)) (value : β) : insert key value es = es ++ [(key, value)] := by
  induction es with
  | nil => rfl
  | cons e es ih =>
      rw [List.map_cons, List.mem_cons, not_or] at h
      have hkey : (e.1 == key) = false := beq_false_of_ne (Ne.symm h.1)
      simp only [insert, hkey, Bool.false_eq_true, if_false, ih h.2, List.cons_append]

/-- A key that is there already keeps its place. -/
theorem keys_insert_of_mem {α β : Type} [BEq α] [LawfulBEq α] {key : α} {es : List (α × β)}
    (h : key ∈ es.map (·.1)) (value : β) :
    (insert key value es).map (·.1) = es.map (·.1) := by
  induction es with
  | nil => cases h
  | cons e es ih =>
      by_cases hkey : e.1 = key
      · simp [insert, hkey]
      · rw [List.map_cons, List.mem_cons] at h
        have hmem := h.resolve_left (Ne.symm hkey)
        simp [insert, hkey, ih hmem]

/-- Putting in a value keeps keys distinct. -/
theorem nodup_insert {α β : Type} [BEq α] [LawfulBEq α] {key : α} {value : β}
    {es : List (α × β)} (h : (es.map (·.1)).Nodup) :
    ((insert key value es).map (·.1)).Nodup := by
  by_cases hmem : key ∈ es.map (·.1)
  · rw [keys_insert_of_mem hmem]
    exact h
  · rw [insert_of_notMem hmem, List.map_append, List.nodup_append]
    refine ⟨h, by simp, ?_⟩
    intro a ha b hb hab
    rw [List.map_singleton, List.mem_singleton] at hb
    rw [hab, hb] at ha
    exact hmem ha

mutual

/-- Whether a tree can be printed. -/
def isPrintable : Json → Bool
  | .int n => Number.hasText n
  | .list es => areElementsPrintable es
  | .object ms => areMembersPrintable ms
  | _ => true

/-- Whether all elements of a list can be printed. -/
def areElementsPrintable : List Json → Bool
  | [] => true
  | j :: rest => isPrintable j && areElementsPrintable rest

/-- Whether all members of an object can be printed. -/
def areMembersPrintable : List (String × Json) → Bool
  | [] => true
  | (_, j) :: rest => isPrintable j && areMembersPrintable rest

end

/-- The value of a member. -/
def get? (key : String) : Json → Option Json
  | .object members => members.lookup key
  | _ => none

end Json

end PaneWatch
