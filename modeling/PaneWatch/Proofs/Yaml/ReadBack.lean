/-
Mappings that are read back from their text.

Most trees are, but it is no law of the format as it is written here: a key whose
escapes take up more than 1024 characters is written on one line with its value and
not found there again. `ReadsBack` says of a mapping that it is read back, and can be
computed for every mapping, since reading and printing can.
-/
import PaneWatch.Yaml.Document
import PaneWatch.Yaml.Printer

namespace PaneWatch

namespace Value

mutual

/-- Whether a value is a tree. -/
def isTree : Json → Value → Bool
  | .null, .null => true
  | .bool b, .bool c => c == b
  | .int n, .int m => m == n
  | .real x, .real y => y == x
  | .text s, .text t => t == s
  | .list es, .list vs => areElements es vs
  | .object ms, .map entries => areMembers ms entries
  | _, _ => false

/-- Whether values are the elements of a tree. -/
def areElements : List Json → List Value → Bool
  | [], [] => true
  | j :: es, v :: vs => isTree j v && areElements es vs
  | _, _ => false

/-- Whether entries are the members of a tree. -/
def areMembers : List (String × Json) → List (Value × Value) → Bool
  | [], [] => true
  | (k, j) :: ms, (.text key, v) :: entries => key == k && isTree j v && areMembers ms entries
  | _, _ => false

end

mutual

private theorem isTree_iff (j : Json) (v : Value) : isTree j v ↔ v = ofJson j := by
  cases j with
  | list es =>
      cases v with
      | list vs => simp [isTree, ofJson, areElements_iff es vs]
      | _ => simp [isTree, ofJson]
  | object ms =>
      cases v with
      | map entries => simp [isTree, ofJson, areMembers_iff ms entries]
      | _ => simp [isTree, ofJson]
  | _ => cases v <;> simp [isTree, ofJson]

private theorem areElements_iff (es : List Json) (vs : List Value) :
    areElements es vs ↔ vs = ofElements es := by
  cases es with
  | nil => cases vs <;> simp [areElements, ofElements]
  | cons j es =>
      cases vs with
      | nil => simp [areElements, ofElements]
      | cons v vs => simp [areElements, ofElements, isTree_iff j v, areElements_iff es vs]

private theorem areMembers_iff (ms : List (String × Json)) (entries : List (Value × Value)) :
    areMembers ms entries ↔ entries = ofMembers ms := by
  cases ms with
  | nil => cases entries <;> simp [areMembers, ofMembers]
  | cons m ms =>
      cases entries with
      | nil => simp [areMembers, ofMembers]
      | cons e entries =>
          obtain ⟨key, v⟩ := e
          cases key <;>
            simp [areMembers, ofMembers, isTree_iff m.2 v, areMembers_iff ms entries,
              and_assoc]

end

end Value

namespace Yaml

/-- That a mapping is read back from its text. -/
def ReadsBack (members : List (String × Json)) : Prop :=
  load (print members) = .ok (.map (Value.ofMembers members))

/-- Whether a reading gave a mapping. -/
def gives (members : List (String × Json)) : Except Failure Value → Bool
  | .ok (.map entries) => Value.areMembers members entries
  | _ => false

/-- A text gives members if it is loaded as their mapping. -/
theorem gives_iff (members : List (String × Json)) (outcome : Except Failure Value) :
    gives members outcome ↔ outcome = .ok (.map (Value.ofMembers members)) := by
  unfold gives
  split
  · simp [Value.areMembers_iff]
  · next hno =>
    simp only [Bool.false_eq_true, false_iff]
    rintro rfl
    exact hno _ rfl

instance (members : List (String × Json)) : Decidable (ReadsBack members) :=
  decidable_of_iff _ (gives_iff members (load (print members)))

end Yaml

end PaneWatch
