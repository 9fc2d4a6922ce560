/-
Plain trees are their own trees.

A value loses its kind when it becomes a plain tree: a date is text afterwards and a set
a list. What comes out has nothing left to lose (`settled_of_toJson`): taken as a
value again, as a file gives it back, it becomes the same tree. For mappings this
rests on keys being distinct, so that no member takes the place of another.
-/
import PaneWatch.Check

namespace PaneWatch

/-- A step and what follows it have both succeeded if the whole has. -/
theorem exists_of_bind_eq_ok {ε α β : Type} {x : Except ε α} {f : α → Except ε β} {b : β}
    (h : x >>= f = .ok b) : ∃ a, x = .ok a ∧ f a = .ok b := by
  cases x with
  | error e => cases h
  | ok a => exact ⟨a, rfl, h⟩

namespace Value

-- ===================================================== members as entries

/-- Each member is read back for itself. -/
theorem ofMembers_eq_map (members : List (String × Json)) :
    ofMembers members = members.map fun e => (.text e.1, ofJson e.2) := by
  induction members with
  | nil => rfl
  | cons e rest ih => rw [ofMembers, ih, List.map_cons]

private theorem sameKey_text (a b : String) : sameKey (.text a) (.text b) = (a == b) := rfl

/-- The value under a key of a tree. -/
theorem lookup?_ofMembers (key : String) (members : List (String × Json)) :
    lookup? key (ofMembers members) = (members.lookup key).map ofJson := by
  induction members with
  | nil => rfl
  | cons e rest ih =>
      rw [ofMembers, lookup?, sameKey_text, List.lookup_cons, Bool.beq_comm, ih]
      cases key == e.1 <;> rfl

-- ===================================================== settled trees

variable {room : Nat}

/-- That a tree, taken as a value that may have so many levels, becomes the same tree. -/
def Settled (room : Nat) (j : Json) : Prop := toJson room (ofJson j) = .ok j

/-- That keys are distinct and all values are settled. -/
def MembersSettled (room : Nat) (members : List (String × Json)) : Prop :=
  (members.map (·.1)).Nodup ∧ ∀ e ∈ members, Settled room e.2

private theorem settled_list {es : List Json} (h : ∀ j ∈ es, Settled room j) :
    Settled (room + 1) (.list es) := by
  have helements : toElements room (ofElements es) = .ok es := by
    induction es with
    | nil => rfl
    | cons j rest ih =>
        have hj : toJson room (ofJson j) = .ok j := h j List.mem_cons_self
        rw [ofElements, toElements, hj, ih fun k hk => h k (List.mem_cons_of_mem j hk)]
        rfl
  unfold Settled
  rw [ofJson, toJson, helements]
  rfl

/-- Members that are settled and have distinct keys are written as they were read. -/
private theorem toMembers_ofMembers {before members : List (String × Json)}
    (h : ((before ++ members).map (·.1)).Nodup) (hsettled : ∀ e ∈ members, Settled room e.2) :
    toMembers room before (ofMembers members) = .ok (before ++ members) := by
  induction members generalizing before with
  | nil => rw [ofMembers, toMembers, List.append_nil]
  | cons e rest ih =>
      have hvalue : toJson room (ofJson e.2) = .ok e.2 := hsettled e List.mem_cons_self
      have hnew : e.1 ∉ before.map (·.1) := by
        rw [List.map_append, List.nodup_append] at h
        intro hmem
        exact h.2.2 e.1 hmem e.1 (by simp) rfl
      have hput : Json.insert e.1 e.2 before = before ++ [e] := Json.insert_of_notMem hnew e.2
      rw [ofMembers, toMembers, plainKey, hvalue]
      show toMembers room (Json.insert e.1 e.2 before) (ofMembers rest) = _
      rw [hput, ih (by simpa using h) fun e' he' => hsettled e' (List.mem_cons_of_mem e he')]
      simp

/-- An object of settled members is settled. -/
theorem settled_object {members : List (String × Json)} (h : MembersSettled room members) :
    Settled (room + 1) (.object members) := by
  have hmembers : toMembers room [] (ofMembers members) = .ok ([] ++ members) :=
    toMembers_ofMembers h.1 h.2
  unfold Settled
  rw [ofJson, toJson, hmembers]
  rfl

/-- Members stay settled as a settled one is put in. -/
theorem MembersSettled.insert {members : List (String × Json)} {key : String} {j : Json}
    (h : MembersSettled room members) (hj : Settled room j) :
    MembersSettled room (Json.insert key j members) := by
  refine ⟨Json.nodup_insert h.1, ?_⟩
  obtain ⟨-, hall⟩ := h
  induction members with
  | nil => simpa [Json.insert] using hj
  | cons e rest ih =>
      unfold Json.insert
      split
      · simp only [List.mem_cons, forall_eq_or_imp] at hall ⊢
        exact ⟨hj, hall.2⟩
      · simp only [List.mem_cons, forall_eq_or_imp] at hall ⊢
        exact ⟨hall.1, ih hall.2⟩

mutual

/-- What a value becomes is settled. -/
theorem settled_of_toJson {room : Nat} {v : Value} {j : Json} (h : toJson room v = .ok j) :
    Settled room j := by
  cases room with
  | zero =>
      rw [toJson] at h
      cases h
  | succ room =>
      cases v with
      | null | bool b | int n | text s | date d | moment m | activity a =>
          cases h
          rfl
      | real x =>
          simp only [toJson, Except.ok.injEq] at h
          subst h
          cases hx : x.isFinite with
          | true => simp [Settled, ofJson, toJson, hx]
          | false => rfl
      | bytes bs =>
          rw [toJson] at h
          cases hbs : utf8? bs with
          | none =>
              rw [hbs] at h
              cases h
          | some s =>
              rw [hbs] at h
              cases h
              rfl
      | list vs | set vs =>
          obtain ⟨es, hes, hj⟩ := exists_of_bind_eq_ok h
          cases hj
          exact settled_list (settled_of_toElements hes)
      | map entries =>
          obtain ⟨members, hmembers, hj⟩ := exists_of_bind_eq_ok h
          cases hj
          exact settled_object (settled_of_toMembers hmembers ⟨List.nodup_nil, by simp⟩)
      | loop | foreign => cases h

private theorem settled_of_toElements {room : Nat} {vs : List Value} {es : List Json}
    (h : toElements room vs = .ok es) : ∀ j ∈ es, Settled room j := by
  cases vs with
  | nil =>
      cases h
      simp
  | cons v rest =>
      obtain ⟨j, hj, hrest⟩ := exists_of_bind_eq_ok h
      obtain ⟨js, hjs, hes⟩ := exists_of_bind_eq_ok hrest
      cases hes
      simp only [List.mem_cons, forall_eq_or_imp]
      exact ⟨settled_of_toJson hj, settled_of_toElements hjs⟩

/-- What was written as members is settled. -/
theorem settled_of_toMembers {room : Nat} {entries : List (Value × Value)}
    {before members : List (String × Json)} (h : toMembers room before entries = .ok members)
    (hbefore : MembersSettled room before) : MembersSettled room members := by
  cases entries with
  | nil =>
      cases h
      exact hbefore
  | cons e rest =>
      obtain ⟨key, -, hvalue⟩ := exists_of_bind_eq_ok h
      obtain ⟨j, hj, hrest⟩ := exists_of_bind_eq_ok hvalue
      exact settled_of_toMembers hrest (hbefore.insert (settled_of_toJson hj))

end

end Value

end PaneWatch
