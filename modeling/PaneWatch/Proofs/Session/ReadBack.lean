/-
Records read back from their plain trees.

Every field of a record is checked on the way in, and the tree of a record passes all
of these checks: texts are texts, a stamp is read back from its text, an activity from
its name. The metadata alone may come back as something else than it was, since a
tree does not know a date from a text; its tree is settled, so it stays the same
(`check_toJson`).
-/
import PaneWatch.Proofs.Time.ReadBack
import PaneWatch.Proofs.Value.Plain
import PaneWatch.Session.Record

namespace PaneWatch

open Time (Stamp)

-- ===================================================== mappings

/-- An entry under a text whose value passes is added. -/
private theorem Check.addEntry_text {α : Type} {check : Value → Except Cause α} {v : Value} {a : α}
    (h : check v = .ok a) (k : Keyed α) (key : String) :
    Check.addEntry check (.valid k) (.text key, v) = .valid (k.insert key a) := by
  simp only [Check.addEntry, h]
  rfl

/-- A mapping with distinct texts for keys, whose values pass a check, is read in its order. -/
theorem Check.mapping_texts {α β : Type} {check : Value → Except Cause α} {value : β → Value}
    {get : β → α} (hcheck : ∀ b, check (value b) = .ok (get b)) (items : List (String × β))
    (h : (items.map (·.1)).Nodup) :
    ∃ k : Keyed α, Check.mapping check (.map (items.map fun e => (.text e.1, value e.2)))
        = .valid k ∧ k.entries = items.map fun e => (e.1, get e.2) := by
  have hfold (items : List (String × β)) (k : Keyed α) :
      (items.map fun e => (Value.text e.1, value e.2)).foldl (Check.addEntry check) (.valid k)
        = .valid ((items.map fun e => (e.1, get e.2)).foldl (fun k e => k.insert e.1 e.2) k) := by
    induction items generalizing k with
    | nil => rfl
    | cons e rest ih =>
        rw [List.map_cons, List.foldl_cons, List.map_cons, List.foldl_cons, ← ih,
          Check.addEntry_text (hcheck e.2)]
  refine ⟨_, hfold items {}, ?_⟩
  rw [Keyed.entries_foldl_insert, List.nil_append]
  rwa [List.nil_append, List.map_map]

namespace Session.Record

-- ===================================================== single fields

/-- A text is a moment if it can be read as one. -/
theorem moment_text (text : String) :
    Check.moment (.text text) = (Time.Lenient.ofText text).mapError Check.causeOf := rfl

/-- The text of a stamp passes as this stamp. -/
private theorem checkStamp_toText [Time.Zone] (s : Stamp) :
    checkStamp (.text s.toText) = .ok (.valid s) := by
  rw [checkStamp, moment_text, Time.Lenient.ofText_toText]
  rfl

/-- The name of an activity passes as this activity. -/
private theorem checkActivity_name (a : Activity) : checkActivity (.text a.name) = .valid a := by
  have hname : (Check.textOf? (.text a.name)).bind Activity.ofName? = some a :=
    Activity.ofName?_name a
  rw [checkActivity, hname]

-- ===================================================== fields of a tree

variable {members : List (String × Json)} {label : String} {j : Json}

/-- A field that is written passes as what stands there does. -/
private theorem field_ofMembers {α : Type} (h : members.lookup label = some j) (absent : α)
    (check : Value → Checked α) :
    Check.field (Value.ofMembers members) label absent check
      = (check (Value.ofJson j)).under label := by
  rw [Check.field, Value.lookup?_ofMembers, h, Option.map_some]

private theorem stampField_ofMembers [Time.Zone] (h : members.lookup label = some j) (now : Stamp) :
    stampField (Value.ofMembers members) label now
      = Checked.under label <$> checkStamp (Value.ofJson j) := by
  rw [stampField, Value.lookup?_ofMembers, h, Option.map_some]

-- ===================================================== records

/-- The tree of a record passes the check, which gives the record with other metadata, those
of which the metadata have become the tree. -/
theorem check_members [Time.Zone] (now : Stamp) (r : Record) {notes : List (String × Json)}
    (h : (notes.map (·.1)).Nodup) :
    ∃ metadata : Keyed Value, metadata.entries = notes.map (fun e => (e.1, Value.ofJson e.2))
      ∧ check now (.map (Value.ofMembers (r.members (.object notes))))
        = .ok (.valid { r with metadata }) := by
  obtain ⟨environment, henvironment, hentries⟩ :=
    Check.mapping_texts (fun text => (rfl : Check.text (.text text) = .ok text))
      r.environment.entries r.environment.distinct
  obtain ⟨metadata, hmetadata, hvalues⟩ :=
    Check.mapping_texts (fun j => (rfl : Except.ok (Value.ofJson j) = .ok (Value.ofJson j)))
      notes h
  obtain rfl : environment = r.environment := Keyed.ext (by rw [hentries, List.map_id'])
  refine ⟨metadata, hvalues, ?_⟩
  have hcreated : stampField (Value.ofMembers (r.members (.object notes))) "created" now
      = .ok (.valid r.created) := by
    rw [stampField_ofMembers rfl, Value.ofJson, checkStamp_toText]
    rfl
  have haccess : stampField (Value.ofMembers (r.members (.object notes))) "last_access" now
      = .ok (.valid r.lastAccess) := by
    rw [stampField_ofMembers rfl, Value.ofJson, checkStamp_toText]
    rfl
  have hstate : Check.field (Value.ofMembers (r.members (.object notes))) "last_state" .unknown
      checkActivity = .valid r.lastState := by
    rw [field_ofMembers rfl, Value.ofJson, checkActivity_name]
    rfl
  have henvironmentField : Check.field (Value.ofMembers (r.members (.object notes)))
      "environment" {} (Check.mapping Check.text ∘ orEmpty) = .valid r.environment := by
    rw [field_ofMembers rfl, Value.ofJson, Value.ofMembers_eq_map, List.map_map]
    exact congrArg (Checked.under "environment") henvironment
  have hmetadataField : Check.field (Value.ofMembers (r.members (.object notes))) "metadata" {}
      (Check.mapping Except.ok ∘ orEmpty) = .valid metadata := by
    rw [field_ofMembers rfl, Value.ofJson, Value.ofMembers_eq_map]
    exact congrArg (Checked.under "metadata") hmetadata
  simp only [check, checkEntries, hcreated, haccess, hstate, henvironmentField, hmetadataField]
  rfl

/-- What is written of a session passes as a session that is written the same. -/
theorem check_toMembers [Time.Zone] (now : Stamp) {r : Record} (h : r.toMembers = .ok members) :
    ∃ r', check now (.map (Value.ofMembers members)) = .ok (.valid r')
      ∧ r'.toMembers = .ok members := by
  have hmap : r.members <$> r.metadataTree = .ok members := h
  cases htree : r.metadataTree with
  | error why =>
      rw [htree] at hmap
      cases hmap
  | ok tree =>
      rw [htree] at hmap
      cases hmap
      obtain ⟨notes, hnotes, hobject⟩ := exists_of_bind_eq_ok htree
      cases hobject
      have hsettled : Value.MembersSettled Value.maxDepth notes :=
        Value.settled_of_toMembers hnotes ⟨List.nodup_nil, by simp⟩
      obtain ⟨metadata, hvalues, hcheck⟩ := check_members now r hsettled.1
      refine ⟨_, hcheck, ?_⟩
      have hsame : ({ r with metadata } : Record).metadataTree = .ok (.object notes) := by
        rw [metadataTree]
        dsimp only
        rw [hvalues, List.map_map]
        show Value.toJson (Value.maxDepth + 1)
          (.map (notes.map fun e => (.text e.1, Value.ofJson e.2))) = _
        rw [← Value.ofMembers_eq_map]
        exact Value.settled_object hsettled
      rw [toMembers, hsame]
      rfl

/-- A record is read back from its tree as one that has the same tree. -/
theorem check_toJson [Time.Zone] (now : Stamp) {r : Record} (h : r.toJson = .ok j) :
    ∃ r', check now (Value.ofJson j) = .ok (.valid r') ∧ r'.toJson = .ok j := by
  have hmap : Json.object <$> r.toMembers = .ok j := h
  cases hmembers : r.toMembers with
  | error why =>
      rw [hmembers] at hmap
      cases hmap
  | ok members =>
      rw [hmembers] at hmap
      cases hmap
      obtain ⟨r', hcheck, hsame⟩ := check_toMembers now hmembers
      refine ⟨r', hcheck, ?_⟩
      rw [toJson, hsame]
      rfl

-- ===================================================== trees

private theorem exists_members_of_toJson {r : Record} (h : r.toJson = .ok j) :
    ∃ metadata, j = .object (r.members metadata) := by
  unfold toJson toMembers at h
  cases htree : r.metadataTree with
  | error why =>
      rw [htree] at h
      cases h
  | ok metadata =>
      rw [htree] at h
      cases h
      exact ⟨metadata, rfl⟩

/-- Records with the same tree were last used at the same time. -/
theorem lastAccess_of_toJson {r r' : Record} (h : r.toJson = .ok j) (h' : r'.toJson = .ok j) :
    r'.lastAccess = r.lastAccess := by
  obtain ⟨metadata, rfl⟩ := exists_members_of_toJson h
  obtain ⟨metadata', hmembers⟩ := exists_members_of_toJson h'
  have hshown : some (Json.text r.lastAccess.toText) = some (Json.text r'.lastAccess.toText) :=
    congrArg (List.lookup "last_access") (Json.object.inj hmembers)
  exact (Stamp.toText_inj (Json.text.inj (Option.some.inj hshown))).symm

end Session.Record

end PaneWatch
