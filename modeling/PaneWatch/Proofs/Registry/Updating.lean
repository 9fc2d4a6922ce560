/-
What an update makes of a session.

Four keys of an update ask for fields, and each other key asks for a note in the metadata. All
keys are read before anything is changed, so an update is made as a whole or not at all, and
`Applied` says key by key what a session is afterwards.

An update is put together from its keys. A single key does what `Applied` says of it
(`applied_single`), and updates of different keys that are made one after the other do what it
says of both together (`Applied.append`). `Applied` also leaves no choice (`Applied.unique`), so
an update is refused exactly if there is no session that it could make.
-/
import PaneWatch.Proofs.Registry.Writable

namespace PaneWatch.Registry

open Session (Record)
open Time (Stamp)

namespace Change

-- ===================================================== what a key asks for

/-- The keys that stand for fields. -/
def fieldKeys : List String := ["last_access", "last_state", "directory", "branch"]

/-- That a value gives a time of the last access. -/
def IsAccess [Time.Zone] (v : Value) (t : Stamp) :
    Prop := ∃ m, momentOf? v = some m ∧ m.toLocal? = some t

/-- That a value gives an activity. -/
def IsState (v : Value) (a : Activity) : Prop := v.asText? = some a.name

/-- That a value gives a text. -/
def IsText (v : Value) (s : String) : Prop := v.asText? = some s

/-- What a key and its value ask for. -/
inductive Asks [Time.Zone] : String → Value → Change → Prop where
  | access {v : Value} {t : Stamp} : IsAccess v t → Asks "last_access" v (.lastAccess t)
  | state {v : Value} {a : Activity} : IsState v a → Asks "last_state" v (.lastState a)
  | directory {v : Value} {path : String} : IsText v path → Asks "directory" v (.directory path)
  | branch {v : Value} {name : String} : IsText v name → Asks "branch" v (.branch name)
  | noted {key : String} {v : Value} : key ∉ fieldKeys → Asks key v (.noted key v)

/-- That a value gives a time of the last access that no calendar of the local zone has. -/
def IsLost [Time.Zone] (key : String) (v : Value) : Prop :=
  key = "last_access" ∧ ∃ m, momentOf? v = some m ∧ m.toLocal? = none

/-- That a value is not of the type that the field under its key has. -/
inductive IsWrong : String → Value → Prop where
  | access {v : Value} : momentOf? v = none → IsWrong "last_access" v
  | state {v : Value} : (∀ a, ¬IsState v a) → IsWrong "last_state" v
  | directory {v : Value} : (∀ s, ¬IsText v s) → IsWrong "directory" v
  | branch {v : Value} : (∀ s, ¬IsText v s) → IsWrong "branch" v

variable {key : String} {v : Value}

/-- Four keys are those of fields, and any other is one of metadata. -/
private theorem notMem_fieldKeys_iff : key ∉ fieldKeys
    ↔ key ≠ "last_access" ∧ key ≠ "last_state" ∧ key ≠ "directory" ∧ key ≠ "branch" := by
  simp [fieldKeys]

/-- So a key is one of the four, or goes to the metadata. -/
private theorem key_cases (key : String) :
    key = "last_access" ∨ key = "last_state" ∨ key = "directory"
    ∨ key = "branch" ∨ key ∉ fieldKeys := by
  rw [notMem_fieldKeys_iff]
  tauto

/-- A key and its value ask for a change, or for a time that there is not, or are wrong. -/
theorem asks_or [Time.Zone] (key : String) (v : Value) :
    (∃ c, Asks key v c) ∨ IsLost key v ∨ IsWrong key v := by
  rcases key_cases key with rfl | rfl | rfl | rfl | h
  · cases hmoment : momentOf? v with
    | none => exact .inr (.inr (.access hmoment))
    | some m =>
        cases hlocal : m.toLocal? with
        | none => exact .inr (.inl ⟨rfl, m, hmoment, hlocal⟩)
        | some t => exact .inl ⟨_, .access ⟨m, hmoment, hlocal⟩⟩
  · by_cases h : ∃ a, IsState v a
    · obtain ⟨a, ha⟩ := h
      exact .inl ⟨_, .state ha⟩
    · exact .inr (.inr (.state (not_exists.1 h)))
  · by_cases h : ∃ s, IsText v s
    · obtain ⟨path, hpath⟩ := h
      exact .inl ⟨_, .directory hpath⟩
    · exact .inr (.inr (.directory (not_exists.1 h)))
  · by_cases h : ∃ s, IsText v s
    · obtain ⟨name, hname⟩ := h
      exact .inl ⟨_, .branch hname⟩
    · exact .inr (.inr (.branch (not_exists.1 h)))
  · exact .inl ⟨_, .noted h⟩

/-- An update is read as the change that it asks for. -/
theorem read_of_asks [Time.Zone] {c : Change} (h : Asks key v c) : read key v = .ok c := by
  cases h with
  | access h =>
      obtain ⟨m, hmoment, hlocal⟩ := h
      show readAccess v = _
      simp only [readAccess, hmoment, hlocal]
  | state h =>
      show readState v = _
      rw [readState, show v.asText? = _ from h, Option.bind_some, Activity.ofName?_name]
  | directory h =>
      show readText "directory" .directory v = _
      rw [readText, show v.asText? = _ from h]
  | branch h =>
      show readText "branch" .branch v = _
      rw [readText, show v.asText? = _ from h]
  | noted h => simp [read, notMem_fieldKeys_iff.1 h]

/-- A moment that the local calendar does not have is lost in an accident. -/
theorem read_of_isLost [Time.Zone] (h : IsLost key v) :
    read key v = .error (.accident .outOfRange) := by
  obtain ⟨rfl, m, hmoment, hlocal⟩ := h
  show readAccess v = _
  simp only [readAccess, hmoment, hlocal]

/-- A value of the wrong type is shown in the message. -/
theorem read_of_isWrong [Time.Zone] (h : IsWrong key v) :
    ∃ wanted, read key v = wrongType key wanted v := by
  have htext {field : String} {make : String → Change} (h : ∀ s, ¬IsText v s) :
      readText field make v = wrongType field "string" v := by
    rw [readText, Option.eq_none_iff_forall_ne_some.2 h]
  cases h with
  | access h =>
      refine ⟨"datetime", ?_⟩
      show readAccess v = _
      rw [readAccess, h]
  | state h =>
      refine ⟨"ProcessState", ?_⟩
      show readState v = _
      have hnone : v.asText?.bind Activity.ofName? = none := by
        rw [Option.eq_none_iff_forall_ne_some]
        intro a ha
        obtain ⟨word, hword, hname⟩ := Option.bind_eq_some_iff.1 ha
        have hsame : a.name = word := by simpa using List.find?_some hname
        exact h a (hword.trans (congrArg some hsame.symm))
      rw [readState, hnone]
  | directory h => exact ⟨"string", htext h⟩
  | branch h => exact ⟨"string", htext h⟩

private theorem wrongType_ne_ok {α : Type} {field wanted : String} {a : α} :
    wrongType field wanted v ≠ .ok a := by
  unfold wrongType
  split <;> simp

/-- An update is read as a change exactly if it asks for that. -/
theorem read_eq_ok_iff [Time.Zone] {c : Change} : read key v = .ok c ↔ Asks key v c := by
  refine ⟨fun h => ?_, read_of_asks⟩
  rcases asks_or key v with ⟨c', hasks⟩ | hlost | hwrong
  · rw [read_of_asks hasks] at h
    cases h
    exact hasks
  · rw [read_of_isLost hlost] at h
    cases h
  · obtain ⟨wanted, hread⟩ := read_of_isWrong hwrong
    rw [hread] at h
    exact absurd h wrongType_ne_ok

/-- An update is read if each of its keys asks for a change. -/
theorem exists_readAll_iff [Time.Zone] {updates : List (String × Value)} :
    (∃ changes, readAll updates = .ok changes) ↔ ∀ e ∈ updates, ∃ c, Asks e.1 e.2 c := by
  induction updates with
  | nil => simp [readAll, pure, Except.pure]
  | cons e updates ih =>
      rw [List.forall_mem_cons, ← ih]
      simp only [← read_eq_ok_iff, readAll, List.mapM_cons]
      cases read e.1 e.2 with
      | error f => simp [bind, Except.bind]
      | ok c =>
          cases updates.mapM (fun e => read e.1 e.2) <;> simp [bind, Except.bind, pure, Except.pure]

end Change

open Change

-- ===================================================== an update

/-- That a field has what an update gives under its key, or is as before. -/
def Sets {α : Type} (updates : List (String × Value)) (key : String) (reads : Value → α → Prop)
    (old new : α) : Prop :=
  match updates.lookup key with
  | none => new = old
  | some v => reads v new

/-- That the notes of an update stand in the metadata, each in the place of an old one or in
order behind all old ones, and that nothing else has changed there. -/
structure Notes (updates : List (String × Value)) (old new : Keyed Value) : Prop where
  noted : ∀ key v, key ∉ fieldKeys → updates.lookup key = some v → new.find? key = some v
  kept : ∀ key, key ∈ fieldKeys ∨ updates.lookup key = none → new.find? key = old.find? key
  order : new.keys = old.keys
    ++ (updates.map (·.1)).filter fun key => key ∉ fieldKeys ∧ key ∉ old.keys

/-- That an update makes one session of another. -/
structure Applied [Time.Zone] (updates : List (String × Value)) (old new : Record) : Prop where
  lastAccess : Sets updates "last_access" IsAccess old.lastAccess new.lastAccess
  lastState : Sets updates "last_state" IsState old.lastState new.lastState
  directory : Sets updates "directory" IsText old.directory new.directory
  branch : Sets updates "branch" IsText old.branch new.branch
  metadata : Notes updates old.metadata new.metadata
  id : new.id = old.id
  name : new.name = old.name
  project : new.project = old.project
  worktree : new.worktree = old.worktree
  created : new.created = old.created
  environment : new.environment = old.environment

variable {α : Type} {reads : Value → α → Prop} {key : String} {old mid new : α}
  {before after updates : List (String × Value)}

-- ===================================================== one key

/-- One update of a field sets it to what its value reads. -/
private theorem sets_self {v : Value} (h : reads v new) : Sets [(key, v)] key reads old new := by
  rw [Sets, List.lookup_cons_self]
  exact h

/-- An update of another key leaves a field as it is. -/
private theorem sets_other {key' : String} {v : Value} (h : key ≠ key') :
    Sets [(key', v)] key reads old old := by
  have hkey : (key == key') = false := by simpa using h
  rw [Sets, List.lookup_cons, hkey]
  rfl

/-- An update of a field notes nothing. -/
private theorem notes_field {v : Value} (h : key ∈ fieldKeys) (k : Keyed Value) :
    Notes [(key, v)] k k where
  noted other v' hother hv := by
    have hne : (other == key) = false := by
      simpa using fun heq : other = key => hother (heq ▸ h)
    rw [List.lookup_cons, hne] at hv
    cases hv
  kept _ _ := rfl
  order := by simp [h]

/-- An update of another key notes its value, and leaves all other notes. -/
private theorem notes_insert (h : key ∉ fieldKeys) (v : Value) (k : Keyed Value) :
    Notes [(key, v)] k (k.insert key v) where
  noted other v' _ hv := by
    by_cases hother : other = key
    · subst hother
      rw [List.lookup_cons_self] at hv
      exact (lookup_insert_self other v k.entries).trans hv
    · have hne : (other == key) = false := by simpa using hother
      rw [List.lookup_cons, hne] at hv
      cases hv
  kept other hother := by
    refine lookup_insert_ne ?_ v k.entries
    rintro rfl
    exact hother.elim h (by simp)
  order := by
    by_cases hmem : key ∈ k.keys
    · have hkeys : (k.insert key v).keys = k.keys := Json.keys_insert_of_mem hmem v
      simp [hkeys, hmem]
    · have hkeys : (k.insert key v).keys = k.keys ++ [key] := by
        rw [Keyed.keys, Keyed.entries_insert_of_notMem hmem, List.map_append]
        rfl
      simp [hkeys, h, hmem]

/-- One key does what is said of it. -/
theorem applied_single [Time.Zone] {key : String} {v : Value} {c : Change} (h : Asks key v c)
    (s : Record) :
    Applied [(key, v)] s (c.apply s) := by
  cases h with
  | access h =>
      exact ⟨sets_self h, sets_other (by decide), sets_other (by decide), sets_other (by decide),
        notes_field (by decide) _, rfl, rfl, rfl, rfl, rfl, rfl⟩
  | state h =>
      exact ⟨sets_other (by decide), sets_self h, sets_other (by decide), sets_other (by decide),
        notes_field (by decide) _, rfl, rfl, rfl, rfl, rfl, rfl⟩
  | directory h =>
      exact ⟨sets_other (by decide), sets_other (by decide), sets_self h, sets_other (by decide),
        notes_field (by decide) _, rfl, rfl, rfl, rfl, rfl, rfl⟩
  | branch h =>
      exact ⟨sets_other (by decide), sets_other (by decide), sets_other (by decide), sets_self h,
        notes_field (by decide) _, rfl, rfl, rfl, rfl, rfl, rfl⟩
  | noted h =>
      obtain ⟨haccess, hstate, hdirectory, hbranch⟩ := notMem_fieldKeys_iff.1 h
      exact ⟨sets_other haccess.symm, sets_other hstate.symm, sets_other hdirectory.symm,
        sets_other hbranch.symm, notes_insert h v _, rfl, rfl, rfl, rfl, rfl, rfl⟩

-- ===================================================== one key after another

/-- Whatever stands under a key in the second of two updates is all that they have there. -/
theorem lookup_append_of_some (hnew : ∀ key ∈ after.map (·.1), key ∉ before.map (·.1))
    {key : String} {v : Value} (h : after.lookup key = some v) :
    before.lookup key = none ∧ (before ++ after).lookup key = some v := by
  have hnone : before.lookup key = none :=
    lookup_eq_none_iff_notMem.2 (hnew key (List.mem_map_of_mem (mem_of_lookup h)))
  rw [List.lookup_append, hnone, h]
  exact ⟨rfl, rfl⟩

/-- What two lists of updates with different keys set one after the other, both set at once. -/
theorem Sets.append (hnew : ∀ key ∈ after.map (·.1), key ∉ before.map (·.1))
    (h : Sets before key reads old mid) (h' : Sets after key reads mid new) :
    Sets (before ++ after) key reads old new := by
  unfold Sets at h' ⊢
  cases hafter : after.lookup key with
  | none =>
      rw [hafter] at h'
      rw [List.lookup_append, hafter, Option.or_none, show new = mid from h']
      exact h
  | some v =>
      rw [hafter] at h'
      rw [(lookup_append_of_some hnew hafter).2]
      exact h'

/-- So it is with what they note. -/
theorem Notes.append {old mid new : Keyed Value}
    (hnew : ∀ key ∈ after.map (·.1), key ∉ before.map (·.1))
    (h : Notes before old mid) (h' : Notes after mid new) : Notes (before ++ after) old new where
  noted key v hkey hv := by
    rw [List.lookup_append, Option.or_eq_some_iff] at hv
    rcases hv with hv | ⟨-, hv⟩
    · have hnone : after.lookup key = none := by
        rw [lookup_eq_none_iff_notMem]
        exact fun hmem => hnew key hmem (List.mem_map_of_mem (mem_of_lookup hv))
      rw [h'.kept key (.inr hnone)]
      exact h.noted key v hkey hv
    · exact h'.noted key v hkey hv
  kept key hkey := by
    rw [List.lookup_append, Option.or_eq_none_iff] at hkey
    rw [h'.kept key (hkey.imp_right (·.2)), h.kept key (hkey.imp_right (·.1))]
  order := by
    -- a key of the second update is no key of the first, so it is as new as it was in the beginning
    have hfresh : ∀ key ∈ after.map (·.1), (key ∉ mid.keys ↔ key ∉ old.keys) := by
      intro key hmem
      rw [h.order, List.mem_append, List.mem_filter, not_or]
      exact and_iff_left fun hold => hnew key hmem hold.1
    rw [h'.order, h.order, List.map_append, List.filter_append, List.append_assoc]
    congr 2
    refine List.filter_congr fun key hmem => ?_
    rw [← h.order, decide_eq_decide, hfresh key hmem]

/-- Updates of different keys, made one after the other, are one update. -/
theorem Applied.append [Time.Zone] {old mid new : Record}
    (hnew : ∀ key ∈ after.map (·.1), key ∉ before.map (·.1))
    (h : Applied before old mid) (h' : Applied after mid new) :
    Applied (before ++ after) old new where
  lastAccess := h.lastAccess.append hnew h'.lastAccess
  lastState := h.lastState.append hnew h'.lastState
  directory := h.directory.append hnew h'.directory
  branch := h.branch.append hnew h'.branch
  metadata := h.metadata.append hnew h'.metadata
  id := h'.id.trans h.id
  name := h'.name.trans h.name
  project := h'.project.trans h.project
  worktree := h'.worktree.trans h.worktree
  created := h'.created.trans h.created
  environment := h'.environment.trans h.environment

private theorem applied_nil [Time.Zone] (s : Record) : Applied [] s s :=
  ⟨rfl, rfl, rfl, rfl, ⟨nofun, fun _ _ => rfl, by simp⟩, rfl, rfl, rfl, rfl, rfl, rfl⟩

/-- The changes that an update asks for do what is said of it. -/
theorem applied_foldl [Time.Zone] {changes : List Change} (hnodup : (updates.map (·.1)).Nodup)
    (h : readAll updates = .ok changes) (s : Record) :
    Applied updates s (changes.foldl Change.apply s) := by
  induction updates generalizing changes s with
  | nil =>
      cases h
      exact applied_nil s
  | cons e updates ih =>
      rw [readAll, List.mapM_cons] at h
      obtain ⟨c, hread, hrest⟩ := exists_of_bind_eq_ok h
      obtain ⟨others, hothers, hall⟩ := exists_of_bind_eq_ok hrest
      cases hall
      rw [List.map_cons, List.nodup_cons] at hnodup
      have hfirst : Applied [e] s (c.apply s) := applied_single (read_eq_ok_iff.1 hread) s
      refine hfirst.append ?_ (ih hnodup.2 hothers _)
      intro key hmem hkey
      rw [List.map_singleton, List.mem_singleton] at hkey
      exact hnodup.1 (hkey ▸ hmem)

-- ===================================================== the only session

/-- What updates set a field to is settled by them. -/
theorem Sets.unique {new' : α} (hreads : ∀ v a b, reads v a → reads v b → a = b)
    (h : Sets updates key reads old new) (h' : Sets updates key reads old new') : new = new' := by
  unfold Sets at h h'
  cases hv : updates.lookup key with
  | none =>
      rw [hv] at h h'
      exact h.trans h'.symm
  | some v =>
      rw [hv] at h h'
      exact hreads v new new' h h'

/-- So is what they leave of the metadata, down to the order. -/
theorem Notes.unique {old new new' : Keyed Value} (h : Notes updates old new)
    (h' : Notes updates old new') : new = new' := by
  refine Keyed.ext (eq_of_lookup_eq new.distinct (h.order.trans h'.order.symm) fun key => ?_)
  show new.find? key = new'.find? key
  by_cases hkey : key ∈ fieldKeys
  · rw [h.kept key (.inl hkey), h'.kept key (.inl hkey)]
  · cases hv : updates.lookup key with
    | none => rw [h.kept key (.inr hv), h'.kept key (.inr hv)]
    | some v => rw [h.noted key v hkey hv, h'.noted key v hkey hv]

/-- A value is one time of access at most. -/
theorem IsAccess.unique [Time.Zone] (v : Value) (t t' : Stamp) (h : IsAccess v t)
    (h' : IsAccess v t') :
    t = t' := by
  obtain ⟨m, hmoment, hlocal⟩ := h
  obtain ⟨m', hmoment', hlocal'⟩ := h'
  rw [hmoment] at hmoment'
  cases hmoment'
  rw [hlocal] at hlocal'
  exact Option.some.inj hlocal'

/-- And one activity at most. -/
theorem IsState.unique (v : Value) (a b : Activity) (h : IsState v a) (h' : IsState v b) :
    a = b := by
  have hname : a.name = b.name := Option.some.inj (h.symm.trans h')
  have hread := Activity.ofName?_name a
  rw [hname, Activity.ofName?_name] at hread
  exact (Option.some.inj hread).symm

/-- And one text at most. -/
theorem IsText.unique (v : Value) (s t : String) (h : IsText v s) (h' : IsText v t) : s = t :=
  Option.some.inj (h.symm.trans h')

/-- An update can make only one session of another. -/
theorem Applied.unique [Time.Zone] {old new new' : Record} (h : Applied updates old new)
    (h' : Applied updates old new') : new = new' := by
  have haccess := h.lastAccess.unique IsAccess.unique h'.lastAccess
  have hstate := h.lastState.unique IsState.unique h'.lastState
  have hdirectory := h.directory.unique IsText.unique h'.directory
  have hbranch := h.branch.unique IsText.unique h'.branch
  have hmetadata := h.metadata.unique h'.metadata
  obtain ⟨_, _, _, _, _, hid, hname, hproject, hworktree, hcreated, henvironment⟩ := h
  obtain ⟨_, _, _, _, _, hid', hname', hproject', hworktree', hcreated', henvironment'⟩ := h'
  rw [← hid'] at hid
  rw [← hname'] at hname
  rw [← hproject'] at hproject
  rw [← hworktree'] at hworktree
  rw [← hcreated'] at hcreated
  rw [← henvironment'] at henvironment
  cases new
  cases new'
  simp only at *
  simp only [*]

/-- An update that could make some session is read. -/
theorem Applied.exists_readAll [Time.Zone] {old new : Record} (hnodup : (updates.map (·.1)).Nodup)
    (h : Applied updates old new) : ∃ changes, readAll updates = .ok changes := by
  refine exists_readAll_iff.2 fun ⟨key, v⟩ hmem => ?_
  have hv : updates.lookup key = some v := lookup_of_mem hnodup hmem
  have hreads {α : Type} {reads : Value → α → Prop} {old new : α}
      (hsets : Sets updates key reads old new) : reads v new := by
    rwa [Sets, hv] at hsets
  rcases key_cases key with rfl | rfl | rfl | rfl | h'
  · exact ⟨_, .access (hreads h.lastAccess)⟩
  · exact ⟨_, .state (hreads h.lastState)⟩
  · exact ⟨_, .directory (hreads h.directory)⟩
  · exact ⟨_, .branch (hreads h.branch)⟩
  · exact ⟨_, .noted h'⟩

-- ===================================================== the operation

namespace Operation

/-- An operation that fails has trouble with storage exactly if it was not refused. -/
theorem refused_iff (op : Operation) (d : Desk) :
    (∃ f, (op.run d).1 = .error f ∧ f.kind ≠ .storage)
      ↔ ∃ f, op.plan d.machine.now d.registry = .error f := by
  rcases op.run_cases d with ⟨f, hplan, hrun⟩ | ⟨hplan, hrun⟩ | ⟨r, hplan, hsaves, -⟩
  · rw [hplan, hrun]
    exact ⟨fun _ => ⟨f, rfl⟩, fun _ => ⟨f, rfl, kind_of_plan_error hplan⟩⟩
  · rw [hplan, hrun]
    simp
  · rw [hplan]
    constructor
    · rintro ⟨f, hrun, hkind⟩
      have houtcome := hsaves.outcome
      rw [hrun] at houtcome
      exact absurd (kind_of_write houtcome.symm) hkind
    · rintro ⟨f, h⟩
      cases h

/-- An update makes the registry with the one session that can be made, if it can be written. -/
theorem plan_update_iff {key : String} {updates : Keyed Value} {now : Stamp} {r : Registry}
    {r' : Option Registry} :
    (update key updates.entries).plan now r = .ok r' ↔ ∃ s s', r.find? key = some s
      ∧ Applied updates.entries s s' ∧ s'.isWritable ∧ r' = some (r.insert key s') := by
  cases hread : readAll updates.entries with
  | error f =>
      simp only [plan, hread, reduceCtorEq, false_iff]
      rintro ⟨s, s', -, happlied, -⟩
      obtain ⟨changes, h⟩ := happlied.exists_readAll updates.distinct
      rw [hread] at h
      cases h
  | ok changes =>
      cases hfind : r.find? key with
      | none => simp [plan, hread, hfind]
      | some s =>
          have happlied := applied_foldl updates.distinct hread s
          have hwhich : (∃ s₀ s', some s = some s₀ ∧ Applied updates.entries s₀ s' ∧ s'.isWritable
                ∧ r' = some (r.insert key s'))
              ↔ (changes.foldl Change.apply s).isWritable
                ∧ r' = some (r.insert key (changes.foldl Change.apply s)) := by
            constructor
            · rintro ⟨s₀, s', hs, h, hrest⟩
              cases hs
              rwa [h.unique happlied] at hrest
            · exact fun h => ⟨s, _, rfl, happlied, h⟩
          rw [hwhich]
          simp only [plan, hread, hfind]
          cases (changes.foldl Change.apply s).isWritable <;> simp [eq_comm]

/-- An update is refused, and then nothing has changed, or it makes of the session under its key
just what it says. All other sessions are as they were, and all stand where they stood. It is
refused exactly if there is no session under the key that it could make one of which can be
written; an update that is not refused may still fail to write the file. -/
theorem update_applies (key : String) (updates : Keyed Value) (d : Desk) :
    let done := (update key updates.entries).run d
    let isRefused := ∃ f, done.1 = .error f ∧ f.kind ≠ .storage
    (isRefused → done.2 = d)
      ∧ (¬isRefused → ∃ s s', d.registry.find? key = some s ∧ Applied updates.entries s s'
          ∧ done.2.registry.path = d.registry.path
          ∧ done.2.registry.sessions.entries
            = d.registry.sessions.entries.map fun e => if e.1 == key then (key, s') else e)
      ∧ (¬isRefused ↔ ∃ s s', d.registry.find? key = some s ∧ Applied updates.entries s s'
          ∧ s'.isWritable) := by
  intro done isRefused
  have hrefused : isRefused ↔ _ := refused_iff (update key updates.entries) d
  cases hplan : (update key updates.entries).plan d.machine.now d.registry with
  | error f =>
      have hyes : isRefused := hrefused.2 ⟨f, hplan⟩
      have hlaw := run_planned (update key updates.entries) d
      rw [hplan] at hlaw
      refine ⟨fun _ => congrArg Prod.snd hlaw, absurd hyes, iff_of_false (not_not.2 hyes) ?_⟩
      rintro ⟨s, s', hfind, happlied, hwritable⟩
      rw [plan_update_iff.2 ⟨s, s', hfind, happlied, hwritable, rfl⟩] at hplan
      cases hplan
  | ok r' =>
      have hno : ¬isRefused := by
        rw [hrefused]
        rintro ⟨f, herror⟩
        rw [hplan] at herror
        cases herror
      obtain ⟨s, s', hfind, happlied, hwritable, rfl⟩ := plan_update_iff.1 hplan
      have hregistry : done.2.registry = d.registry.insert key s' := by
        show ((update key updates.entries).run d).2.registry = _
        rw [registry_run, effect, hplan]
      have hmem : key ∈ d.registry.sessions.entries.map (·.1) :=
        List.mem_map_of_mem (mem_entries_of_find? hfind)
      refine ⟨fun hyes => absurd hyes hno, fun _ => ⟨s, s', hfind, happlied, ?_, ?_⟩,
        iff_of_true hno ⟨s, s', hfind, happlied, hwritable⟩⟩
      · rw [hregistry]
        rfl
      · rw [hregistry]
        exact insert_eq_map d.registry.sessions.distinct hmem s'

/-- An ID that is given is noted in the metadata, and the session keeps its own. -/
example :
    let d := { emptyDesk with registry := emptyDesk.registry.insert "s" sampleSession }
    let done := (update "s" [("id", .text "t"), ("branch", .text "main")]).run d
    (done.2.registry.find? "s").map (fun s => (s.id, s.branch, s.metadata.keys))
      = some ("s", "main", ["id"]) := by
  decide +kernel

end Operation

end PaneWatch.Registry
