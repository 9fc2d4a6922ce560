/-
A file gives back what memory held when it was written.

The sessions go through the same encoder one by one and in order, so what has to be
known is that each is read back from its tree (`Record.check_toJson`), that no two come
under one key, and that the text of the whole is not blank, since blank files are not
read at all. Whether the text is read back as the tree that it was printed from is
asked of each tree (`Yaml.ReadsBack`).
-/
import PaneWatch.Proofs.Registry.Content
import PaneWatch.Proofs.Registry.Reconcile
import PaneWatch.Proofs.Session.ReadBack
import PaneWatch.Proofs.Text.Utf8
import PaneWatch.Proofs.Yaml.Pen
import PaneWatch.Proofs.Yaml.ReadBack

namespace PaneWatch.Registry

open Session (Record)
open Time (Stamp)

-- ===================================================== content

/-- The bytes of a printed mapping hold its text. -/
theorem holdsText_print (members : List (String × Json)) :
    HoldsText (Yaml.print members).toUTF8.toList (Yaml.print members) := by
  refine ⟨?_, Text.utf8?_toUTF8 _⟩
  obtain ⟨c, hc, hmem⟩ := Yaml.mark_mem_print members
  have hsize : c.utf8Size = 1 ∧ Text.isByteBlank c.val.toUInt8 = false := by
    simp only [List.mem_cons, List.not_mem_nil, or_false] at hc
    rcases hc with rfl | rfl <;> decide
  rw [List.all_eq_false]
  refine ⟨_, Text.mem_toUTF8 hmem hsize.1, ?_⟩
  rw [hsize.2]
  exact Bool.false_ne_true

/-- The member that a session under a key becomes. -/
def memberOf (e : String × Record) : Except Value.Unwritable (String × Json) :=
  return (e.1, ← e.2.toJson)

theorem mapM_memberOf_cons {e : String × Record} {rest : List (String × Record)}
    {members : List (String × Json)} (h : (e :: rest).mapM memberOf = .ok members) :
    ∃ j others, e.2.toJson = .ok j ∧ rest.mapM memberOf = .ok others
      ∧ members = (e.1, j) :: others := by
  rw [List.mapM_cons] at h
  obtain ⟨member, hmember, hrest⟩ := exists_of_bind_eq_ok h
  obtain ⟨others, hothers, hmembers⟩ := exists_of_bind_eq_ok hrest
  obtain ⟨j, hj, hpair⟩ := exists_of_bind_eq_ok hmember
  cases hmembers
  cases hpair
  exact ⟨j, others, hj, hothers, rfl⟩

/-- Members are read back as sessions under the same keys that become the same members. -/
theorem entries_of_members [Time.Zone] (now : Stamp) {entries : List (String × Record)}
    {members : List (String × Json)} (h : entries.mapM memberOf = .ok members) :
    ∃ named, List.Forall₂ (IsEntry now) (Value.ofMembers members) named
      ∧ named.map (·.1) = entries.map (·.1) ∧ named.mapM memberOf = .ok members := by
  induction entries generalizing members with
  | nil =>
      cases h
      exact ⟨[], .nil, rfl, rfl⟩
  | cons e rest ih =>
      obtain ⟨j, others, hj, hothers, rfl⟩ := mapM_memberOf_cons h
      obtain ⟨s, hcheck, hsame⟩ := Record.check_toJson now hj
      obtain ⟨named, hall, hkeys, hagain⟩ := ih hothers
      refine ⟨(e.1, s) :: named, .cons ⟨rfl, hcheck⟩ hall, by simp [hkeys], ?_⟩
      rw [List.mapM_cons, hagain, memberOf, hsame]
      rfl

/-- That the tree of all sessions is read back from its text, if there is one. -/
def ReadsBack (r : Registry) : Prop :=
  ∀ members, r.toMembers = .ok members → Yaml.ReadsBack members

/-- That two registries are the same in all that files and answers show: the keys in
their order, and the plain tree of each session, which all of them have. -/
def Shows (r r' : Registry) : Prop :=
  r'.sessions.keys = r.sessions.keys
    ∧ ∃ members, r.toMembers = .ok members ∧ r'.toMembers = .ok members

/-- What a registry is written as is read back as the same registry, as far as it shows. -/
theorem decode_of_encode [Time.Zone] (now : Stamp) {r : Registry} {bytes : List UInt8}
    (h : r.encode = .ok bytes) (hback : r.ReadsBack) :
    ∃ sessions, decode now bytes = .ok (.sessions sessions) ∧ r.Shows { r with sessions } := by
  obtain ⟨members, hmembers, hbytes⟩ := exists_of_bind_eq_ok h
  have hentries : r.sessions.entries.mapM memberOf = .ok members := hmembers
  obtain ⟨named, hall, hkeys, hagain⟩ := entries_of_members now hentries
  have hput : (named.foldl put {}).entries = named :=
    Keyed.entries_foldl_insert {} named (by
      rw [List.nil_append, hkeys]
      exact r.sessions.distinct)
  have hprint : bytes = (Yaml.print members).toUTF8.toList := by
    split at hbytes
    · cases hbytes
      rfl
    · cases hbytes
  have hholds : HoldsSessions now bytes (named.foldl put {}) :=
    ⟨_, _, named, hprint ▸ holdsText_print members, hback members hmembers, hall, rfl⟩
  refine ⟨_, decode_of_holdsSessions hholds, ?_, members, hmembers, ?_⟩
  · rw [Keyed.keys, hput, hkeys]
    rfl
  · show (named.foldl put {}).entries.mapM memberOf = _
    rw [hput, hagain]

-- ===================================================== runs

/-- In every run from a loaded registry, whatever happens to the disk between the operations:
right after an operation that wrote, its file gives back what memory shows, to whoever can
read it and at whatever time. Nothing is lost, doubled, moved or changed. -/
theorem reload_shows {path : Path} {m m' : Machine} {r : Registry}
    (hload : load path m = (.ok r, m')) (events : List Event) (e : Event) :
    let done := e.op.run (e.find (Event.playAll ⟨r, m'⟩ events))
    done.1 = .ok .wrote → done.2.registry.ReadsBack →
      ∀ later : Machine, later.disk.bytesAt? path.place = done.2.machine.disk.bytesAt? path.place →
        later.disk.check .readContent = .ok () →
          ∃ r' later', load path later = (.ok r', later') ∧ done.2.registry.Shows r' := by
  intro done hwrote hback later hfile hread
  have hpath : (Event.playAll ⟨r, m'⟩ events).registry.path = path :=
    (Event.path_playAll ⟨r, m'⟩ events).trans (load_path hload)
  obtain ⟨bytes, hbytes, hat, -⟩ := Operation.run_wrote hwrote
  have hthere : later.disk.readFile path = .ok bytes := by
    refine Disk.readFile_of_bytesAt? ?_ hread
    rw [hfile, ← hpath]
    exact hat
  obtain ⟨sessions, hdecode, hshows⟩ := decode_of_encode later.now hbytes hback
  exact ⟨_, _, load_sessions (Disk.readFile_ok hthere).1 hthere hdecode, hshows⟩

-- ===================================================== a case

instance (r : Registry) : Decidable r.ReadsBack :=
  match h : r.toMembers with
  | .error why => isTrue fun members hmembers => by
      rw [h] at hmembers
      cases hmembers
  | .ok members => decidable_of_iff (Yaml.ReadsBack members) (by simp [ReadsBack, h])

/-- The desk after a session was added whose write failed, and written again. -/
def caughtUp : Except Failure Ending × Desk :=
  saveAfterFault.op.run (saveAfterFault.find (Event.playAll emptyDesk [addUnderFault]))

theorem readsBack_caughtUp : caughtUp.2.registry.ReadsBack := by decide +kernel

/-- A session whose first write failed is given back by the file once the second has not. -/
theorem reload_shows_sample :
    ∃ r later, load emptyDesk.registry.path { caughtUp.2.machine with now := Time.Stamp.first }
        = (.ok r, later) ∧ r.sessions.keys = ["s"] := by
  have hload : load emptyDesk.registry.path emptyDesk.machine
      = (.ok emptyDesk.registry, emptyDesk.machine) := rfl
  obtain ⟨r, later, hreload, hkeys, -⟩ :=
    reload_shows hload [addUnderFault] saveAfterFault saveAfterFault_wrote readsBack_caughtUp
      { caughtUp.2.machine with now := Time.Stamp.first } rfl rfl
  refine ⟨r, later, hreload, hkeys.trans ?_⟩
  rfl

end PaneWatch.Registry
