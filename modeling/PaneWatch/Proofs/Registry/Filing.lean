/-
Whether sessions stand under their own IDs.

A session that is added stands under its own ID, and changes keep the ID, so a run cannot
bring a session under another key (`lasts_own`). A file can: its keys are taken as they
are, whatever IDs the entries have, and two keys with the same text are one. The
registry is in order in all runs exactly if the file was (`stays_filed_iff`).
-/
import PaneWatch.Proofs.Registry.Corrupt
import PaneWatch.Proofs.Registry.Entries
import PaneWatch.Proofs.Registry.Reconcile
import PaneWatch.Proofs.Text.Utf8
import PaneWatch.Proofs.Yaml.ReadBack

namespace PaneWatch

-- ===================================================== counting

namespace Keyed

variable {α : Type}

/-- A key that is there already adds nothing to the size. -/
private theorem size_insert_of_mem {k : Keyed α} {key : String} (h : key ∈ k.keys) (a : α) :
    (k.insert key a).size = k.size := by
  have hkeys := congrArg List.length (Json.keys_insert_of_mem h a)
  rwa [List.length_map, List.length_map] at hkeys

/-- A new key adds one. -/
private theorem size_insert_of_notMem {k : Keyed α} {key : String} (h : key ∉ k.keys) (a : α) :
    (k.insert key a).size = k.size + 1 := by
  rw [size, entries_insert_of_notMem h, List.length_append, List.length_singleton, size]

/-- Entries add as many as they are at most. -/
private theorem size_foldl_insert_le (k : Keyed α) (es : List (String × α)) :
    (es.foldl (fun k e => k.insert e.1 e.2) k).size ≤ k.size + es.length := by
  induction es generalizing k with
  | nil => exact Nat.le_refl _
  | cons e es ih =>
      have hrest := ih (k.insert e.1 e.2)
      rw [List.foldl_cons, List.length_cons]
      by_cases hkey : e.1 ∈ k.keys
      · rw [size_insert_of_mem hkey] at hrest
        omega
      · rw [size_insert_of_notMem hkey] at hrest
        omega

/-- Entries that are put in one by one are all there only if no two have one key. -/
theorem nodup_of_size_foldl_insert {k : Keyed α} {es : List (String × α)}
    (h : (es.foldl (fun k e => k.insert e.1 e.2) k).size = k.size + es.length) :
    ((k.entries ++ es).map (·.1)).Nodup := by
  induction es generalizing k with
  | nil =>
      rw [List.append_nil]
      exact k.distinct
  | cons e es ih =>
      rw [List.foldl_cons, List.length_cons] at h
      by_cases hkey : e.1 ∈ k.keys
      · have hle := size_foldl_insert_le (k.insert e.1 e.2) es
        rw [size_insert_of_mem hkey] at hle
        omega
      · have hrest := ih (k := k.insert e.1 e.2) (by rw [h, size_insert_of_notMem hkey]; omega)
        rw [entries_insert_of_notMem hkey] at hrest
        simpa using hrest

end Keyed

namespace Registry

open Session (Record)
open Time (Stamp)

-- ===================================================== registries in order

/-- That every session stands under its own ID. -/
def IsOwn (e : String × Record) : Prop := e.2.id = e.1

/-- That a registry is in order: every session stands under its own ID, no two have one ID, and
whoever asks for the ID of a session gets that session. -/
structure IsFiled (r : Registry) : Prop where
  own : ∀ e ∈ r.sessions.entries, IsOwn e
  distinct : (r.list.map (·.id)).Nodup
  found : ∀ s ∈ r.list, ∀ d : Desk, d.registry = r → (get s.id).on d = (.ok s, d)

/-- Sessions under their own IDs put the whole registry in order, as no two share a key. -/
theorem isFiled_iff {r : Registry} : r.IsFiled ↔ ∀ e ∈ r.sessions.entries, IsOwn e := by
  refine ⟨IsFiled.own, fun h => ⟨h, ?_, ?_⟩⟩
  · have hids : r.list.map (·.id) = r.sessions.keys := by
      show (r.sessions.entries.map (·.2)).map (·.id) = r.sessions.entries.map (·.1)
      rw [List.map_map]
      exact List.map_congr_left h
    rw [hids]
    exact r.sessions.distinct
  · rintro s hs d rfl
    obtain ⟨e, he, rfl⟩ := List.mem_map.1 hs
    have hfind : d.registry.find? e.2.id = some e.2 :=
      lookup_of_mem d.registry.sessions.distinct (h e he ▸ he)
    rw [Operation.on_get, hfind]
    rfl

/-- That sessions are filed under their own names lasts. -/
private theorem lasts_own : Lasts IsOwn where
  added _ _ := rfl
  changed _ _ _ hold hid _ := hid.trans hold

/-- A run keeps a registry in order. -/
theorem isFiled_playAll {d : Desk} (h : d.registry.IsFiled) (events : List Event) :
    (Event.playAll d events).registry.IsFiled :=
  isFiled_iff.2 (lasts_own.playAll d events h.own)

-- ===================================================== files in order

/-- What the entries of a file become holds all of them exactly if no two keys have one text. -/
theorem size_foldl_put (named : List (String × Record)) :
    (named.foldl put {}).size = named.length ↔ (named.map (·.1)).Nodup := by
  constructor
  · intro h
    simpa using Keyed.nodup_of_size_foldl_insert (k := {}) (h.trans (Nat.zero_add _).symm)
  · intro h
    have hentries := Keyed.entries_foldl_insert {} named (by simpa using h)
    exact congrArg List.length hentries

/-- All runs from a loaded registry leave it in order, whatever happens to the disk between the
operations, exactly if the sessions were loaded under their own IDs. A file that is a mapping
of sessions is loaded whole exactly if no two of its keys have one text; it is loaded whole and
all runs leave it in order exactly if, besides that, each key is the ID of its entry. -/
theorem stays_filed_iff {path : Path} {m m' : Machine} {r : Registry}
    (hload : load path m = (.ok r, m')) :
    ((∀ events, (Event.playAll ⟨r, m'⟩ events).registry.IsFiled)
        ↔ ∀ e ∈ r.sessions.entries, IsOwn e)
      ∧ ∀ {bytes text entries named}, m.disk.readFile path = .ok bytes → HoldsText bytes text →
          Yaml.load text = .ok (.map entries) → List.Forall₂ (IsEntry m.now) entries named →
            (r.size = entries.length ↔ (named.map (·.1)).Nodup)
              ∧ ((r.size = entries.length
                    ∧ ∀ events, (Event.playAll ⟨r, m'⟩ events).registry.IsFiled)
                  ↔ (named.map (·.1)).Nodup ∧ ∀ e ∈ named, IsOwn e) := by
  have hruns : (∀ events, (Event.playAll ⟨r, m'⟩ events).registry.IsFiled)
      ↔ ∀ e ∈ r.sessions.entries, IsOwn e :=
    ⟨fun h => (h []).own, fun h => isFiled_playAll (isFiled_iff.2 h)⟩
  refine ⟨hruns, ?_⟩
  intro bytes text entries named hread htext hyaml hall
  have hsessions : r.sessions = named.foldl put {} := by
    have hdecode := decode_of_holdsSessions ⟨text, entries, named, htext, hyaml, hall, rfl⟩
    rw [load_sessions (Disk.readFile_ok hread).1 hread hdecode] at hload
    cases (Prod.mk.inj hload).1
    rfl
  have hsize : r.size = entries.length ↔ (named.map (·.1)).Nodup := by
    rw [size, hsessions, hall.length_eq]
    exact size_foldl_put named
  refine ⟨hsize, ?_⟩
  rw [hsize, hruns]
  refine and_congr_right fun hnodup => ?_
  have hentries : r.sessions.entries = named := by
    rw [hsessions]
    exact Keyed.entries_foldl_insert {} named (by simpa using hnodup)
  rw [hentries]

-- ===================================================== cases

/-- A file of two sessions that is in order. -/
def orderlyFile : String := "s:\n  id: s\nt:\n  id: t\n"

/-- A file of three sessions, one under a key that is not its ID, and two under keys that are
different values with the same text. -/
def disorderlyFile : String := "a:\n  id: b\n~:\n  id: c\nNone:\n  id: None\n"

/-- A text that is not blank is held by the file of its bytes. -/
private theorem holdsText_fileOf {text : String}
    (h : text.toUTF8.toList.all Text.isByteBlank = false) :
    HoldsText text.toUTF8.toList text := ⟨h, Text.utf8?_toUTF8 text⟩

theorem stays_filed_orderlyFile : ∃ r m', load sampleFile (fileOf orderlyFile) = (.ok r, m')
    ∧ r.size = 2 ∧ ∀ events, (Event.playAll ⟨r, m'⟩ events).registry.IsFiled := by
  obtain ⟨r, hload, -⟩ := load_fileOf orderlyFile (p := fun _ => true)
    (by decide +kernel)
  have hyaml : Yaml.load orderlyFile = .ok (.map (Value.ofMembers
      [("s", .object [("id", .text "s")]), ("t", .object [("id", .text "t")])])) :=
    (Yaml.gives_iff _ _).1 (by decide +kernel)
  have hall : List.Forall₂ (IsEntry (fileOf orderlyFile).now) (Value.ofMembers
      [("s", .object [("id", .text "s")]), ("t", .object [("id", .text "t")])])
      [("s", sampleSession), ("t", { sampleSession with id := "t" })] :=
    .cons ⟨rfl, rfl⟩ (.cons ⟨rfl, rfl⟩ .nil)
  obtain ⟨hsize, hfiled⟩ := ((stays_filed_iff hload).2 (readFile_fileOf _)
    (holdsText_fileOf (by decide +kernel)) hyaml hall).2.2
      ⟨by decide, by simp [IsOwn, sampleSession]⟩
  exact ⟨r, _, hload, hsize, hfiled⟩

/-- The entries of the mapping that a reading gave. -/
def entries? : Except Yaml.Failure Value → Option (List (Value × Value))
  | .ok (.map entries) => some entries
  | _ => none

private theorem eq_ok_of_entries? {outcome : Except Yaml.Failure Value}
    {entries : List (Value × Value)}
    (h : entries? outcome = some entries) : outcome = .ok (.map entries) := by
  unfold entries? at h
  split at h
  · cases h
    rfl
  · cases h

/-- A session under a key that is not its ID is listed, but nobody finds it by its ID; and of two
sessions under keys with the same text only one is there. -/
theorem disorderlyFile_loses_sessions : ∃ r m' entries,
    load sampleFile (fileOf disorderlyFile) = (.ok r, m')
      ∧ Yaml.load disorderlyFile = .ok (.map entries) ∧ entries.length = 3 ∧ r.size = 2
      ∧ "b" ∈ r.list.map (·.id)
      ∧ (get "b").on ⟨r, m'⟩ = (.error (.unknownSession "b"), ⟨r, m'⟩)
      ∧ ¬r.IsFiled := by
  obtain ⟨r, hload, hr⟩ := load_fileOf disorderlyFile
    (p := fun r => decide (r.sessions.keys = ["a", "None"] ∧ r.list.map (·.id) = ["b", "None"]))
    (by decide +kernel)
  obtain ⟨hkeys, hids⟩ := of_decide_eq_true hr
  have hentries : (entries? (Yaml.load disorderlyFile)).any (·.length == 3) := by decide +kernel
  obtain ⟨entries, hyaml, hlength⟩ := (Option.any_eq_true _ _).1 hentries
  have hlisted : "b" ∈ r.list.map (·.id) := by simp [hids]
  have hfind : r.find? "b" = none := by
    refine List.lookup_eq_none_iff.2 fun e he => ?_
    have hkey : e.1 ∈ ["a", "None"] := hkeys ▸ List.mem_map_of_mem he
    rcases List.mem_pair.1 hkey with h | h <;> simp [h]
  have hget : (get "b").on ⟨r, (load sampleFile (fileOf disorderlyFile)).2⟩
      = (.error (.unknownSession "b"), ⟨r, (load sampleFile (fileOf disorderlyFile)).2⟩) := by
    rw [Operation.on_get, hfind]
    rfl
  refine ⟨r, _, entries, hload, eq_ok_of_entries? hyaml, by simpa using hlength, ?_, hlisted,
    hget, ?_⟩
  · have hlength := congrArg List.length hkeys
    rwa [Keyed.keys, List.length_map] at hlength
  · intro hfiled
    obtain ⟨s, hs, hid⟩ := List.mem_map.1 hlisted
    have hfound := hfiled.found s hs ⟨r, (load sampleFile (fileOf disorderlyFile)).2⟩ rfl
    rw [hid, hget] at hfound
    cases hfound

end Registry

end PaneWatch
