/-
What loading promises about a file with corrupt content, and when it breaks that.

A file that cannot be turned into sessions is copied aside, and the registry starts
empty. The promise covers every content except one that ends the reading with an
accident: those pass through as failures, since only the errors that a reader
announces count as corruption (`load_promise_iff`). Whatever happens, the
file itself is as it was.
-/
import PaneWatch.Proofs.Disk.Place
import PaneWatch.Proofs.Registry.Content
import PaneWatch.Proofs.Registry.Loading

namespace PaneWatch.Registry

open Disk (SameFiles)

/-- That bytes are copied aside if that can be done. -/
structure IsBackedUp (path : Path) (bytes : List UInt8) (m m' : Machine) : Prop where
  /-- If the copy can be written it is there, and no other file has changed. -/
  copied : ∀ disk, m.disk.writeBackup (backupPath path m.now) bytes = .ok disk →
    m'.disk.bytesAt? (backupPath path m.now).place = some bytes
      ∧ ∀ place, place ≠ (backupPath path m.now).place →
        m'.disk.bytesAt? place = m.disk.bytesAt? place
  /-- Otherwise nothing has changed. -/
  kept : ∀ t, m.disk.writeBackup (backupPath path m.now) bytes = .error t →
    SameFiles m.disk m'.disk

/-- What loading promises of a file with some bytes: it gives a registry and leaves the file
as it was. Content without sessions gives none, a mapping of sessions gives these, and any
other content gives none and is copied aside. -/
def KeepsPromise (path : Path) (m : Machine) (bytes : List UInt8) : Prop :=
  ∃ r m', load path m = (.ok r, m') ∧ m'.disk.bytesAt? path.place = some bytes
    ∧ (HoldsNothing bytes ∧ r.sessions = {} ∧ SameFiles m.disk m'.disk
      ∨ HoldsSessions m.now bytes r.sessions ∧ SameFiles m.disk m'.disk
      ∨ ¬HoldsNothing bytes ∧ (∀ sessions, ¬HoldsSessions m.now bytes sessions)
        ∧ r.sessions = {} ∧ IsBackedUp path bytes m m')

/-- A backup adds six characters to a name, and more. -/
theorem length_backupTail (now : Time.Stamp) : 6 ≤ (".backup." ++ now.compactText).length := by
  rw [String.length_append, show ".backup.".length = 8 by decide]
  omega

/-- A backup does not stand in the place of what it is one of. -/
theorem backupPath_place_ne (path : Path) (now : Time.Stamp) :
    (backupPath path now).place ≠ path.place := path.place_extend_ne (length_backupTail now)

variable {path : Path} {m : Machine} {bytes : List UInt8}

/-- What was loaded is nothing, or the sessions that the file holds. -/
theorem load_sessions_cases {m' : Machine} {r : Registry} (h : load path m = (.ok r, m')) :
    r.sessions = {} ∨ ∃ bytes, m.disk.readFile path = .ok bytes
      ∧ HoldsSessions m.now bytes r.sessions := by
  rcases load_cases h with rfl | ⟨bytes, sessions, hread, hdecode, rfl⟩
  · exact .inl rfl
  · exact (holds_of_decode hdecode).imp_right fun hholds => ⟨bytes, hread, hholds⟩

/-- The copy of corrupt content leaves the file as it was. -/
theorem backedUp_spec (h : m.disk.readFile path = .ok bytes) (why : Corruption) :
    (backedUp path bytes why m).disk.bytesAt? path.place = some bytes
      ∧ IsBackedUp path bytes m (backedUp path bytes why m) := by
  have hat := (Disk.readFile_ok h).2
  have hne := backupPath_place_ne path m.now
  unfold backedUp
  cases hwrite : m.disk.writeBackup (backupPath path m.now) bytes with
  | error t =>
      refine ⟨hat, ?_, fun _ _ => SameFiles.refl _⟩
      rintro disk hok
      rw [hwrite] at hok
      cases hok
  | ok disk =>
      obtain ⟨hcopy, hother⟩ := Disk.writeBackup_ok hwrite
      refine ⟨(hother _ hne.symm).trans hat, fun _ _ => ⟨hcopy, hother⟩, ?_⟩
      rintro t herror
      rw [hwrite] at herror
      cases herror

/-- Loading keeps its promise about a file that can be read exactly if the reading does not
end with an accident. If it does, loading fails with that accident and changes nothing. -/
theorem load_promise_iff (hread : m.disk.readFile path = .ok bytes) :
    (KeepsPromise path m bytes ↔ ∀ what, ¬HoldsAccident m.now bytes what)
      ∧ ∀ what, HoldsAccident m.now bytes what → load path m = (.error (.accident what), m) := by
  obtain ⟨hthere, hat⟩ := Disk.readFile_ok hread
  have hfails : ∀ what, HoldsAccident m.now bytes what →
      load path m = (.error (.accident what), m) := by
    intro what h
    exact load_accident hthere hread (decode_of_holdsAccident h)
  refine ⟨⟨?_, ?_⟩, hfails⟩
  · rintro ⟨r, m', hload, -⟩ what h
    rw [hfails what h] at hload
    cases (Prod.mk.inj hload).1
  · intro hnone
    rcases holds_cases m.now bytes with hempty | ⟨sessions, hsessions⟩ | ⟨what, h⟩ | ⟨why, hcorrupt⟩
    · rcases decode_of_holdsNothing m.now hempty with hdecode | hdecode
      · exact ⟨_, _, load_blank hthere hread hdecode, hat, .inl ⟨hempty, rfl, SameFiles.refl _⟩⟩
      · exact ⟨_, _, load_sessions hthere hread hdecode, hat,
          .inl ⟨hempty, rfl, SameFiles.refl _⟩⟩
    · have hdecode := decode_of_holdsSessions hsessions
      exact ⟨_, _, load_sessions hthere hread hdecode, hat,
        .inr (.inl ⟨hsessions, SameFiles.refl _⟩)⟩
    · exact absurd h (hnone what)
    · obtain ⟨hkept, hbacked⟩ := backedUp_spec hread why
      refine ⟨_, _, load_corrupt hthere hread hcorrupt, hkept,
        .inr (.inr ⟨?_, ?_, rfl, hbacked⟩)⟩
      · intro hempty
        rcases decode_of_holdsNothing m.now hempty with hdecode | hdecode
        · rw [hcorrupt] at hdecode
          cases hdecode
        · rw [hcorrupt] at hdecode
          cases hdecode
      · intro sessions hsessions
        rw [decode_of_holdsSessions hsessions] at hcorrupt
        cases hcorrupt

-- ===================================================== cases

/-- A machine whose only file holds a text. -/
def fileOf (text : String) : Machine where
  disk := { entries := [(["s.yaml"], .file text.toUTF8.toList)] }
  now := Time.Stamp.midnight ⟨2024, 6, 15⟩

/-- The path of that file. -/
def sampleFile : Path := { parts := ["s.yaml"] }

theorem readFile_fileOf (text : String) :
    (fileOf text).disk.readFile sampleFile = .ok text.toUTF8.toList := rfl

/-- What can be computed of the registry of a file with a text is true of what loading gives. -/
theorem load_fileOf (text : String) {p : Registry → Bool}
    (h : (load sampleFile (fileOf text)).1.toOption.any p) :
    ∃ r, load sampleFile (fileOf text) = (.ok r, (load sampleFile (fileOf text)).2) ∧ p r := by
  rcases hload : load sampleFile (fileOf text) with ⟨f | r, m'⟩
  · rw [hload] at h
    cases h
  · rw [hload] at h
    exact ⟨r, rfl, h⟩

/-- A list where a mapping should be is copied aside. -/
theorem load_promise_of_list : KeepsPromise sampleFile (fileOf "- s") "- s".toUTF8.toList := by
  refine (load_promise_iff (readFile_fileOf "- s")).1.2 ?_
  intro what h
  have hcorrupt : (decode (fileOf "- s").now "- s".toUTF8.toList).isOk = true := by
    decide +kernel
  rw [decode_of_holdsAccident h] at hcorrupt
  cases hcorrupt

/-- The accident that the reading of a text ended with. -/
def accident? : Except Yaml.Failure Value → Option Accident
  | .error (.accident what) => some what
  | _ => none

theorem eq_error_of_accident? {outcome : Except Yaml.Failure Value} {what : Accident}
    (h : accident? outcome = some what) : outcome = .error (.accident what) := by
  unfold accident? at h
  split at h
  · cases h
    rfl
  · cases h

/-- A session that was created on a day which the calendar does not have. -/
def impossibleDay : String := "s:\n  id: s\n  created: 2024-02-30\n"

/-- A day that the calendar does not have makes loading fail, and nothing is copied aside. -/
theorem impossibleDay_breaks_promise :
    ¬KeepsPromise sampleFile (fileOf impossibleDay) impossibleDay.toUTF8.toList
      ∧ load sampleFile (fileOf impossibleDay)
        = (.error (.accident .noSuchValue), fileOf impossibleDay) := by
  have htext : HoldsText impossibleDay.toUTF8.toList impossibleDay :=
    ⟨by decide +kernel, by decide +kernel⟩
  have hload : Yaml.load impossibleDay = .error (.accident .noSuchValue) :=
    eq_error_of_accident? (by decide +kernel)
  have hread := readFile_fileOf impossibleDay
  have hfails := load_accident (Disk.readFile_ok hread).1 hread
    (decode_of_holdsAccident (.scalar htext hload))
  refine ⟨?_, hfails⟩
  rintro ⟨r, m', hok, -⟩
  rw [hfails] at hok
  cases (Prod.mk.inj hok).1

end PaneWatch.Registry
