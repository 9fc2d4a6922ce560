/-
What loading promises about the file of settings, and when it breaks that.

Content that is no mapping of valid settings is damaged, and so is content that cannot even be
read as a text or as a document. For all of these loading is to answer the defaults
(`Keeper.Answers`). It does unless the reading ends with an accident: bytes that are no text, and
scalars that spell no value of their kind, leave the kinds of errors that loading expects
(`load_answers_iff`). The accident then gets through to whoever starts the service.
-/
import PaneWatch.Proofs.Registry.Corrupt
import PaneWatch.Service

namespace PaneWatch.Settings.Keeper

-- ===================================================== what bytes hold

/-- That bytes hold a text. Every way to end a line counts as one line feed. -/
def HoldsText (bytes : List UInt8) (text : String) : Prop :=
  ∃ raw, Value.utf8? bytes = some raw ∧ text = String.ofList (unifyLines raw.toList)

/-- That bytes hold a mapping whose fields, the old ones moved, are valid settings. -/
def HoldsSettings [Check.Bounding] (bytes : List UInt8) (s : Settings) : Prop :=
  ∃ text entries, HoldsText bytes text ∧ Yaml.load text = .ok (.map entries)
    ∧ Settings.check (.map (Legacy.migrate entries).1) = .valid s

/-- That the content of a file is damaged. -/
inductive IsDamaged [Check.Bounding] (bytes : List UInt8) : Prop where
  | undecodable (h : Value.utf8? bytes = none)
  | unreadable {text : String} {why : Yaml.Failure} (htext : HoldsText bytes text)
    (hload : Yaml.load text = .error why)
  | notMapping {text : String} {v : Value} (htext : HoldsText bytes text)
    (hload : Yaml.load text = .ok v) (hv : ∀ entries, v ≠ .map entries)
  | invalid {text : String} {entries : Legacy.Entries} {faults : List Fault}
    (htext : HoldsText bytes text) (hload : Yaml.load text = .ok (.map entries))
    (hcheck : Settings.check (.map (Legacy.migrate entries).1) = .invalid faults)

/-- That the reading of bytes ends with an accident: they are no text, or a scalar spells no
value of its kind. -/
inductive HoldsAccident (bytes : List UInt8) : Accident → Prop where
  | undecodable (h : Value.utf8? bytes = none) : HoldsAccident bytes .undecodable
  | scalar {text : String} {what : Accident} (htext : HoldsText bytes text)
    (hload : Yaml.load text = .error (.accident what)) : HoldsAccident bytes what

-- ===================================================== what reading comes to

/-- What a reading comes to for whoever asked for settings: a refusal stands for the defaults. -/
def Reading.outcome : Reading → Except Accident Settings
  | settings s _ => .ok s
  | refused .. => .ok {}
  | accident what => .error what

/-- A mapping has its entries at the top. -/
theorem topLevel?_map (entries : Legacy.Entries) : topLevel? (.map entries) = some entries := by
  cases entries <;> rfl

/-- What is no mapping has no top level, or it is empty and has an empty one. -/
theorem topLevel?_of_ne_map {v : Value} (h : ∀ entries, v ≠ .map entries) :
    topLevel? v = none ∨ topLevel? v = some [] := by
  unfold topLevel?
  split
  · split
    · next hpresent => exact absurd rfl (h _)
    · exact .inl rfl
  · exact .inr rfl

/-- What is no mapping is answered with the defaults. -/
private theorem outcome_ofValue_of_ne_map [Check.Bounding] {v : Value}
    (h : ∀ entries, v ≠ .map entries) :
    (ofValue v).outcome = .ok {} := by
  rcases topLevel?_of_ne_map h with hnone | hempty
  · rw [ofValue, hnone]
    rfl
  · rw [ofValue, hempty]
    rfl

/-- A mapping is migrated and checked, and answered with the defaults if the check fails. -/
theorem outcome_ofValue_map [Check.Bounding] (entries : Legacy.Entries) :
    (ofValue (.map entries)).outcome
      = match Settings.check (.map (Legacy.migrate entries).1) with
        | .valid s => .ok s
        | .invalid _ => .ok {} := by
  rw [ofValue, topLevel?_map]
  dsimp only
  cases Settings.check (.map (Legacy.migrate entries).1) <;> rfl

variable {bytes : List UInt8}

/-- A file that holds text is read as this text is. -/
theorem ofBytes_of_holdsText [Check.Bounding] {text : String} (h : HoldsText bytes text) :
    ofBytes bytes = match Yaml.load text with
      | .ok v => ofValue v
      | .error .malformed => .refused .unreadable []
      | .error (.accident what) => .accident what := by
  obtain ⟨raw, hraw, rfl⟩ := h
  unfold ofBytes
  split
  · next hnone =>
    rw [hraw] at hnone
    cases hnone
  · next text htext =>
    rw [hraw] at htext
    cases htext
    rfl

/-- A file that holds an accident is not read at all. -/
theorem ofBytes_of_holdsAccident [Check.Bounding] {what : Accident} (h : HoldsAccident bytes what) :
    ofBytes bytes = .accident what := by
  cases h with
  | undecodable hnone => rw [ofBytes, hnone]
  | scalar htext hload => rw [ofBytes_of_holdsText htext, hload]

/-- Without an accident, bytes give the defaults if they are damaged, and else what they hold. -/
theorem ofBytes_cases [Check.Bounding] (bytes : List UInt8) :
    (∃ what, HoldsAccident bytes what)
      ∨ ∃ s, (ofBytes bytes).outcome = .ok s
        ∧ (IsDamaged bytes ∧ s = {} ∨ HoldsSettings bytes s) := by
  cases hraw : Value.utf8? bytes with
  | none => exact .inl ⟨_, .undecodable hraw⟩
  | some raw =>
      have htext : HoldsText bytes (String.ofList (unifyLines raw.toList)) := ⟨raw, hraw, rfl⟩
      have hbytes := ofBytes_of_holdsText htext
      rcases hload : Yaml.load (String.ofList (unifyLines raw.toList)) with (_ | what) | v
      · rw [hload] at hbytes
        exact .inr ⟨{}, by rw [hbytes]; rfl, .inl ⟨.unreadable htext hload, rfl⟩⟩
      · exact .inl ⟨what, .scalar htext hload⟩
      · rw [hload] at hbytes
        -- only a mapping is checked; any other document stands for the defaults
        by_cases hmap : ∃ entries, v = .map entries
        · obtain ⟨entries, rfl⟩ := hmap
          have houtcome := outcome_ofValue_map entries
          rw [hbytes]
          cases hcheck : Settings.check (.map (Legacy.migrate entries).1) with
          | valid s =>
              rw [hcheck] at houtcome
              exact .inr ⟨s, houtcome, .inr ⟨_, entries, htext, hload, hcheck⟩⟩
          | invalid faults =>
              rw [hcheck] at houtcome
              exact .inr ⟨{}, houtcome, .inl ⟨.invalid htext hload hcheck, rfl⟩⟩
        · have hv : ∀ entries, v ≠ .map entries := fun entries h => hmap ⟨entries, h⟩
          rw [hbytes]
          exact .inr ⟨{}, outcome_ofValue_of_ne_map hv, .inl ⟨.notMapping htext hload hv, rfl⟩⟩

-- ===================================================== loading

variable {k : Keeper} {m : Machine}

/-- A keeper reads the bytes at its path. -/
theorem read_of_bytes [Check.Bounding] (h : m.disk.read k.path = .ok bytes) :
    k.read m.disk = ofBytes bytes := by
  -- what can be read is there, so the look for the file succeeds
  have hthere : m.disk.contains k.path = true := by
    rw [Disk.contains]
    unfold Disk.read at h
    split at h
    · next hfound => rw [hfound]; rfl
    · cases h
    · cases h
  rw [read, hthere, h]
  rfl

/-- A path without a file that can be read stands for the defaults. -/
theorem outcome_read_of_unreadable [Check.Bounding] (h : ∀ bytes, m.disk.read k.path ≠ .ok bytes) :
    (k.read m.disk).outcome = .ok {} := by
  unfold read
  split
  · rfl
  · cases hread : m.disk.read k.path with
    | error t => rfl
    | ok bytes => exact absurd hread (h bytes)

/-- Reporting on old fields leaves the disk as it is. -/
theorem report_disk (notes : List Legacy.Note) (m : Machine) :
    ((report notes).run m).2.disk = m.disk := by
  induction notes generalizing m with
  | nil => rfl
  | cons n notes ih => exact ih (m.logged .info n.message)

/-- Loading remembers what the reading comes to, and an accident ends it. -/
theorem run_load [Check.Bounding] (k : Keeper) (m : Machine) :
    k.load.run m = match k.read m.disk with
      | .settings s notes => (k.keep s, ((report notes).run m).2)
      | .refused why notes => (k.keep {},
          ((report notes).run m).2.logged (why.report k.path).level (why.report k.path).message)
      | .accident what => ((.error (.accident what), k), m) := by
  show (match k.read m.disk with
    | .settings s notes => do report notes; return k.keep s
    | .refused why notes => do
        report notes
        Machine.note (why.report k.path).level (why.report k.path).message
        return k.keep {}
    | .accident what => return (.error (.accident what), k) :
      StateM Machine (Except Failure Settings × Keeper)).run m = _
  cases k.read m.disk <;> rfl

/-- Settings that were read are kept, and the disk stays as it is. -/
theorem load_of_outcome_ok [Check.Bounding] {s : Settings} (h : (k.read m.disk).outcome = .ok s) :
    ∃ m', k.load.run m = ((.ok s, { k with current := some s }), m') ∧ m'.disk = m.disk := by
  rw [run_load]
  cases hread : k.read m.disk with
  | settings s' notes =>
      rw [hread] at h
      cases h
      exact ⟨_, rfl, report_disk notes m⟩
  | refused why notes =>
      rw [hread] at h
      cases h
      exact ⟨_, rfl, report_disk notes m⟩
  | accident what =>
      rw [hread] at h
      cases h

/-- An accident fails the load, and nothing changes. -/
private theorem load_of_holdsAccident [Check.Bounding] {what : Accident}
    (hread : m.disk.read k.path = .ok bytes)
    (h : HoldsAccident bytes what) : k.load.run m = ((.error (.accident what), k), m) := by
  rw [run_load, read_of_bytes hread, ofBytes_of_holdsAccident h]

/-- A service starts by loading its settings, and does not start without them. -/
theorem serviceLoad_of_error [Check.Bounding] {path : Path} {f : Failure} {k' : Keeper}
    {m' : Machine}
    (h : (load ⟨path, none⟩).run m = ((.error f, k'), m')) :
    (Service.load path).run m = (.error f, m') := by
  have hget : Keeper.get ⟨path, none⟩ m = ((.error f, k'), m') := h
  simp only [Service.load, StateT.run, bind, StateT.bind, hget]
  rfl

/-- What loading promises: it answers settings, remembers them and changes no file. They are the
defaults if the file is missing, unreadable or damaged, and otherwise what it holds. -/
def Answers (k : Keeper) (m : Machine) : Prop :=
  ∃ s m', k.load.run m = ((.ok s, { k with current := some s }), m') ∧ m'.disk = m.disk
    ∧ ((∀ bytes, m.disk.read k.path ≠ .ok bytes) ∧ s = {}
      ∨ ∃ bytes, m.disk.read k.path = .ok bytes
        ∧ (IsDamaged bytes ∧ s = {} ∨ HoldsSettings bytes s))

/-- Loading keeps its promise exactly if the reading does not end with an accident. If it does,
loading fails with that accident, and so does the start of a service with these settings. -/
theorem load_answers_iff (k : Keeper) (m : Machine) :
    (Answers k m ↔ ∀ bytes what, m.disk.read k.path = .ok bytes → ¬HoldsAccident bytes what)
      ∧ ∀ bytes what, m.disk.read k.path = .ok bytes → HoldsAccident bytes what →
        k.load.run m = ((.error (.accident what), k), m)
          ∧ (Service.load k.path).run m = (.error (.accident what), m) := by
  refine ⟨⟨?_, ?_⟩, ?_⟩
  · rintro ⟨s, m', hload, -⟩ bytes what hread h
    rw [load_of_holdsAccident hread h] at hload
    cases (Prod.mk.inj hload).1
  · intro hnone
    by_cases hthere : ∃ bytes, m.disk.read k.path = .ok bytes
    · obtain ⟨bytes, hread⟩ := hthere
      rcases ofBytes_cases bytes with ⟨what, h⟩ | ⟨s, houtcome, hgives⟩
      · exact absurd h (hnone bytes what hread)
      · rw [← read_of_bytes hread] at houtcome
        obtain ⟨m', hload, hdisk⟩ := load_of_outcome_ok houtcome
        exact ⟨s, m', hload, hdisk, .inr ⟨bytes, hread, hgives⟩⟩
    · have hnever : ∀ bytes, m.disk.read k.path ≠ .ok bytes := fun bytes h => hthere ⟨bytes, h⟩
      obtain ⟨m', hload, hdisk⟩ := load_of_outcome_ok (outcome_read_of_unreadable hnever)
      exact ⟨{}, m', hload, hdisk, .inl ⟨hnever, rfl⟩⟩
  · intro bytes what hread h
    exact ⟨load_of_holdsAccident hread h,
      serviceLoad_of_error (load_of_holdsAccident (k := ⟨k.path, none⟩) hread h)⟩

-- ===================================================== cases

/-- A keeper of a file in the folder of the program. -/
def sampleKeeper : Keeper := ⟨{ parts := ["c.yaml"] }, none⟩

/-- A machine whose only file is that file. -/
def fileOf (bytes : List UInt8) : Machine where
  disk := { entries := [(["c.yaml"], .file bytes)] }
  now := Time.Stamp.midnight ⟨2024, 6, 15⟩

theorem read_fileOf (bytes : List UInt8) :
    (fileOf bytes).disk.read sampleKeeper.path = .ok bytes := rfl

/-- A port in the shape of a day that the calendar does not have. -/
def impossiblePort : String := "port: 2024-02-30\n"

/-- Such a port makes loading fail although the file is only damaged, and so does a byte that is
no text. -/
theorem damaged_not_answered :
    IsDamaged impossiblePort.toUTF8.toList
      ∧ ¬Answers sampleKeeper (fileOf impossiblePort.toUTF8.toList)
      ∧ sampleKeeper.load.run (fileOf impossiblePort.toUTF8.toList)
        = ((.error (.accident .noSuchValue), sampleKeeper), fileOf impossiblePort.toUTF8.toList)
      ∧ IsDamaged [0xFF] ∧ ¬Answers sampleKeeper (fileOf [0xFF])
      ∧ sampleKeeper.load.run (fileOf [0xFF])
        = ((.error (.accident .undecodable), sampleKeeper), fileOf [0xFF]) := by
  have htext : HoldsText impossiblePort.toUTF8.toList impossiblePort :=
    ⟨impossiblePort, by decide +kernel, by decide +kernel⟩
  have hload : Yaml.load impossiblePort = .error (.accident .noSuchValue) :=
    Registry.eq_error_of_accident? (by decide +kernel)
  have hport := load_of_holdsAccident (read_fileOf _) (.scalar htext hload)
  have hnone : Value.utf8? [0xFF] = none := by decide +kernel
  have hbyte := load_of_holdsAccident (read_fileOf _) (.undecodable hnone)
  refine ⟨.unreadable htext hload, ?_, hport, .undecodable hnone, ?_, hbyte⟩
  · rintro ⟨s, m', hok, -⟩
    rw [hport] at hok
    cases (Prod.mk.inj hok).1
  · rintro ⟨s, m', hok, -⟩
    rw [hbyte] at hok
    cases (Prod.mk.inj hok).1

end PaneWatch.Settings.Keeper
