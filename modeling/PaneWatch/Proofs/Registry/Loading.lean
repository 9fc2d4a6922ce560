/-
What loading a registry gives, one law for each thing that the file may hold.

The laws are about the whole outcome: the registry or the failure, and the
machine that is left. Corrupt content is the only one that the disk is changed
for (`backUp`), and only at the place of the copy.
-/
import PaneWatch.Proofs.Disk.Tree
import PaneWatch.Proofs.Registry.Action

namespace PaneWatch.Registry

open Session (Record)
open Time (Stamp)
open Registry.Action

variable {path : Path} {m : Machine}

-- ===================================================== filling

/-- A file that is missing is written, and holds no sessions. -/
theorem fill_missing (h : m.disk.contains path = false) :
    fill.on ⟨{ path }, m⟩ = (do
      save
      Action.note .info ("Created new session state file at " ++ path.toText) : Action Unit).on
        ⟨{ path }, m⟩ := by
  rw [fill, on_bind, on_registry]
  dsimp only
  rw [on_bind]
  show (if !m.disk.contains path then _ else _ : Action Unit).on _ = _
  rw [h]
  rfl

/-- A file that is there is read, decoded and taken over, or set aside if it is corrupt. -/
private theorem fill_found (h : m.disk.contains path) :
    fill.on ⟨{ path }, m⟩ = (match m.disk.readFile path with
      | .error t => throw (.unreadableFile path.toText t.reason)
      | .ok bytes =>
        match decode m.now bytes with
        | .error what => throw (.accident what)
        | .ok .blank => return
        | .ok (.corrupt why) => backUp bytes why
        | .ok (.sessions sessions) => do
          edit fun r => { r with sessions }
          Action.note .info
            ("Loaded " ++ toString sessions.size ++ " sessions from " ++ path.toText)
      : Action Unit).on ⟨{ path }, m⟩ := by
  rw [fill, on_bind, on_registry]
  dsimp only
  rw [on_bind]
  show (if !m.disk.contains path then _ else _ : Action Unit).on _ = _
  rw [h]
  rfl

/-- The machine after corrupt content has been copied aside, or could not be. -/
def backedUp (path : Path) (bytes : List UInt8) (why : Corruption) (m : Machine) : Machine :=
  match m.disk.writeBackup (backupPath path m.now) bytes with
  | .ok disk => { m with disk }.logged .warning ("Corrupted state file " ++ path.toText ++ " ("
      ++ why.reason ++ ") backed up to " ++ (backupPath path m.now).toText)
  | .error t => m.logged .error ("Corrupted state file " ++ path.toText
      ++ " could not be backed up: " ++ t.reason)

private theorem run_change (f : Disk → Except Disk.Trouble Disk) (m : Machine) :
    (Machine.change f).run m = match f m.disk with
      | .ok disk => (.ok (), { m with disk })
      | .error t => (.error t, m) := rfl

/-- A backup changes the machine and not the registry. -/
private theorem on_backUp (bytes : List UInt8) (why : Corruption) (d : Desk) :
    (backUp bytes why).on d
      = (.ok (), { d with machine := backedUp d.registry.path bytes why d.machine }) := by
  rw [backUp, on_bind, on_registry]
  dsimp only
  rw [on_bind, on_get]
  dsimp only
  rw [on_bind, on_onMachine]
  dsimp only
  rw [run_change, backedUp]
  cases d.machine.disk.writeBackup (backupPath d.registry.path d.machine.now) bytes <;> rfl

-- ===================================================== loading

/-- Loading answers with the registry that was filled. -/
private theorem load_of_fill {path : Path} {m : Machine} {d : Desk} {outcome : Except Failure Unit}
    (h : fill.on ⟨{ path }, m⟩ = (outcome, d)) :
    load path m = (outcome.map fun () => d.registry, d.machine) := by
  show ((fill.on ⟨{ path }, m⟩).1.map fun () => (fill.on ⟨{ path }, m⟩).2.registry,
    (fill.on ⟨{ path }, m⟩).2.machine) = _
  rw [h]

/-- A file that cannot be read fails the load, and nothing changes. -/
private theorem load_unreadable {t : Disk.Trouble} (h : m.disk.contains path)
    (hread : m.disk.readFile path = .error t) :
    load path m = (.error (.unreadableFile path.toText t.reason), m) := by
  have hfill : fill.on ⟨{ path }, m⟩
      = (.error (.unreadableFile path.toText t.reason), ⟨{ path }, m⟩) := by
    rw [fill_found h, hread]
    rfl
  exact load_of_fill hfill

/-- A file that holds an accident fails the load, and nothing changes. -/
theorem load_accident {bytes : List UInt8} {what : Accident} (h : m.disk.contains path)
    (hread : m.disk.readFile path = .ok bytes) (hdecode : decode m.now bytes = .error what) :
    load path m = (.error (.accident what), m) := by
  have hfill : fill.on ⟨{ path }, m⟩ = (.error (.accident what), ⟨{ path }, m⟩) := by
    rw [fill_found h, hread]
    simp only [hdecode]
    rfl
  exact load_of_fill hfill

/-- A blank file is loaded as no sessions. -/
theorem load_blank {bytes : List UInt8} (h : m.disk.contains path)
    (hread : m.disk.readFile path = .ok bytes) (hdecode : decode m.now bytes = .ok .blank) :
    load path m = (.ok { path }, m) := by
  have hfill : fill.on ⟨{ path }, m⟩ = (.ok (), ⟨{ path }, m⟩) := by
    rw [fill_found h, hread]
    simp only [hdecode]
    rfl
  exact load_of_fill hfill

/-- A file of sessions is loaded as these, with a line in the log. -/
theorem load_sessions {bytes : List UInt8} {sessions : Keyed Record}
    (h : m.disk.contains path) (hread : m.disk.readFile path = .ok bytes)
    (hdecode : decode m.now bytes = .ok (.sessions sessions)) :
    load path m = (.ok { path, sessions }, m.logged .info
      ("Loaded " ++ toString sessions.size ++ " sessions from " ++ path.toText)) := by
  have hfill : fill.on ⟨{ path }, m⟩ = (.ok (), ⟨{ path, sessions }, m.logged .info
      ("Loaded " ++ toString sessions.size ++ " sessions from " ++ path.toText)⟩) := by
    rw [fill_found h, hread]
    simp only [hdecode]
    rfl
  exact load_of_fill hfill

/-- A corrupt file is copied aside and loaded as no sessions. -/
theorem load_corrupt {bytes : List UInt8} {why : Corruption} (h : m.disk.contains path)
    (hread : m.disk.readFile path = .ok bytes)
    (hdecode : decode m.now bytes = .ok (.corrupt why)) :
    load path m = (.ok { path }, backedUp path bytes why m) := by
  have hfill : fill.on ⟨{ path }, m⟩ = (.ok (), ⟨{ path }, backedUp path bytes why m⟩) := by
    rw [fill_found h, hread]
    simp only [hdecode]
    exact on_backUp bytes why _
  exact load_of_fill hfill

/-- A file that is missing is written, unless that fails; the registry is empty. -/
theorem load_missing (h : m.disk.contains path = false) :
    (load path m).2.disk = (({ path } : Registry).write m.disk).2
      ∧ ∀ r, (load path m).1 = .ok r → r = { path } := by
  have hfill := fill_missing h
  have hsaves := saves_save ⟨{ path }, m⟩
  rw [on_bind] at hfill
  rcases hsave : save.on ⟨{ path }, m⟩ with ⟨f | u, d⟩
  · rw [hsave] at hfill hsaves
    rw [load_of_fill hfill]
    refine ⟨hsaves.disk, ?_⟩
    intro r hr
    cases hr
  · rw [hsave] at hfill hsaves
    rw [load_of_fill hfill]
    refine ⟨hsaves.disk, ?_⟩
    intro r hr
    cases hr
    exact hsaves.registry

/-- All that a load can come to: its file is missing, it fails without a trace, it gives the
sessions of the file or none, or the content is corrupt and is copied aside. -/
theorem load_inv (path : Path) (m : Machine) :
    m.disk.contains path = false
      ∨ (∃ f, load path m = (.error f, m))
      ∨ (∃ sessions log, load path m = (.ok { path, sessions }, { m with log })
        ∧ (sessions = {} ∨ ∃ bytes, m.disk.readFile path = .ok bytes
          ∧ decode m.now bytes = .ok (.sessions sessions)))
      ∨ ∃ bytes why, m.disk.readFile path = .ok bytes ∧ decode m.now bytes = .ok (.corrupt why)
        ∧ load path m = (.ok { path }, backedUp path bytes why m) := by
  cases hthere : m.disk.contains path with
  | false => exact .inl rfl
  | true =>
      right
      cases hread : m.disk.readFile path with
      | error t => exact .inl ⟨_, load_unreadable hthere hread⟩
      | ok bytes =>
          cases hdecode : decode m.now bytes with
          | error what => exact .inl ⟨_, load_accident hthere hread hdecode⟩
          | ok content =>
              right
              cases content with
              | blank => exact .inl ⟨{}, m.log, load_blank hthere hread hdecode, .inl rfl⟩
              | sessions sessions =>
                  exact .inl ⟨sessions, _, load_sessions hthere hread hdecode,
                    .inr ⟨bytes, rfl, hdecode⟩⟩
              | corrupt why =>
                  exact .inr ⟨bytes, why, rfl, hdecode, load_corrupt hthere hread hdecode⟩

/-- A registry that was loaded is empty, or has the sessions that its file holds. -/
theorem load_cases {m' : Machine} {r : Registry} (h : load path m = (.ok r, m')) :
    r = { path } ∨ ∃ bytes sessions, m.disk.readFile path = .ok bytes
      ∧ decode m.now bytes = .ok (.sessions sessions) ∧ r = { path, sessions } := by
  rcases load_inv path m with hmissing | ⟨f, hload⟩ | ⟨sessions, log, hload, hfrom⟩
    | ⟨bytes, why, -, -, hload⟩
  · exact .inl ((load_missing hmissing).2 r (by rw [h]))
  · rw [hload] at h
    cases (Prod.mk.inj h).1
  · rw [hload] at h
    cases (Prod.mk.inj h).1
    rcases hfrom with rfl | ⟨bytes, hread, hdecode⟩
    · exact .inl rfl
    · exact .inr ⟨bytes, sessions, hread, hdecode, rfl⟩
  · rw [hload] at h
    cases (Prod.mk.inj h).1
    exact .inl rfl

/-- A registry that was loaded keeps to the file that it was loaded from. -/
theorem load_path {m' : Machine} {r : Registry} (h : load path m = (.ok r, m')) :
    r.path = path := by
  rcases load_cases h with rfl | ⟨bytes, sessions, -, -, rfl⟩
  · rfl
  · rfl

end PaneWatch.Registry
