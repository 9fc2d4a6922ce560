/-
A registry whose writes fail now and then.

A write that fails raises, and the disk shows nothing of it; the change stays in
memory. What memory holds is therefore always what the operations made of it,
and the next write that succeeds brings all of it to the file. Nothing has to be
remembered about the writes that failed, since each write is of the whole registry.
-/
import PaneWatch.Proofs.Registry.Run

namespace PaneWatch.Registry

open Disk (SameFiles)

/-- In every run from a loaded registry, whatever happens to the disk between the operations:

- memory holds what the operations make of it, whether their writes failed or not;
- an operation that gets to its write and cannot write fails with a storage failure,
  and keeps its change; every file is as it was, so that nothing of the new file is left,
  and the place of the registry holds what it held, be that nothing;
- an operation that wrote leaves the whole of memory in the file;
- if nothing else changes files, all others are as at the start. -/
theorem failed_writes_reconciled {path : Path} {m m' : Machine} {r : Registry}
    (hload : load path m = (.ok r, m')) (events : List Event) (e : Event) :
    let d := e.find (Event.playAll ⟨r, m'⟩ events)
    let done := e.op.run d
    done.2.registry = Event.effects r (events ++ [e])
      ∧ (∀ {r' bytes t disk}, e.op.plan e.now d.registry = .ok (some r') →
          r'.encode = .ok bytes → d.machine.disk.replaceFile path bytes = (.error t, disk) →
          (∃ f, done.1 = .error f ∧ f.kind = .storage)
            ∧ done.2.registry = r'
            ∧ SameFiles d.machine.disk done.2.machine.disk
            ∧ (path.fileName ≠ ".." → done.2.machine.disk.find? path = d.machine.disk.find? path))
      ∧ (done.1 = .ok .wrote → ∃ bytes, done.2.registry.encode = .ok bytes
          ∧ done.2.machine.disk.bytesAt? path.place = some bytes)
      ∧ ((∀ e' ∈ events ++ [e], ∀ disk, SameFiles disk (e'.meanwhile disk)) →
          ∀ place, place ≠ path.place →
            done.2.machine.disk.bytesAt? place = m'.disk.bytesAt? place) := by
  intro d done
  have hpath : d.registry.path = path :=
    (Event.path_playAll ⟨r, m'⟩ events).trans (load_path hload)
  have hplay : done.2 = Event.playAll ⟨r, m'⟩ (events ++ [e]) :=
    (Event.playAll_concat ⟨r, m'⟩ events e).symm
  refine ⟨?_, ?_, ?_, ?_⟩
  · rw [hplay]
    exact Event.registry_playAll ⟨r, m'⟩ (events ++ [e])
  · intro r' bytes t disk hplan hbytes hfail
    rw [← hpath, ← Operation.plan_path hplan] at hfail
    obtain ⟨hfailed, hfiles, hfind⟩ := Operation.run_failed hplan hbytes hfail
    refine ⟨⟨_, hfailed, rfl⟩, ?_, hfiles, hpath ▸ hfind⟩
    show (e.op.run d).2.registry = r'
    rw [Operation.registry_run, Operation.effect,
      show e.op.plan d.machine.now d.registry = _ from hplan]
  · intro hwrote
    obtain ⟨bytes, hbytes, hat, -⟩ := Operation.run_wrote hwrote
    exact ⟨bytes, hbytes, hpath ▸ hat⟩
  · intro hquiet place hplace
    rw [hplay]
    exact Event.files_playAll ⟨r, m'⟩ (events ++ [e]) hquiet (by
      rw [show (Desk.mk r m').registry.path = path from load_path hload]
      exact hplace)

-- ===================================================== a case

/-- A session of which little is known. -/
def sampleSession : Session.Record where
  id := "s"
  created := Time.Stamp.midnight ⟨2024, 6, 15⟩
  lastAccess := Time.Stamp.midnight ⟨2024, 6, 15⟩

/-- A desk with an empty registry, whose file is empty. -/
def emptyDesk : Desk where
  registry := { path := { parts := ["s.yaml"] } }
  machine :=
    { disk := { entries := [(["s.yaml"], .file [])] }, now := Time.Stamp.midnight ⟨2024, 6, 15⟩ }

/-- Adds a session while no file can be renamed. -/
def addUnderFault : Event where
  now := emptyDesk.machine.now
  meanwhile disk := { disk with faults := [(.rename, "denied")] }
  op := .add sampleSession

/-- Writes again when nothing fails any more. -/
def saveAfterFault : Event where
  now := emptyDesk.machine.now
  meanwhile disk := { disk with faults := [] }
  op := .save

set_option maxRecDepth 4000 in
theorem saveAfterFault_wrote :
    (saveAfterFault.op.run (saveAfterFault.find (Event.playAll emptyDesk [addUnderFault]))).1
      = .ok .wrote := rfl

/-- A session whose write fails is in memory and not in the file, and the next write brings
it there. -/
theorem failed_writes_reconciled_sample :
    let failed := Event.playAll emptyDesk [addUnderFault]
    let done := saveAfterFault.op.run (saveAfterFault.find failed)
    failed.registry.sessions.keys = ["s"]
      ∧ failed.machine.disk.bytesAt? ["s.yaml"] = some []
      ∧ ∃ bytes, done.2.registry.encode = .ok bytes
        ∧ done.2.machine.disk.bytesAt? ["s.yaml"] = some bytes := by
  have hload : load emptyDesk.registry.path emptyDesk.machine
      = (.ok emptyDesk.registry, emptyDesk.machine) := rfl
  have hplan : addUnderFault.op.plan addUnderFault.now emptyDesk.registry
      = .ok (some (emptyDesk.registry.insert "s" sampleSession)) := rfl
  obtain ⟨bytes, hbytes⟩ :
      ∃ bytes, (emptyDesk.registry.insert "s" sampleSession).encode = .ok bytes := ⟨_, rfl⟩
  have hset : ((addUnderFault.find emptyDesk).machine.disk.faults.lookup .rename).isSome := rfl
  obtain ⟨t, disk, hfail⟩ := Disk.replaceFile_fault (by decide) hset emptyDesk.registry.path bytes
  obtain ⟨-, hkept, hfiles, -⟩ :=
    (failed_writes_reconciled hload [] addUnderFault).2.1 hplan hbytes hfail
  refine ⟨?_, hfiles ["s.yaml"],
    (failed_writes_reconciled hload [addUnderFault] saveAfterFault).2.2.1 saveAfterFault_wrote⟩
  show (addUnderFault.op.run (addUnderFault.find emptyDesk)).2.registry.sessions.keys = ["s"]
  rw [show (addUnderFault.op.run (addUnderFault.find emptyDesk)).2.registry = _ from hkept]
  rfl

end PaneWatch.Registry
