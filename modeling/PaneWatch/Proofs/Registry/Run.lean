/-
What operations and runs of them leave in memory and on the disk.

In a run anything may happen between two operations: time passes, other
programs change files, faults come and go. An `Event` is an operation together
with the time at which it is done and what has happened to the disk since the
one before. The registry after a run is the fold of the plans of its operations
(`registry_playAll`), into which nothing of the disk enters: this is what makes
a registry that ran ahead of its file catch up with the next write.
-/
import PaneWatch.Proofs.Disk.Replace
import PaneWatch.Proofs.Registry.Loading
import PaneWatch.Proofs.Registry.Operation

namespace PaneWatch.Registry

open Time (Stamp)
open Disk (SameFiles)

-- ===================================================== one operation

/-- An action that saves and succeeds leaves the bytes of its registry in the file, and changes
no other file. -/
theorem Saves.holds {α : Type} {d : Desk} {r : Registry} {done : Except Failure α × Desk}
    (h : Saves d r done) {a : α} (hok : done.1 = .ok a) :
    ∃ bytes, r.encode = .ok bytes ∧ done.2.machine.disk.bytesAt? r.path.place = some bytes
      ∧ ∀ place, place ≠ r.path.place →
        done.2.machine.disk.bytesAt? place = d.machine.disk.bytesAt? place := by
  have houtcome := h.outcome
  rw [hok] at houtcome
  rcases hwrite : r.write d.machine.disk with ⟨f | u, disk⟩
  · rw [hwrite] at houtcome
    cases houtcome
  · obtain ⟨bytes, hbytes, hreplace⟩ := write_eq_ok hwrite
    obtain ⟨hat, hother⟩ := Disk.replaceFile_ok hreplace
    rw [h.disk, hwrite]
    exact ⟨bytes, hbytes, hat, hother⟩

/-- Writing a registry changes no other file, whatever becomes of it. -/
theorem write_spares (r : Registry) (disk : Disk) {place : List String}
    (hne : place ≠ r.path.place) : (r.write disk).2.bytesAt? place = disk.bytesAt? place := by
  unfold write
  split
  · rfl
  · split
    · next hdone => exact (Disk.replaceFile_ok hdone).2 place hne
    · next hdone => exact Disk.replaceFile_error hdone place

namespace Operation

variable {op : Operation} {d : Desk}

/-- The registry after an operation does not depend on how the saving went. -/
theorem registry_run (op : Operation) (d : Desk) :
    (op.run d).2.registry = op.effect d.machine.now d.registry := by
  unfold effect
  rcases op.run_cases d with ⟨f, hplan, hrun⟩ | ⟨hplan, hrun⟩ | ⟨r, hplan, hsaves, -⟩
  · rw [hplan, hrun]
  · rw [hplan, hrun]
  · rw [hplan]
    exact hsaves.registry

/-- An operation that wrote left the bytes of its registry in the file, and changed no
other file. -/
theorem run_wrote (h : (op.run d).1 = .ok .wrote) :
    ∃ bytes, (op.run d).2.registry.encode = .ok bytes
      ∧ (op.run d).2.machine.disk.bytesAt? d.registry.path.place = some bytes
      ∧ ∀ place, place ≠ d.registry.path.place →
        (op.run d).2.machine.disk.bytesAt? place = d.machine.disk.bytesAt? place := by
  rcases op.run_cases d with ⟨f, -, hrun⟩ | ⟨-, hrun⟩ | ⟨r, hplan, hsaves, -⟩
  · rw [hrun] at h
    cases h
  · rw [hrun] at h
    cases h
  · rw [hsaves.registry, ← plan_path hplan]
    exact hsaves.holds h

/-- An operation whose write fails says so, and all files are as they were. So is what
stands at the path of the registry, if that is the path of a file at all. -/
theorem run_failed {r : Registry} {bytes : List UInt8} {t : Disk.Trouble} {disk : Disk}
    (hplan : op.plan d.machine.now d.registry = .ok (some r)) (hbytes : r.encode = .ok bytes)
    (hfail : d.machine.disk.replaceFile r.path bytes = (.error t, disk)) :
    (op.run d).1 = .error (.unwritableFile d.registry.path.toText t.reason)
      ∧ SameFiles d.machine.disk (op.run d).2.machine.disk
      ∧ (d.registry.path.fileName ≠ ".." →
        (op.run d).2.machine.disk.find? d.registry.path
          = d.machine.disk.find? d.registry.path) := by
  have hlaw := run_planned op d
  rw [hplan] at hlaw
  obtain ⟨hsaves, -⟩ := hlaw
  have hwrite := write_of_replaceFile_error hbytes hfail
  have houtcome := hsaves.outcome
  rw [hwrite] at houtcome
  rw [hsaves.disk, hwrite, ← plan_path hplan]
  refine ⟨?_, Disk.replaceFile_error hfail, Disk.at?_replaceFile_error hfail⟩
  rcases hdone : (op.run d).1 with f | e
  · rw [hdone] at houtcome
    cases houtcome
    rfl
  · rw [hdone] at houtcome
    cases houtcome

/-- An operation changes no file but its own. -/
theorem files_run (op : Operation) (d : Desk) {place : List String}
    (h : place ≠ d.registry.path.place) :
    (op.run d).2.machine.disk.bytesAt? place = d.machine.disk.bytesAt? place := by
  rcases op.run_cases d with ⟨f, -, hrun⟩ | ⟨-, hrun⟩ | ⟨r, hplan, hsaves, -⟩
  · rw [hrun]
  · rw [hrun]
  · rw [← plan_path hplan] at h
    rw [hsaves.disk]
    exact write_spares r d.machine.disk h

end Operation

-- ===================================================== runs

/-- An operation of a run. -/
structure Event where
  /-- The time at which it is done. -/
  now : Stamp
  /-- What has happened to the disk since the operation before. -/
  meanwhile : Disk → Disk
  op : Operation

namespace Event

/-- The desk that the operation finds. -/
def find (e : Event) (d : Desk) : Desk where
  registry := d.registry
  machine := { d.machine with now := e.now, disk := e.meanwhile d.machine.disk }

/-- The desk after the operation. -/
def play (d : Desk) (e : Event) : Desk := (e.op.run (e.find d)).2

/-- The desk after a run. -/
def playAll (d : Desk) (events : List Event) : Desk := events.foldl play d

/-- What the operations of a run make of a registry, one after the other. -/
def effects (r : Registry) (events : List Event) : Registry :=
  events.foldl (fun r e => e.op.effect e.now r) r

theorem playAll_concat (d : Desk) (events : List Event) (e : Event) :
    playAll d (events ++ [e]) = play (playAll d events) e := by
  simp [playAll]

/-- The registry after a run is what its operations make of it, whatever became of the
writing. -/
theorem registry_playAll (d : Desk) (events : List Event) :
    (playAll d events).registry = effects d.registry events := by
  induction events generalizing d with
  | nil => rfl
  | cons e events ih =>
      show (playAll (play d e) events).registry = effects (e.op.effect e.now d.registry) events
      rw [ih, play, Operation.registry_run]
      rfl

/-- All that happens leaves the path as it is. -/
theorem path_playAll (d : Desk) (events : List Event) :
    (playAll d events).registry.path = d.registry.path := by
  rw [registry_playAll]
  generalize d.registry = r
  induction events generalizing r with
  | nil => rfl
  | cons e events ih =>
      show (effects (e.op.effect e.now r) events).path = r.path
      rw [ih, Operation.effect_path]

/-- If nothing else changes files, a run changes none but the file of the registry: what
the writing needed on its way is gone. -/
theorem files_playAll (d : Desk) (events : List Event)
    (hquiet : ∀ e ∈ events, ∀ disk, SameFiles disk (e.meanwhile disk)) {place : List String}
    (h : place ≠ d.registry.path.place) :
    (playAll d events).machine.disk.bytesAt? place = d.machine.disk.bytesAt? place := by
  induction events generalizing d with
  | nil => rfl
  | cons e events ih =>
      have hpath : (play d e).registry.path = d.registry.path := by
        rw [play, Operation.registry_run, Operation.effect_path]
        rfl
      have hrest := ih (play d e) (fun e' he' => hquiet e' (List.mem_cons_of_mem e he'))
        (by rw [hpath]; exact h)
      calc (playAll d (e :: events)).machine.disk.bytesAt? place
          = (play d e).machine.disk.bytesAt? place := hrest
        _ = (e.find d).machine.disk.bytesAt? place := e.op.files_run (e.find d) h
        _ = d.machine.disk.bytesAt? place := hquiet e List.mem_cons_self _ place

end Event

end PaneWatch.Registry
