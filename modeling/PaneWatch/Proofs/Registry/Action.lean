/-
What actions do to a desk.

`on` is an action as a function of the desk, with one law for each way to
build an action, so no proof further on opens the monad. The law of `save` is
`Saves`: an action that makes some registry and writes it ends as the writing
of that registry on the disk ends (`Registry.write`). What it logs is left out
of this, since nothing else depends on the log.
-/
import PaneWatch.Registry.Cleanup

namespace PaneWatch.Registry

open Session (Record)
open Time (Stamp)

namespace Action

variable {α β : Type}

/-- What an action gives and what it leaves of a desk. -/
def on (act : Action α) (d : Desk) : Except Failure α × Desk := act.run d

@[simp] private theorem on_pure (a : α) (d : Desk) : (pure a : Action α).on d = (.ok a, d) := rfl

@[simp] private theorem on_throw (f : Failure) (d : Desk) :
    (throw f : Action α).on d = (.error f, d) := rfl

/-- Acts in a row are done on the desk that the ones before have left, up to the first that fails.
-/
theorem on_bind (act : Action α) (next : α → Action β) (d : Desk) :
    (act >>= next).on d = match act.on d with
      | (.ok a, d') => (next a).on d'
      | (.error f, d') => (.error f, d') := by
  show (ExceptT.run act >>= ExceptT.bindCont next) d = _
  show (match act.run d with | (x, d') => ExceptT.bindCont next x d') = _
  unfold on
  rcases act.run d with ⟨_ | a, d'⟩ <;> rfl

/-- What follows an act that has succeeded is done on the desk that it has left. -/
theorem on_bind_ok {act : Action α} {next : α → Action β} {d d' : Desk} {a : α}
    (h : act.on d = (.ok a, d')) : (act >>= next).on d = (next a).on d' := by
  rw [on_bind, h]

/-- What follows an act that has failed is not done. -/
theorem on_bind_error {act : Action α} {next : α → Action β} {d d' : Desk} {f : Failure}
    (h : act.on d = (.error f, d')) : (act >>= next).on d = (.error f, d') := by
  rw [on_bind, h]

/-- An action and what follows it have both succeeded if the whole has. -/
theorem exists_of_on_bind_ok {act : Action α} {next : α → Action β} {d : Desk} {b : β}
    (h : ((act >>= next).on d).1 = .ok b) :
    ∃ a d', act.on d = (.ok a, d') ∧ ((next a).on d').1 = .ok b := by
  rw [on_bind] at h
  rcases hact : act.on d with ⟨f | a, d'⟩
  · rw [hact] at h
    cases h
  · rw [hact] at h
    exact ⟨a, d', rfl, h⟩

@[simp] theorem on_get (d : Desk) : (MonadState.get : Action Desk).on d = (.ok d, d) := rfl

/-- An act of the machine leaves the registry as it is and does not fail. -/
@[simp] theorem on_onMachine (act : StateM Machine α) (d : Desk) :
    (onMachine act).on d
      = (.ok (act.run d.machine).1, { d with machine := (act.run d.machine).2 }) := rfl

@[simp] theorem on_registry (d : Desk) : registry.on d = (.ok d.registry, d) := rfl

/-- An edit changes the registry only. -/
@[simp] theorem on_edit (f : Registry → Registry) (d : Desk) :
    (edit f).on d = (.ok (), { d with registry := f d.registry }) := rfl

/-- A note changes the log only. -/
@[simp] theorem on_note (level : LogLevel) (message : String) (d : Desk) :
    (note level message).on d
      = (.ok (), { d with machine := d.machine.logged level message }) := rfl

/-- Replacing the file changes the disk only; how it ends is told and not raised. -/
@[simp] private theorem on_replaceFile (bytes : List UInt8) (d : Desk) :
    (replaceFile bytes).on d = (.ok (d.machine.disk.replaceFile d.registry.path bytes).1,
      { d with machine := { d.machine with
        disk := (d.machine.disk.replaceFile d.registry.path bytes).2 } }) := rfl

end Action

open Registry.Action

-- ===================================================== writing

/-- What writing a registry gives and what it leaves of the disk. -/
def write (r : Registry) (disk : Disk) : Except Failure Unit × Disk :=
  match r.encode with
  | .error _ => (.error .unwritableRegistry, disk)
  | .ok bytes =>
    match disk.replaceFile r.path bytes with
    | (.ok (), disk) => (.ok (), disk)
    | (.error t, disk) => (.error (.unwritableFile r.path.toText t.reason), disk)

/-- A registry that was written has bytes, and they have replaced the file. -/
theorem write_eq_ok {r : Registry} {disk disk' : Disk} (h : r.write disk = (.ok (), disk')) :
    ∃ bytes, r.encode = .ok bytes ∧ disk.replaceFile r.path bytes = (.ok (), disk') := by
  unfold write at h
  cases hbytes : r.encode with
  | error why => simp [hbytes] at h
  | ok bytes =>
      simp only [hbytes] at h
      refine ⟨bytes, rfl, ?_⟩
      split at h
      · next disk₁ hdone =>
        obtain rfl : disk₁ = disk' := (Prod.mk.inj h).2
        exact hdone
      · simp at h

/-- If the file cannot be replaced, the failure names the path and the reason. -/
theorem write_of_replaceFile_error {r : Registry} {disk disk' : Disk} {bytes : List UInt8}
    {t : Disk.Trouble} (hbytes : r.encode = .ok bytes)
    (h : disk.replaceFile r.path bytes = (.error t, disk')) :
    r.write disk = (.error (.unwritableFile r.path.toText t.reason), disk') := by
  rw [write, hbytes]
  simp [h]

/-- A registry that cannot be written is a failure of storage. -/
theorem kind_of_write {r : Registry} {disk : Disk} {f : Failure} (h : (r.write disk).1 = .error f) :
    f.kind = .storage := by
  unfold write at h
  split at h
  · cases h
    rfl
  · split at h
    · cases h
    · cases h
      rfl

variable {α β : Type}

/-- That an action makes a registry and ends as the writing of it does. -/
structure Saves (d : Desk) (r : Registry) (done : Except Failure α × Desk) : Prop where
  outcome : done.1.map (fun _ => ()) = (r.write d.machine.disk).1
  registry : done.2.registry = r
  disk : done.2.machine.disk = (r.write d.machine.disk).2
  now : done.2.machine.now = d.machine.now

/-- What is logged before makes no difference. -/
theorem Saves.of_logged {d : Desk} {r : Registry} {done : Except Failure α × Desk}
    {level : LogLevel} {message : String}
    (h : Saves { d with machine := d.machine.logged level message } r done) : Saves d r done :=
  ⟨h.outcome, h.registry, h.disk, h.now⟩

/-- That an action succeeds and changes nothing but the log. -/
def OnlyLogs (act : Action α) : Prop :=
  ∀ d : Desk, ∃ a log, act.on d = (.ok a, { d with machine := { d.machine with log } })

theorem onlyLogs_pure (a : α) : OnlyLogs (pure a) := fun d => ⟨a, d.machine.log, rfl⟩

/-- A note before the end only logs. -/
theorem onlyLogs_note (level : LogLevel) (message : String) (a : α) :
    OnlyLogs (do note level message; return a) := fun _ => ⟨a, _, rfl⟩

/-- What is logged afterwards makes no difference. -/
theorem Saves.bind {d : Desk} {r : Registry} {act : Action α} {next : α → Action β}
    (h : Saves d r (act.on d)) (hnext : ∀ a, OnlyLogs (next a)) :
    Saves d r ((act >>= next).on d) := by
  rw [on_bind]
  rcases hact : act.on d with ⟨f | a, d'⟩
  · rw [hact] at h
    exact ⟨h.outcome, h.registry, h.disk, h.now⟩
  · rw [hact] at h
    obtain ⟨b, log, hlog⟩ := hnext a d'
    dsimp only
    rw [hlog]
    exact ⟨h.outcome, h.registry, h.disk, h.now⟩

/-- Saving writes the registry as it is. -/
theorem saves_save (d : Desk) : Saves d d.registry (save.on d) := by
  rw [save, on_bind, on_registry]
  dsimp only
  cases hbytes : d.registry.encode with
  | error why => exact ⟨by simp [write, hbytes, Except.map], by simp, by simp [write, hbytes], rfl⟩
  | ok bytes =>
      simp only [on_bind, on_replaceFile]
      rcases hdone : d.machine.disk.replaceFile d.registry.path bytes with ⟨_ | u, disk⟩
      · constructor <;> simp [write, hbytes, hdone, Except.map, on_bind, Machine.logged]
      · constructor <;> simp [write, hbytes, hdone, Except.map]

/-- A change of the registry and the writing of it. -/
theorem saves_edit (f : Registry → Registry) {act : Action α}
    (hact : ∀ d, Saves d d.registry (act.on d)) (d : Desk) :
    Saves d (f d.registry) ((do edit f; act : Action α).on d) := by
  rw [on_bind_ok (on_edit f d)]
  have h := hact { d with registry := f d.registry }
  exact ⟨h.outcome, h.registry, h.disk, h.now⟩

end PaneWatch.Registry
