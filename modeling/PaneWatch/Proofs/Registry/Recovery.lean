/-
What becomes of corrupt content that a load has recovered from.

A load copies corrupt content to a file that is named for the second in which it does so, and
nothing else that happens to the registries of a path touches that file: neither what somebody
puts in place of their own file, nor any operation, nor a load in another second
(`bytesAt?_playAll`). So the file of a second holds what was copied last in it. Content that was
copied stays there exactly if no other content is copied in the same second, and it stays in some
file exactly if it was the last of some second (`recovered_kept_iff`).
-/
import PaneWatch.Proofs.Registry.Corrupt
import PaneWatch.Proofs.Registry.Run
import PaneWatch.Proofs.Time.ReadBack

namespace PaneWatch

-- ===================================================== seconds

namespace Time.Stamp

/-- Whether two stamps differ in their microseconds at most. -/
def isSameSecond (a b : Stamp) : Bool := a.fields.take 6 == b.fields.take 6

private theorem append_padded_inj {x y : String} {n m : Nat} (hn : n < 100) (hm : m < 100) :
    x ++ padded 2 n = y ++ padded 2 m ↔ x = y ∧ n = m := by
  constructor
  · intro h
    have hchars := congrArg String.toList h
    rw [String.toList_append, String.toList_append] at hchars
    obtain ⟨hx, hpadded⟩ := List.append_inj' hchars
      (by rw [length_padded (by decide) hn, length_padded (by decide) hm])
    refine ⟨String.toList_inj.1 hx, ?_⟩
    rw [← ofDigitChars_padded 2 n, hpadded, ofDigitChars_padded]
  · rintro ⟨rfl, rfl⟩
    rfl

/-- The compact text of a stamp tells its second. -/
theorem compactText_eq_iff {a b : Stamp} :
    a.compactText = b.compactText ↔ a.isSameSecond b = true := by
  have hsmall (s : Stamp) : s.date.month < 100 ∧ s.date.day < 100 ∧ s.hour < 100 ∧ s.minute < 100
      ∧ s.second < 100 := by
    obtain ⟨-, hmonth, hday⟩ := Lenient.date_bounds s.date
    obtain ⟨hhour, hminute, hsecond, -⟩ := hasTime_iff.1 s.isTime.has
    omega
  obtain ⟨ha₁, ha₂, ha₃, ha₄, ha₅⟩ := hsmall a
  obtain ⟨hb₁, hb₂, hb₃, hb₄, hb₅⟩ := hsmall b
  have hyear : toString a.date.year = toString b.date.year ↔ a.date.year = b.date.year :=
    ⟨Disk.toString_inj, fun h => by rw [h]⟩
  unfold compactText
  rw [append_padded_inj ha₅ hb₅, append_padded_inj ha₄ hb₄, append_padded_inj ha₃ hb₃,
    String.append_left_inj, append_padded_inj ha₂ hb₂, append_padded_inj ha₁ hb₁, hyear]
  simp [isSameSecond, fields, and_assoc]

end Time.Stamp

namespace Registry

open Time (Stamp)

/-- Two backups of a file stand at one place exactly if they are of the same second. -/
private theorem place_backupPath_inj (path : Path) {a b : Stamp} :
    (backupPath path a).place = (backupPath path b).place ↔ a.isSameSecond b = true := by
  unfold backupPath
  rw [Path.place_extend_inj path (length_backupTail a) (length_backupTail b),
    String.append_right_inj, Stamp.compactText_eq_iff]

-- ===================================================== loading

variable {path : Path} {m : Machine}

/-- The content that a load on a machine recovers from, if it is corrupt. -/
def corrupt? (path : Path) (m : Machine) : Option (List UInt8) :=
  match m.disk.readFile path with
  | .error _ => none
  | .ok bytes =>
    match decode m.now bytes with
    | .ok (.corrupt _) => some bytes
    | _ => none

/-- A file is corrupt if it can be read and its bytes decode to a corruption. -/
private theorem corrupt?_eq_some_iff {bytes : List UInt8} : corrupt? path m = some bytes
    ↔ m.disk.readFile path = .ok bytes ∧ ∃ why, decode m.now bytes = .ok (.corrupt why) := by
  unfold corrupt?
  constructor
  · intro h
    split at h
    · cases h
    · next hread =>
      split at h
      · next why hdecode =>
        cases h
        exact ⟨hread, why, hdecode⟩
      · cases h
  · rintro ⟨hread, why, hdecode⟩
    simp only [hread, hdecode]

/-- A load that recovers from nothing changes no file but its own. -/
theorem load_spares (h : corrupt? path m = none) {place : List String} (hne : place ≠ path.place) :
    (load path m).2.disk.bytesAt? place = m.disk.bytesAt? place := by
  rcases load_inv path m with hmissing | ⟨f, hload⟩ | ⟨sessions, log, hload, -⟩
    | ⟨bytes, why, hread, hdecode, -⟩
  · rw [(load_missing hmissing).1]
    exact write_spares { path } m.disk hne
  · rw [hload]
  · rw [hload]
  · rw [corrupt?_eq_some_iff.2 ⟨hread, why, hdecode⟩] at h
    cases h

/-- A load whose copy succeeds leaves the content in it, and changes no other file. -/
theorem load_copies {bytes : List UInt8} {disk : Disk} (h : corrupt? path m = some bytes)
    (hcopy : m.disk.writeBackup (backupPath path m.now) bytes = .ok disk) :
    (load path m).2.disk.bytesAt? (backupPath path m.now).place = some bytes
      ∧ ∀ place, place ≠ (backupPath path m.now).place →
        (load path m).2.disk.bytesAt? place = m.disk.bytesAt? place := by
  obtain ⟨hread, why, hdecode⟩ := corrupt?_eq_some_iff.1 h
  have hdisk : (load path m).2.disk = disk := by
    rw [load_corrupt (Disk.readFile_ok hread).1 hread hdecode, backedUp, hcopy]
    rfl
  rw [hdisk]
  exact Disk.writeBackup_ok hcopy

-- ===================================================== runs

/-- Something done to the registries of a file. -/
inductive Deed where
  /-- One more registry is loaded. -/
  | load
  /-- An operation is done on one of those that were loaded, counted from the first. -/
  | operate (index : Nat) (op : Operation)

/-- A deed of a run. -/
structure Incident (path : Path) where
  /-- The time at which it is done. -/
  now : Stamp
  /-- What has happened to the disk since the one before. -/
  meanwhile : Disk → Disk
  /-- Of the files, that was only the one of the registries. -/
  spares : ∀ disk place, place ≠ path.place →
    (meanwhile disk).bytesAt? place = disk.bytesAt? place
  deed : Deed

/-- The registries that were loaded, in order, and the machine. -/
structure Shelf where
  registries : List Registry := []
  machine : Machine

/-- Corrupt content that a load recovered from, and when. -/
structure Recovery where
  time : Stamp
  bytes : List UInt8
  deriving DecidableEq

namespace Incident

variable {path : Path}

/-- The shelf that a deed finds. -/
def find (i : Incident path) (s : Shelf) : Shelf where
  registries := s.registries
  machine := { s.machine with now := i.now, disk := i.meanwhile s.machine.disk }

/-- The shelf after a deed. A load that fails gives no registry. -/
def play (s : Shelf) (i : Incident path) : Shelf :=
  let s := i.find s
  match i.deed with
  | .load =>
    match Registry.load path s.machine with
    | (.ok r, machine) => ⟨s.registries ++ [r], machine⟩
    | (.error _, machine) => ⟨s.registries, machine⟩
  | .operate index op =>
    match s.registries[index]? with
    | none => s
    | some r =>
      let d := (op.run ⟨r, s.machine⟩).2
      ⟨s.registries.set index d.registry, d.machine⟩

/-- The shelf after a run. -/
def playAll (s : Shelf) (incidents : List (Incident path)) : Shelf := incidents.foldl play s

/-- What a deed recovers from. -/
def recovery? (i : Incident path) (s : Shelf) : Option Recovery :=
  match i.deed with
  | .load => (corrupt? path (i.find s).machine).map fun bytes => ⟨i.now, bytes⟩
  | .operate _ _ => none

/-- What the loads of a run recover from, in order. -/
def recoveries (s : Shelf) : List (Incident path) → List Recovery
  | [] => []
  | i :: rest => (i.recovery? s).toList ++ recoveries (i.play s) rest

/-- Whether a deed can write its copy, if it makes one. -/
def isCopied (i : Incident path) (s : Shelf) : Bool :=
  (i.recovery? s).all fun r =>
    ((i.find s).machine.disk.writeBackup (backupPath path i.now) r.bytes).isOk

/-- Whether all copies of a run can be written. -/
def areCopied (s : Shelf) : List (Incident path) → Bool
  | [] => true
  | i :: rest => i.isCopied s && areCopied (i.play s) rest

/-- A recovery that is copied was written without a fault. -/
private theorem exists_of_isCopied {i : Incident path} {s : Shelf} {r : Recovery} (h : i.isCopied s)
    (hr : i.recovery? s = some r) :
    ∃ disk, (i.find s).machine.disk.writeBackup (backupPath path i.now) r.bytes = .ok disk := by
  rw [isCopied, hr] at h
  cases hwrite : (i.find s).machine.disk.writeBackup (backupPath path i.now) r.bytes with
  | error t =>
      rw [Option.all_some, hwrite] at h
      cases h
  | ok disk => exact ⟨disk, rfl⟩

private theorem machine_play_load {i : Incident path} (s : Shelf) (h : i.deed = .load) :
    (i.play s).machine = (Registry.load path (i.find s).machine).2 := by
  unfold play
  simp only [h]
  rcases Registry.load path (i.find s).machine with ⟨f | r, machine⟩
  · rfl
  · rfl

end Incident

/-- That the registries on a shelf are those of a path. -/
def Shelf.Holds (s : Shelf) (path : Path) : Prop := ∀ r ∈ s.registries, r.path = path

/-- Every incident leaves only registries of the path on the shelf. -/
theorem Shelf.Holds.play {s : Shelf} (h : s.Holds path) (i : Incident path) :
    (i.play s).Holds path := by
  intro r hr
  unfold Incident.play at hr
  cases hdeed : i.deed with
  | load =>
      simp only [hdeed] at hr
      rcases hload : load path (i.find s).machine with ⟨f | loaded, machine⟩
      · rw [hload] at hr
        exact h r hr
      · rw [hload, List.mem_append, List.mem_singleton] at hr
        rcases hr with hr | rfl
        · exact h r hr
        · exact load_path hload
  | operate index op =>
      simp only [hdeed] at hr
      cases hfound : (i.find s).registries[index]? with
      | none =>
          rw [hfound] at hr
          exact h r hr
      | some found =>
          rw [hfound] at hr
          rcases List.mem_or_eq_of_mem_set hr with hr | rfl
          · exact h r hr
          · rw [Operation.registry_run, Operation.effect_path]
            exact h found (List.mem_of_getElem? hfound)

-- ===================================================== copies

/-- What was copied last in the second of a stamp. -/
def latest? (t : Stamp) (found : List Recovery) : Option (List UInt8) :=
  (found.filter (·.time.isSameSecond t)).getLast?.map (·.bytes)

/-- The later one of two findings counts. -/
private theorem latest?_append (t : Stamp) (found more : List Recovery) :
    latest? t (found ++ more) = (latest? t more).or (latest? t found) := by
  unfold latest?
  rw [List.filter_append, List.getLast?_append, Option.map_or]

/-- What a deed leaves in the file of a second: the content that it copies in that second, or
what was there. -/
theorem bytesAt?_play {i : Incident path} {s : Shelf} (hholds : s.Holds path)
    (hcopied : i.isCopied s) (t : Stamp) :
    (i.play s).machine.disk.bytesAt? (backupPath path t).place
      = (latest? t (i.recovery? s).toList).or
          (s.machine.disk.bytesAt? (backupPath path t).place) := by
  have hne := backupPath_place_ne path t
  have hbefore : (i.find s).machine.disk.bytesAt? (backupPath path t).place
      = s.machine.disk.bytesAt? (backupPath path t).place := i.spares _ _ hne
  rw [← hbefore]
  cases hdeed : i.deed with
  | load =>
      rw [Incident.machine_play_load s hdeed]
      cases hcorrupt : corrupt? path (i.find s).machine with
      | none =>
          have hnothing : i.recovery? s = none := by
            rw [Incident.recovery?, hdeed]
            simp only [hcorrupt]
            rfl
          rw [hnothing]
          exact load_spares hcorrupt hne
      | some bytes =>
          have hrecovery : i.recovery? s = some ⟨i.now, bytes⟩ := by
            rw [Incident.recovery?, hdeed]
            simp only [hcorrupt]
            rfl
          obtain ⟨disk, hcopy⟩ := Incident.exists_of_isCopied hcopied hrecovery
          obtain ⟨hat, hother⟩ := load_copies hcorrupt hcopy
          rw [hrecovery, Option.toList_some]
          -- copies of one second have one name
          by_cases hsecond : i.now.isSameSecond t
          · have hlatest : latest? t [⟨i.now, bytes⟩] = some bytes := by simp [latest?, hsecond]
            rw [hlatest, ← (place_backupPath_inj path).2 hsecond]
            exact hat
          · rw [hother]
            · simp [latest?, hsecond]
            · intro hplace
              exact hsecond ((place_backupPath_inj path).1 hplace.symm)
  | operate index op =>
      have hnothing : i.recovery? s = none := by rw [Incident.recovery?, hdeed]
      rw [hnothing]
      unfold Incident.play
      simp only [hdeed]
      cases hfound : (i.find s).registries[index]? with
      | none => rfl
      | some r =>
          apply op.files_run
          rw [hholds r (List.mem_of_getElem? hfound)]
          exact hne

/-- What a run leaves in the file of a second: what it copied last in that second, or what was
there. -/
theorem bytesAt?_playAll {s : Shelf} {incidents : List (Incident path)} (hholds : s.Holds path)
    (hcopied : Incident.areCopied s incidents) (t : Stamp) :
    (Incident.playAll s incidents).machine.disk.bytesAt? (backupPath path t).place
      = (latest? t (Incident.recoveries s incidents)).or
          (s.machine.disk.bytesAt? (backupPath path t).place) := by
  induction incidents generalizing s with
  | nil => rfl
  | cons i rest ih =>
      obtain ⟨hfirst, hrest⟩ := Bool.and_eq_true_iff.1 hcopied
      show (Incident.playAll (i.play s) rest).machine.disk.bytesAt? _ = _
      rw [ih (hholds.play i) hrest, bytesAt?_play hholds hfirst, Incident.recoveries,
        latest?_append, Option.or_assoc]

/-- That some copy of corrupt content has these bytes. -/
def IsKept (path : Path) (disk : Disk) (bytes : List UInt8) : Prop :=
  ∃ t, disk.bytesAt? (backupPath path t).place = some bytes

/-- Where something was found in a second, something is the latest of it. -/
private theorem latest?_isSome {found : List Recovery} {r : Recovery} (h : r ∈ found) :
    ∃ last ∈ found, last.time.isSameSecond r.time ∧ latest? r.time found = some last.bytes := by
  have hmem : r ∈ found.filter (·.time.isSameSecond r.time) :=
    List.mem_filter.2 ⟨h, by simp [Stamp.isSameSecond]⟩
  cases hlast : (found.filter (·.time.isSameSecond r.time)).getLast? with
  | none =>
      rw [List.getLast?_eq_none_iff] at hlast
      rw [hlast] at hmem
      cases hmem
  | some last =>
      obtain ⟨hfound, hsecond⟩ := List.mem_filter.1 (List.mem_of_getLast? hlast)
      exact ⟨last, hfound, hsecond, by rw [latest?, hlast]; rfl⟩

/-- In any run of replacements of the file, loads and operations in which all copies can be
written, all content that loads recovered from is to be found at the end in the copies of its
seconds exactly if no two loads of one second recovered from different content. The bytes in
the copies are those that were the last of their seconds, and those that lay there
before and were not overwritten. -/
theorem recovered_kept_iff (path : Path) (m : Machine) (incidents : List (Incident path))
    (hcopied : Incident.areCopied ⟨[], m⟩ incidents) :
    let disk := (Incident.playAll ⟨[], m⟩ incidents).machine.disk
    let found := Incident.recoveries ⟨[], m⟩ incidents
    ((∀ r ∈ found, disk.bytesAt? (backupPath path r.time).place = some r.bytes)
        ↔ ∀ a ∈ found, ∀ b ∈ found, a.time.isSameSecond b.time → a.bytes = b.bytes)
      ∧ ∀ bytes, IsKept path disk bytes
        ↔ ∃ t, latest? t found = some bytes
          ∨ latest? t found = none ∧ m.disk.bytesAt? (backupPath path t).place = some bytes := by
  intro disk found
  have hat (t : Stamp) : disk.bytesAt? (backupPath path t).place
      = (latest? t found).or (m.disk.bytesAt? (backupPath path t).place) := by
    apply bytesAt?_playAll _ hcopied
    intro r hr
    cases hr
  refine ⟨⟨?_, ?_⟩, ?_⟩
  · intro hkept a ha b hb hsecond
    have hplace := (place_backupPath_inj path).2 hsecond
    have heq := hkept a ha
    rw [hplace, hkept b hb] at heq
    exact (Option.some.inj heq).symm
  · intro hsame r hr
    obtain ⟨last, hlast, hsecond, hlatest⟩ := latest?_isSome hr
    rw [hat, hlatest, hsame last hlast r hr hsecond]
    rfl
  · intro bytes
    unfold IsKept
    refine exists_congr fun t => ?_
    rw [hat, Option.or_eq_some_iff]

/-- A file with a list is loaded at midnight; later another list stands in its place, and it is
loaded again. -/
def twoLoads (later : Stamp) : List (Incident sampleFile) :=
  [{ now := Stamp.midnight ⟨2024, 6, 15⟩
     meanwhile := id
     spares := fun _ _ _ => rfl
     deed := .load },
   { now := later
     meanwhile := fun disk => disk.set sampleFile.place (.file "- b".toUTF8.toList)
     spares := fun disk _ hne => Disk.bytesAt?_set_of_ne hne disk _
     deed := .load }]

/-- Both lists are kept if the second load is at noon. -/
theorem recovered_kept_noon :
    let incidents := twoLoads ⟨⟨2024, 6, 15⟩, 12, 0, 0, 0⟩
    let found := Incident.recoveries ⟨[], fileOf "- a"⟩ incidents
    Incident.areCopied ⟨[], fileOf "- a"⟩ incidents ∧ found.length = 2
      ∧ ∀ r ∈ found, (Incident.playAll ⟨[], fileOf "- a"⟩ incidents).machine.disk.bytesAt?
          (backupPath sampleFile r.time).place = some r.bytes := by
  intro incidents found
  have hcopied : Incident.areCopied ⟨[], fileOf "- a"⟩ incidents := by decide +kernel
  refine ⟨hcopied, by decide +kernel, ?_⟩
  apply (recovered_kept_iff sampleFile (fileOf "- a") incidents hcopied).1.2
  decide +kernel

/-- Half a second after midnight. -/
def halfPast : Stamp :=
  have : Time.IsTime 0 0 0 500000 := ⟨by decide⟩
  ⟨⟨2024, 6, 15⟩, 0, 0, 0, 500000⟩

private theorem bytesAt?_fileOf {text : String} {place : List String}
    (h : place ≠ sampleFile.place) :
    (fileOf text).disk.bytesAt? place = none := by
  have hdisk : (fileOf text).disk
      = ({} : Disk).set sampleFile.place (.file text.toUTF8.toList) := rfl
  rw [hdisk, Disk.bytesAt?_set_of_ne h]
  by_cases hroot : Disk.IsRoot place
  · rw [Disk.bytesAt?, Disk.at?_of_isRoot hroot]
  · exact Disk.bytesAt?_of_at?_eq_none (Disk.at?_of_not_isRoot hroot _)

/-- Half a second later the first list is in no copy, although the clock went on and both copies
were written. -/
theorem oneSecond_loses_content :
    let incidents := twoLoads halfPast
    let start : Shelf := ⟨[], fileOf "- a"⟩
    (incidents.map (·.now)).Pairwise (fun a b => a.before b)
      ∧ Incident.areCopied start incidents
      ∧ ⟨Stamp.midnight ⟨2024, 6, 15⟩, "- a".toUTF8.toList⟩ ∈ Incident.recoveries start incidents
      ∧ ¬IsKept sampleFile (Incident.playAll start incidents).machine.disk
        "- a".toUTF8.toList := by
  intro incidents start
  have hcopied : Incident.areCopied start incidents := by decide +kernel
  have hfound : Incident.recoveries start incidents
      = [⟨Stamp.midnight ⟨2024, 6, 15⟩, "- a".toUTF8.toList⟩,
        ⟨halfPast, "- b".toUTF8.toList⟩] := by decide +kernel
  refine ⟨by decide +kernel, hcopied, by rw [hfound]; exact List.mem_cons_self, ?_⟩
  rintro ⟨t, ht⟩
  have hempty : start.Holds sampleFile := fun r hr => by cases hr
  rw [bytesAt?_playAll hempty hcopied, hfound, bytesAt?_fileOf (backupPath_place_ne _ _),
    Option.or_none] at ht
  have hseconds : (Stamp.midnight ⟨2024, 6, 15⟩).isSameSecond t = halfPast.isSameSecond t := rfl
  unfold latest? at ht
  by_cases hsecond : halfPast.isSameSecond t
  · simp only [List.filter_cons, hseconds, hsecond, if_true, List.filter_nil] at ht
    revert ht
    decide +kernel
  · simp [hseconds, hsecond] at ht

end Registry

end PaneWatch
