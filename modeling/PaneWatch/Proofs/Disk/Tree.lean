/-
What changing the tree changes.

Every change puts something at one place or takes the file from one place, so
each has two laws: what stands at that place afterwards, and that everything
stands where it stood at all others. `SameFiles` is what the operations that
fail are measured by. It speaks of files and their bytes alone, since folders
that were made on the way may stay.
-/
import PaneWatch.Disk
import PaneWatch.Proofs.Lookup

namespace PaneWatch.Disk

/-- The bytes of the file at a place. -/
def bytesAt? (d : Disk) (place : List String) : Option (List UInt8) :=
  match d.at? place with
  | some (.file bytes) => some bytes
  | _ => none

/-- That all files of a tree are those of another one. -/
def SameFiles (d d' : Disk) : Prop := ∀ place, d'.bytesAt? place = d.bytesAt? place

theorem SameFiles.refl (d : Disk) : SameFiles d d := fun _ => rfl

theorem SameFiles.trans {a b c : Disk} (h : SameFiles a b) (h' : SameFiles b c) :
    SameFiles a c := fun place => (h' place).trans (h place)

-- ===================================================== lookups

/-- The places that are always folders. -/
def IsRoot (place : List String) : Prop := place = [] ∨ place = ["/"]

/-- The root is a folder on every disk. -/
theorem at?_of_isRoot {place : List String} (h : IsRoot place) (d : Disk) :
    d.at? place = some .folder := by
  rcases h with rfl | rfl <;> rfl

/-- Any other place is looked up. -/
theorem at?_of_not_isRoot {place : List String} (h : ¬IsRoot place) (d : Disk) :
    d.at? place = d.entries.lookup place := by
  rw [IsRoot, not_or] at h
  simp [at?, h.1, h.2]

theorem not_isRoot_of_at?_ne {d : Disk} {place : List String} (h : d.at? place ≠ some .folder) :
    ¬IsRoot place := fun hroot => h (at?_of_isRoot hroot d)

-- ===================================================== one place

/-- What is put at a place stands there. -/
theorem at?_set_self {place : List String} (h : ¬IsRoot place) (d : Disk) (e : Entry) :
    (d.set place e).at? place = some e := by
  rw [at?_of_not_isRoot h, set, List.lookup_append, lookup_filter_self]
  simp

/-- All other places stay as they are. -/
theorem at?_set_of_ne {place q : List String} (h : q ≠ place) (d : Disk) (e : Entry) :
    (d.set place e).at? q = d.at? q := by
  by_cases hroot : IsRoot q
  · rw [at?_of_isRoot hroot, at?_of_isRoot hroot]
  · have hq : (q == place) = false := by simpa using h
    rw [at?_of_not_isRoot hroot, at?_of_not_isRoot hroot, set, List.lookup_append,
      lookup_filter_ne h, List.lookup_cons, hq]
    simp

/-- What is taken from a place is gone. -/
theorem at?_unlink_self {place : List String} (h : ¬IsRoot place) (d : Disk) :
    (d.unlink place).at? place = none := by
  rw [at?_of_not_isRoot h]
  exact lookup_filter_self place d.entries

/-- And again all other places stay as they are. -/
theorem at?_unlink_of_ne {place q : List String} (h : q ≠ place) (d : Disk) :
    (d.unlink place).at? q = d.at? q := by
  by_cases hroot : IsRoot q
  · rw [at?_of_isRoot hroot, at?_of_isRoot hroot]
  · rw [at?_of_not_isRoot hroot, at?_of_not_isRoot hroot]
    exact lookup_filter_ne h d.entries

/-- A file that is put at a place has its bytes. -/
theorem bytesAt?_set_self {place : List String} (h : ¬IsRoot place) (d : Disk)
    (bytes : List UInt8) : (d.set place (.file bytes)).bytesAt? place = some bytes := by
  rw [bytesAt?, at?_set_self h]

/-- All other files keep theirs. -/
theorem bytesAt?_set_of_ne {place q : List String} (h : q ≠ place) (d : Disk) (e : Entry) :
    (d.set place e).bytesAt? q = d.bytesAt? q := by
  rw [bytesAt?, at?_set_of_ne h, bytesAt?]

theorem bytesAt?_of_at?_eq_none {d : Disk} {place : List String} (h : d.at? place = none) :
    d.bytesAt? place = none := by
  rw [bytesAt?, h]

/-- A folder where nothing stood hides no file. -/
theorem sameFiles_set_folder {d : Disk} {place : List String} (h : d.at? place = none) :
    SameFiles d (d.set place .folder) := by
  intro q
  by_cases hq : q = place
  · subst hq
    have hroot : ¬IsRoot q := not_isRoot_of_at?_ne (d := d) (by rw [h]; simp)
    rw [bytesAt?, at?_set_self hroot, bytesAt?_of_at?_eq_none h]
  · exact bytesAt?_set_of_ne hq d .folder

/-- A file that is put where nothing stood and taken away again leaves no trace. -/
theorem sameFiles_unlink {d d' : Disk} {place : List String} (h : d.at? place = none)
    (hsame : ∀ q, q ≠ place → d'.bytesAt? q = d.bytesAt? q) :
    SameFiles d (d'.unlink place) := by
  intro q
  by_cases hq : q = place
  · subst hq
    have hroot : ¬IsRoot q := not_isRoot_of_at?_ne (d := d) (by rw [h]; simp)
    rw [bytesAt?, at?_unlink_self hroot, bytesAt?_of_at?_eq_none h]
  · rw [← hsame q hq, bytesAt?, at?_unlink_of_ne hq, bytesAt?]

-- ===================================================== reading and writing

/-- A file that was read is there, and the bytes are its own. -/
theorem readFile_ok {d : Disk} {p : Path} {bytes : List UInt8} (h : d.readFile p = .ok bytes) :
    d.contains p ∧ d.bytesAt? p.place = some bytes := by
  unfold readFile at h
  cases hcheck : d.check .readContent with
  | error t => simp [hcheck, bind, Except.bind] at h
  | ok u =>
      simp only [hcheck, bind, Except.bind, read] at h
      split at h
      · next bytes' hfind =>
        cases h
        exact ⟨by rw [contains, hfind]; rfl, by rw [bytesAt?, show d.at? p.place = _ from hfind]⟩
      · cases h
      · cases h

/-- A file can be read unless a fault is set for that. -/
theorem readFile_of_bytesAt? {d : Disk} {p : Path} {bytes : List UInt8}
    (h : d.bytesAt? p.place = some bytes) (hcheck : d.check .readContent = .ok ()) :
    d.readFile p = .ok bytes := by
  unfold bytesAt? at h
  split at h
  · next bytes' hat =>
    cases h
    simp only [readFile, hcheck, bind, Except.bind, read, find?, hat]
  · cases h

/-- A file that can be written in place holds the bytes, and nothing else changes. -/
theorem write_ok {d d' : Disk} {p : Path} {bytes : List UInt8} (h : d.write p bytes = .ok d') :
    ¬IsRoot p.place ∧ d' = d.set p.place (.file bytes) := by
  unfold write at h
  split at h
  · cases h
  · next bytes' hfind =>
    cases h
    exact ⟨not_isRoot_of_at?_ne (d := d) (by rw [show d.at? p.place = _ from hfind]; simp), rfl⟩
  · next hfind =>
    split at h
    · cases h
    · split at h
      · cases h
        exact ⟨not_isRoot_of_at?_ne (d := d) (by rw [show d.at? p.place = _ from hfind]; simp), rfl⟩
      · cases h

/-- A copy that can be written aside holds the bytes, and no other file changes. -/
theorem writeBackup_ok {d d' : Disk} {p : Path} {bytes : List UInt8}
    (h : d.writeBackup p bytes = .ok d') :
    d'.bytesAt? p.place = some bytes
      ∧ ∀ place, place ≠ p.place → d'.bytesAt? place = d.bytesAt? place := by
  unfold writeBackup at h
  cases hcheck : d.check .writeBackup with
  | error t => simp [hcheck, bind, Except.bind] at h
  | ok u =>
      simp only [hcheck, bind, Except.bind] at h
      obtain ⟨hroot, rfl⟩ := write_ok h
      exact ⟨bytesAt?_set_self hroot d bytes, fun place hne => bytesAt?_set_of_ne hne d _⟩

-- ===================================================== folders

/-- Making the folders on the way to a place changes no file. -/
theorem sameFiles_addAncestors (d : Disk) (place : List String) :
    SameFiles d (d.addAncestors place) := by
  unfold addAncestors
  generalize ancestors place = places
  induction places generalizing d with
  | nil => exact SameFiles.refl d
  | cons a places ih =>
      rw [List.foldl_cons]
      refine SameFiles.trans ?_ (ih _)
      split
      · exact SameFiles.refl d
      · next hnone => exact sameFiles_set_folder (by simpa using hnone)

/-- The folders on the way to a place are shorter than it. -/
theorem at?_addAncestors_of_length {place q : List String} (h : place.length ≤ q.length)
    (d : Disk) : (d.addAncestors place).at? q = d.at? q := by
  have hne : ∀ a ∈ ancestors place, q ≠ a := by
    intro a ha hqa
    obtain ⟨n, hn, rfl⟩ := List.mem_map.1 ha
    have hlength := congrArg List.length hqa
    rw [List.length_take] at hlength
    rw [List.mem_range] at hn
    omega
  unfold addAncestors
  generalize ancestors place = places at *
  induction places generalizing d with
  | nil => rfl
  | cons a places ih =>
      rw [List.foldl_cons, ih _ fun b hb => hne b (List.mem_cons_of_mem a hb)]
      split
      · rfl
      · exact at?_set_of_ne (hne a List.mem_cons_self) d .folder

end PaneWatch.Disk
