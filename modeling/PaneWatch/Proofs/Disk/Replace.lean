/-
Replacing a file, whatever fails on the way.

The argument rests on the name of the new file: it is one that nothing stands
under. There always is such a name among those that are tried, since they name
different places and the tree has fewer (`freshPath_free`). So what is done to the
new file concerns no other file, and taking it away again leaves the files as
they were. Only the last step, which gives the new file its name, touches the
place that is replaced.
-/
import Mathlib.Data.List.Nodup
import Mathlib.Data.List.Perm.Subperm
import PaneWatch.Proofs.Disk.Place

namespace PaneWatch

namespace Disk

-- ===================================================== the name of the new file

/-- The name that is tried under a number. -/
def tempName (p : Path) (number : Nat) : String :=
  "." ++ p.fileName ++ "." ++ toString number ++ ".tmp"

/-- The name of a temporary file is not that of the folder around. -/
private theorem tempName_ne_dots (p : Path) (n : Nat) : tempName p n ≠ ".." := by
  intro h
  have hlength := congrArg String.length h
  have htmp : ".tmp".length = 4 := by decide
  have hdots : "..".length = 2 := by decide
  simp only [tempName, String.length_append] at hlength
  omega

private theorem tempName_ne_workFolder (p : Path) (n : Nat) : tempName p n ≠ Path.workFolder := by
  intro h
  have hfirst := congrArg (fun s => s.toList.head?) h
  simp [tempName, Path.workFolder] at hfirst

/-- A temporary file stands in the folder of the file that it is for. -/
private theorem place_tempPath (p : Path) (n : Nat) :
    (tempPath p n).place = p.parent.place ++ [tempName p n] :=
  p.place_sibling (tempName_ne_dots p n) (tempName_ne_workFolder p n)

/-- Different numbers are written differently. -/
theorem toString_inj {n m : Nat} (h : toString n = toString m) : n = m := by
  have hdigits : Nat.toDigits 10 n = Nat.toDigits 10 m := by
    have := congrArg String.toList h
    simpa [toString, Nat.repr] using this
  have hvalue := congrArg (Nat.ofDigitChars 10 · 0) hdigits
  simpa using hvalue

/-- So different numbers give different places. -/
private theorem place_tempPath_inj (p : Path) {n m : Nat}
    (h : (tempPath p n).place = (tempPath p m).place) : n = m := by
  rw [place_tempPath, place_tempPath, List.append_right_inj, List.singleton_inj] at h
  simp only [tempName, String.append_left_inj, String.append_right_inj] at h
  exact toString_inj h

private theorem not_isRoot_place_tempPath (p : Path) (n : Nat) : ¬IsRoot (tempPath p n).place := by
  rw [place_tempPath, IsRoot, not_or]
  refine ⟨by simp, ?_⟩
  intro h
  have hlast := congrArg List.getLast? h
  rw [List.getLast?_concat, List.getLast?_singleton, Option.some_inj] at hlast
  have hfirst := congrArg (fun s => s.toList.head?) hlast
  simp [tempName] at hfirst

/-- Not all names that are tried are taken. -/
theorem exists_free_tempPath (d : Disk) (p : Path) :
    ∃ n ∈ List.range (d.entries.length + 1), d.contains (tempPath p n) = false := by
  by_contra hall
  simp only [not_exists, not_and, Bool.not_eq_false] at hall
  let places := (List.range (d.entries.length + 1)).map fun n => (tempPath p n).place
  have hnodup : places.Nodup :=
    List.Nodup.map (fun _ _ h => place_tempPath_inj p h) List.nodup_range
  have hsubset : places ⊆ d.entries.map (·.1) := by
    intro place hplace
    obtain ⟨n, hn, rfl⟩ := List.mem_map.1 hplace
    have htaken := hall n hn
    rw [contains, find?, at?_of_not_isRoot (not_isRoot_place_tempPath p n),
      List.lookup_isSome_iff] at htaken
    obtain ⟨e, he, heq⟩ := htaken
    exact List.mem_map.2 ⟨e, he, (by simpa using heq : _ = e.1).symm⟩
  have hle := (List.subperm_of_subset hnodup hsubset).length_le
  simp only [places, List.length_map, List.length_range] at hle
  omega

/-- The new file gets a name that nothing stands under. -/
theorem freshPath_free (d : Disk) (p : Path) : d.at? (d.freshPath p).place = none := by
  obtain ⟨n, hn, hfree⟩ := d.exists_free_tempPath p
  have hfound : ((List.range (d.entries.length + 1)).find? fun n =>
      !d.contains (tempPath p n)).isSome := by
    rw [List.find?_isSome]
    exact ⟨n, hn, by simp [hfree]⟩
  obtain ⟨found, heq⟩ := Option.isSome_iff_exists.1 hfound
  have hnot := List.find?_some heq
  rw [freshPath, heq, Option.getD_some]
  simpa [contains, find?] using hnot

/-- A temporary file does not stand at the root. -/
private theorem not_isRoot_freshPath (d : Disk) (p : Path) : ¬IsRoot (d.freshPath p).place :=
  not_isRoot_place_tempPath p _

-- ===================================================== the steps

/-- A folder that can be made is there already, or nothing stands at its place. -/
theorem makeFolder_cases {d d' : Disk} {p : Path} (h : d.makeFolder p = .ok d') :
    d' = d ∨ d.at? p.place = none ∧ d' = (d.addAncestors p.place).set p.place .folder := by
  unfold makeFolder at h
  cases hcheck : d.check .makeFolder with
  | error t => simp [hcheck, bind, Except.bind] at h
  | ok u =>
      simp only [hcheck, bind, Except.bind, pure, Except.pure] at h
      cases hfind : d.find? p with
      | none =>
          simp only [hfind] at h
          split at h
          · cases h
          · cases h
            exact .inr ⟨hfind, rfl⟩
      | some e =>
          cases e with
          | folder =>
              simp only [hfind] at h
              cases h
              exact .inl rfl
          | file bytes =>
              simp only [hfind] at h
              cases h

/-- Making a folder leaves all files as they are. -/
private theorem makeFolder_ok {d d' : Disk} {p : Path} (h : d.makeFolder p = .ok d') :
    SameFiles d d' := by
  rcases makeFolder_cases h with rfl | ⟨hat, rfl⟩
  · exact SameFiles.refl d'
  · intro q
    by_cases hq : q = p.place
    · have hroot : ¬IsRoot q := not_isRoot_of_at?_ne (d := d) (by rw [hq, hat]; simp)
      subst hq
      rw [bytesAt?_of_at?_eq_none hat, bytesAt?, at?_set_self hroot]
    · rw [bytesAt?_set_of_ne hq, sameFiles_addAncestors d p.place]

/-- A temporary file is created at a fresh place, and it is empty. -/
private theorem createTemp_ok {d d' : Disk} {p temp : Path} (h : d.createTemp p = .ok (d', temp)) :
    temp = d.freshPath p ∧ d' = d.set temp.place (.file []) := by
  unfold createTemp at h
  cases hcheck : d.check .createTemp with
  | error t => simp [hcheck, bind, Except.bind] at h
  | ok u =>
      simp only [hcheck, bind, Except.bind, pure, Except.pure, Except.ok.injEq,
        Prod.mk.injEq] at h
      obtain ⟨rfl, rfl⟩ := h
      exact ⟨rfl, rfl⟩

/-- A new file holds the bytes that are written to it, if the writing is not made to fail. -/
theorem writeTemp_ok {d d' : Disk} {temp : Path} {before bytes : List UInt8}
    (hat : d.at? temp.place = some (.file before)) (h : d.writeTemp temp bytes = .ok d') :
    d' = d.set temp.place (.file bytes) := by
  unfold writeTemp at h
  cases hcheck : d.check .writeTemp with
  | error t => simp [hcheck, bind, Except.bind] at h
  | ok u =>
      have hfind : d.find? temp = some (.file before) := hat
      simp only [hcheck, bind, Except.bind, write, hfind, Except.ok.injEq] at h
      exact h.symm

/-- A file that is renamed stands at its new place and no longer at its old one. -/
private theorem rename_ok {d d' : Disk} {source target : Path} {bytes : List UInt8}
    (hat : d.at? source.place = some (.file bytes)) (h : d.rename source target = .ok d') :
    ¬IsRoot target.place ∧ d' = (d.unlink source.place).set target.place (.file bytes) := by
  unfold rename at h
  cases hcheck : d.check .rename with
  | error t => simp [hcheck, bind, Except.bind] at h
  | ok u =>
      have hread : d.read source = .ok bytes := by
        have hfind : d.find? source = some (.file bytes) := hat
        rw [read, hfind]
      simp only [hcheck, hread, bind, Except.bind, pure, Except.pure] at h
      split at h
      · cases h
      · next hfolder =>
        cases h
        exact ⟨not_isRoot_of_at?_ne hfolder, rfl⟩

-- ===================================================== the whole

/-- If a file cannot be replaced, all files are as they were. -/
theorem replaceFile_error {d d' : Disk} {p : Path} {bytes : List UInt8} {t : Trouble}
    (h : d.replaceFile p bytes = (.error t, d')) : SameFiles d d' := by
  unfold replaceFile at h
  cases hfolder : d.makeFolder p.parent with
  | error t' =>
      simp only [hfolder, Prod.mk.injEq] at h
      rw [← h.2]
      exact SameFiles.refl d
  | ok d₁ =>
      have hsame := makeFolder_ok hfolder
      simp only [hfolder] at h
      cases htemp : d₁.createTemp p with
      | error t' =>
          simp only [htemp, Prod.mk.injEq] at h
          rw [← h.2]
          exact hsame
      | ok made =>
          obtain ⟨d₂, temp⟩ := made
          obtain ⟨htempEq, rfl⟩ := createTemp_ok htemp
          simp only [htemp] at h
          have hfree := d₁.freshPath_free p
          rw [← htempEq] at hfree
          split at h
          · simp only [Prod.mk.injEq] at h
            rw [← h.2]
            exact hsame.trans (sameFiles_unlink hfree fun q hq => bytesAt?_set_of_ne hq d₁ _)
          · cases h

/-- If a file cannot be replaced, what stands at its path is as it was, also if that is
nothing: no folder made on the way stands there. -/
theorem at?_replaceFile_error {d d' : Disk} {p : Path} {bytes : List UInt8} {t : Trouble}
    (h : d.replaceFile p bytes = (.error t, d')) (hname : p.fileName ≠ "..") :
    d'.at? p.place = d.at? p.place := by
  rcases p.place_cases hname with hroot | hplace
  · rw [at?_of_isRoot hroot, at?_of_isRoot hroot]
  have hfolders {d₁ : Disk} (hfolder : d.makeFolder p.parent = .ok d₁) :
      d₁.at? p.place = d.at? p.place := by
    rcases makeFolder_cases hfolder with rfl | ⟨-, rfl⟩
    · rfl
    · rw [hplace, at?_set_of_ne (by simp), at?_addAncestors_of_length (by simp)]
  unfold replaceFile at h
  cases hfolder : d.makeFolder p.parent with
  | error t' =>
      simp only [hfolder, Prod.mk.injEq] at h
      rw [h.2]
  | ok d₁ =>
      simp only [hfolder] at h
      cases htemp : d₁.createTemp p with
      | error t' =>
          simp only [htemp, Prod.mk.injEq] at h
          rw [← h.2, hfolders hfolder]
      | ok made =>
          obtain ⟨d₂, temp⟩ := made
          obtain ⟨rfl, rfl⟩ := createTemp_ok htemp
          simp only [htemp] at h
          split at h
          · simp only [Prod.mk.injEq] at h
            rw [← h.2, ← hfolders hfolder]
            by_cases hq : p.place = (d₁.freshPath p).place
            · rw [hq, at?_unlink_self (d₁.not_isRoot_freshPath p), d₁.freshPath_free p]
            · rw [at?_unlink_of_ne hq, at?_set_of_ne hq]
          · cases h

/-- A file that is replaced has gone through all four steps. -/
theorem replaceFile_steps {d d' : Disk} {p : Path} {bytes : List UInt8}
    (h : d.replaceFile p bytes = (.ok (), d')) :
    ∃ d₁ d₂ d₃ temp, d.makeFolder p.parent = .ok d₁ ∧ d₁.createTemp p = .ok (d₂, temp)
      ∧ d₂.writeTemp temp bytes = .ok d₃ ∧ d₃.rename temp p = .ok d' := by
  unfold replaceFile at h
  cases hfolder : d.makeFolder p.parent with
  | error t => simp [hfolder] at h
  | ok d₁ =>
      simp only [hfolder] at h
      cases htemp : d₁.createTemp p with
      | error t => simp [htemp] at h
      | ok made =>
          obtain ⟨d₂, temp⟩ := made
          simp only [htemp] at h
          cases hwrite : d₂.writeTemp temp bytes with
          | error t => simp [hwrite, bind, Except.bind] at h
          | ok d₃ =>
              cases hrename : d₃.rename temp p with
              | error t => simp [hwrite, hrename, bind, Except.bind] at h
              | ok d₄ =>
                  simp only [hwrite, hrename, bind, Except.bind, Prod.mk.injEq, true_and] at h
                  obtain rfl := h
                  exact ⟨d₁, d₂, d₃, temp, rfl, htemp, hwrite, hrename⟩

/-- If a file is replaced, it holds the new bytes, and all others are as they were. -/
theorem replaceFile_ok {d d' : Disk} {p : Path} {bytes : List UInt8}
    (h : d.replaceFile p bytes = (.ok (), d')) :
    d'.bytesAt? p.place = some bytes
      ∧ ∀ place, place ≠ p.place → d'.bytesAt? place = d.bytesAt? place := by
  obtain ⟨d₁, d₂, d₃, temp, hfolder, htemp, hwrite, hrename⟩ := replaceFile_steps h
  have hsame := makeFolder_ok hfolder
  obtain ⟨rfl, rfl⟩ := createTemp_ok htemp
  have hfree := d₁.freshPath_free p
  have hroot := d₁.not_isRoot_freshPath p
  obtain rfl := writeTemp_ok (at?_set_self hroot d₁ _) hwrite
  obtain ⟨htarget, rfl⟩ := rename_ok (at?_set_self hroot _ _) hrename
  refine ⟨bytesAt?_set_self htarget _ bytes, ?_⟩
  intro place hplace
  rw [bytesAt?_set_of_ne hplace, ← hsame place]
  refine sameFiles_unlink hfree (fun q hq => ?_) place
  rw [bytesAt?_set_of_ne hq, bytesAt?_set_of_ne hq]

-- ===================================================== faults

/-- The points at which replacing a file can be made to fail. -/
def replacePoints : List FaultPoint := [.makeFolder, .createTemp, .writeTemp, .rename]

/-- Making folders sets and lifts no faults. -/
private theorem faults_addAncestors (d : Disk) (place : List String) :
    (d.addAncestors place).faults = d.faults := by
  unfold addAncestors
  generalize ancestors place = places
  induction places generalizing d with
  | nil => rfl
  | cons a places ih =>
      rw [List.foldl_cons, ih]
      split <;> rfl

/-- What has succeeded behind a check has passed it. -/
private theorem check_ok_of_bind {d : Disk} {α : Type} {point : FaultPoint}
    {next : Except Trouble α}
    {a : α} (h : (do d.check point; next) = .ok a) : d.check point = .ok () := by
  cases hcheck : d.check point with
  | error t => simp [hcheck, bind, Except.bind] at h
  | ok u => rfl

/-- A fault at any of the points makes the whole fail. -/
theorem replaceFile_fault {d : Disk} {point : FaultPoint} (hpoint : point ∈ replacePoints)
    (hset : (d.faults.lookup point).isSome) (p : Path) (bytes : List UInt8) :
    ∃ t d', d.replaceFile p bytes = (.error t, d') := by
  rcases h : d.replaceFile p bytes with ⟨t | u, d'⟩
  · exact ⟨t, d', rfl⟩
  obtain ⟨d₁, d₂, d₃, temp, hfolder, htemp, hwrite, hrename⟩ := replaceFile_steps h
  exfalso
  have hpasses (e : Disk) (hfaults : e.faults = d.faults) (hcheck : e.check point = .ok ()) :
      False := by
    obtain ⟨reason, hreason⟩ := Option.isSome_iff_exists.1 hset
    rw [check, hfaults, hreason] at hcheck
    cases hcheck
  have hfaults₁ : d₁.faults = d.faults := by
    rcases makeFolder_cases hfolder with rfl | ⟨-, rfl⟩
    · rfl
    · exact faults_addAncestors d _
  obtain ⟨rfl, rfl⟩ := createTemp_ok htemp
  have hroot := d₁.not_isRoot_freshPath p
  obtain rfl := writeTemp_ok (at?_set_self hroot d₁ _) hwrite
  simp only [replacePoints, List.mem_cons, List.not_mem_nil, or_false] at hpoint
  rcases hpoint with rfl | rfl | rfl | rfl
  · exact hpasses d rfl (check_ok_of_bind hfolder)
  · exact hpasses d₁ hfaults₁ (check_ok_of_bind htemp)
  · exact hpasses _ hfaults₁ (check_ok_of_bind hwrite)
  · exact hpasses _ hfaults₁ (check_ok_of_bind hrename)

end Disk

end PaneWatch
