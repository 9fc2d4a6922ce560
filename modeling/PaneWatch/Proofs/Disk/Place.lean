/-
Places of paths that differ in their last part.

A path whose last part is a pair of dots names the folder of its own parent, and
one of a single part that stands for the folder of the program names that folder.
With any other last part a path names a place in the folder of its parent, so
files beside a path have places of their own.
-/
import PaneWatch.Proofs.Disk.Tree

namespace PaneWatch

namespace Path

private theorem settle_concat {name : String} (h : name ≠ "..") (parts : List String) :
    settle (parts ++ [name]) = settle parts ++ [name] := by
  simp [settle, List.foldl_append, h]

/-- A sibling with an ordinary name stands in the same folder. -/
theorem place_sibling (p : Path) {name : String} (h : name ≠ "..") (hwork : name ≠ workFolder) :
    (p.sibling name).place = p.parent.place ++ [name] := by
  obtain ⟨absolute, parts⟩ := p
  cases absolute with
  | true => simp [place, sibling, parent, settle_concat h]
  | false =>
      simp only [place, sibling, parent, Bool.false_eq_true, if_false]
      generalize parts.dropLast = dirs
      cases dirs with
      | nil => simp [hwork, settle, h]
      | cons first rest =>
          by_cases hfirst : first = workFolder
          · simp [hfirst, settle_concat h]
          · simpa [hfirst] using settle_concat h (first :: rest)

/-- A path whose last part is no pair of dots names a place in the folder of its parent,
or one of the places that are always folders. -/
theorem place_cases (p : Path) (h : p.fileName ≠ "..") :
    Disk.IsRoot p.place ∨ p.place = p.parent.place ++ [p.fileName] := by
  obtain ⟨absolute, parts⟩ := p
  rcases List.eq_nil_or_concat parts with rfl | ⟨dirs, name, rfl⟩
  · cases absolute with
    | true => exact .inl (.inr rfl)
    | false => exact .inl (.inl rfl)
  · simp only [fileName, List.concat_eq_append, List.getLast?_concat, Option.getD_some] at h ⊢
    cases absolute with
    | true => simp [place, parent, settle_concat h]
    | false =>
        simp only [place, parent, Bool.false_eq_true, if_false, List.dropLast_concat]
        cases dirs with
        | nil =>
            by_cases hwork : name = workFolder
            · exact .inl (.inl (by simp [hwork, settle]))
            · exact .inr (by simp [hwork, settle, h])
        | cons first rest =>
            by_cases hfirst : first = workFolder
            · simp [hfirst, settle_concat h]
            · exact .inr (by simpa [hfirst] using settle_concat h (first :: rest))

/-- A path whose last part is a pair of dots names nothing in the folder of its parent. -/
theorem length_place_le (p : Path) (h : p.fileName = "..") :
    p.place.length ≤ p.parent.place.length := by
  obtain ⟨absolute, parts⟩ := p
  rcases List.eq_nil_or_concat parts with rfl | ⟨dirs, name, rfl⟩
  · simp [fileName] at h
  · simp only [fileName, List.concat_eq_append, List.getLast?_concat, Option.getD_some] at h
    subst h
    have hdots (parts : List String) :
        (settle (parts ++ [".."])).length ≤ (settle parts).length := by
      simp [settle, List.foldl_append]
    cases absolute with
    | true => simpa [place, parent] using hdots dirs
    | false =>
        simp only [place, parent, Bool.false_eq_true, if_false, List.concat_eq_append,
          List.dropLast_concat]
        cases dirs with
        | nil => simp [settle, workFolder]
        | cons first rest =>
            by_cases hfirst : first = workFolder
            · simpa [hfirst] using hdots rest
            · simpa [hfirst] using hdots (first :: rest)

/-- What is added to the text of a path goes to its last part. That of a path without parts is
what its text has in place of them. -/
def stem (p : Path) : String :=
  if p.parts.isEmpty then if p.absolute then "" else "." else p.fileName

private theorem extend_eq (p : Path) (tail : String) :
    p.extend tail = p.sibling (p.stem ++ tail) := by
  unfold extend stem
  by_cases hempty : p.parts.isEmpty
  · rw [if_pos hempty, if_pos hempty]
    by_cases habsolute : p.absolute
    · simp [habsolute]
    · simp [habsolute]
  · rw [if_neg hempty, if_neg hempty]

private theorem length_fileName_le (p : Path) : p.fileName.length ≤ p.stem.length := by
  unfold stem
  by_cases hempty : p.parts.isEmpty
  · rw [fileName, List.isEmpty_iff.1 hempty]
    exact Nat.zero_le _
  · exact Nat.le_of_eq (by rw [if_neg hempty])

private theorem place_extend (p : Path) {tail : String} (h : 6 ≤ tail.length) :
    (p.extend tail).place = p.parent.place ++ [p.stem ++ tail] := by
  have hlength : (p.stem ++ tail).length = p.stem.length + tail.length := String.length_append _ _
  rw [extend_eq]
  apply p.place_sibling
  · intro hdots
    rw [hdots, show "..".length = 2 by decide] at hlength
    omega
  · intro hwork
    rw [hwork, show workFolder.length = 5 by decide] at hlength
    omega

/-- Two long tails at one path give one place only if they are the same. -/
theorem place_extend_inj (p : Path) {tail tail' : String} (h : 6 ≤ tail.length)
    (h' : 6 ≤ tail'.length) : (p.extend tail).place = (p.extend tail').place ↔ tail = tail' := by
  rw [place_extend p h, place_extend p h']
  simp

/-- A path with a longer name names another place than the path. -/
theorem place_extend_ne (p : Path) {tail : String} (h : 6 ≤ tail.length) :
    (p.extend tail).place ≠ p.place := by
  have hlength : (p.stem ++ tail).length = p.stem.length + tail.length := String.length_append _ _
  rw [place_extend p h]
  intro heq
  by_cases hdots : p.fileName = ".."
  · have hle := p.length_place_le hdots
    rw [← heq, List.length_append, List.length_singleton] at hle
    omega
  · rcases p.place_cases hdots with hroot | hplace
    · -- the name is longer than that of the root
      rcases heq ▸ hroot with hnil | hslash
      · simp at hnil
      · have hname := (List.append_eq_singleton_iff.1 hslash).resolve_right (by simp)
        rw [List.singleton_inj.1 hname.2, show "/".length = 1 by decide] at hlength
        omega
    · rw [hplace, List.append_right_inj, List.singleton_inj] at heq
      have hstem := p.length_fileName_le
      rw [heq] at hlength
      omega

end Path

end PaneWatch
