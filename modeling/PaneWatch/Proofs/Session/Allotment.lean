/-
How the room in a name is allotted to three components.

A component within its share stays as it is. A longer one may be left whole, or cut to any length
from its share on, and together the three fill the budget: that is what every allotment has to keep
to (`IsAllotment`), and it leaves a choice. Cutting serves the branch first and the project last,
so a component stays cut only while those that are served after it have no more than their
shares (`IsServed`).

That settles the choice. A part is known from its length (`IsAllotted.eq_of_length`), so two
allotments are compared by three lengths each: what one of them gives the branch in addition, it
has to take from a part that is at its least already (`IsServed.best`).
-/
import PaneWatch.Proofs.Session.Cut

namespace PaneWatch.Session.Name

variable {full part other : List Char} {t u v : Triple} {n : Nat}

-- ===================================================== one component

/-- What may be made of a component when there is too little room for all three. -/
structure IsAllotted (full part : List Char) : Prop where
  /-- Within its share a component stays as it is. -/
  short : full.length ≤ 14 → part = full
  /-- A part is a whole component, or a cut one that is no shorter than a share. -/
  cut : part = full ∨ 14 ≤ part.length ∧ part.length < full.length
    ∧ part = full.take (part.length - 1) ++ ['~']

private theorem isAllotted_shorten (hn : 14 ≤ n) (full : List Char) :
    IsAllotted full (shorten n full) := by
  by_cases hfits : full.length ≤ n
  · rw [(shorten_eq_self_iff (by omega)).2 hfits]
    exact ⟨fun _ => rfl, .inl rfl⟩
  · have hlength : (shorten n full).length = n := by
      rw [length_shorten (by omega)]
      omega
    refine ⟨fun hshort => absurd hshort (by omega), .inr ⟨by omega, by omega, ?_⟩⟩
    rw [hlength]
    exact shorten_of_lt (by omega)

namespace IsAllotted

/-- An allotment is no longer than what it is one of. -/
theorem length_le (h : IsAllotted full part) : part.length ≤ full.length := by
  rcases h.cut with rfl | ⟨-, hlt, -⟩
  · exact Nat.le_refl _
  · exact Nat.le_of_lt hlt

/-- No part is shorter than a share unless the component is. -/
theorem least_le (h : IsAllotted full part) : min full.length 14 ≤ part.length := by
  rcases h.cut with rfl | ⟨hleast, -, -⟩
  · omega
  · omega

private theorem eq_shorten (h : IsAllotted full part) : part = shorten part.length full := by
  rcases h.cut with rfl | ⟨-, hlt, hpart⟩
  · exact (if_pos (Nat.le_refl _)).symm
  · rw [shorten_of_lt hlt]
    exact hpart

/-- Two allotments of one length are the same. -/
theorem eq_of_length (h : IsAllotted full part) (h' : IsAllotted full other)
    (hlength : part.length = other.length) : part = other := by
  rw [h.eq_shorten, h'.eq_shorten, hlength]

end IsAllotted

-- ===================================================== three components

/-- That three parts are made of three components and fill the budget. -/
structure IsAllotment (t u : Triple) : Prop where
  project : IsAllotted t.project u.project
  worktree : IsAllotted t.worktree u.worktree
  branch : IsAllotted t.branch u.branch
  size : u.size = 42

/-- That the parts are served in order: one that is still cut leaves nothing beyond their shares to
those after it. -/
structure IsServed (t u : Triple) : Prop where
  branch : u.branch ≠ t.branch → u.project.length ≤ 14 ∧ u.worktree.length ≤ 14
  worktree : u.worktree ≠ t.worktree → u.project.length ≤ 14

/-- That the branch has less than in another allotment, or as much and the worktree has less. -/
def Triple.GivesLess (u v : Triple) : Prop :=
  u.branch.length < v.branch.length
    ∨ u.branch.length = v.branch.length ∧ u.worktree.length < v.worktree.length

private theorem IsAllotment.eq_of_lengths (hu : IsAllotment t u) (hv : IsAllotment t v)
    (hbranch : u.branch.length = v.branch.length)
    (hworktree : u.worktree.length = v.worktree.length) : u = v := by
  have hproject : u.project.length = v.project.length := by
    have hsize := hu.size.trans hv.size.symm
    unfold Triple.size at hsize
    omega
  cases u
  cases v
  rw [Triple.mk.injEq]
  exact ⟨hu.project.eq_of_length hv.project hproject,
    hu.worktree.eq_of_length hv.worktree hworktree, hu.branch.eq_of_length hv.branch hbranch⟩

/-- No other allotment gives as much to the components that are served first. -/
theorem IsServed.best (hserved : IsServed t v) (hv : IsAllotment t v) (hu : IsAllotment t u) :
    u = v ∨ u.GivesLess v := by
  have hproject := hu.project.least_le
  have hworktree := hu.worktree.least_le
  have husize := hu.size
  have hvsize := hv.size
  unfold Triple.size at husize hvsize
  have hbranchLe : u.branch.length ≤ v.branch.length := by
    by_cases hwhole : v.branch = t.branch
    · rw [hwhole]
      exact hu.branch.length_le
    · -- the others are at their least, and in `u` they cannot have less
      have hshares := hserved.branch hwhole
      have hprojectMost := hv.project.length_le
      have hworktreeMost := hv.worktree.length_le
      omega
  have hworktreeLe (hbranch : u.branch.length = v.branch.length) :
      u.worktree.length ≤ v.worktree.length := by
    by_cases hwhole : v.worktree = t.worktree
    · rw [hwhole]
      exact hu.worktree.length_le
    · have hshare := hserved.worktree hwhole
      have hprojectMost := hv.project.length_le
      omega
  rcases Nat.lt_or_eq_of_le hbranchLe with hless | hbranch
  · exact .inr (.inl hless)
  · rcases Nat.lt_or_eq_of_le (hworktreeLe hbranch) with hless | hequal
    · exact .inr (.inr ⟨hbranch, hless⟩)
    · exact .inl (hu.eq_of_lengths hv hbranch hequal)

-- ===================================================== cutting

private theorem isAllotment_truncate (h : 42 < t.size) : IsAllotment t (truncate t) where
  project := by
    rw [truncate_eq]
    exact isAllotted_shorten (Nat.le_add_right 14 _) _
  worktree := by
    rw [truncate_eq]
    exact isAllotted_shorten (Nat.le_add_right 14 _) _
  branch := by
    rw [truncate_eq]
    exact isAllotted_shorten (Nat.le_add_right 14 _) _
  size := size_truncate h

/-- A component that has not become whole has taken all the slack that was left to it. -/
theorem isServed_truncate (t : Triple) : IsServed t (truncate t) := by
  have hleast (s : Nat) : 1 ≤ share + s := by
    rw [share_eq]
    omega
  have hworktree : (truncate t).worktree.length
      = min t.worktree.length (share + leftOver t.slack t.branch.length) := by
    rw [truncate_eq]
    exact length_shorten (hleast _) _
  have hproject : (truncate t).project.length = min t.project.length
      (share + leftOver (leftOver t.slack t.branch.length) t.worktree.length) := by
    rw [truncate_eq]
    exact length_shorten (hleast _) _
  constructor
  · intro hcut
    rw [truncate_eq] at hcut
    have hlong : share + t.slack < t.branch.length :=
      Nat.lt_of_not_le fun hfits => hcut ((shorten_eq_self_iff (hleast _)).2 hfits)
    unfold leftOver at hworktree hproject
    rw [share_eq] at *
    omega
  · intro hcut
    rw [truncate_eq] at hcut
    have hlong : share + leftOver t.slack t.branch.length < t.worktree.length :=
      Nat.lt_of_not_le fun hfits => hcut ((shorten_eq_self_iff (hleast _)).2 hfits)
    unfold leftOver at hlong hproject
    rw [share_eq] at *
    omega

/-- Components that do not fit are cut to an allotment that serves the branch first, then the
worktree and then the project: every other allotment gives less to the branch, or as much to
the branch and less to the worktree. -/
theorem truncate_best (h : 42 < t.size) :
    IsAllotment t (truncate t) ∧ IsServed t (truncate t)
      ∧ ∀ u, IsAllotment t u → u = truncate t ∨ u.GivesLess (truncate t) :=
  ⟨isAllotment_truncate h, isServed_truncate t,
    fun _ hu => (isServed_truncate t).best (isAllotment_truncate h) hu⟩

/-- The slack of a short project makes the branch whole and leaves the worktree cut; an allotment
with a whole worktree gives the branch less. -/
theorem truncate_best_shortProject :
    let t : Triple := ⟨"ppp".toList, List.replicate 20 'w', List.replicate 20 'b'⟩
    let u : Triple := ⟨"ppp".toList, List.replicate 20 'w', List.replicate 18 'b' ++ ['~']⟩
    42 < t.size
      ∧ truncate t = ⟨"ppp".toList, List.replicate 18 'w' ++ ['~'], List.replicate 20 'b'⟩
      ∧ IsAllotment t (truncate t) ∧ IsAllotment t u ∧ u.GivesLess (truncate t) := by
  intro t u
  have hsize : 42 < t.size := by decide +kernel
  have hvalue : truncate t
      = ⟨"ppp".toList, List.replicate 18 'w' ++ ['~'], List.replicate 20 'b'⟩ := by
    decide +kernel
  obtain ⟨hallots, -, hbest⟩ := truncate_best hsize
  have hother : IsAllotment t u :=
    ⟨⟨fun _ => rfl, .inl rfl⟩, ⟨fun _ => rfl, .inl rfl⟩,
      ⟨fun hshort => absurd hshort (by decide +kernel), .inr (by decide +kernel)⟩,
      by decide +kernel⟩
  have hne : u ≠ truncate t := by
    rw [hvalue]
    decide +kernel
  exact ⟨hsize, hvalue, hallots, hother, (hbest u hother).resolve_left hne⟩

end PaneWatch.Session.Name
