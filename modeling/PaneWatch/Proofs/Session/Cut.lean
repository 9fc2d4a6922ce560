/-
How components are cut to the room that a name has.

`shorten n` is what a component becomes that may take up `n` characters: itself if it fits, and else
its beginning with the cut mark behind it. A component that is handed back some slack is
shortened to so much more room (`handBack_shorten`), so that what cutting makes of three
components is the three of them shortened, each to a room of its own (`truncate_eq`). What is
left is arithmetic with three lengths: components that do not fit into the budget fill it
exactly once they are cut (`size_truncate`).
-/
import PaneWatch.Session.Name

namespace PaneWatch.Session.Name

variable {full part : List Char} {n : Nat}

theorem budget_eq : budget = 42 := by decide

theorem share_eq : share = 14 := by decide

-- ===================================================== shortening

/-- A component in a room of some characters. -/
def shorten (n : Nat) (full : List Char) : List Char :=
  if full.length ≤ n then full else cutTo n full

/-- What is cut to a room fills it. -/
private theorem length_cutTo (hn : 1 ≤ n) (hcut : n ≤ full.length) : (cutTo n full).length = n := by
  rw [cutTo, List.length_append, List.length_take, List.length_singleton]
  omega

/-- What is shortened takes up the room, or less if it is shorter. -/
theorem length_shorten (hn : 1 ≤ n) (full : List Char) :
    (shorten n full).length = min full.length n := by
  unfold shorten
  split
  · omega
  · rw [length_cutTo hn (by omega)]
    omega

/-- Only what fits is not shortened. -/
theorem shorten_eq_self_iff (hn : 1 ≤ n) : shorten n full = full ↔ full.length ≤ n := by
  constructor
  · intro h
    have hlength := length_shorten hn full
    rw [h] at hlength
    omega
  · exact fun h => if_pos h

/-- What does not fit is cut. -/
theorem shorten_of_lt (h : n < full.length) : shorten n full = cutTo n full := if_neg (by omega)

/-- Slack that is handed back to a shortened component gives it more room. -/
theorem handBack_shorten (hn : 1 ≤ n) (full : List Char) (slack : Nat) :
    handBack full (shorten n full) slack
      = (shorten (n + slack) full, slack - (min full.length (n + slack) - min full.length n)) := by
  unfold handBack
  by_cases hfits : full.length ≤ n
  · rw [if_pos (.inr ((shorten_eq_self_iff hn).2 hfits)), (shorten_eq_self_iff hn).2 hfits,
      (shorten_eq_self_iff (by omega)).2 (by omega : full.length ≤ n + slack)]
    congr 1
    omega
  · have hpart : shorten n full ≠ full := fun h => hfits ((shorten_eq_self_iff hn).1 h)
    by_cases hslack : slack = 0
    · rw [if_pos (.inl hslack), hslack]
      congr 1
      omega
    · rw [if_neg (not_or.2 ⟨hslack, hpart⟩)]
      dsimp only
      rw [length_shorten hn]
      by_cases hwhole : full.length ≤ n + slack
      · rw [if_pos (by omega), (shorten_eq_self_iff (by omega)).2 hwhole]
        congr 1
        omega
      · have htarget : min full.length (min full.length n + slack) = n + slack := by omega
        rw [htarget, if_neg (by omega), shorten_of_lt (by omega),
          length_cutTo (by omega) (by omega)]
        congr 1
        omega

-- ===================================================== three components

/-- The slack when each component has its share at most. -/
def Triple.slack (t : Triple) : Nat :=
  budget - (min t.project.length share + min t.worktree.length share + min t.branch.length share)

/-- What is left of some slack when a component of some length has taken what it can use. -/
def leftOver (slack length : Nat) : Nat :=
  slack - (min length (share + slack) - min length share)

/-- Cutting shortens each component, first the branch. -/
theorem truncate_eq (t : Triple) :
    truncate t =
      { project := shorten
          (share + leftOver (leftOver t.slack t.branch.length) t.worktree.length) t.project
        worktree := shorten (share + leftOver t.slack t.branch.length) t.worktree
        branch := shorten (share + t.slack) t.branch } := by
  have hshare : 1 ≤ share := by decide
  have hsize : budget - (t.map cutToShare).size = t.slack := by
    show budget - ((shorten share t.project).length + (shorten share t.worktree).length
      + (shorten share t.branch).length) = t.slack
    rw [length_shorten hshare, length_shorten hshare, length_shorten hshare, Triple.slack]
  have hbranch : handBack t.branch (t.map cutToShare).branch t.slack = _ :=
    handBack_shorten hshare t.branch t.slack
  have hworktree (s : Nat) : handBack t.worktree (t.map cutToShare).worktree s = _ :=
    handBack_shorten hshare t.worktree s
  have hproject (s : Nat) : handBack t.project (t.map cutToShare).project s = _ :=
    handBack_shorten hshare t.project s
  unfold truncate
  dsimp only
  rw [hsize, hbranch, hworktree, hproject]
  rfl

/-- Components that do not fit are cut to fill the budget. -/
theorem size_truncate {t : Triple} (h : budget < t.size) : (truncate t).size = budget := by
  have hshare : 1 ≤ share := by decide
  rw [truncate_eq, Triple.size]
  dsimp only
  rw [length_shorten (by omega), length_shorten (by omega), length_shorten (by omega)]
  unfold Triple.size at h
  unfold leftOver Triple.slack
  rw [budget_eq] at h ⊢
  rw [share_eq]
  omega

-- ===================================================== what is left of a component

/-- That a part is a whole component, or a proper beginning of it with the cut mark behind it. -/
def IsCut (full part : List Char) : Prop :=
  part = full ∨ ∃ kept, kept <+: full ∧ kept ≠ full ∧ part = kept ++ [cutMark]

/-- Shortening cuts a component or leaves it as it is. -/
private theorem isCut_shorten (hn : 1 ≤ n) (full : List Char) : IsCut full (shorten n full) := by
  by_cases hfits : full.length ≤ n
  · exact .inl ((shorten_eq_self_iff hn).2 hfits)
  · refine .inr ⟨full.take (n - 1), List.take_prefix _ _, ?_, shorten_of_lt (by omega)⟩
    intro hwhole
    have hlength := congrArg List.length hwhole
    rw [List.length_take] at hlength
    omega

/-- A part of a component has no characters but those of the component and the cut mark. -/
theorem IsCut.mem {c : Char} (h : IsCut full part) (hc : c ∈ part) : c ∈ full ∨ c = cutMark := by
  rcases h with rfl | ⟨kept, hkept, -, rfl⟩
  · exact .inl hc
  · rcases List.mem_append.1 hc with hmem | hmark
    · exact .inl (hkept.subset hmem)
    · exact .inr (List.mem_singleton.1 hmark)

/-- Cutting leaves something of a component. -/
theorem IsCut.ne_nil (h : IsCut full part) (hfull : full ≠ []) : part ≠ [] := by
  rcases h with rfl | ⟨kept, -, -, rfl⟩
  · exact hfull
  · simp

/-- Each part of a truncated triple is cut or left as it is. -/
theorem isCut_truncate (t : Triple) :
    IsCut t.project (truncate t).project ∧ IsCut t.worktree (truncate t).worktree
      ∧ IsCut t.branch (truncate t).branch := by
  have hroom (s : Nat) : 1 ≤ share + s := by rw [share_eq]; omega
  rw [truncate_eq]
  exact ⟨isCut_shorten (hroom _) _, isCut_shorten (hroom _) _, isCut_shorten (hroom _) _⟩

end PaneWatch.Session.Name
