/-
Names that two triples share.

A name is read back as the parts that it was joined from, so two triples with one name have the
same parts in it. A part without a tilde is a whole component, since sanitizing leaves no tilde,
and one with a tilde is what is left of a longer one. So a name without a tilde has one sanitized
triple, and one with a tilde is shared by all that agree in what was kept of them
(`generate_collides`).

Whether a name has a tilde is told by the lengths alone: components that do not fit are cut to fill
the budget exactly, which they exceed, so not all of them can be whole.
-/
import PaneWatch.Proofs.Session.Name

namespace PaneWatch.Session.Name

variable {x y part : List Char} {t u : Triple}

-- ===================================================== the tilde

private theorem IsComponent.cutMark_notMem (h : IsComponent x) : cutMark ∉ x := h.notMem (by decide)

/-- A part that is not the whole component has a tilde. -/
theorem IsCut.cutMark_mem (h : IsCut x part) (hne : part ≠ x) : cutMark ∈ part := by
  rcases h with rfl | ⟨kept, -, -, rfl⟩
  · exact absurd rfl hne
  · simp

private theorem mem_join_iff {c : Char} (hc : isKept c = false) (hdash : c ≠ '-') :
    c ∈ join t ↔ c ∈ t.project ∨ c ∈ t.worktree ∨ c ∈ t.branch := by
  have hmarker : c ∉ marker := by
    intro hmem
    have hall : ∀ d ∈ marker, isKept d = true := List.all_eq_true.1 (by decide +kernel)
    rw [hall c hmem] at hc
    cases hc
  simp [join, hmarker, hdash]

/-- A name has a tilde exactly if its components do not fit. -/
theorem cutMark_mem_ofTriple_iff (h : t.IsSanitized) : cutMark ∈ ofTriple t ↔ 42 < t.size := by
  rw [ofTriple_eq, mem_join_iff (by decide) (by decide), ← budget_eq]
  constructor
  · intro hmark
    by_contra hfits
    rw [fitted_eq_self (by omega)] at hmark
    rcases hmark with hp | hw | hb
    · exact h.project.cutMark_notMem hp
    · exact h.worktree.cutMark_notMem hw
    · exact h.branch.cutMark_notMem hb
  · intro hlong
    obtain ⟨hproject, hworktree, hbranch⟩ := isCut_fitted t
    have hsize := size_fitted t
    by_contra hnone
    simp only [not_or] at hnone
    -- without a tilde all parts are whole, and then they are longer than the budget
    have hp : t.fitted.project = t.project := by
      by_contra hne
      exact hnone.1 (hproject.cutMark_mem hne)
    have hw : t.fitted.worktree = t.worktree := by
      by_contra hne
      exact hnone.2.1 (hworktree.cutMark_mem hne)
    have hb : t.fitted.branch = t.branch := by
      by_contra hne
      exact hnone.2.2 (hbranch.cutMark_mem hne)
    rw [Triple.size, hp, hw, hb, ← Triple.size] at hsize
    omega

-- ===================================================== shared parts

/-- That a part of a name stands for two components: it is both of them, or the beginning that was
kept of both. -/
def StandsForBoth (x y part : List Char) : Prop :=
  part = x ∧ part = y
    ∨ ∃ kept, part = kept ++ [cutMark] ∧ (kept <+: x ∧ kept ≠ x) ∧ kept <+: y ∧ kept ≠ y

private theorem standsForBoth_of_isCut (hx : IsCut x part) (hy : IsCut y part)
    (hmarkx : cutMark ∉ x)
    (hmarky : cutMark ∉ y) : StandsForBoth x y part := by
  rcases hx with rfl | ⟨kept, hkept, hne, rfl⟩
  · -- a part without a tilde is whole for the other one too
    left
    refine ⟨rfl, ?_⟩
    by_contra hne
    exact hmarkx (hy.cutMark_mem hne)
  · right
    rcases hy with rfl | ⟨kept', hkept', hne', hsame⟩
    · exact absurd (by simp) hmarky
    · obtain rfl : kept = kept' := (List.append_left_inj _).1 hsame
      exact ⟨kept, rfl, ⟨hkept, hne⟩, hkept', hne'⟩

/-- A part without a tilde stands for one component only. -/
theorem StandsForBoth.eq (h : StandsForBoth x y part) (hmark : cutMark ∉ part) : x = y := by
  rcases h with ⟨rfl, rfl⟩ | ⟨kept, rfl, -, -⟩
  · rfl
  · exact absurd (by simp) hmark

/-- Triples with one name have the same parts in it. -/
theorem fitted_eq_of_ofTriple_eq (ht : t.IsSanitized) (hu : u.IsSanitized)
    (h : ofTriple t = ofTriple u) : t.fitted = u.fitted := by
  have hread := parseChars?_ofTriple ht
  rw [h, parseChars?_ofTriple hu] at hread
  exact (Option.some.inj hread).symm

private theorem standsForBoth_fitted (ht : t.IsSanitized) (hu : u.IsSanitized)
    (h : ofTriple t = ofTriple u) :
    StandsForBoth t.project u.project t.fitted.project
      ∧ StandsForBoth t.worktree u.worktree t.fitted.worktree
      ∧ StandsForBoth t.branch u.branch t.fitted.branch := by
  obtain ⟨htp, htw, htb⟩ := isCut_fitted t
  obtain ⟨hup, huw, hub⟩ := isCut_fitted u
  rw [← fitted_eq_of_ofTriple_eq ht hu h] at hup huw hub
  exact ⟨standsForBoth_of_isCut htp hup ht.project.cutMark_notMem hu.project.cutMark_notMem,
    standsForBoth_of_isCut htw huw ht.worktree.cutMark_notMem hu.worktree.cutMark_notMem,
    standsForBoth_of_isCut htb hub ht.branch.cutMark_notMem hu.branch.cutMark_notMem⟩

-- ===================================================== generated names

private theorem toList_generate (p w b : String) : (generate p w b).toList
    = ofTriple ⟨(sanitize p).toList, (sanitize w).toList, (sanitize b).toList⟩ := by
  simp only [generate, Triple.map, sanitize, String.toList_ofList]

private theorem isComponent_sanitize (s : String) : IsComponent (sanitize s).toList := by
  rw [sanitize, String.toList_ofList]
  exact isComponent_sanitizeChars s.toList

private theorem isSanitized_sanitize (p w b : String) :
    Triple.IsSanitized ⟨(sanitize p).toList, (sanitize w).toList, (sanitize b).toList⟩ := by
  -- the projections are reduced first: unifying them would open the characters of the texts
  constructor
  case project => simpa only using isComponent_sanitize p
  case worktree => simpa only using isComponent_sanitize w
  case branch => simpa only using isComponent_sanitize b

/-- A name has a tilde exactly if the sanitized components have more than 42 characters. If it has
none, all triples with that name have the same sanitized components. If it has one, they were
all too long, and what is read of the name stands for the components of each: it is the same
component in both, or the same beginning was kept of two that were cut. -/
theorem generate_collides (p w b : String) :
    (cutMark ∈ (generate p w b).toList
        ↔ 42 < (sanitize p).length + (sanitize w).length + (sanitize b).length)
      ∧ ∀ p' w' b', generate p w b = generate p' w' b' →
        (cutMark ∉ (generate p w b).toList →
          sanitize p = sanitize p' ∧ sanitize w = sanitize w' ∧ sanitize b = sanitize b')
        ∧ (cutMark ∈ (generate p w b).toList →
          42 < (sanitize p').length + (sanitize w').length + (sanitize b').length
          ∧ ∃ x y z, parse? (generate p w b) = some (x, y, z)
            ∧ StandsForBoth (sanitize p).toList (sanitize p').toList x.toList
            ∧ StandsForBoth (sanitize w).toList (sanitize w').toList y.toList
            ∧ StandsForBoth (sanitize b).toList (sanitize b').toList z.toList) := by
  have hmark (p w b : String) : cutMark ∈ (generate p w b).toList
      ↔ 42 < (sanitize p).length + (sanitize w).length + (sanitize b).length := by
    rw [toList_generate, cutMark_mem_ofTriple_iff (isSanitized_sanitize p w b)]
    simp only [Triple.size, String.length_toList]
  refine ⟨hmark p w b, ?_⟩
  intro p' w' b' hsame
  have ht := isSanitized_sanitize p w b
  have hchars := congrArg String.toList hsame
  rw [toList_generate, toList_generate] at hchars
  obtain ⟨hp, hw, hb⟩ := standsForBoth_fitted ht (isSanitized_sanitize p' w' b') hchars
  dsimp only at hp hw hb
  constructor
  · intro hnone
    rw [toList_generate, ofTriple_eq, mem_join_iff (by decide) (by decide)] at hnone
    simp only [not_or] at hnone
    exact ⟨String.toList_inj.1 (hp.eq hnone.1), String.toList_inj.1 (hw.eq hnone.2.1),
      String.toList_inj.1 (hb.eq hnone.2.2)⟩
  · intro hsome
    refine ⟨(hmark p' w' b').1 (hsame ▸ hsome), ?_⟩
    rw [parse?, toList_generate, parseChars?_ofTriple ht, Option.map_some]
    refine ⟨_, _, _, rfl, ?_⟩
    simp only [String.toList_ofList]
    exact ⟨hp, hw, hb⟩

/-- Branches that begin alike share a name once they are cut. -/
theorem generate_collides_longBranches :
    generate "customer-portal-web" "release-candidate-1" "feature/login-form"
        = generate "customer-portal-web" "release-candidate-1" "feature/login-page"
      ∧ sanitize "feature/login-form" ≠ sanitize "feature/login-page"
      ∧ ∃ x y z, parse? (generate "customer-portal-web" "release-candidate-1" "feature/login-form")
          = some (x, y, z)
        ∧ StandsForBoth (sanitize "feature/login-form").toList
            (sanitize "feature/login-page").toList z.toList := by
  have hsame : generate "customer-portal-web" "release-candidate-1" "feature/login-form"
      = generate "customer-portal-web" "release-candidate-1" "feature/login-page" := by
    decide +kernel
  obtain ⟨-, hshared⟩ :=
    generate_collides "customer-portal-web" "release-candidate-1" "feature/login-form"
  obtain ⟨-, x, y, z, hread, -, -, hz⟩ := (hshared _ _ _ hsame).2 (by decide +kernel)
  exact ⟨hsame, by decide +kernel, x, y, z, hread, hz⟩

end PaneWatch.Session.Name
