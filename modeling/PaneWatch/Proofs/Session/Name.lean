/-
Names of sessions, and what can be read back from them.

A name can be taken apart where its components can be told apart (`split?_join`). Sanitized
components are such, and cutting them brings no other character in but the tilde, so every name
that is generated is read back as the components that it was joined from. Those are the sanitized
ones unless they take up more than the budget; then the name has its full length, and each
component that is read is a whole one or a cut one (`generate_decodes`).
-/
import PaneWatch.Proofs.Session.Component
import PaneWatch.Proofs.Session.Cut
import PaneWatch.Proofs.Session.Grammar

namespace PaneWatch.Session.Name

-- ===================================================== sanitized components

/-- Marker and separators take up eight characters. -/
private theorem length_join (t : Triple) : (join t).length = 8 + t.size := by
  have hmarker : marker.length = 5 := by decide
  simp only [join, Triple.size, List.length_append, List.length_cons, hmarker]
  omega

/-- That all components may stand in a name as they are. -/
structure Triple.IsSanitized (t : Triple) : Prop where
  project : IsComponent t.project
  worktree : IsComponent t.worktree
  branch : IsComponent t.branch

variable {t : Triple}

/-- Sanitizing makes a triple sanitized. -/
private theorem isSanitized_map (t : Triple) : (t.map sanitizeChars).IsSanitized :=
  ⟨isComponent_sanitizeChars _, isComponent_sanitizeChars _, isComponent_sanitizeChars _⟩

/-- Cutting a component brings in no character but the cut mark. -/
private theorem IsComponent.isCut_notMem {full part : List Char} (h : IsComponent full)
    (hcut : IsCut full part) {c : Char} (hc : isKept c = false) (hmark : c ≠ cutMark) :
    c ∉ part := by
  intro hmem
  rcases hcut.mem hmem with hfull | rfl
  · exact h.notMem hc hfull
  · exact hmark rfl

/-- Whole and cut components can be told apart. -/
theorem Triple.IsSanitized.isSeparable (h : t.IsSanitized) {cut : Triple}
    (hproject : IsCut t.project cut.project) (hworktree : IsCut t.worktree cut.worktree)
    (hbranch : IsCut t.branch cut.branch) : cut.IsSeparable where
  project := ⟨hproject.ne_nil h.project.nonempty,
    h.project.isCut_notMem hproject (by decide) (by decide)⟩
  worktree := ⟨hworktree.ne_nil h.worktree.nonempty,
    h.worktree.isCut_notMem hworktree (by decide) (by decide)⟩
  branch := ⟨hbranch.ne_nil h.branch.nonempty,
    h.branch.isCut_notMem hbranch (by decide) (by decide)⟩

-- ===================================================== fitted components

/-- The components as they stand in a name. -/
def Triple.fitted (t : Triple) : Triple := if budget < t.size then truncate t else t

/-- A name is the triple as it is fitted, joined. -/
theorem ofTriple_eq (t : Triple) : ofTriple t = join t.fitted := by
  have hlength := length_join t
  have hmax : maxLength = 50 := rfl
  have hbudget := budget_eq
  unfold ofTriple Triple.fitted
  dsimp only
  by_cases h : budget < t.size
  · rw [if_pos h, if_pos (by omega)]
  · rw [if_neg h, if_neg (by omega)]

/-- A triple that fits is left as it is. -/
theorem fitted_eq_self (h : t.size ≤ budget) : t.fitted = t := if_neg (by omega)

/-- A fitted triple takes up the budget at most, and all of it if something was cut. -/
theorem size_fitted (t : Triple) : t.fitted.size = min budget t.size := by
  unfold Triple.fitted
  by_cases h : budget < t.size
  · rw [if_pos h, size_truncate h]
    omega
  · rw [if_neg h]
    omega

/-- Each part is cut or left as it is. -/
theorem isCut_fitted (t : Triple) :
    IsCut t.project t.fitted.project ∧ IsCut t.worktree t.fitted.worktree
      ∧ IsCut t.branch t.fitted.branch := by
  unfold Triple.fitted
  by_cases h : budget < t.size
  · rw [if_pos h]
    exact isCut_truncate t
  · rw [if_neg h]
    exact ⟨.inl rfl, .inl rfl, .inl rfl⟩

/-- A name has 50 characters at most, and all 50 if something was cut. -/
private theorem length_ofTriple (t : Triple) : (ofTriple t).length = min 50 (8 + t.size) := by
  rw [ofTriple_eq, length_join, size_fitted, budget_eq]
  omega

/-- A name made of a sanitized triple parses to the triple as it was fitted. -/
theorem parseChars?_ofTriple (h : t.IsSanitized) : parseChars? (ofTriple t) = some t.fitted := by
  obtain ⟨hproject, hworktree, hbranch⟩ := isCut_fitted t
  have hlength := length_ofTriple t
  have hmax : maxLength = 50 := rfl
  rw [parseChars?, if_neg (by omega), ofTriple_eq,
    split?_join (h.isSeparable hproject hworktree hbranch)]

/-- The name of sanitized components is as long as they are with the marker and the dashes, as far
as a name may be. What is read from it are the components, each whole or cut, and all of them whole
if they fit. -/
theorem exists_parseChars?_ofTriple (h : t.IsSanitized) : ∃ cut : Triple,
    parseChars? (ofTriple t) = some cut ∧ (ofTriple t).length = min 50 (8 + t.size)
      ∧ (IsCut t.project cut.project ∧ IsCut t.worktree cut.worktree ∧ IsCut t.branch cut.branch)
      ∧ (t.size ≤ 42 → cut = t) :=
  ⟨t.fitted, parseChars?_ofTriple h, length_ofTriple t, isCut_fitted t, fitted_eq_self⟩

-- ===================================================== generated names

/-- What is sanitized already makes the same name. -/
theorem generate_sanitize (project worktree branch : String) :
    generate (sanitize project) (sanitize worktree) (sanitize branch)
      = generate project worktree branch := by
  simp only [generate, sanitize, Triple.map, String.toList_ofList, sanitizeChars_sanitizeChars]

/-- Every name that is generated is well formed. It is as long as the sanitized components with the
marker and the dashes are, as far as a name may be. What is read from it are the sanitized
components, each whole or cut; if they have no more than 42 characters together they are all
whole, and generating a name from them gives the same name again. -/
theorem generate_decodes (project worktree branch : String) :
    let name := generate project worktree branch
    let p := sanitize project
    let w := sanitize worktree
    let b := sanitize branch
    isValid name = true
      ∧ name.length = min 50 (8 + p.length + w.length + b.length)
      ∧ (∃ p' w' b', parse? name = some (p', w', b') ∧ IsCut p.toList p'.toList
          ∧ IsCut w.toList w'.toList ∧ IsCut b.toList b'.toList)
      ∧ (p.length + w.length + b.length ≤ 42 →
          parse? name = some (p, w, b) ∧ generate p w b = name) := by
  intro name p w b
  have hsanitized := isSanitized_map ⟨project.toList, worktree.toList, branch.toList⟩
  have hname : name.toList
      = ofTriple (Triple.map sanitizeChars ⟨project.toList, worktree.toList, branch.toList⟩) :=
    String.toList_ofList
  have hsize : (Triple.map sanitizeChars ⟨project.toList, worktree.toList, branch.toList⟩).size
      = p.length + w.length + b.length := by
    simp [p, w, b, Triple.size, Triple.map, sanitize]
  obtain ⟨cut, hparse, hlength, hcut, hwhole⟩ := exists_parseChars?_ofTriple hsanitized
  rw [← hname] at hparse hlength
  rw [hsize] at hlength hwhole
  have hread : parse? name
      = some (String.ofList cut.project, String.ofList cut.worktree, String.ofList cut.branch) := by
    rw [parse?, hparse]
    rfl
  refine ⟨?_, ?_, ⟨_, _, _, hread, ?_⟩, ?_⟩
  · rw [isValid, hparse]
    rfl
  · rw [← String.length_toList, hlength]
    omega
  · simp only [p, w, b, sanitize, String.toList_ofList]
    exact hcut
  · intro hfits
    rw [hread, hwhole hfits]
    exact ⟨rfl, generate_sanitize project worktree branch⟩

/-- Components that fit are read back from their name, also where sanitizing had to change them. -/
theorem generate_decodes_short :
    (sanitize "my-app").length + (sanitize "main").length + (sanitize "@feature/login").length ≤ 42
      ∧ parse? (generate "my-app" "main" "@feature/login")
        = some ("my_app", "main", "feature_login") := by
  have hfits : (sanitize "my-app").length + (sanitize "main").length
      + (sanitize "@feature/login").length ≤ 42 := by decide +kernel
  obtain ⟨-, -, -, hwhole⟩ := generate_decodes "my-app" "main" "@feature/login"
  refine ⟨hfits, (hwhole hfits).1.trans ?_⟩
  decide +kernel

end PaneWatch.Session.Name
