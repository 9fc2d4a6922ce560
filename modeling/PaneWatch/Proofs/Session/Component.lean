/-
What sanitizing makes of a component.

`IsComponent` is the form of the components of a name: one to twenty characters, all of them
kept ones, and no underscore at either end. Whatever it is given, sanitizing makes a component, and
it leaves alone what is one already, and nothing else (`sanitizeChars_eq_self_iff`).

The cap comes after the stripping and may leave an underscore at the end again, or a whole run of
them. Dropping them cannot take the first character away, which is no separator since
the stripping.

All that is no letter and no digit has become an underscore before the stripping, so a run of such
characters at either end goes whatever it consists of (`sanitizeChars_append`).
-/
import PaneWatch.Proofs.Text.Blank
import PaneWatch.Session.Name

namespace PaneWatch

namespace Session.Name

-- ===================================================== components

/-- That a text may stand in a name as it is. -/
structure IsComponent (cs : List Char) : Prop where
  kept : ∀ c ∈ cs, isKept c
  nonempty : cs ≠ []
  length : cs.length ≤ maxComponent
  first : cs.head? ≠ some '_'
  last : cs.getLast? ≠ some '_'

/-- A kept character is a separator only if it is an underscore. -/
theorem isSeparator_eq_false {c : Char} (h : isKept c) (hne : c ≠ '_') : isSeparator c = false := by
  have hdash : c ≠ '-' := by
    rintro rfl
    exact absurd h (by decide)
  simp [isSeparator, hne, hdash]

namespace IsComponent

variable {cs : List Char}

/-- What sanitizing ends with is a component if it has been stripped and capped. -/
theorem of_separators (hkept : ∀ c ∈ cs, isKept c) (hlength : cs.length ≤ maxComponent) {x : Char}
    (hx : cs.head? = some x) (hfirst : isSeparator x = false)
    (hlast : ∀ x, cs.getLast? = some x → isSeparator x = false) : IsComponent cs where
  kept := hkept
  nonempty := by
    rintro rfl
    cases hx
  length := hlength
  first := by
    intro hunderscore
    rw [hx] at hunderscore
    cases hunderscore
    exact absurd hfirst (by decide)
  last := fun hunderscore => absurd (hlast '_' hunderscore) (by decide)

private theorem head_not_separator (h : IsComponent cs) (x : Char) (hx : cs.head? = some x) :
    isSeparator x = false := by
  refine isSeparator_eq_false (h.kept x (List.mem_of_mem_head? hx)) ?_
  rintro rfl
  exact h.first hx

private theorem last_not_separator (h : IsComponent cs) (x : Char) (hx : cs.getLast? = some x) :
    isSeparator x = false := by
  refine isSeparator_eq_false (h.kept x (List.mem_of_getLast? hx)) ?_
  rintro rfl
  exact h.last hx

/-- A character that is not kept does not stand in a component. -/
theorem notMem (h : IsComponent cs) {c : Char} (hc : isKept c = false) : c ∉ cs := by
  intro hmem
  rw [h.kept c hmem] at hc
  cases hc

end IsComponent

private theorem isComponent_fallback : IsComponent fallback where
  kept := List.all_eq_true.1 (by decide +kernel)
  nonempty := List.cons_ne_nil _ _
  length := by decide +kernel
  first := by decide +kernel
  last := by decide +kernel

/-- Sanitizing makes a component of everything. -/
theorem isComponent_sanitizeChars (cs : List Char) : IsComponent (sanitizeChars cs) := by
  unfold sanitizeChars
  dsimp only
  generalize hclean : Text.strip isSeparator (cs.map fun c => if isKept c then c else '_') = clean
  have hkept : ∀ c ∈ clean, isKept c := by
    intro c hc
    rw [← hclean] at hc
    obtain ⟨d, -, rfl⟩ := List.mem_map.1 ((Text.strip_sublist _ _).subset hc)
    split
    · next hd => exact hd
    · decide
  cases hx : clean.head? with
  | none =>
      rw [List.head?_eq_none_iff] at hx
      subst hx
      exact isComponent_fallback
  | some x =>
      have hfirst : isSeparator x = false := Text.of_head?_strip (hclean ▸ hx)
      have hne : clean.isEmpty = false := by
        cases clean with
        | nil => cases hx
        | cons _ _ => rfl
      rw [if_neg (by simp [hne])]
      split
      · -- the first character is among those that the cap leaves
        have hhead : (clean.take maxComponent).head? = some x := by
          rw [List.head?_take, if_neg (by decide)]
          exact hx
        have hstart := Text.prefix_dropTrailing isSeparator (clean.take maxComponent)
        refine IsComponent.of_separators ?_ ?_ (Text.head?_dropTrailing hhead hfirst) hfirst
          fun y hy => Text.of_getLast?_dropTrailing hy
        · exact fun c hc => hkept c (List.mem_of_mem_take (hstart.subset hc))
        · exact hstart.length_le.trans (by rw [List.length_take]; omega)
      · refine IsComponent.of_separators hkept (by omega) hx hfirst ?_
        intro y hy
        rw [← hclean] at hy
        exact Text.of_getLast?_dropTrailing hy

/-- Sanitizing leaves a component alone. -/
theorem sanitizeChars_of_isComponent {cs : List Char} (h : IsComponent cs) :
    sanitizeChars cs = cs := by
  have hmap : (cs.map fun c => if isKept c then c else '_') = cs := by
    rw [List.map_congr_left fun c hc => if_pos (h.kept c hc), List.map_id']
  have hstrip : Text.strip isSeparator cs = cs :=
    Text.strip_eq_self h.head_not_separator h.last_not_separator
  have hlength := h.length
  unfold sanitizeChars
  rw [hmap, hstrip, if_neg (by simpa using h.nonempty), if_neg (by omega)]

/-- Sanitizing twice is sanitizing once. -/
theorem sanitizeChars_sanitizeChars (cs : List Char) :
    sanitizeChars (sanitizeChars cs) = sanitizeChars cs :=
  sanitizeChars_of_isComponent (isComponent_sanitizeChars cs)

/-- Nothing but components is left alone. -/
theorem sanitizeChars_eq_self_iff {cs : List Char} : sanitizeChars cs = cs ↔ IsComponent cs :=
  ⟨fun h => h ▸ isComponent_sanitizeChars cs, sanitizeChars_of_isComponent⟩

/-- What is no letter and no digit is an underscore once it has been replaced. -/
theorem replaced_eq {c : Char} (h : c.isAlphanum = false) :
    (if isKept c then c else '_') = '_' := by
  split
  · next hkept => simpa [isKept, h] using hkept
  · rfl

/-- Characters at the ends that are no letters and no digits make no difference. -/
theorem sanitizeChars_append {front back : List Char} (hfront : ∀ c ∈ front, c.isAlphanum = false)
    (hback : ∀ c ∈ back, c.isAlphanum = false) (cs : List Char) :
    sanitizeChars (front ++ cs ++ back) = sanitizeChars cs := by
  have hrun {run : List Char} (h : ∀ c ∈ run, c.isAlphanum = false) :
      ∀ x ∈ run.map fun c => if isKept c then c else '_', isSeparator x := by
    intro x hx
    obtain ⟨c, hc, rfl⟩ := List.mem_map.1 hx
    rw [replaced_eq (h c hc)]
    rfl
  unfold sanitizeChars
  rw [List.map_append, List.map_append, Text.strip_append (hrun hfront) (hrun hback)]

-- ===================================================== the grammar of components

/-- The form of a component, said without the way in which it is made: one to twenty ASCII
letters, digits and underscores, with no underscore at either end. -/
def InGrammar (s : String) : Prop :=
  (1 ≤ s.length ∧ s.length ≤ 20) ∧ (∀ c ∈ s.toList, c.isAlphanum ∨ c = '_')
    ∧ s.toList.head? ≠ some '_' ∧ s.toList.getLast? ≠ some '_'

private theorem inGrammar_iff {s : String} : InGrammar s ↔ IsComponent s.toList := by
  have hkept (c : Char) : isKept c ↔ c.isAlphanum ∨ c = '_' := by simp [isKept]
  have hnonempty : s.toList ≠ [] ↔ 1 ≤ s.length := by
    rw [← String.length_toList, Nat.one_le_iff_ne_zero, Ne, Ne, List.length_eq_zero_iff]
  constructor
  · rintro ⟨⟨hleast, hmost⟩, hchars, hfirst, hlast⟩
    exact ⟨fun c hc => (hkept c).2 (hchars c hc), hnonempty.2 hleast, hmost, hfirst, hlast⟩
  · rintro ⟨hchars, hne, hmost, hfirst, hlast⟩
    exact ⟨⟨hnonempty.1 hne, hmost⟩, fun c hc => (hkept c).1 (hchars c hc), hfirst, hlast⟩

/-- Whatever it is given, sanitizing makes a component, and it leaves a text alone exactly if that
is one. So sanitizing again changes nothing, neither dashes nor tildes come through, and what is
put around a text without a letter or a digit makes no difference. -/
theorem sanitize_retracts (s : String) :
    InGrammar (sanitize s)
      ∧ (sanitize s = s ↔ InGrammar s)
      ∧ sanitize (sanitize s) = sanitize s
      ∧ '-' ∉ (sanitize s).toList ∧ '~' ∉ (sanitize s).toList
      ∧ ∀ front back : String, (∀ c ∈ front.toList, c.isAlphanum = false) →
          (∀ c ∈ back.toList, c.isAlphanum = false) →
          sanitize (front ++ s ++ back) = sanitize s := by
  have hform : IsComponent (sanitize s).toList := by
    rw [sanitize, String.toList_ofList]
    exact isComponent_sanitizeChars _
  have hself (t : String) : sanitize t = t ↔ InGrammar t := by
    rw [inGrammar_iff, ← sanitizeChars_eq_self_iff, sanitize, ← String.toList_inj,
      String.toList_ofList]
  have hmade : InGrammar (sanitize s) := inGrammar_iff.2 hform
  refine ⟨hmade, hself s, (hself _).2 hmade, hform.notMem (by decide), hform.notMem (by decide), ?_⟩
  intro front back hfront hback
  rw [sanitize, String.toList_append, String.toList_append, sanitizeChars_append hfront hback]
  rfl

/-- The cap leaves two underscores at the end here, which go as well. -/
theorem sanitize_retracts_capped :
    (∀ c ∈ "--_".toList, c.isAlphanum = false) ∧ (∀ c ∈ " ~é".toList, c.isAlphanum = false)
      ∧ sanitize ("--_" ++ "feature/login-form//wide" ++ " ~é")
        = sanitize "feature/login-form//wide"
      ∧ sanitize "feature/login-form//wide" = "feature_login_form"
      ∧ sanitize "feature_login_form" = "feature_login_form" := by
  have hnone {run : List Char} (h : run.any Char.isAlphanum = false) :
      ∀ c ∈ run, c.isAlphanum = false :=
    fun c hc => Bool.eq_false_iff.2 (List.any_eq_false.1 h c hc)
  have hfront : ∀ c ∈ "--_".toList, c.isAlphanum = false := hnone (by decide +kernel)
  have hback : ∀ c ∈ " ~é".toList, c.isAlphanum = false := hnone (by decide +kernel)
  have hvalue : sanitize "feature/login-form//wide" = "feature_login_form" := by decide +kernel
  obtain ⟨-, -, hagain, -, -, haround⟩ := sanitize_retracts "feature/login-form//wide"
  refine ⟨hfront, hback, haround _ _ hfront hback, hvalue, ?_⟩
  rw [← hvalue, hagain]

end Session.Name

end PaneWatch
