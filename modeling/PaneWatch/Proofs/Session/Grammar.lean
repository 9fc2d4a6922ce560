/-
The grammar of names.

A name is the marker, a project, a worktree and a branch with dashes between them. Project
and worktree have no dash, the branch no line end, and none of them is empty; then they can be
told apart, and a name is read back as the components that it was joined from (`split?_join`).

What is read is more than the grammar, by one line end: behind the branch it is passed over
(`split?_eq_some_iff`). So a name that has one is taken for a name and loses it, and for all
others the reading follows the grammar (`reading_iff`).
-/
import Mathlib.Data.List.TakeDrop
import Mathlib.Data.List.TakeWhile
import PaneWatch.Session.Name

namespace PaneWatch.Session.Name

-- ===================================================== components

/-- That components can be told apart when they are joined. -/
structure Triple.IsSeparable (t : Triple) : Prop where
  project : t.project ≠ [] ∧ '-' ∉ t.project
  worktree : t.worktree ≠ [] ∧ '-' ∉ t.worktree
  branch : t.branch ≠ [] ∧ '\n' ∉ t.branch

variable {cs rest : List Char}

private theorem ne_of_notMem {c d : Char} (h : d ∉ cs) (hc : c ∈ cs) : (c != d) = true := by
  rw [bne_iff_ne]
  rintro rfl
  exact h hc

/-- What follows the marker is what stands behind it and a separator. -/
private theorem afterMarker?_eq_some_iff :
    afterMarker? cs = some rest ↔ cs = marker ++ '-' :: rest := by
  have hopening : marker ++ '-' :: rest = (marker ++ ['-']) ++ rest := by simp
  rw [hopening]
  simp only [afterMarker?]
  by_cases h : (marker ++ ['-']).isPrefixOf cs
  · obtain ⟨tail, rfl⟩ := List.isPrefixOf_iff_prefix.1 h
    rw [if_pos h, List.drop_left, Option.some_inj, List.append_right_inj]
  · rw [if_neg h]
    constructor
    · intro hnone
      cases hnone
    · rintro rfl
      exact absurd (List.isPrefixOf_iff_prefix.2 (List.prefix_append _ _)) h

/-- A component ends before the first dash. -/
theorem splitComponent?_eq_some_iff {component : List Char} :
    splitComponent? cs = some (component, rest)
      ↔ cs = component ++ '-' :: rest ∧ component ≠ [] ∧ '-' ∉ component := by
  simp only [splitComponent?, List.span_eq_takeWhile_dropWhile]
  constructor
  · intro h
    split at h
    · next start tail hspan =>
      obtain ⟨rfl, hdrop⟩ := Prod.mk.inj hspan
      split at h
      · cases h
      · next hne =>
        cases h
        refine ⟨?_, by simpa using hne, ?_⟩
        · rw [← hdrop, List.takeWhile_append_dropWhile]
        · intro hdash
          simpa using List.mem_takeWhile_imp hdash
    · cases h
  · rintro ⟨rfl, hne, hdash⟩
    have hall : ∀ c ∈ component, (c != '-') = true := fun c hc => ne_of_notMem hdash hc
    rw [List.takeWhile_append_of_pos hall, List.dropWhile_append_of_pos hall]
    simp [hne]

/-- A branch ends before the first line end, behind which there is nothing. -/
theorem lastComponent?_eq_some_iff {branch : List Char} :
    lastComponent? cs = some branch
      ↔ (branch ≠ [] ∧ '\n' ∉ branch) ∧ (cs = branch ∨ cs = branch ++ ['\n']) := by
  simp only [lastComponent?]
  constructor
  · intro h
    have hwhole : cs.takeWhile (· != '\n') ++ cs.drop (cs.takeWhile (· != '\n')).length = cs :=
      List.prefix_iff_eq_append.1 (List.takeWhile_prefix _)
    have hline : '\n' ∉ cs.takeWhile (· != '\n') := by
      intro hmem
      simpa using List.mem_takeWhile_imp hmem
    split at h
    · cases h
    · next hne =>
      split at h
      · next hrest =>
        cases h
        refine ⟨⟨by simpa using hne, hline⟩, ?_⟩
        rw [Bool.or_eq_true, List.isEmpty_iff, beq_iff_eq] at hrest
        rcases hrest with hnil | hend
        · left
          rw [hnil, List.append_nil] at hwhole
          exact hwhole.symm
        · right
          rw [hend] at hwhole
          exact hwhole.symm
      · cases h
  · rintro ⟨⟨hne, hline⟩, hcs⟩
    have hall : ∀ c ∈ branch, (c != '\n') = true := fun c hc => ne_of_notMem hline hc
    have htake : cs.takeWhile (· != '\n') = branch := by
      rcases hcs with rfl | rfl
      · exact List.takeWhile_eq_self_iff.2 hall
      · rw [List.takeWhile_append_of_pos hall]
        simp
    rw [htake, if_neg (by simpa using hne)]
    rcases hcs with rfl | rfl
    · simp
    · simp

-- ===================================================== names

variable {t : Triple}

/-- A name is the marker and the three parts, with separators between them. -/
private theorem join_eq (t : Triple) :
    join t = marker ++ '-' :: (t.project ++ '-' :: (t.worktree ++ '-' :: t.branch)) := by
  simp [join]

/-- What is read as a name is one, with or without a line end behind it. -/
theorem split?_eq_some_iff :
    split? cs = some t ↔ t.IsSeparable ∧ (cs = join t ∨ cs = join t ++ ['\n']) := by
  simp only [split?, Option.bind_eq_bind, Option.bind_eq_some_iff, Prod.exists,
    afterMarker?_eq_some_iff, splitComponent?_eq_some_iff, lastComponent?_eq_some_iff]
  constructor
  · rintro ⟨_, rfl, project, _, ⟨rfl, hproject⟩, worktree, tail, ⟨rfl, hworktree⟩, branch,
      ⟨hbranch, htail⟩, hdone⟩
    cases hdone
    refine ⟨⟨hproject, hworktree, hbranch⟩, ?_⟩
    rcases htail with rfl | rfl
    · left
      rw [join_eq]
    · right
      simp [join_eq]
  · rintro ⟨h, hcs⟩
    -- with or without the line end, the same text stands before the branch
    obtain ⟨tail, hwhole, htail⟩ : ∃ tail,
        cs = marker ++ '-' :: (t.project ++ '-' :: (t.worktree ++ '-' :: tail))
          ∧ (tail = t.branch ∨ tail = t.branch ++ ['\n']) := by
      rcases hcs with rfl | rfl
      · exact ⟨_, join_eq t, .inl rfl⟩
      · exact ⟨t.branch ++ ['\n'], by simp [join_eq], .inr rfl⟩
    exact ⟨_, hwhole, t.project, _, ⟨rfl, h.project⟩, t.worktree, _, ⟨rfl, h.worktree⟩, t.branch,
      ⟨h.branch, htail⟩, rfl⟩

/-- Components that can be told apart are found again in their name. -/
theorem split?_join (h : t.IsSeparable) : split? (join t) = some t :=
  split?_eq_some_iff.2 ⟨h, .inl rfl⟩

/-- Characters parse to a triple if they spell it, with a final line feed at most. -/
private theorem parseChars?_eq_some_iff :
    parseChars? cs = some t
      ↔ cs.length ≤ maxLength ∧ t.IsSeparable ∧ (cs = join t ∨ cs = join t ++ ['\n']) := by
  rw [← split?_eq_some_iff, parseChars?]
  by_cases h : cs.length > maxLength
  · rw [if_pos h]
    constructor
    · intro hnone
      cases hnone
    · rintro ⟨hfits, -⟩
      omega
  · rw [if_neg h]
    constructor
    · exact fun hsplit => ⟨by omega, hsplit⟩
    · exact fun hsplit => hsplit.2

-- ===================================================== texts

/-- That a text is the name of three components which can be told apart. -/
structure Spells (name p w b : String) : Prop where
  project : p ≠ "" ∧ '-' ∉ p.toList
  worktree : w ≠ "" ∧ '-' ∉ w.toList
  branch : b ≠ "" ∧ '\n' ∉ b.toList
  text : name = "ccmgr-" ++ p ++ "-" ++ w ++ "-" ++ b

/-- That the reading of a text follows the grammar: it is a name exactly if it has no more than 50
characters and is spelled by some components, which are what is read then. Any other text is
refused. -/
structure FollowsGrammar (name : String) : Prop where
  valid : isValid name = true ↔ name.length ≤ 50 ∧ ∃ p w b, Spells name p w b
  read : ∀ p w b, name.length ≤ 50 → Spells name p w b → parse name = .ok (p, w, b)
  refused : (∀ p w b, name.length ≤ 50 → ¬Spells name p w b) →
    parse name = .error (.invalidName name)

/-- That a text would be a name but for the line end behind it. -/
def HasLineEnd (name : String) : Prop :=
  name.length ≤ 50 ∧ ∃ line p w b, name = line ++ "\n" ∧ Spells line p w b

variable {name p w b : String}

/-- A name spells three parts if it is what joining them gives. -/
private theorem spells_iff :
    Spells name p w b
      ↔ (Triple.mk p.toList w.toList b.toList).IsSeparable
        ∧ name.toList = join ⟨p.toList, w.toList, b.toList⟩ := by
  have htext : name = "ccmgr-" ++ p ++ "-" ++ w ++ "-" ++ b
      ↔ name.toList = join ⟨p.toList, w.toList, b.toList⟩ := by
    rw [← String.toList_inj]
    simp [join, marker]
  rw [← htext]
  constructor
  · rintro ⟨hp, hw, hb, htext⟩
    exact ⟨⟨by simpa using hp, by simpa using hw, by simpa using hb⟩, htext⟩
  · rintro ⟨⟨hp, hw, hb⟩, htext⟩
    exact ⟨by simpa using hp, by simpa using hw, by simpa using hb, htext⟩

/-- Parsing a name is parsing its characters. -/
private theorem parse_eq_ok_iff_chars :
    parse name = .ok (p, w, b) ↔ parseChars? name.toList = some ⟨p.toList, w.toList, b.toList⟩ := by
  simp only [parse, parse?]
  cases hparse : parseChars? name.toList with
  | none => simp
  | some t =>
      obtain ⟨project, worktree, branch⟩ := t
      simp [← String.toList_inj]

/-- A name is valid if it can be parsed. -/
private theorem isValid_iff : isValid name = true ↔ ∃ p w b, parse name = .ok (p, w, b) := by
  simp only [isValid, parse, parse?]
  cases parseChars? name.toList with
  | none => simp
  | some t => simp

private theorem parse_of_not_isValid (h : isValid name = false) :
    parse name = .error (.invalidName name) := by
  simp only [isValid, Option.isSome_eq_false_iff, Option.isNone_iff_eq_none] at h
  rw [parse, parse?, h]
  rfl

/-- What is read of a text are the components that spell it, with or without its line end. -/
theorem parse_eq_ok_iff :
    parse name = .ok (p, w, b)
      ↔ name.length ≤ 50
        ∧ (Spells name p w b ∨ ∃ line, name = line ++ "\n" ∧ Spells line p w b) := by
  rw [parse_eq_ok_iff_chars, parseChars?_eq_some_iff, String.length_toList, spells_iff]
  constructor
  · rintro ⟨hlength, hseparable, hwhole | hline⟩
    · exact ⟨hlength, .inl ⟨hseparable, hwhole⟩⟩
    · refine ⟨hlength, .inr ⟨String.ofList (join ⟨p.toList, w.toList, b.toList⟩), ?_, ?_⟩⟩
      · rw [← String.toList_inj, hline]
        simp
      · rw [spells_iff]
        exact ⟨hseparable, String.toList_ofList⟩
  · rintro ⟨hlength, ⟨hseparable, hwhole⟩ | ⟨line, rfl, hspells⟩⟩
    · exact ⟨hlength, hseparable, .inl hwhole⟩
    · obtain ⟨hseparable, hline⟩ := spells_iff.1 hspells
      refine ⟨hlength, hseparable, .inr ?_⟩
      rw [String.toList_append, hline]
      rfl

/-- A text that is spelled by components ends with a branch, so not with a line end. -/
theorem Spells.ne_lineEnd (h : Spells name p w b) (line : String) : name ≠ line ++ "\n" := by
  intro hline
  obtain ⟨hseparable, hname⟩ := spells_iff.1 h
  have hend : name.toList.getLast? = b.toList.getLast? := by
    rw [hname, join_eq]
    simp only [List.getLast?_append, List.getLast?_cons]
    rw [List.getLast?_eq_some_getLast hseparable.branch.1]
    simp
  rw [hline, String.toList_append, show "\n".toList = ['\n'] from rfl, List.getLast?_concat] at hend
  exact hseparable.branch.2 (List.mem_of_getLast? hend.symm)

/-- A name without a final line feed follows the grammar. -/
private theorem follows_of_not_hasLineEnd (h : ¬HasLineEnd name) : FollowsGrammar name := by
  have hread (p w b : String) :
      parse name = .ok (p, w, b) ↔ name.length ≤ 50 ∧ Spells name p w b := by
    rw [parse_eq_ok_iff]
    constructor
    · rintro ⟨hlength, hspells | ⟨line, hline, hspells⟩⟩
      · exact ⟨hlength, hspells⟩
      · exact absurd ⟨hlength, line, p, w, b, hline, hspells⟩ h
    · exact fun hspells => ⟨hspells.1, .inl hspells.2⟩
  constructor
  case valid =>
    rw [isValid_iff]
    simp only [hread, exists_and_left]
  case read =>
    intro p w b hlength hspells
    exact (hread p w b).2 ⟨hlength, hspells⟩
  case refused =>
    intro hnone
    apply parse_of_not_isValid
    rw [Bool.eq_false_iff, ne_eq, isValid_iff]
    rintro ⟨p, w, b, hparse⟩
    obtain ⟨hlength, hspells⟩ := (hread p w b).1 hparse
    exact hnone p w b hlength hspells

/-- Two texts that are read alike differ by a line end at most. -/
theorem eq_or_lineEnd_of_parse {other : String} (h : parse name = .ok (p, w, b))
    (hother : parse other = .ok (p, w, b)) :
    name = other ∨ name = other ++ "\n" ∨ other = name ++ "\n" := by
  have htext {x y : String} (hx : Spells x p w b) (hy : Spells y p w b) : x = y :=
    hx.text.trans hy.text.symm
  obtain ⟨-, hname | ⟨line, rfl, hname⟩⟩ := parse_eq_ok_iff.1 h
  · obtain ⟨-, hspells | ⟨line', rfl, hspells⟩⟩ := parse_eq_ok_iff.1 hother
    · exact .inl (htext hname hspells)
    · exact .inr (.inr (by rw [htext hname hspells]))
  · obtain ⟨-, hspells | ⟨line', rfl, hspells⟩⟩ := parse_eq_ok_iff.1 hother
    · exact .inr (.inl (by rw [htext hname hspells]))
    · exact .inl (by rw [htext hname hspells])

/-- A text is a name if something can be read of it, and is refused if not. What is read are the
components that spell it, or that spell it but for a line end at its end; so texts that are
read alike differ by a line end at most. The reading of a text follows the grammar exactly
if it is no name with a line end behind it. -/
theorem reading_iff (name : String) :
    (isValid name = true ↔ ∃ p w b, parse name = .ok (p, w, b))
      ∧ (isValid name = false ↔ parse name = .error (.invalidName name))
      ∧ (∀ p w b, parse name = .ok (p, w, b) ↔ name.length ≤ 50
          ∧ (Spells name p w b ∨ ∃ line, name = line ++ "\n" ∧ Spells line p w b))
      ∧ (∀ other, isValid name = true → parse name = parse other →
          name = other ∨ name = other ++ "\n" ∨ other = name ++ "\n")
      ∧ (FollowsGrammar name ↔ ¬HasLineEnd name) := by
  refine ⟨isValid_iff, ⟨parse_of_not_isValid, ?_⟩, fun p w b => parse_eq_ok_iff, ?_, ?_,
    follows_of_not_hasLineEnd⟩
  · intro hrefused
    rw [Bool.eq_false_iff, ne_eq, isValid_iff]
    rintro ⟨p, w, b, hparse⟩
    rw [hrefused] at hparse
    cases hparse
  · intro other hvalid hsame
    obtain ⟨p, w, b, hparse⟩ := isValid_iff.1 hvalid
    exact eq_or_lineEnd_of_parse hparse (hsame ▸ hparse)
  · rintro hfollows ⟨hlength, line, p, w, b, hline, hspells⟩
    have hvalid : isValid name = true :=
      isValid_iff.2 ⟨p, w, b, parse_eq_ok_iff.2 ⟨hlength, .inr ⟨line, hline, hspells⟩⟩⟩
    obtain ⟨-, p', w', b', hspells'⟩ := hfollows.valid.1 hvalid
    exact hspells'.ne_lineEnd line hline

/-- A name with a line end behind it is taken for a name, and read as the one without. -/
theorem lineEnd_breaks_grammar :
    ¬FollowsGrammar "ccmgr-a-b-c\n" ∧ isValid "ccmgr-a-b-c\n" = true
      ∧ parse "ccmgr-a-b-c\n" = .ok ("a", "b", "c")
      ∧ parse "ccmgr-a-b-c" = .ok ("a", "b", "c") := by
  have hspells : Spells "ccmgr-a-b-c" "a" "b" "c" := by
    constructor <;> decide +kernel
  have hread : parse "ccmgr-a-b-c\n" = .ok ("a", "b", "c") :=
    parse_eq_ok_iff.2 ⟨by decide +kernel, .inr ⟨_, rfl, hspells⟩⟩
  refine ⟨?_, isValid_iff.2 ⟨_, _, _, hread⟩, hread,
    parse_eq_ok_iff.2 ⟨by decide +kernel, .inl hspells⟩⟩
  intro hfollows
  obtain ⟨-, p, w, b, hspells'⟩ := hfollows.valid.1 (isValid_iff.2 ⟨_, _, _, hread⟩)
  exact hspells'.ne_lineEnd "ccmgr-a-b-c" rfl

end PaneWatch.Session.Name
