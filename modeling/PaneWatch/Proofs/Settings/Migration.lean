/-
The old layout of the settings, and an empty section.

Migration moves one field after the other, and each move looks only at what stands under its own
field. So two top levels that differ in nothing but the section are migrated alike as long as both
sections stand for an empty one (`Alike.foldl`).

A section without a value is to mean the same as none. It does if it ends up with fields, because
it is put back with them then. If no field has been moved it is left as it was, and the check
refuses it; all other settings of the file are lost with it (`empty_section_iff`).
-/
import PaneWatch.Proofs.Settings.Bounds
import PaneWatch.Proofs.Text.Utf8
import PaneWatch.Proofs.Value.Entry
import PaneWatch.Proofs.Yaml.ReadBack

namespace PaneWatch.Settings

-- ===================================================== checks by fields

/-- A check of a field depends on the value under its label only. -/
private theorem field_congr {α : Type} {entries entries' : List (Value × Value)} {label : String}
    (h : Value.lookup? label entries = Value.lookup? label entries') (absent : α)
    (check : Value → Checked α) :
    Check.field entries label absent check = Check.field entries' label absent check := by
  rw [Check.field, Check.field, h]

/-- A check looks at nothing but its fields. -/
theorem check_congr {top top' : Legacy.Entries}
    (hsection : Check.field top "tmux" {} TmuxSettings.check
      = Check.field top' "tmux" {} TmuxSettings.check)
    (hothers : ∀ label ∈ ["port", "debug", "log_level"],
      Value.lookup? label top = Value.lookup? label top') :
    check (.map top) = check (.map top') := by
  have hport := field_congr (hothers "port" (by decide)) 5050 checkPort
  have hdebug := field_congr (hothers "debug" (by decide)) false (.ofExcept ∘ Check.flag)
  have hlevel := field_congr (hothers "log_level" (by decide)) .info checkLevel
  simp only [check, checkEntries, hsection, hport, hdebug, hlevel]

/-- The check of a section looks at nothing but its fields. -/
theorem checkSection_congr {inner inner' : Legacy.Entries}
    (h : ∀ label, Value.lookup? label inner = Value.lookup? label inner') :
    TmuxSettings.checkEntries inner = TmuxSettings.checkEntries inner' := by
  simp only [TmuxSettings.checkEntries, Check.field, h]

namespace Legacy

-- ===================================================== moving one field

variable {m m' : Move} {label other : String}

/-- Moving a field that is not there does nothing. -/
theorem field_of_none (h : Value.lookup? label m.top = none) : m.field label = m := by
  rw [Move.field, h]

/-- A field that is moved is gone from the top level, and nothing else is. -/
theorem lookup?_top_field (m : Move) (label other : String) :
    Value.lookup? other (m.field label).top
      = if other = label then none else Value.lookup? other m.top := by
  cases hold : Value.lookup? label m.top with
  | none =>
      rw [field_of_none hold]
      split
      · next h => rw [h, hold]
      · rfl
  | some v =>
      have htop : (m.field label).top = Value.remove label m.top := by
        rw [Move.field, hold]
        dsimp only
        split <;> rfl
      rw [htop]
      split
      · next h => rw [h, Value.lookup?_remove_self]
      · next h => rw [Value.lookup?_remove_of_ne h]

/-- The section stays empty only if there is no field to be moved into it. -/
theorem inner_field_eq_nil_iff :
    (m.field label).inner = [] ↔ m.inner = [] ∧ Value.lookup? label m.top = none := by
  cases hold : Value.lookup? label m.top with
  | none => simp [field_of_none hold]
  | some v =>
      refine iff_of_false ?_ (by simp)
      intro h
      rw [Move.field, hold] at h
      dsimp only at h
      split at h
      · next w hthere =>
        rw [h] at hthere
        cases hthere
      · have hempty : Value.insert (.text label) v m.inner = [] := h
        have hput := Value.lookup?_insert_self label v m.inner
        rw [hempty] at hput
        cases hput

-- ===================================================== moving all fields

/-- That two moves have come to the same section, from top levels that differ in nothing but
theirs. -/
structure Alike (m m' : Move) : Prop where
  inner : m.inner = m'.inner
  notes : m.notes = m'.notes
  others : ∀ other ≠ "tmux", Value.lookup? other m.top = Value.lookup? other m'.top

/-- Files that are alike but for the section stay alike when a field is moved. -/
theorem Alike.field (h : Alike m m') (hne : label ≠ "tmux") :
    Alike (m.field label) (m'.field label) := by
  have hothers : ∀ other ≠ "tmux",
      Value.lookup? other (m.field label).top = Value.lookup? other (m'.field label).top := by
    intro other hother
    rw [lookup?_top_field, lookup?_top_field, h.others other hother]
  have hsame := h.others label hne
  cases hold : Value.lookup? label m'.top with
  | none =>
      rw [field_of_none hold, field_of_none (hsame.trans hold)]
      exact h
  | some v =>
      refine ⟨?_, ?_, hothers⟩
      · simp only [Move.field, hsame.trans hold, hold, h.inner]
        split <;> rfl
      · simp only [Move.field, hsame.trans hold, hold, h.inner, h.notes]
        split <;> rfl

/-- And when any number of fields are. -/
theorem Alike.foldl {labels : List String} (h : Alike m m') (hlabels : "tmux" ∉ labels) :
    Alike (labels.foldl Move.field m) (labels.foldl Move.field m') := by
  induction labels generalizing m m' with
  | nil => exact h
  | cons label labels ih =>
      rw [List.mem_cons, not_or] at hlabels
      exact ih (h.field (Ne.symm hlabels.1)) hlabels.2

/-- Moving some fields leaves all others at the top. -/
theorem lookup?_top_foldl {labels : List String} (h : other ∉ labels) (m : Move) :
    Value.lookup? other (labels.foldl Move.field m).top = Value.lookup? other m.top := by
  induction labels generalizing m with
  | nil => rfl
  | cons label labels ih =>
      rw [List.mem_cons, not_or] at h
      rw [List.foldl_cons, ih h.2, lookup?_top_field, if_neg h.1]

/-- Without a field to move nothing is moved. -/
theorem foldl_field_of_none {labels : List String}
    (h : ∀ label ∈ labels, Value.lookup? label m.top = none) : labels.foldl Move.field m = m := by
  induction labels with
  | nil => rfl
  | cons label labels ih =>
      obtain ⟨hfirst, hrest⟩ := List.forall_mem_cons.1 h
      rw [List.foldl_cons, field_of_none hfirst, ih hrest]

/-- The section stays empty exactly if it was and none of the fields was there. -/
theorem inner_foldl_eq_nil_iff {labels : List String} :
    (labels.foldl Move.field m).inner = []
      ↔ m.inner = [] ∧ ∀ label ∈ labels, Value.lookup? label m.top = none := by
  induction labels generalizing m with
  | nil => simp
  | cons label labels ih =>
      rw [List.foldl_cons, ih, inner_field_eq_nil_iff, List.forall_mem_cons, and_assoc]
      refine and_congr_right fun _ => and_congr_right fun hnone => ?_
      rw [field_of_none hnone]

/-- The top level when all is moved: the section is put back unless it is empty. -/
def Move.result (m : Move) : Entries :=
  if m.inner = [] then m.top else Value.insert (.text "tmux") (.map m.inner) m.top

/-- Migrating moves the fields into the section that was found, and puts it back. -/
theorem migrate_eq {top inner : Entries}
    (h : sectionOf (Value.lookup? "tmux" top) = some inner) :
    migrate top = ((movedFields.foldl Move.field ⟨top, inner, []⟩).result,
      (movedFields.foldl Move.field ⟨top, inner, []⟩).notes) := by
  rw [migrate, h]
  dsimp only
  unfold Move.result
  cases (movedFields.foldl Move.field ⟨top, inner, []⟩).inner <;> rfl

/-- An empty section is not put back. -/
theorem Move.result_of_nil (h : m.inner = []) : m.result = m.top := if_pos h

/-- Any other section takes the place of the one in the file. -/
theorem Move.result_of_ne_nil (h : m.inner ≠ []) :
    m.result = Value.insert (.text "tmux") (.map m.inner) m.top := if_neg h

-- ===================================================== an empty section

/-- The move of all fields into an empty section. -/
def moveAll (top : Entries) : Move := movedFields.foldl Move.field ⟨top, [], []⟩

/-- That a top level has a field of the old layout. -/
def HasMovedField (top : Entries) : Prop :=
  ∃ label ∈ movedFields, ∃ v, Value.lookup? label top = some v

/-- That a top level has no section, and another one is it with an empty section put in. -/
structure GainsEmpty (top : Entries) (v : Value) (top' : Entries) : Prop where
  place : ∃ front back, top = front ++ back ∧ top' = front ++ (.text "tmux", v) :: back
  absent : Value.lookup? "tmux" top = none
  empty : v.isPresent = false

variable {top top' : Entries} {v : Value}

/-- No field that is moved is the section itself. -/
theorem lookup?_section_moveAll (top : Entries) :
    Value.lookup? "tmux" (moveAll top).top = Value.lookup? "tmux" top :=
  lookup?_top_foldl (by decide) _

/-- A new section stays empty exactly if the file has none of the fields that are moved. -/
theorem inner_moveAll_eq_nil_iff : (moveAll top).inner = [] ↔ ¬HasMovedField top := by
  have hmove : (moveAll top).inner = []
      ↔ ([] : Entries) = [] ∧ ∀ label ∈ movedFields, Value.lookup? label top = none :=
    inner_foldl_eq_nil_iff
  simp [hmove, HasMovedField, Option.eq_none_iff_forall_ne_some]

/-- The file that gains a section has that value for it. -/
private theorem GainsEmpty.section_eq (h : GainsEmpty top v top') :
    Value.lookup? "tmux" top' = some v := by
  obtain ⟨⟨front, back, rfl, rfl⟩, hnone, -⟩ := h
  rw [Value.lookup?_append, Option.or_eq_none_iff] at hnone
  rw [Value.lookup?_append, hnone.1, Value.lookup?]
  rfl

/-- Both are moved alike, since both sections stand for an empty one. -/
theorem GainsEmpty.alike (h : GainsEmpty top v top') : Alike (moveAll top) (moveAll top') := by
  refine Alike.foldl ⟨rfl, rfl, ?_⟩ (by decide)
  intro other hother
  obtain ⟨⟨front, back, rfl, rfl⟩, -⟩ := h
  have hkey : Value.sameKey (.text "tmux") (.text other) = false := by
    simpa [Value.sameKey] using hother.symm
  simp [Value.lookup?_append, Value.lookup?, hkey]

/-- A section that is not present counts as an empty mapping. -/
private theorem sectionOf_of_empty (h : v.isPresent = false) : sectionOf (some v) = some [] := by
  cases v with
  | map entries =>
      cases entries with
      | nil => rfl
      | cons e entries => cases h
  | _ => simp only [sectionOf, h]; rfl

/-- A file without a section gets one exactly if there is something to move. -/
theorem migrate_of_absent (h : Value.lookup? "tmux" top = none) :
    (migrate top).1 = (moveAll top).result := by
  rw [migrate_eq (by rw [h]; rfl)]
  rfl

/-- A section that is empty in whichever way is moved into as an empty mapping. -/
theorem migrate_of_empty (hsection : Value.lookup? "tmux" top = some v)
    (h : v.isPresent = false) : (migrate top).1 = (moveAll top).result := by
  rw [migrate_eq (by rw [hsection, sectionOf_of_empty h])]
  rfl

/-- An empty section makes no difference to the fields at the top. -/
theorem GainsEmpty.others (h : GainsEmpty top v top') {label : String}
    (hlabel : label ∈ ["port", "debug", "log_level"]) :
    Value.lookup? label (moveAll top').top = Value.lookup? label (moveAll top).top := by
  refine (h.alike.others label ?_).symm
  rintro rfl
  exact absurd hlabel (by decide)

/-- Moves that are alike come to the same settings if the section ends up with fields. -/
theorem check_result_of_alike (h : Alike m m') (hinner : m.inner ≠ []) :
    check (.map m'.result) = check (.map m.result) := by
  rw [Move.result_of_ne_nil hinner, Move.result_of_ne_nil (h.inner ▸ hinner), ← h.inner]
  refine check_congr (field_congr ?_ _ _) fun label hlabel => ?_
  · rw [Value.lookup?_insert_self, Value.lookup?_insert_self]
  · have hne : label ≠ "tmux" := by
      rintro rfl
      exact absurd hlabel (by decide)
    rw [Value.lookup?_insert_of_ne hne, Value.lookup?_insert_of_ne hne, h.others label hne]

/-- A section that is no mapping is refused, and all settings of the file with it. -/
theorem check_ne_valid (hsection : Value.lookup? "tmux" top = some v)
    (hv : ∀ entries, v ≠ .map entries) (s : Settings) : check (.map top) ≠ .valid s := by
  intro hcheck
  obtain ⟨entries, hentries, hreads, -⟩ := check_eq_valid.1 hcheck
  cases hentries
  have hgives := hreads.tmux
  rw [Check.Gives, hsection] at hgives
  obtain ⟨inner, hinner, -⟩ := hgives
  exact hv inner hinner

/-- With a field to move, the section is put back and both come to the same. -/
theorem GainsEmpty.check_of_moved (h : GainsEmpty top v top') (hmoved : HasMovedField top) :
    check (.map (migrate top').1) = check (.map (migrate top).1) := by
  rw [migrate_of_absent h.absent, migrate_of_empty h.section_eq h.empty]
  exact check_result_of_alike h.alike fun hnil => inner_moveAll_eq_nil_iff.1 hnil hmoved

/-- An empty mapping has the defaults for its fields, as no section has. -/
theorem GainsEmpty.check_of_map (h : GainsEmpty top (.map []) top') :
    check (.map (migrate top').1) = check (.map (migrate top).1) := by
  by_cases hmoved : HasMovedField top
  · exact h.check_of_moved hmoved
  · have hinner := inner_moveAll_eq_nil_iff.2 hmoved
    have hleft : Value.lookup? "tmux" (moveAll top).top = none := by
      rw [lookup?_section_moveAll, h.absent]
    have hright : Value.lookup? "tmux" (moveAll top').top = some (.map []) := by
      rw [lookup?_section_moveAll, h.section_eq]
    rw [migrate_of_absent h.absent, migrate_of_empty h.section_eq h.empty,
      Move.result_of_nil hinner, Move.result_of_nil (h.alike.inner ▸ hinner)]
    refine check_congr ?_ fun label hlabel => h.others hlabel
    rw [Check.field, Check.field, hleft, hright]
    rfl

/-- Anything else that is empty is left for the check, which refuses it. -/
theorem GainsEmpty.check_of_unmoved (h : GainsEmpty top v top') (hv : v ≠ .map [])
    (hmoved : ¬HasMovedField top) (s : Settings) : check (.map (migrate top').1) ≠ .valid s := by
  have hright : Value.lookup? "tmux" (moveAll top').top = some v := by
    rw [lookup?_section_moveAll, h.section_eq]
  have hinner := inner_moveAll_eq_nil_iff.2 hmoved
  rw [migrate_of_empty h.section_eq h.empty, Move.result_of_nil (h.alike.inner ▸ hinner)]
  refine check_ne_valid hright ?_ s
  rintro inner rfl
  cases inner with
  | nil => exact hv rfl
  | cons e inner => cases h.empty

end Legacy

namespace Keeper

-- ===================================================== files that differ in their section

/-- That the file of a keeper holds a mapping. -/
def HoldsMapping (k : Keeper) (m : Machine) (top : Legacy.Entries) : Prop :=
  ∃ bytes text, m.disk.read k.path = .ok bytes ∧ HoldsText bytes text
    ∧ Yaml.load text = .ok (.map top)

/-- What loading answers, and nothing of what it changes. -/
def answer (k : Keeper) (m : Machine) : Except Failure Settings := (k.load.run m).1.1

variable {k : Keeper} {m m' : Machine} {top top' : Legacy.Entries} {v : Value}

/-- What a keeper answers of a file with a mapping is what the check makes of it after the
migration, or the defaults. -/
theorem answer_of_holdsMapping (h : HoldsMapping k m top) :
    k.answer m = match Settings.check (.map (Legacy.migrate top).1) with
      | .valid s => .ok s
      | .invalid _ => .ok {} := by
  obtain ⟨bytes, text, hread, htext, hload⟩ := h
  have houtcome := outcome_ofValue_map top
  have hvalue : k.read m.disk = ofValue (.map top) := by
    rw [read_of_bytes hread, ofBytes_of_holdsText htext, hload]
  rw [← hvalue] at houtcome
  cases hcheck : Settings.check (.map (Legacy.migrate top).1) with
  | valid s | invalid faults =>
      rw [hcheck] at houtcome
      obtain ⟨m', hrun, -⟩ := load_of_outcome_ok houtcome
      rw [answer, hrun]

/-- A section without anything in it means the same as none exactly if it is an empty mapping, or
there is an old field to be moved into it, or the file has nothing but the defaults anyway.
Otherwise it makes all settings of the file the defaults. -/
theorem empty_section_iff (h : HoldsMapping k m top) (h' : HoldsMapping k m' top')
    (hgains : Legacy.GainsEmpty top v top') :
    (k.answer m' = k.answer m
        ↔ v = .map [] ∨ Legacy.HasMovedField top ∨ k.answer m = .ok {})
      ∧ (k.answer m' = k.answer m ∨ k.answer m' = .ok {}) := by
  have hanswer := answer_of_holdsMapping h
  have hanswer' := answer_of_holdsMapping h'
  by_cases hmap : v = .map []
  · subst hmap
    rw [hgains.check_of_map, ← hanswer] at hanswer'
    simp [hanswer']
  by_cases hmoved : Legacy.HasMovedField top
  · rw [hgains.check_of_moved hmoved, ← hanswer] at hanswer'
    simp [hanswer', hmoved]
  · have hdefault : k.answer m' = .ok {} := by
      cases hcheck : Settings.check (.map (Legacy.migrate top').1) with
      | valid s => exact absurd hcheck (hgains.check_of_unmoved hmap hmoved s)
      | invalid faults => rw [hanswer', hcheck]
    simp [hdefault, hmap, hmoved, eq_comm]

-- ===================================================== cases

/-- A file of the old layout. -/
def oldFile : String := "monitor_interval: 5\nport: 6000\n"

/-- The same file with a section that has no lines but comments. -/
def oldFileCommented : String :=
  "monitor_interval: 5\nport: 6000\ntmux:\n  # command_timeout: 3\n"

/-- A file of the new layout without a section. -/
def newFile : String := "port: 6000\n"

/-- The same file with a section that has no lines but comments. -/
def newFileCommented : String := "port: 6000\ntmux:\n  # monitor_interval: 5\n"

/-- The file of a text holds the mapping that the text gives. -/
theorem holdsMapping_fileOf (text : String) (members : List (String × Json))
    (htext : text = String.ofList (unifyLines text.toList))
    (h : Yaml.gives members (Yaml.load text)) :
    HoldsMapping sampleKeeper (fileOf text.toUTF8.toList) (Value.ofMembers members) :=
  ⟨_, _, read_fileOf _, ⟨text, Text.utf8?_toUTF8 text, htext⟩, (Yaml.gives_iff _ _).1 h⟩

/-- In the old layout an empty section changes nothing: the port is the one of the file either
way. -/
theorem empty_section_oldFile :
    sampleKeeper.answer (fileOf oldFileCommented.toUTF8.toList)
        = sampleKeeper.answer (fileOf oldFile.toUTF8.toList)
      ∧ (sampleKeeper.answer (fileOf oldFile.toUTF8.toList)).toOption.map (·.port) = some 6000 := by
  have hplain := holdsMapping_fileOf oldFile
    [("monitor_interval", .int 5), ("port", .int 6000)]
    (by decide +kernel) (by decide +kernel)
  have hcommented := holdsMapping_fileOf oldFileCommented
    [("monitor_interval", .int 5), ("port", .int 6000), ("tmux", .null)]
    (by decide +kernel) (by decide +kernel)
  have hgains : Legacy.GainsEmpty _ .null _ := ⟨⟨Value.ofMembers
    [("monitor_interval", .int 5), ("port", .int 6000)], [], rfl, rfl⟩, rfl, rfl⟩
  have hmoved : Legacy.HasMovedField (Value.ofMembers
      [("monitor_interval", .int 5), ("port", .int 6000)]) :=
    ⟨"monitor_interval", by decide, .int 5, rfl⟩
  refine ⟨(empty_section_iff hplain hcommented hgains).1.2 (.inr (.inl hmoved)), ?_⟩
  decide +kernel

/-- Without old fields the section makes the port of the file the default. -/
theorem empty_section_loses_port : ∃ top top',
    HoldsMapping sampleKeeper (fileOf newFile.toUTF8.toList) top
      ∧ HoldsMapping sampleKeeper (fileOf newFileCommented.toUTF8.toList) top'
      ∧ Legacy.GainsEmpty top .null top'
      ∧ sampleKeeper.answer (fileOf newFile.toUTF8.toList) = .ok { port := 6000 }
      ∧ sampleKeeper.answer (fileOf newFileCommented.toUTF8.toList) = .ok { port := 5050 } := by
  refine ⟨_, _, holdsMapping_fileOf _ [("port", .int 6000)] ?_ ?_,
    holdsMapping_fileOf _ [("port", .int 6000), ("tmux", .null)] ?_ ?_,
    ⟨⟨Value.ofMembers [("port", .int 6000)], [], rfl, rfl⟩, rfl, rfl⟩,
    toOption_eq_some ?_, toOption_eq_some ?_⟩ <;> decide +kernel

end Keeper

end PaneWatch.Settings
