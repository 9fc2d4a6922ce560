/-
The layout that migration ends with.

Migration takes the four old fields from the top level one after the other and puts each into the
section, unless the section has it. What one move does to the text keys is said by two laws, one
for each level, and what it leaves alone by two more, about all entries that stand under no old
field. The same laws hold of a run of moves over any list of fields, and for the list of all four
they say that the result is the nested form of what was given (`isNested_result`).

A nested form has nothing left to move, so migrating it gives it back. It is also determined as far
as any check looks: two nested forms of one top level are checked alike
(`IsNested.check_congr`), whether migration made them or someone who rewrote his file by hand.
-/
import PaneWatch.Proofs.Settings.Migration

namespace PaneWatch.Settings

namespace Legacy

variable {top inner nested inner' : Entries} {m : Move} {label other : String}
  {labels moved : List String}

-- ===================================================== one move

/-- A field that is moved is in the section afterwards; what the section had there stays. -/
theorem lookup?_inner_field (m : Move) (label other : String) :
    Value.lookup? other (m.field label).inner
      = if other = label then (Value.lookup? other m.inner).or (Value.lookup? other m.top)
        else Value.lookup? other m.inner := by
  cases hold : Value.lookup? label m.top with
  | none =>
      rw [field_of_none hold]
      split
      · next h => rw [h, hold, Option.or_none]
      · rfl
  | some v =>
      rw [Move.field, hold]
      dsimp only
      split
      · next w hthere =>
        split
        · next h => rw [h, hthere, Option.some_or]
        · rfl
      · next hthere =>
        split
        · next h => rw [h, Value.lookup?_insert_self, hthere, hold, Option.none_or]
        · next h => rw [Value.lookup?_insert_of_ne h]

/-- Moving a field changes nothing at the top but that field. -/
private theorem without_top_field (h : label ∈ labels) (m : Move) :
    Value.without labels (m.field label).top = Value.without labels m.top := by
  rw [Move.field]
  split
  · rfl
  · dsimp only
    split <;> exact Value.without_remove h m.top

/-- And nothing in the section but that field. -/
private theorem without_inner_field (h : label ∈ labels) (m : Move) :
    Value.without labels (m.field label).inner = Value.without labels m.inner := by
  rw [Move.field]
  split
  · rfl
  · dsimp only
    split
    · rfl
    · exact Value.without_insert h _ m.inner

-- ===================================================== a run of moves

private theorem without_top_foldl (h : ∀ label ∈ moved, label ∈ labels) (m : Move) :
    Value.without labels (moved.foldl Move.field m).top = Value.without labels m.top := by
  induction moved generalizing m with
  | nil => rfl
  | cons label moved ih =>
      obtain ⟨hfirst, hrest⟩ := List.forall_mem_cons.1 h
      rw [List.foldl_cons, ih hrest, without_top_field hfirst]

private theorem without_inner_foldl (h : ∀ label ∈ moved, label ∈ labels) (m : Move) :
    Value.without labels (moved.foldl Move.field m).inner = Value.without labels m.inner := by
  induction moved generalizing m with
  | nil => rfl
  | cons label moved ih =>
      obtain ⟨hfirst, hrest⟩ := List.forall_mem_cons.1 h
      rw [List.foldl_cons, ih hrest, without_inner_field hfirst]

/-- A field that is not moved is in the section what it was. -/
private theorem lookup?_inner_foldl (h : other ∉ labels) (m : Move) :
    Value.lookup? other (labels.foldl Move.field m).inner = Value.lookup? other m.inner :=
  Value.lookup?_congr_of_without (without_inner_foldl (fun _ => id) m) h

/-- A field that is moved is no longer at the top. -/
private theorem lookup?_top_foldl_of_mem (h : other ∈ labels) (m : Move) :
    Value.lookup? other (labels.foldl Move.field m).top = none := by
  induction labels generalizing m with
  | nil => cases h
  | cons label labels ih =>
      rw [List.foldl_cons]
      by_cases hrest : other ∈ labels
      · exact ih hrest _
      · have hfirst : other = label := (List.mem_cons.1 h).resolve_right hrest
        rw [lookup?_top_foldl hrest, lookup?_top_field, if_pos hfirst]

/-- Every field that is moved is in the section in the end. -/
theorem lookup?_inner_foldl_of_mem (h : other ∈ labels) (m : Move) :
    Value.lookup? other (labels.foldl Move.field m).inner
      = (Value.lookup? other m.inner).or (Value.lookup? other m.top) := by
  induction labels generalizing m with
  | nil => cases h
  | cons label labels ih =>
      rw [List.foldl_cons]
      by_cases hrest : other ∈ labels
      · rw [ih hrest, lookup?_inner_field, lookup?_top_field]
        split
        · rw [Option.or_none]
        · rfl
      · have hfirst : other = label := (List.mem_cons.1 h).resolve_right hrest
        rw [lookup?_inner_foldl hrest, lookup?_inner_field, if_pos hfirst]

-- ===================================================== sections

/-- That a top level has a section with some entries, or no section and so no entries in it. -/
inductive HasSection (top : Entries) : Entries → Prop where
  | absent (h : Value.lookup? "tmux" top = none) : HasSection top []
  | mapping {inner : Entries} (h : Value.lookup? "tmux" top = some (.map inner)) :
      HasSection top inner

/-- A file with a section has this section, and one without has an empty one. -/
private theorem HasSection.sectionOf_eq (h : HasSection top inner) :
    sectionOf (Value.lookup? "tmux" top) = some inner := by
  cases h with
  | absent h | mapping h =>
      rw [h]
      rfl

/-- A section is known from what stands under its key, whatever else is there. -/
theorem HasSection.of_lookup? (h : HasSection top inner)
    (hsame : Value.lookup? "tmux" nested = Value.lookup? "tmux" top) : HasSection nested inner := by
  cases h with
  | absent h => exact .absent (hsame.trans h)
  | mapping h => exact .mapping (hsame.trans h)

/-- A section is checked by its entries, and without a section there are none to check. -/
theorem HasSection.checkField (h : HasSection top inner) :
    Check.field top "tmux" {} TmuxSettings.check
      = (TmuxSettings.checkEntries inner).under "tmux" := by
  cases h with
  | absent h | mapping h =>
      rw [Check.field, h]
      rfl

/-- The move of all fields into a section with some entries. -/
def moveInto (top inner : Entries) : Move := movedFields.foldl Move.field ⟨top, inner, []⟩

/-- Migrating a file moves the fields into its section. -/
theorem HasSection.migrate_eq (h : HasSection top inner) :
    migrate top = ((moveInto top inner).result, (moveInto top inner).notes) :=
  Legacy.migrate_eq h.sectionOf_eq

/-- The file has the section afterwards that they were moved into. -/
theorem HasSection.result (h : HasSection top inner) :
    HasSection (moveInto top inner).result (moveInto top inner).inner := by
  by_cases hnil : (moveInto top inner).inner = []
  · have hinner : inner = [] := (inner_foldl_eq_nil_iff.1 hnil).1
    rw [Move.result_of_nil hnil, hnil]
    exact (hinner ▸ h).of_lookup? (lookup?_top_foldl (by decide) _)
  · rw [Move.result_of_ne_nil hnil]
    exact .mapping (Value.lookup?_insert_self _ _ _)

/-- Without an old field there is nothing to migrate. -/
theorem HasSection.migrate_of_current (h : HasSection top inner) (hmoved : ¬HasMovedField top) :
    migrate top = (top, []) := by
  have hmove : moveInto top inner = ⟨top, inner, []⟩ :=
    foldl_field_of_none fun label hlabel =>
      Option.eq_none_iff_forall_ne_some.2 fun v hv => hmoved ⟨label, hlabel, v, hv⟩
  rw [h.migrate_eq, hmove]
  cases h with
  | absent h => rfl
  | mapping h =>
      unfold Move.result
      split
      · rfl
      · rw [Value.insert_of_lookup? h]

-- ===================================================== nested forms

/-- That a top level says in the new layout what another one says in any layout: it has no old
field, its section has them all, those of the section before those of the top level, and nothing
else is different under text keys. -/
structure IsNested (top inner nested inner' : Entries) : Prop where
  old : ∀ label ∈ movedFields, Value.lookup? label nested = none
  moved : ∀ label ∈ movedFields,
    Value.lookup? label inner' = (Value.lookup? label inner).or (Value.lookup? label top)
  kept : ∀ label ∉ movedFields, Value.lookup? label inner' = Value.lookup? label inner
  others : ∀ label ∉ "tmux" :: movedFields, Value.lookup? label nested = Value.lookup? label top

/-- Nothing is left to move in a file that is nested. -/
private theorem IsNested.not_hasMovedField (h : IsNested top inner nested inner') :
    ¬HasMovedField nested := by
  rintro ⟨label, hlabel, v, hv⟩
  rw [h.old label hlabel] at hv
  cases hv

/-- Migrating changes no field but the section and those that are moved. -/
private theorem without_result (top inner : Entries) :
    Value.without ("tmux" :: movedFields) (moveInto top inner).result
      = Value.without ("tmux" :: movedFields) top := by
  have hmoved : Value.without ("tmux" :: movedFields) (moveInto top inner).top
      = Value.without ("tmux" :: movedFields) top :=
    without_top_foldl (fun _ => List.mem_cons_of_mem _) _
  unfold Move.result
  split
  · exact hmoved
  · rw [Value.without_insert List.mem_cons_self, hmoved]

/-- Migrating makes a file nested. -/
private theorem isNested_result (top inner : Entries) :
    IsNested top inner (moveInto top inner).result (moveInto top inner).inner where
  old := fun label hlabel => by
    have hne : label ≠ "tmux" := by
      rintro rfl
      exact absurd hlabel (by decide)
    have hgone : Value.lookup? label (moveInto top inner).top = none :=
      lookup?_top_foldl_of_mem hlabel _
    unfold Move.result
    split
    · exact hgone
    · rw [Value.lookup?_insert_of_ne hne, hgone]
  moved := fun label hlabel => lookup?_inner_foldl_of_mem hlabel _
  kept := fun label hlabel => lookup?_inner_foldl hlabel _
  others := fun label hlabel => Value.lookup?_congr_of_without (without_result top inner) hlabel

/-- Two nested forms of the same are checked alike. -/
theorem IsNested.check_congr {nested₁ inner₁ nested₂ inner₂ : Entries}
    (h₁ : IsNested top inner nested₁ inner₁) (h₂ : IsNested top inner nested₂ inner₂)
    (hsection₁ : HasSection nested₁ inner₁) (hsection₂ : HasSection nested₂ inner₂) :
    check (.map nested₁) = check (.map nested₂) := by
  have hinner (label : String) : Value.lookup? label inner₁ = Value.lookup? label inner₂ := by
    by_cases hlabel : label ∈ movedFields
    · rw [h₁.moved label hlabel, h₂.moved label hlabel]
    · rw [h₁.kept label hlabel, h₂.kept label hlabel]
  refine Settings.check_congr ?_ fun label hlabel => ?_
  · rw [hsection₁.checkField, hsection₂.checkField, checkSection_congr hinner]
  · have hother : label ∉ "tmux" :: movedFields := by
      revert label
      decide
    rw [h₁.others label hother, h₂.others label hother]

end Legacy

namespace Keeper

-- ===================================================== files in both layouts

variable {k k' : Keeper} {m m' : Machine} {top inner nested inner' : Legacy.Entries}

/-- Loading changes no file. -/
theorem disk_load (k : Keeper) (m : Machine) : (k.load.run m).2.disk = m.disk := by
  rw [run_load]
  cases k.read m.disk with
  | settings s notes => exact report_disk notes m
  | refused why notes => exact report_disk notes m
  | accident what => rfl

/-- Loading leaves the file of a keeper as it is. -/
theorem HoldsMapping.load (h : HoldsMapping k m top) : HoldsMapping k (k.load.run m).2 top := by
  unfold HoldsMapping
  rw [disk_load]
  exact h

/-- A file answers the same in both layouts. -/
theorem answer_of_isNested (hsection : Legacy.HasSection top inner)
    (hsection' : Legacy.HasSection nested inner') (h : Legacy.IsNested top inner nested inner')
    (hfile : HoldsMapping k m top) (hfile' : HoldsMapping k' m' nested) :
    k'.answer m' = k.answer m := by
  have hcheck : Settings.check (.map (Legacy.migrate nested).1)
      = Settings.check (.map (Legacy.migrate top).1) := by
    rw [hsection'.migrate_of_current h.not_hasMovedField, hsection.migrate_eq]
    exact h.check_congr (Legacy.isNested_result top inner) hsection' hsection.result
  rw [answer_of_holdsMapping hfile, answer_of_holdsMapping hfile', hcheck]

/-- Migration brings a top level whose section is a mapping or absent into its nested form, keeps
all entries under other keys of both levels in their order, and finds nothing to do in its own
result. What it is given is a value that nothing changes, and the file that the value was read
from keeps its layout. Loading answers the same for every file that holds a nested form. -/
theorem migrate_faithful (h : Legacy.HasSection top inner) :
    let nested := (Legacy.migrate top).1
    (∃ inner', Legacy.HasSection nested inner' ∧ Legacy.IsNested top inner nested inner'
        ∧ Value.without Legacy.movedFields inner' = Value.without Legacy.movedFields inner)
      ∧ Value.without ("tmux" :: Legacy.movedFields) nested
        = Value.without ("tmux" :: Legacy.movedFields) top
      ∧ Legacy.migrate nested = (nested, [])
      ∧ (∀ k m, HoldsMapping k m top → HoldsMapping k (k.load.run m).2 top)
      ∧ ∀ rewritten inner', Legacy.HasSection rewritten inner' →
          Legacy.IsNested top inner rewritten inner' →
          ∀ k m k' m', HoldsMapping k m top → HoldsMapping k' m' rewritten →
            k'.answer m' = k.answer m := by
  rw [h.migrate_eq]
  dsimp only
  have hnested := Legacy.isNested_result top inner
  have hinner : Value.without Legacy.movedFields (Legacy.moveInto top inner).inner
      = Value.without Legacy.movedFields inner := Legacy.without_inner_foldl (fun _ => id) _
  refine ⟨⟨_, h.result, hnested, hinner⟩, Legacy.without_result top inner,
    h.result.migrate_of_current hnested.not_hasMovedField, fun _ _ hfile => hfile.load, ?_⟩
  intro rewritten inner' hsection' hrewritten k m k' m' hfile hfile'
  exact answer_of_isNested h hsection' hrewritten hfile hfile'

-- ===================================================== cases

/-- The section of a file that has old fields as well. -/
def mixedSection : List (String × Json) := [("monitor_interval", .int 7)]

/-- What that file holds. -/
def mixedMembers : List (String × Json) :=
  [("monitor_interval", .int 5), ("auto_cleanup", .bool true), ("tmux", .object mixedSection)]

def mixedFile : String := "monitor_interval: 5\nauto_cleanup: true\ntmux: {monitor_interval: 7}\n"

/-- The section of the same file when it is rewritten by hand. -/
def nestedSection : List (String × Json) :=
  [("auto_cleanup", .bool true), ("monitor_interval", .int 7)]

/-- What the rewritten file holds. -/
def nestedMembers : List (String × Json) := [("tmux", .object nestedSection)]

def nestedFile : String := "tmux:\n  auto_cleanup: true\n  monitor_interval: 7\n"

/-- The second file is the first one written by hand in the new layout. -/
private theorem isNested_nestedMembers :
    Legacy.IsNested (Value.ofMembers mixedMembers) (Value.ofMembers mixedSection)
      (Value.ofMembers nestedMembers) (Value.ofMembers nestedSection) where
  old := by
    intro label hlabel
    simp only [Legacy.movedFields, List.mem_cons, List.not_mem_nil, or_false] at hlabel
    rcases hlabel with rfl | rfl | rfl | rfl <;> rfl
  moved := by
    intro label hlabel
    simp only [Legacy.movedFields, List.mem_cons, List.not_mem_nil, or_false] at hlabel
    rcases hlabel with rfl | rfl | rfl | rfl <;> rfl
  kept := fun _ => Value.lookup?_congr_of_without rfl
  others := fun _ => Value.lookup?_congr_of_without rfl

/-- Both files are answered with the same settings. -/
theorem migrate_faithful_nestedFile :
    Legacy.HasSection (Value.ofMembers mixedMembers) (Value.ofMembers mixedSection)
      ∧ Legacy.HasSection (Value.ofMembers nestedMembers) (Value.ofMembers nestedSection)
      ∧ sampleKeeper.answer (fileOf nestedFile.toUTF8.toList)
        = sampleKeeper.answer (fileOf mixedFile.toUTF8.toList)
      ∧ sampleKeeper.answer (fileOf mixedFile.toUTF8.toList)
        = .ok { tmux := { monitorInterval := seconds 7, autoCleanup := true } } := by
  have hsection : Legacy.HasSection (Value.ofMembers mixedMembers) (Value.ofMembers mixedSection) :=
    .mapping rfl
  have hsection' :
      Legacy.HasSection (Value.ofMembers nestedMembers) (Value.ofMembers nestedSection) :=
    .mapping rfl
  have hfile := holdsMapping_fileOf mixedFile mixedMembers (by decide +kernel) (by decide +kernel)
  have hfile' :=
    holdsMapping_fileOf nestedFile nestedMembers (by decide +kernel) (by decide +kernel)
  obtain ⟨-, -, -, -, hsame⟩ := migrate_faithful hsection
  refine ⟨hsection, hsection', hsame _ _ hsection' isNested_nestedMembers _ _ _ _ hfile hfile', ?_⟩
  rw [answer_of_holdsMapping hfile]
  exact toOption_eq_some (by decide +kernel)

end Keeper

end PaneWatch.Settings
