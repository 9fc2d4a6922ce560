/-
Sections that are no mapping.

Such a section is to be left for the check, which refuses it, so that the file gives nothing but the
defaults. That is what happens if the section counts as present. One that is empty in its
own way, as are zero, an empty text and an empty list, stands for an empty mapping while fields
are moved. Without an old field it is still in its place afterwards and is refused. With one, the
section is built anew over it, and the file is read as if the section were not there.
-/
import PaneWatch.Proofs.Settings.Migration

namespace PaneWatch.Settings

namespace Legacy

variable {top : Entries} {v : Value}

/-- The settings that a top level gives, the defaults if it is refused. -/
def settingsOf (top : Entries) : Settings :=
  match check (.map (migrate top).1) with
  | .valid s => s
  | .invalid _ => {}

private theorem settingsOf_of_refused (h : ∀ s, check (.map (migrate top).1) ≠ .valid s) :
    settingsOf top = {} := by
  unfold settingsOf
  split
  · next s hcheck => exact absurd hcheck (h s)
  · rfl

private theorem sectionOf_of_present (hv : ∀ entries, v ≠ .map entries) (h : v.isPresent = true) :
    sectionOf (some v) = none := by
  cases v with
  | map entries => exact absurd rfl (hv entries)
  | _ => simp only [sectionOf, h]; rfl

/-- A section that counts as present stays where it is, and is refused there. -/
theorem settingsOf_of_present (hsection : Value.lookup? "tmux" top = some v)
    (hv : ∀ entries, v ≠ .map entries) (h : v.isPresent = true) : settingsOf top = {} := by
  refine settingsOf_of_refused fun s => ?_
  rw [migrate, hsection, sectionOf_of_present hv h]
  exact check_ne_valid hsection hv s

private theorem settingsOf_of_unmoved (hsection : Value.lookup? "tmux" top = some v)
    (hv : ∀ entries, v ≠ .map entries) (h : v.isPresent = false) (hmoved : ¬HasMovedField top) :
    settingsOf top = {} := by
  refine settingsOf_of_refused fun s => ?_
  rw [migrate_of_empty hsection h, Move.result_of_nil (inner_moveAll_eq_nil_iff.2 hmoved)]
  exact check_ne_valid ((lookup?_section_moveAll top).trans hsection) hv s

/-- With a field to move, an empty section makes no difference. -/
theorem settingsOf_of_moved (hsection : Value.lookup? "tmux" top = some v)
    (h : v.isPresent = false) (hmoved : HasMovedField top) :
    settingsOf top = settingsOf (Value.remove "tmux" top) := by
  have halike : Alike (moveAll top) (moveAll (Value.remove "tmux" top)) :=
    Alike.foldl ⟨rfl, rfl, fun _ hother => (Value.lookup?_remove_of_ne hother top).symm⟩ (by decide)
  have hinner : (moveAll top).inner ≠ [] := fun hnil => inner_moveAll_eq_nil_iff.1 hnil hmoved
  rw [settingsOf, settingsOf, migrate_of_empty hsection h,
    migrate_of_absent (Value.lookup?_remove_self "tmux" top), check_result_of_alike halike hinner]

end Legacy

namespace Keeper

variable {k : Keeper} {m : Machine} {top : Legacy.Entries} {v : Value}

private theorem answer_eq_settingsOf (h : HoldsMapping k m top) :
    k.answer m = .ok (Legacy.settingsOf top) := by
  rw [answer_of_holdsMapping h, Legacy.settingsOf]
  cases Settings.check (.map (Legacy.migrate top).1) <;> rfl

/-- A section that is no mapping makes all settings of the file the defaults exactly if it counts
as present, or there is no old field to be moved over it, or the rest of the file has nothing but
the defaults anyway. Otherwise the settings are those of the rest of the file. -/
theorem malformed_section_iff (h : HoldsMapping k m top)
    (hsection : Value.lookup? "tmux" top = some v) (hv : ∀ entries, v ≠ .map entries) :
    (k.answer m = .ok {}
        ↔ v.isPresent = true ∨ ¬Legacy.HasMovedField top
          ∨ Legacy.settingsOf (Value.remove "tmux" top) = {})
      ∧ (k.answer m = .ok {}
        ∨ k.answer m = .ok (Legacy.settingsOf (Value.remove "tmux" top))) := by
  rw [answer_eq_settingsOf h, Except.ok.injEq, Except.ok.injEq]
  cases hpresent : v.isPresent with
  | true => simp [Legacy.settingsOf_of_present hsection hv hpresent]
  | false =>
      by_cases hmoved : Legacy.HasMovedField top
      · simp [Legacy.settingsOf_of_moved hsection hpresent hmoved, hmoved]
      · simp [Legacy.settingsOf_of_unmoved hsection hv hpresent hmoved, hmoved]

-- ===================================================== cases

/-- A file with a word for a section, and an old field. -/
def wordSection : String := "monitor_interval: 5\nport: 6000\ntmux: fast\n"

theorem malformed_section_word :
    Value.lookup? "tmux" (Value.ofMembers [("monitor_interval", .int 5), ("port", .int 6000),
        ("tmux", .text "fast")]) = some (.text "fast")
      ∧ sampleKeeper.answer (fileOf wordSection.toUTF8.toList) = .ok {} := by
  have hfile := holdsMapping_fileOf wordSection
    [("monitor_interval", .int 5), ("port", .int 6000), ("tmux", .text "fast")]
    (by decide +kernel) (by decide +kernel)
  exact ⟨rfl, (malformed_section_iff hfile rfl nofun).1.2 (.inl rfl)⟩

/-- The same file with an empty list for a section. -/
def listSection : String := "monitor_interval: 5\nport: 6000\ntmux: []\n"

/-- The list is not refused: the old field is moved over it, and the port of the file counts. -/
theorem list_section_accepted : ∃ top,
    HoldsMapping sampleKeeper (fileOf listSection.toUTF8.toList) top
      ∧ Value.lookup? "tmux" top = some (.list [])
      ∧ sampleKeeper.answer (fileOf listSection.toUTF8.toList)
        = .ok { tmux := { monitorInterval := seconds 5 }, port := 6000 }
      ∧ sampleKeeper.answer (fileOf listSection.toUTF8.toList) ≠ .ok {} := by
  have hanswer : sampleKeeper.answer (fileOf listSection.toUTF8.toList)
      = .ok { tmux := { monitorInterval := seconds 5 }, port := 6000 } :=
    toOption_eq_some (by decide +kernel)
  refine ⟨_, holdsMapping_fileOf listSection
    [("monitor_interval", .int 5), ("port", .int 6000), ("tmux", .list [])]
    (by decide +kernel) (by decide +kernel), rfl, hanswer, ?_⟩
  rw [hanswer]
  intro hdefault
  have hport : (6000 : Int) = 5050 := congrArg Settings.port (Except.ok.inj hdefault)
  exact absurd hport (by decide)

end Keeper

end PaneWatch.Settings
