/-
Settings that are saved and read again.

What is written is the plain tree of the settings, and what is read goes through the end of lines,
the format, the migration of old fields and all checks, any of which could turn it into the
defaults without a word to the caller. It passes all of them as it is. Nothing that is printed
needs an escape, so no end of a line is taken for another one; the tree has no old field and
has its section, so there is nothing to migrate; and every field is read as what it was, within
its bounds (`check_toMembers`). That the format reads a tree back from its text is left to it
(`Yaml.ReadsBack`).
-/
import PaneWatch.Proofs.Settings.Layout
import PaneWatch.Proofs.Value.Plain
import PaneWatch.Proofs.Yaml.Clear

namespace PaneWatch.Settings

-- ===================================================== the tree of settings

private theorem gives_ofMembers {α : Type} {members : List (String × Json)} {label : String}
    {j : Json}
    {absent a : α} {reads : Value → α → Prop} (h : members.lookup label = some j)
    (hreads : reads (Value.ofJson j) a) :
    Check.Gives (Value.ofMembers members) label absent reads a := by
  rw [Check.Gives, Value.lookup?_ofMembers, h]
  exact hreads

/-- The fields of a section are read from its tree. -/
theorem reads_section (t : TmuxSettings) :
    ∃ inner, Value.ofJson t.toJson = .map inner ∧ TmuxSettings.Reads inner t :=
  ⟨_, rfl, gives_ofMembers rfl rfl, gives_ofMembers rfl rfl, gives_ofMembers rfl rfl,
    gives_ofMembers rfl rfl, gives_ofMembers rfl rfl⟩

/-- The fields of settings are read from their tree. -/
theorem reads_toMembers (c : Settings) : Reads (Value.ofMembers c.toMembers) c := by
  obtain ⟨inner, hinner, hreads⟩ := reads_section c.tmux
  exact ⟨gives_ofMembers rfl ⟨inner, hinner, hreads⟩, gives_ofMembers rfl rfl,
    gives_ofMembers rfl rfl, gives_ofMembers rfl rfl⟩

/-- Settings within their bounds are what their tree is checked as. -/
theorem check_toMembers {c : Settings} (h : c.IsBounded) :
    check (.map (Value.ofMembers c.toMembers)) = .valid c :=
  check_eq_valid.2 ⟨_, rfl, reads_toMembers c, h⟩

namespace Legacy

private theorem not_hasMovedField_toMembers (c : Settings) :
    ¬HasMovedField (Value.ofMembers c.toMembers) := by
  rintro ⟨label, hlabel, v, hv⟩
  have hnone : ∀ label ∈ movedFields, label ∉ c.toMembers.map (·.1) := by
    show ∀ label ∈ movedFields, label ∉ ["tmux", "port", "debug", "log_level"]
    decide
  rw [Value.lookup?_ofMembers, lookup_eq_none_iff_notMem.2 (hnone label hlabel)] at hv
  cases hv

/-- The tree of settings is not migrated. -/
theorem migrate_toMembers (c : Settings) :
    migrate (Value.ofMembers c.toMembers) = (Value.ofMembers c.toMembers, []) := by
  obtain ⟨inner, hinner, -⟩ := reads_section c.tmux
  have hlookup : Value.lookup? "tmux" (Value.ofMembers c.toMembers) = some (.map inner) := by
    rw [← hinner]
    exact Value.lookup?_ofMembers "tmux" c.toMembers
  exact (HasSection.mapping hlookup).migrate_of_current (not_hasMovedField_toMembers c)

end Legacy

namespace Keeper

-- ===================================================== the text of settings

private theorem unifyLines_of_notMem {cs : List Char} (h : '\r' ∉ cs) : unifyLines cs = cs := by
  fun_induction unifyLines cs with
  | case1 rest ih => simp at h
  | case2 rest hrest ih => simp at h
  | case3 c rest hpair hreturn ih =>
      rw [ih fun hmem => h (List.mem_cons_of_mem c hmem)]
  | case4 => rfl

/-- What is printed has no end of a line that could be taken for another one. -/
theorem holdsText_bytesOf (c : Settings) : HoldsText (bytesOf c) (Yaml.print c.toMembers) := by
  have hreturn : '\r' ∉ (Yaml.print c.toMembers).toList := by
    intro hmem
    have hclear := Yaml.isClear_print c.toMembers _ hmem
    revert hclear
    decide
  refine ⟨_, Text.utf8?_toUTF8 _, ?_⟩
  rw [unifyLines_of_notMem hreturn, String.ofList_toList]

variable {k : Keeper} {m : Machine} {c : Settings}

/-- A file with what is written for settings within their bounds is read as these settings. -/
theorem ofBytes_bytesOf (hc : c.IsBounded) (hback : Yaml.ReadsBack c.toMembers) :
    ofBytes (bytesOf c) = .settings c [] := by
  rw [ofBytes_of_holdsText (holdsText_bytesOf c), hback]
  dsimp only
  rw [ofValue, topLevel?_map]
  dsimp only
  rw [Legacy.migrate_toMembers, check_toMembers hc]

-- ===================================================== saving

private theorem read_of_writeTo {path : Path} {disk disk' : Disk}
    (h : writeTo path c disk = .ok disk') :
    disk'.read path = .ok (bytesOf c) := by
  obtain ⟨disk₁, -, hwrite⟩ := exists_of_bind_eq_ok h
  obtain ⟨hroot, rfl⟩ := Disk.write_ok hwrite
  rw [Disk.read, Disk.find?, Disk.at?_set_self hroot]

/-- A keeper whose file holds what is written for settings loads them, and reports nothing. -/
theorem load_of_bytesOf (hread : m.disk.read k.path = .ok (bytesOf c)) (hc : c.IsBounded)
    (hback : Yaml.ReadsBack c.toMembers) :
    k.load.run m = ((.ok c, { k with current := some c }), m) := by
  rw [run_load, read_of_bytes hread, ofBytes_bytesOf hc hback]
  rfl

/-- Saving works and remembers what it wrote, or it does not work and remembers nothing new. -/
theorem save_cases (k : Keeper) (given : Option Settings) (m : Machine) :
    (∃ s disk, (given.orElse fun _ => k.current) = some s ∧ writeTo k.path s m.disk = .ok disk
        ∧ (k.save given).run m = ((true, { k with current := some s }), { m with disk }))
      ∨ ((k.save given).run m).1 = (false, k) := by
  rw [run_save]
  cases given.orElse fun _ => k.current with
  | none => exact .inr rfl
  | some s =>
      cases hwrite : writeTo k.path s m.disk with
      | ok disk => exact .inl ⟨s, disk, rfl, hwrite, by simp [hwrite]⟩
      | error t => exact .inr (by simp [hwrite])

/-- Settings within their bounds survive: if saving them works, they are what the keeper answers
from then on, whether it remembers them or reads its file again, and the file has no old field. If
saving does not work, nothing new is remembered. Without settings to save it is those remembered
that are saved, if there are any. -/
theorem save_survives (k : Keeper) (m : Machine) (hc : c.IsBounded)
    (hback : Yaml.ReadsBack c.toMembers) :
    let saved := (k.save (some c)).run m
    let k' := saved.1.2
    let m' := saved.2
    (saved.1.1 = true →
        k'.get.run m' = ((.ok c, k'), m') ∧ k'.reload.run m' = ((.ok c, k'), m')
          ∧ HoldsMapping k' m' (Value.ofMembers c.toMembers)
          ∧ ¬Legacy.HasMovedField (Value.ofMembers c.toMembers))
      ∧ (∀ given, ((k.save given).run m).1.1 = false → ((k.save given).run m).1.2 = k)
      ∧ ∀ s, k.current = some s → k.save none = k.save (some s) := by
  intro saved k' m'
  refine ⟨?_, ?_, ?_⟩
  · intro hworked
    rcases save_cases k (some c) m with ⟨s, disk, hs, hwrite, hrun⟩ | hfailed
    · cases hs
      have hk : k' = { k with current := some c } := congrArg (·.1.2) hrun
      have hm : m' = { m with disk } := congrArg (·.2) hrun
      have hread : m'.disk.read k'.path = .ok (bytesOf c) := by
        rw [hk, hm]
        exact read_of_writeTo hwrite
      have hreload : k'.reload.run m' = ((.ok c, { k' with current := some c }), m') :=
        load_of_bytesOf (k := { k' with current := none }) hread hc hback
      have hremembers : k'.current = some c := congrArg current hk
      refine ⟨?_, ?_, ⟨bytesOf c, _, hread, holdsText_bytesOf c, hback⟩,
        Legacy.not_hasMovedField_toMembers c⟩
      · rw [get, hremembers]
        rfl
      · rw [hreload, ← hremembers]
    · rw [show saved.1.1 = false from congrArg Prod.fst hfailed] at hworked
      cases hworked
  · intro given hfailed
    rcases save_cases k given m with ⟨s, disk, -, -, hrun⟩ | hsame
    · rw [hrun] at hfailed
      cases hfailed
    · rw [hsame]
  · intro s hs
    unfold save
    rw [hs]
    rfl

/-- Settings at ends of their ranges, with a path that a careless reader takes for something
else, or for several lines. -/
def awkwardSettings : Settings where
  tmux :=
    { monitorInterval := seconds 60
      commandTimeout := seconds 30
      stateFile := "~: 'é' #\r\n\r"
      autoCleanup := true
      cleanupAgeHours := 1 }
  port := 1024
  debug := true
  logLevel := .critical

private theorem isBounded_awkwardSettings : awkwardSettings.IsBounded where
  tmux := ⟨isSeconds_seconds (n := 60) (by decide) (by decide) (by decide),
    isSeconds_seconds (n := 30) (by decide) (by decide) (by decide), by decide⟩
  port := by decide
  logLevel := by decide

theorem save_survives_awkward :
    ∃ k' m', (sampleKeeper.save (some awkwardSettings)).run (fileOf []) = ((true, k'), m')
      ∧ k'.get.run m' = ((.ok awkwardSettings, k'), m')
      ∧ k'.reload.run m' = ((.ok awkwardSettings, k'), m')
      ∧ awkwardSettings.IsBounded ∧ Yaml.ReadsBack awkwardSettings.toMembers := by
  have hback : Yaml.ReadsBack awkwardSettings.toMembers := by decide +kernel
  obtain ⟨hworks, -⟩ :=
    save_survives sampleKeeper (fileOf []) isBounded_awkwardSettings hback
  obtain ⟨hget, hreload, -⟩ := hworks rfl
  exact ⟨_, _, rfl, hget, hreload, isBounded_awkwardSettings, hback⟩

end Keeper

end PaneWatch.Settings
