/-
Settings in use are within their bounds.

A check accepts a value exactly if every field that is there can be read as one of its type,
leniently (`Reads`), and what comes out is within the bounds (`IsBounded`), whichever kind of value
it was read from. The defaults are within the bounds as well. A keeper answers either the defaults
or what a check has accepted, so no way of asking it gives anything else (`bounded_in_use`).

How a real number is checked for being within bounds is not said here, only that the check is
lawful (`Check.LawfulBounding`): above all, that it refuses a NaN. One that only compares numbers
would not (`comparing_not_bounded`).
-/
import PaneWatch.Proofs.Check.Field
import PaneWatch.Proofs.Failure
import PaneWatch.Proofs.Number.Exact
import PaneWatch.Proofs.Settings.Loading

namespace PaneWatch

open Number (Double)

-- ===================================================== levels

/-- The names that a level can be given by. -/
def LogLevel.names : List String := ["DEBUG", "INFO", "WARNING", "ERROR", "CRITICAL"]

/-- A level is read from its own name only. -/
private theorem LogLevel.ofName?_eq_some {word : String} {l : LogLevel} :
    ofName? word = some l ↔ word = l.name := by
  constructor
  · intro h
    have hname := List.find?_some (p := fun level : LogLevel => level.name == word) h
    exact (eq_of_beq hname).symm
  · rintro rfl
    cases l <;> decide

private theorem LogLevel.name_mem_names (l : LogLevel) : l.name ∈ names := by
  cases l <;> decide

-- ===================================================== the section for panes

/-- The number of whole seconds. -/
theorem value?_seconds {n : Nat} (h : n < 2 ^ 53) : (seconds n).value? = some (n : ℚ) := by
  rw [seconds, Double.ofRatio_of_lt h]
  simp

/-- A number of seconds that is exact is no NaN. -/
private theorem seconds_ne_nan {n : Nat} (h : n < 2 ^ 53) : seconds n ≠ .nan := by
  intro hnan
  have hvalue := value?_seconds h
  rw [hnan] at hvalue
  cases hvalue

/-- That a number is one of seconds above zero, and not above a bound. -/
def IsSeconds (most : Nat) (x : Double) : Prop := ∃ q, x.value? = some q ∧ 0 < q ∧ q ≤ (most : ℚ)

/-- A whole number of seconds between the bounds is a length of time between them. -/
theorem isSeconds_seconds {most n : Nat} (h : n < 2 ^ 53) (hpos : 0 < n) (hmost : n ≤ most) :
    IsSeconds most (seconds n) :=
  ⟨n, value?_seconds h, by exact_mod_cast hpos, by exact_mod_cast hmost⟩

namespace TmuxSettings

/-- That the fields of a section are read as settings, whatever their bounds. -/
structure Reads (entries : List (Value × Value)) (t : TmuxSettings) : Prop where
  monitorInterval : Check.Gives entries "monitor_interval" (seconds 2)
    (fun v x => Check.number v = .ok x) t.monitorInterval
  commandTimeout : Check.Gives entries "command_timeout" (seconds 2)
    (fun v x => Check.number v = .ok x) t.commandTimeout
  stateFile : Check.Gives entries "state_file" "data/sessions.yaml"
    (fun v s => Check.text v = .ok s) t.stateFile
  autoCleanup : Check.Gives entries "auto_cleanup" false
    (fun v b => Check.flag v = .ok b) t.autoCleanup
  cleanupAgeHours : Check.Gives entries "cleanup_age_hours" 24
    (fun v n => Check.integer v = .ok n) t.cleanupAgeHours

/-- That the settings of a section are within their bounds. -/
structure IsBounded (t : TmuxSettings) : Prop where
  monitorInterval : IsSeconds 60 t.monitorInterval
  commandTimeout : IsSeconds 30 t.commandTimeout
  cleanupAgeHours : 1 ≤ t.cleanupAgeHours ∧ t.cleanupAgeHours ≤ 2160

/-- The defaults of the section are within its bounds. -/
theorem isBounded_default : IsBounded {} where
  monitorInterval := isSeconds_seconds (n := 2) (by decide) (by decide) (by decide)
  commandTimeout := isSeconds_seconds (n := 2) (by decide) (by decide) (by decide)
  cleanupAgeHours := by decide

/-- A check for seconds passes exactly the numbers within the bounds, as they are. -/
private theorem checkSeconds_eq_valid [Check.Bounding] [Check.LawfulBounding] {most : Nat}
    (h : most < 2 ^ 53) {v : Value} {x : Double} :
    checkSeconds most v = .valid x ↔ Check.number v = .ok x ∧ IsSeconds most x := by
  have hzero : (seconds 0).value? = some 0 := by rw [value?_seconds (by decide), Nat.cast_zero]
  rw [checkSeconds, Checked.ofExcept_eq_valid]
  cases Check.number v with
  | error c => simp [bind, Except.bind]
  | ok y =>
      show Check.Bounding.within (seconds 0) (seconds most) y = .ok x ↔ _
      rw [Check.within_eq_ok (seconds_ne_nan (by decide)) (seconds_ne_nan h),
        Double.between_iff hzero (value?_seconds h), Except.ok.injEq]
      exact and_congr_right fun hy => by rw [hy, IsSeconds]

variable {entries : List (Value × Value)} {label : String}

/-- So does a field of seconds; its default is within the bounds. -/
private theorem secondsField_eq_valid [Check.Bounding] [Check.LawfulBounding] {most : Nat}
    (h : most < 2 ^ 53) {absent x : Double} (habsent : IsSeconds most absent) :
    Check.field entries label absent (checkSeconds most) = .valid x
      ↔ Check.Gives entries label absent (fun v x => Check.number v = .ok x) x
        ∧ IsSeconds most x :=
  Check.field_eq_valid_of_fits (fun v x => Check.number v = .ok x) (IsSeconds most) habsent
    fun _ => checkSeconds_eq_valid h

/-- The section is valid exactly if each of its fields is read and is within its bounds. -/
private theorem checkEntries_eq_valid [Check.Bounding] [Check.LawfulBounding] {t : TmuxSettings} :
    checkEntries entries = .valid t ↔ Reads entries t ∧ t.IsBounded := by
  have hdefault := isBounded_default
  constructor
  · intro h
    obtain ⟨_, hfour, age, hage, rfl⟩ := Checked.seq_eq_valid.1 h
    obtain ⟨_, hthree, flag, hflag, rfl⟩ := Checked.seq_eq_valid.1 hfour
    obtain ⟨_, htwo, file, hfile, rfl⟩ := Checked.seq_eq_valid.1 hthree
    obtain ⟨_, hone, timeout, htimeout, rfl⟩ := Checked.seq_eq_valid.1 htwo
    obtain ⟨interval, hinterval, rfl⟩ := Checked.map_eq_valid.1 hone
    have hx := (secondsField_eq_valid (by decide) hdefault.monitorInterval).1 hinterval
    have hy := (secondsField_eq_valid (by decide) hdefault.commandTimeout).1 htimeout
    have hn := (Check.rangeField_eq_valid hdefault.cleanupAgeHours).1 hage
    exact ⟨⟨hx.1, hy.1, Check.plainField_eq_valid.1 hfile, Check.plainField_eq_valid.1 hflag, hn.1⟩,
      ⟨hx.2, hy.2, hn.2⟩⟩
  · rintro ⟨hreads, hbounded⟩
    have hinterval := (secondsField_eq_valid (by decide) hdefault.monitorInterval).2
      ⟨hreads.monitorInterval, hbounded.monitorInterval⟩
    have htimeout := (secondsField_eq_valid (by decide) hdefault.commandTimeout).2
      ⟨hreads.commandTimeout, hbounded.commandTimeout⟩
    have hfile := Check.plainField_eq_valid.2 hreads.stateFile
    have hflag := Check.plainField_eq_valid.2 hreads.autoCleanup
    have hage := (Check.rangeField_eq_valid hdefault.cleanupAgeHours).2
      ⟨hreads.cleanupAgeHours, hbounded.cleanupAgeHours⟩
    have hone := (Checked.map_eq_valid (f := TmuxSettings.mk)).2 ⟨_, hinterval, rfl⟩
    have htwo := Checked.seq_eq_valid.2 ⟨_, hone, _, htimeout, rfl⟩
    have hthree := Checked.seq_eq_valid.2 ⟨_, htwo, _, hfile, rfl⟩
    have hfour := Checked.seq_eq_valid.2 ⟨_, hthree, _, hflag, rfl⟩
    exact Checked.seq_eq_valid.2 ⟨_, hfour, _, hage, rfl⟩

/-- The check of the section accepts exactly what is read as settings within their bounds. -/
theorem check_eq_valid [Check.Bounding] [Check.LawfulBounding] {v : Value} {t : TmuxSettings} :
    check v = .valid t ↔ ∃ entries, v = .map entries ∧ Reads entries t ∧ t.IsBounded := by
  cases v with
  | map entries =>
      simp only [Value.map.injEq, exists_eq_left', ← checkEntries_eq_valid]
      rfl
  | _ => simp [check]

end TmuxSettings

-- ===================================================== all settings

namespace Settings

/-- That the fields of all settings are read, whatever their bounds. A level is given by its
name. -/
structure Reads (entries : List (Value × Value)) (s : Settings) : Prop where
  tmux : Check.Gives entries "tmux" {}
    (fun v t => ∃ inner, v = .map inner ∧ TmuxSettings.Reads inner t) s.tmux
  port : Check.Gives entries "port" 5050 (fun v n => Check.integer v = .ok n) s.port
  debug : Check.Gives entries "debug" false (fun v b => Check.flag v = .ok b) s.debug
  logLevel : Check.Gives entries "log_level" .info (fun v l => Check.text v = .ok l.name) s.logLevel

/-- That settings are within their bounds. -/
structure IsBounded (s : Settings) : Prop where
  tmux : s.tmux.IsBounded
  port : 1024 ≤ s.port ∧ s.port ≤ 65535
  logLevel : s.logLevel.name ∈ LogLevel.names

/-- All defaults are within their bounds. -/
theorem isBounded_default : IsBounded {} where
  tmux := TmuxSettings.isBounded_default
  port := by decide
  logLevel := by decide

/-- A level is valid exactly if it is written as the text of its name. -/
private theorem checkLevel_eq_valid {v : Value} {l : LogLevel} :
    checkLevel v = .valid l ↔ Check.text v = .ok l.name := by
  rw [checkLevel, Checked.ofExcept_eq_valid]
  cases Check.text v with
  | error c => simp [bind, Except.bind]
  | ok word =>
      rw [Except.ok.injEq, ← LogLevel.ofName?_eq_some]
      show (LogLevel.ofName? word).elim (Except.error Cause.otherPattern) Except.ok = .ok l ↔ _
      cases LogLevel.ofName? word <;> simp

variable {entries : List (Value × Value)}

/-- The section of a file is valid exactly if it is a mapping of fields within their bounds, or
absent. -/
private theorem sectionField_eq_valid [Check.Bounding] [Check.LawfulBounding] {label : String}
    {t : TmuxSettings} :
    Check.field entries label {} TmuxSettings.check = .valid t
      ↔ Check.Gives entries label {}
          (fun v t => ∃ inner, v = .map inner ∧ TmuxSettings.Reads inner t) t
        ∧ t.IsBounded :=
  Check.field_eq_valid_of_fits (fun v t => ∃ inner, v = .map inner ∧ TmuxSettings.Reads inner t)
    TmuxSettings.IsBounded TmuxSettings.isBounded_default fun v => by
      simp only [TmuxSettings.check_eq_valid, ← and_assoc, exists_and_right]

private theorem levelField_eq_valid {label : String} {absent l : LogLevel} :
    Check.field entries label absent checkLevel = .valid l
      ↔ Check.Gives entries label absent (fun v (l : LogLevel) => Check.text v = .ok l.name) l :=
  Check.field_eq_valid (fun v (l : LogLevel) => Check.text v = .ok l.name)
    fun _ => checkLevel_eq_valid

/-- Settings are valid exactly if each field is read and is within its bounds. -/
private theorem checkEntries_eq_valid [Check.Bounding] [Check.LawfulBounding] {s : Settings} :
    checkEntries entries = .valid s ↔ Reads entries s ∧ s.IsBounded := by
  have hdefault := isBounded_default
  constructor
  · intro h
    obtain ⟨_, hthree, level, hlevel, rfl⟩ := Checked.seq_eq_valid.1 h
    obtain ⟨_, htwo, flag, hflag, rfl⟩ := Checked.seq_eq_valid.1 hthree
    obtain ⟨_, hone, port, hport, rfl⟩ := Checked.seq_eq_valid.1 htwo
    obtain ⟨tmux, htmux, rfl⟩ := Checked.map_eq_valid.1 hone
    have ht := sectionField_eq_valid.1 htmux
    have hn := (Check.rangeField_eq_valid hdefault.port).1 hport
    exact ⟨⟨ht.1, hn.1, Check.plainField_eq_valid.1 hflag, levelField_eq_valid.1 hlevel⟩,
      ⟨ht.2, hn.2, level.name_mem_names⟩⟩
  · rintro ⟨hreads, hbounded⟩
    have htmux := sectionField_eq_valid.2 ⟨hreads.tmux, hbounded.tmux⟩
    have hport := (Check.rangeField_eq_valid hdefault.port).2 ⟨hreads.port, hbounded.port⟩
    have hflag := Check.plainField_eq_valid.2 hreads.debug
    have hlevel := levelField_eq_valid.2 hreads.logLevel
    have hone := (Checked.map_eq_valid (f := Settings.mk)).2 ⟨_, htmux, rfl⟩
    have htwo := Checked.seq_eq_valid.2 ⟨_, hone, _, hport, rfl⟩
    have hthree := Checked.seq_eq_valid.2 ⟨_, htwo, _, hflag, rfl⟩
    exact Checked.seq_eq_valid.2 ⟨_, hthree, _, hlevel, rfl⟩

/-- The check accepts exactly what is read as settings within their bounds. -/
theorem check_eq_valid [Check.Bounding] [Check.LawfulBounding] {v : Value} {s : Settings} :
    check v = .valid s ↔ ∃ entries, v = .map entries ∧ Reads entries s ∧ s.IsBounded := by
  cases v with
  | map entries =>
      simp only [Value.map.injEq, exists_eq_left', ← checkEntries_eq_valid]
      rfl
  | _ => simp [check]

-- ===================================================== keepers

namespace Keeper

variable {k k' : Keeper} {m m' : Machine} {s : Settings}

/-- Whatever a file is read as is within the bounds. -/
theorem isBounded_of_outcome [Check.Bounding] [Check.LawfulBounding]
    (h : (k.read m.disk).outcome = .ok s) : s.IsBounded := by
  by_cases hthere : ∃ bytes, m.disk.read k.path = .ok bytes
  · obtain ⟨bytes, hread⟩ := hthere
    rw [read_of_bytes hread] at h
    rcases ofBytes_cases bytes with ⟨what, haccident⟩ | ⟨s', houtcome, hgives⟩
    · rw [ofBytes_of_holdsAccident haccident] at h
      cases h
    · rw [houtcome] at h
      cases h
      rcases hgives with ⟨-, rfl⟩ | ⟨text, entries, -, -, hcheck⟩
      · exact isBounded_default
      · obtain ⟨-, -, -, hbounded⟩ := check_eq_valid.1 hcheck
        exact hbounded
  · rw [outcome_read_of_unreadable fun bytes hread => hthere ⟨bytes, hread⟩] at h
    cases h
    exact isBounded_default

/-- Loading answers what the file is read as, and remembers it. -/
theorem outcome_of_load [Check.Bounding] (h : k.load.run m = ((.ok s, k'), m')) :
    (k.read m.disk).outcome = .ok s ∧ k'.current = some s := by
  rw [run_load] at h
  cases hread : k.read m.disk with
  | settings s' notes | refused why notes =>
      rw [hread] at h
      cases h
      exact ⟨rfl, rfl⟩
  | accident what =>
      rw [hread] at h
      cases h

/-- A keeper of the program: it starts without settings, and is asked while anything may have
happened to the machine. What it is given to save has passed the check. -/
inductive IsInUse [Check.Bounding] : Keeper → Prop where
  | start (path : Path) : IsInUse ⟨path, none⟩
  | load {k : Keeper} (h : IsInUse k) (m : Machine) : IsInUse (k.load.run m).1.2
  | get {k : Keeper} (h : IsInUse k) (m : Machine) : IsInUse (k.get.run m).1.2
  | reload {k : Keeper} (h : IsInUse k) (m : Machine) : IsInUse (k.reload.run m).1.2
  | save {k : Keeper} (h : IsInUse k) (m : Machine) {v : Value} {s : Settings}
    (hcheck : Settings.check v = .valid s) : IsInUse ((k.save (some s)).run m).1.2
  | saveAgain {k : Keeper} (h : IsInUse k) (m : Machine) : IsInUse ((k.save none).run m).1.2

/-- That the settings remembered are within their bounds. -/
def IsBounded (k : Keeper) : Prop := ∀ s, k.current = some s → s.IsBounded

/-- Loading leaves a keeper with settings within their bounds, if it had such. -/
theorem IsBounded.load [Check.Bounding] [Check.LawfulBounding] (h : k.IsBounded) (m : Machine) :
    (k.load.run m).1.2.IsBounded := by
  rw [run_load]
  cases hread : k.read m.disk with
  | settings s' notes | refused why notes =>
      intro s hs
      cases hs
      exact isBounded_of_outcome (by rw [hread]; rfl)
  | accident what => exact h

/-- So does asking for the settings. -/
theorem IsBounded.get [Check.Bounding] [Check.LawfulBounding] (h : k.IsBounded) (m : Machine) :
    (k.get.run m).1.2.IsBounded := by
  unfold Keeper.get
  cases hcurrent : k.current with
  | none => exact h.load m
  | some s => exact h

/-- So does reloading them, whatever was there before. -/
theorem IsBounded.reload [Check.Bounding] [Check.LawfulBounding] (k : Keeper) (m : Machine) :
    (k.reload.run m).1.2.IsBounded :=
  load (k := { k with current := none }) (fun _ hs => by cases hs) m

/-- Settings that are given are saved, or else those in use. They are in use afterwards if that
was done; otherwise the keeper is as it was. -/
theorem run_save (k : Keeper) (given : Option Settings) (m : Machine) :
    (k.save given).run m = match given.orElse fun _ => k.current with
      | none => ((false, k), m)
      | some s => match writeTo k.path s m.disk with
        | .ok disk => ((true, { k with current := some s }), { m with disk })
        | .error t => ((false, k), m.logged .error ("Error saving config: " ++ t.reason)) := by
  unfold save
  cases given.orElse fun _ => k.current with
  | none => rfl
  | some s =>
      have hchange : Machine.change (writeTo k.path s) m = match writeTo k.path s m.disk with
          | .ok disk => (.ok (), { m with disk })
          | .error t => (.error t, m) := rfl
      simp only [StateT.run, bind, StateT.bind, hchange]
      cases writeTo k.path s m.disk <;> rfl

/-- Saving remembers what it is given, or nothing new. -/
theorem current_save (k : Keeper) (given : Option Settings) (m : Machine) :
    ((k.save given).run m).1.2 = k
      ∨ ∃ s, (given = some s ∨ k.current = some s)
        ∧ ((k.save given).run m).1.2 = { k with current := some s } := by
  rw [run_save]
  cases hchoice : given.orElse fun _ => k.current with
  | none => exact .inl rfl
  | some s =>
      have hs : given = some s ∨ k.current = some s := by
        cases given with
        | none => exact .inr hchoice
        | some s' => exact .inl hchoice
      cases hwrite : writeTo k.path s m.disk with
      | ok disk => exact .inr ⟨s, hs, by simp [hwrite]⟩
      | error t => exact .inl (by simp [hwrite])

/-- Saving settings within their bounds leaves the keeper with such. -/
theorem IsBounded.save (h : k.IsBounded) {given : Option Settings}
    (hgiven : ∀ s, given = some s → s.IsBounded) (m : Machine) :
    ((k.save given).run m).1.2.IsBounded := by
  rcases current_save k given m with hsame | ⟨s, hs, hsaved⟩
  · rw [hsame]
    exact h
  · rw [hsaved]
    intro s' hs'
    cases hs'
    exact hs.elim (hgiven s) (h s)

/-- A keeper in use holds settings within their bounds. -/
private theorem IsInUse.isBounded [Check.Bounding] [Check.LawfulBounding] (h : IsInUse k) :
    k.IsBounded := by
  induction h with
  | start path => exact fun _ hs => by cases hs
  | load h m ih => exact ih.load m
  | get h m ih => exact ih.get m
  | reload h m ih => exact .reload _ m
  | save h m hcheck ih =>
      obtain ⟨-, -, -, hbounded⟩ := check_eq_valid.1 hcheck
      exact ih.save (fun s hs => by cases hs; exact hbounded) m
  | saveAgain h m ih => exact ih.save (fun s hs => by cases hs) m

/-- The ways of asking a keeper for settings. -/
def ways [Check.Bounding] :
    List (Keeper → StateM Machine (Except Failure Settings × Keeper)) := [load, get, reload]

/-- A keeper in use is still in use after one of the ways to ask it. -/
theorem IsInUse.ask [Check.Bounding]
    {ask : Keeper → StateM Machine (Except Failure Settings × Keeper)}
    (h : IsInUse k) (hask : ask ∈ ways) (m : Machine) : IsInUse ((ask k).run m).1.2 := by
  simp only [ways, List.mem_cons, List.not_mem_nil, or_false] at hask
  rcases hask with rfl | rfl | rfl
  · exact h.load m
  · exact h.get m
  · exact h.reload m

/-- What a keeper answers is what it remembers. -/
private theorem remembers_of_way [Check.Bounding]
    {ask : Keeper → StateM Machine (Except Failure Settings × Keeper)}
    (hask : ask ∈ ways) (h : (ask k).run m = ((.ok s, k'), m')) : k'.current = some s := by
  simp only [ways, List.mem_cons, List.not_mem_nil, or_false] at hask
  rcases hask with rfl | rfl | rfl
  · exact (outcome_of_load h).2
  · unfold get at h
    cases hcurrent : k.current with
    | none =>
        rw [hcurrent] at h
        exact (outcome_of_load h).2
    | some s' =>
        rw [hcurrent] at h
        cases h
        exact hcurrent
  · exact (outcome_of_load h).2

/-- The settings that a service is loaded with are those it runs with. -/
private theorem settings_of_loadRegistry {l : Service.Loaded}
    (h : (Service.loadRegistry s).run m = (.ok l, m')) : l.settings = s := by
  unfold Service.loadRegistry at h
  cases hpath : (Path.ofText s.tmux.stateFile).expandHome? with
  | none =>
      rw [hpath] at h
      cases h
  | some path =>
      have hload : (modifyGet (Registry.load path) : StateM Machine _) m
        = Registry.load path m := rfl
      rw [hpath] at h
      simp only [StateT.run, bind, StateT.bind, hload] at h
      rcases houtcome : Registry.load path m with ⟨f | r, m₁⟩
      · rw [houtcome] at h
        cases h
      · rw [houtcome] at h
        cases h
        rfl

/-- A service has the settings of the file that it was started with. -/
theorem isBounded_of_serviceLoad [Check.Bounding] [Check.LawfulBounding] {path : Path}
    {l : Service.Loaded}
    (h : (Service.load path).run m = (.ok l, m')) : l.settings.IsBounded := by
  obtain ⟨⟨outcome, k'⟩, m₁, hget⟩ : ∃ a m₁, (load ⟨path, none⟩).run m = (a, m₁) := ⟨_, _, rfl⟩
  cases outcome with
  | error f =>
      rw [serviceLoad_of_error hget] at h
      cases h
  | ok s =>
      have hload : (Service.load path).run m = (Service.loadRegistry s).run m₁ := by
        have hget : Keeper.get ⟨path, none⟩ m = ((.ok s, k'), m₁) := hget
        simp only [Service.load, StateT.run, bind, StateT.bind, hget]
      rw [hload] at h
      rw [settings_of_loadRegistry h]
      exact isBounded_of_outcome (outcome_of_load hget).1

-- ===================================================== settings in use

/-- Loading answers only settings within their bounds, whatever is in the file, and a keeper of the
program does so whenever and however it is asked. So a service has no others. A check accepts a
value exactly if it can be read as settings at all and they are within their bounds, whichever kinds
of values they are read from. All that is taken for granted of the bounds of real numbers is that
their check is lawful. -/
theorem bounded_in_use [Check.Bounding] [Check.LawfulBounding] (k : Keeper) (m : Machine) :
    (∀ s k' m', k.load.run m = ((.ok s, k'), m') → s.IsBounded ∧ k'.current = some s)
      ∧ (IsInUse k → ∀ ask ∈ ways, ∀ s k' m', (ask k).run m = ((.ok s, k'), m') →
        s.IsBounded ∧ k'.current = some s)
      ∧ (∀ path l m', (Service.load path).run m = (.ok l, m') → l.settings.IsBounded)
      ∧ ∀ v s, Settings.check v = .valid s
        ↔ ∃ entries, v = .map entries ∧ Reads entries s ∧ s.IsBounded := by
  refine ⟨?_, ?_, fun path l m' => isBounded_of_serviceLoad, fun v s => check_eq_valid⟩
  · intro s k' m' h
    obtain ⟨houtcome, hcurrent⟩ := outcome_of_load h
    exact ⟨isBounded_of_outcome houtcome, hcurrent⟩
  · intro hk ask hask s k' m' h
    have hcurrent := remembers_of_way hask h
    -- what is answered is remembered, and the keeper that remembers it is in use again
    have hnext := hk.ask hask m
    rw [h] at hnext
    exact ⟨hnext.isBounded s hcurrent, hcurrent⟩

/-- Settings at the ends of their ranges, as several kinds of values. -/
def outermost : String :=
  "port: '65535'\nlog_level: DEBUG\ntmux:\n  monitor_interval: 60\n  cleanup_age_hours: true\n"

/-- What these settings are read as. -/
def outermostSettings : Settings where
  tmux := { monitorInterval := seconds 60, cleanupAgeHours := 1 }
  port := 65535
  logLevel := .debug

/-- A file with all values at the ends of their bounds is accepted, and its settings are in use as
they stand there. -/
theorem bounded_in_use_outermost :
    (∃ k' m', sampleKeeper.load.run (fileOf outermost.toUTF8.toList)
        = ((.ok outermostSettings, k'), m'))
      ∧ (∃ k' m', sampleKeeper.get.run (fileOf outermost.toUTF8.toList)
        = ((.ok outermostSettings, k'), m') ∧ k'.current = some outermostSettings)
      ∧ outermostSettings.IsBounded := by
  obtain ⟨hload, hasked, -, -⟩ := bounded_in_use sampleKeeper (fileOf outermost.toUTF8.toList)
  have houtcome : (sampleKeeper.read (fileOf outermost.toUTF8.toList).disk).outcome
      = .ok outermostSettings := toOption_eq_some (by decide +kernel)
  obtain ⟨m', hrun, -⟩ := load_of_outcome_ok houtcome
  have hget : sampleKeeper.get.run (fileOf outermost.toUTF8.toList) = _ := hrun
  have hanswer := hasked (.start _) get (by simp [ways]) _ _ _ hget
  exact ⟨⟨_, _, hrun⟩, ⟨_, _, hget, hanswer.2⟩, (hload _ _ _ hrun).1⟩

/-- A check that does no more than compare a number with the bounds. -/
@[reducible] def comparingBounds : Check.Bounding where
  within above most x :=
    if x.le above then .error .tooLow
    else if most.lt x then .error .aboveMost
    else .ok x

/-- Such a check is not lawful, as a NaN compares with nothing. With it settings would be accepted
that are within no bounds. -/
theorem comparing_not_bounded :
    let given : Value := .map [(.text "tmux", .map [(.text "monitor_interval", .real .nan)])]
    let s : Settings := { tmux := { monitorInterval := .nan } }
    @Settings.check comparingBounds given = .valid s ∧ ¬s.IsBounded := by
  intro given s
  refine ⟨rfl, fun hbounded => ?_⟩
  obtain ⟨q, hq, -⟩ := hbounded.tmux.monitorInterval
  cases hq

end Keeper

end Settings

end PaneWatch
