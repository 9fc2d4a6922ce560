/-
What the bytes of a file can hold.

The entries of a mapping are looked at one by one. As long as they are sessions
(`IsEntry`) they are gathered. The first one that is none decides: either the
content is corrupt because of it, or it ends the reading with an accident
(`Offends`). There are two ways to the latter, and both leave the kinds of
errors that a reader expects: a moment that is lost on its way to local time,
and a key that has no text.
-/
import Mathlib.Data.List.Forall2
import PaneWatch.Proofs.Session.Check
import PaneWatch.Registry.File

namespace PaneWatch.Registry

open Session (Record)
open Session.Record (LosesMoment)
open Time (Stamp)

-- ===================================================== single entries

/-- That an entry of a file is a session under a name. -/
def IsEntry [Time.Zone] (now : Stamp) (e : Value × Value) (named : String × Record) : Prop :=
  e.1.toKeyText = .ok named.1 ∧ Record.check now e.2 = .ok (.valid named.2)

/-- That an entry of a file ends the reading with an accident. -/
inductive Offends [Time.Zone] : Value × Value → Accident → Prop where
  | moment {key : Value} {entries : List (Value × Value)} (h : LosesMoment entries) :
    Offends (key, .map entries) .outOfRange
  | key {key v : Value} (h : key.isPrintable = false)
    (hv : ∀ entries, v = .map entries → ¬LosesMoment entries) :
    Offends (key, v) .noSuchValue

/-- A value has a text unless a number in it is too long to be printed. -/
private theorem display?_eq {v : Value} :
    v.display? = if v.isPrintable then .ok v.display else .error .noSuchValue := rfl

/-- Only a key that cannot be shown has no text. -/
theorem toKeyText_cases (key : Value) :
    (∃ name, key.toKeyText = .ok name ∧ key.isPrintable)
      ∨ key.toKeyText = .error .noSuchValue ∧ key.isPrintable = false := by
  unfold Value.toKeyText
  split
  · exact .inl ⟨_, rfl, rfl⟩
  · exact .inl ⟨_, rfl, rfl⟩
  · exact .inl ⟨_, rfl, rfl⟩
  · exact .inl ⟨_, rfl, rfl⟩
  · rw [display?_eq]
    cases key.isPrintable with
    | true => exact .inl ⟨_, rfl, rfl⟩
    | false => exact .inr ⟨rfl, rfl⟩

/-- An entry that is a session does not stop the reading. -/
private theorem IsEntry.not_offends [Time.Zone] {now : Stamp} {e : Value × Value}
    {named : String × Record}
    {what : Accident} (h : IsEntry now e named) : ¬Offends e what := by
  intro hoffends
  cases hoffends with
  | moment hloses =>
      have herror : Record.check now _ = .error .outOfRange :=
        Record.check_eq_error.2 ⟨rfl, hloses⟩
      rw [h.2] at herror
      cases herror
  | key hkey hv =>
      rcases toKeyText_cases _ with ⟨name, -, hprintable⟩ | ⟨herror, -⟩
      · rw [hkey] at hprintable
        cases hprintable
      · rw [h.1] at herror
        cases herror

private theorem not_losesMoment_of_check [Time.Zone] {now : Stamp} {entries : List (Value × Value)}
    {verdict : Checked Record} (h : Record.check now (.map entries) = .ok verdict) :
    ∀ es, Value.map entries = .map es → ¬LosesMoment es := by
  intro es hes hloses
  cases hes
  rw [Record.check_eq_error.2 ⟨rfl, hloses⟩] at h
  cases h

/-- The sessions with one more put under its name. -/
def put (before : Keyed Record) (named : String × Record) : Keyed Record :=
  before.insert named.1 named.2

/-- The first entry decides how the reading goes on. -/
theorem decodeEntries_cons [Time.Zone] (now : Stamp) (e : Value × Value) (before : Keyed Record)
    (rest : List (Value × Value)) :
    (∃ named, IsEntry now e named
        ∧ decodeEntries now before (e :: rest) = decodeEntries now (put before named) rest)
      ∨ (∃ what, Offends e what ∧ decodeEntries now before (e :: rest) = .error what)
      ∨ (∀ named, ¬IsEntry now e named) ∧ (∀ what, ¬Offends e what)
        ∧ ∃ why, decodeEntries now before (e :: rest) = .ok (.corrupt why) := by
  obtain ⟨key, v⟩ := e
  by_cases hmap : ∃ entries, v = .map entries
  · obtain ⟨entries, rfl⟩ := hmap
    rcases hcheck : Record.check now (.map entries) with what | s | faults
    · -- a record without a verdict ends the reading whatever its key is
      obtain ⟨rfl, hloses⟩ := Record.check_eq_error.1 hcheck
      exact .inr (.inl ⟨_, .moment hloses, by simp [decodeEntries, hcheck, bind, Except.bind]⟩)
    · have hkeeps := not_losesMoment_of_check hcheck
      rcases toKeyText_cases key with ⟨name, hname, -⟩ | ⟨hname, hkey⟩
      · exact .inl ⟨(name, s), ⟨hname, hcheck⟩, by
          simp [decodeEntries, hcheck, hname, bind, Except.bind, put]⟩
      · exact .inr (.inl ⟨_, .key hkey hkeeps, by
          simp [decodeEntries, hcheck, hname, bind, Except.bind]⟩)
    · have hkeeps := not_losesMoment_of_check hcheck
      cases hkey : key.isPrintable with
      | false =>
          exact .inr (.inl ⟨_, .key hkey hkeeps, by
            simp [decodeEntries, hcheck, display?_eq, hkey, bind, Except.bind]⟩)
      | true =>
          refine .inr (.inr ⟨fun named h => ?_, fun what h => ?_, .invalidEntry key.display faults,
            by simp [decodeEntries, hcheck, display?_eq, hkey, bind, Except.bind, pure,
              Except.pure]⟩)
          · rw [h.2] at hcheck
            cases hcheck
          · cases h with
            | moment hloses => exact hkeeps _ rfl hloses
            | key hkey' hv =>
                rw [hkey] at hkey'
                cases hkey'
  · have hentries : decodeEntries now before ((key, v) :: rest)
        = (do return .corrupt (.entryNotMapping (← key.display?))) := by
      unfold decodeEntries
      split
      · exact absurd ⟨_, rfl⟩ hmap
      · rfl
    rw [hentries]
    cases hkey : key.isPrintable with
    | false =>
        exact .inr (.inl ⟨_, .key hkey fun entries hv => absurd ⟨entries, hv⟩ hmap, by
          simp [display?_eq, hkey, bind, Except.bind]⟩)
    | true =>
        refine .inr (.inr ⟨fun named h => ?_, fun what h => ?_, .entryNotMapping key.display,
          by simp [display?_eq, hkey, bind, Except.bind, pure, Except.pure]⟩)
        · have hcheck := h.2
          cases v with
          | map entries => exact hmap ⟨entries, rfl⟩
          | _ => cases hcheck
        · cases h with
          | moment hloses => exact hmap ⟨_, rfl⟩
          | key hkey' hv =>
              rw [hkey] at hkey'
              cases hkey'

-- ===================================================== all entries

/-- The entries of a mapping are all sessions, or one behind sessions ends the reading with
an accident, or the content is corrupt. -/
theorem decodeEntries_cases [Time.Zone] (now : Stamp) (entries : List (Value × Value))
    (before : Keyed Record) :
    (∃ named, List.Forall₂ (IsEntry now) entries named
        ∧ decodeEntries now before entries = .ok (.sessions (named.foldl put before)))
      ∨ (∃ pre e post named what, entries = pre ++ e :: post
        ∧ List.Forall₂ (IsEntry now) pre named ∧ Offends e what)
      ∨ ∃ why, decodeEntries now before entries = .ok (.corrupt why) := by
  induction entries generalizing before with
  | nil => exact .inl ⟨[], .nil, rfl⟩
  | cons e rest ih =>
      rcases decodeEntries_cons now e before rest with
        ⟨n, hn, hstep⟩ | ⟨what, hoffends, -⟩ | ⟨-, -, why, hstep⟩
      · rw [hstep]
        rcases ih (put before n) with
          ⟨named, hall, hend⟩ | ⟨pre, e', post, named, what, rfl, hpre, hoffends⟩ | ⟨why, hend⟩
        · exact .inl ⟨n :: named, .cons hn hall, hend⟩
        · exact .inr (.inl ⟨e :: pre, e', post, n :: named, what, rfl, .cons hn hpre, hoffends⟩)
        · exact .inr (.inr ⟨why, hend⟩)
      · exact .inr (.inl ⟨[], e, rest, [], what, rfl, .nil, hoffends⟩)
      · exact .inr (.inr ⟨why, hstep⟩)

/-- An entry stops the reading with one accident. -/
theorem Offends.unique [Time.Zone] {e : Value × Value} {what what' : Accident} (h : Offends e what)
    (h' : Offends e what') : what = what' := by
  cases h with
  | moment hloses =>
      cases h' with
      | moment _ => rfl
      | key _ hv => exact absurd hloses (hv _ rfl)
  | key _ hv =>
      cases h' with
      | moment hloses => exact absurd hloses (hv _ rfl)
      | key _ _ => rfl

private theorem decodeEntries_of_isEntry [Time.Zone] {now : Stamp} {e : Value × Value}
    {named : String × Record}
    (h : IsEntry now e named) (before : Keyed Record) (rest : List (Value × Value)) :
    decodeEntries now before (e :: rest) = decodeEntries now (put before named) rest := by
  rcases decodeEntries_cons now e before rest with
    ⟨named', hnamed, hstep⟩ | ⟨what, hoffends, -⟩ | ⟨hnone, -⟩
  · have hname := h.1.symm.trans hnamed.1
    have hrecord := h.2.symm.trans hnamed.2
    simp only [Except.ok.injEq, Checked.valid.injEq] at hname hrecord
    rw [hstep, put, put, hname, hrecord]
  · exact absurd hoffends h.not_offends
  · exact absurd h (hnone named)

/-- Entries that are sessions are filed in their order, and the reading goes on after them. -/
private theorem decodeEntries_of_forall₂ [Time.Zone] {now : Stamp} {pre : List (Value × Value)}
    {named : List (String × Record)} (h : List.Forall₂ (IsEntry now) pre named)
    (before : Keyed Record) (rest : List (Value × Value)) :
    decodeEntries now before (pre ++ rest) = decodeEntries now (named.foldl put before) rest := by
  induction h generalizing before with
  | nil => rfl
  | cons hn _ ih =>
      rw [List.cons_append, decodeEntries_of_isEntry hn, ih]
      rfl

/-- An entry that offends ends the reading, whatever stands after it. -/
private theorem decodeEntries_of_offends [Time.Zone] {now : Stamp} {e : Value × Value}
    {what : Accident}
    (h : Offends e what) (before : Keyed Record) (rest : List (Value × Value)) :
    decodeEntries now before (e :: rest) = .error what := by
  rcases decodeEntries_cons now e before rest with
    ⟨named, hnamed, -⟩ | ⟨what', hoffends, hstep⟩ | ⟨-, hno, -⟩
  · exact absurd h hnamed.not_offends
  · rw [hstep, h.unique hoffends]
  · exact absurd h (hno what)

-- ===================================================== the bytes of a file

/-- That bytes hold a text, and not only blanks. -/
def HoldsText (bytes : List UInt8) (text : String) : Prop :=
  bytes.all Text.isByteBlank = false ∧ Value.utf8? bytes = some text

/-- That bytes hold nothing: only blanks, or a document that is null. -/
def HoldsNothing (bytes : List UInt8) : Prop :=
  bytes.all Text.isByteBlank = true ∨ ∃ text, HoldsText bytes text ∧ Yaml.load text = .ok .null

/-- That bytes hold a mapping of which every entry is a session. -/
def HoldsSessions [Time.Zone] (now : Stamp) (bytes : List UInt8) (sessions : Keyed Record) : Prop :=
  ∃ text entries named, HoldsText bytes text ∧ Yaml.load text = .ok (.map entries)
    ∧ List.Forall₂ (IsEntry now) entries named ∧ sessions = named.foldl put {}

/-- That the reading of bytes ends with an accident: a scalar spells no value of its kind, or
an entry of the mapping behind sessions loses a moment or has a key without a text. -/
inductive HoldsAccident [Time.Zone] (now : Stamp) (bytes : List UInt8) : Accident → Prop where
  | scalar {text : String} {what : Accident} (htext : HoldsText bytes text)
    (hload : Yaml.load text = .error (.accident what)) : HoldsAccident now bytes what
  | entry {text : String} {pre post : List (Value × Value)} {e : Value × Value}
    {named : List (String × Record)} {what : Accident} (htext : HoldsText bytes text)
    (hload : Yaml.load text = .ok (.map (pre ++ e :: post)))
    (hpre : List.Forall₂ (IsEntry now) pre named) (h : Offends e what) :
    HoldsAccident now bytes what

variable {now : Stamp} {bytes : List UInt8}

/-- A file that holds text is read as this text is. -/
private theorem decode_of_holdsText [Time.Zone] (now : Stamp) {text : String}
    (h : HoldsText bytes text) :
    decode now bytes = match Yaml.load text with
      | .ok v => decodeValue now v
      | .error .malformed => .ok (.corrupt .malformed)
      | .error (.accident what) => .error what := by
  rw [decode, h.1, h.2]
  exact if_neg Bool.false_ne_true

/-- A file that holds nothing is read as blank or as a mapping without entries. -/
theorem decode_of_holdsNothing [Time.Zone] (now : Stamp) (h : HoldsNothing bytes) :
    decode now bytes = .ok .blank ∨ decode now bytes = .ok (.sessions {}) := by
  rcases h with hblank | ⟨text, htext, hload⟩
  · exact .inl (by rw [decode, if_pos hblank])
  · exact .inr (by rw [decode_of_holdsText now htext, hload]; rfl)

/-- A file that holds sessions is read as these. -/
theorem decode_of_holdsSessions [Time.Zone] {sessions : Keyed Record}
    (h : HoldsSessions now bytes sessions) : decode now bytes = .ok (.sessions sessions) := by
  obtain ⟨text, entries, named, htext, hload, hall, rfl⟩ := h
  have hend := decodeEntries_of_forall₂ hall {} []
  rw [List.append_nil] at hend
  rw [decode_of_holdsText now htext, hload]
  exact hend

/-- A file that holds an accident is not read at all. -/
theorem decode_of_holdsAccident [Time.Zone] {what : Accident} (h : HoldsAccident now bytes what) :
    decode now bytes = .error what := by
  cases h with
  | scalar htext hload => rw [decode_of_holdsText now htext, hload]
  | entry htext hload hpre hoffends =>
      rw [decode_of_holdsText now htext, hload]
      show decodeEntries now {} _ = _
      rw [decodeEntries_of_forall₂ hpre, decodeEntries_of_offends hoffends]

/-- Bytes hold nothing, or sessions, or an accident, or else they are corrupt. -/
theorem holds_cases [Time.Zone] (now : Stamp) (bytes : List UInt8) :
    HoldsNothing bytes ∨ (∃ sessions, HoldsSessions now bytes sessions)
      ∨ (∃ what, HoldsAccident now bytes what) ∨ ∃ why, decode now bytes = .ok (.corrupt why) := by
  cases hblank : bytes.all Text.isByteBlank with
  | true => exact .inl (.inl hblank)
  | false =>
      cases hutf8 : Value.utf8? bytes with
      | none => exact .inr (.inr (.inr ⟨.malformed, by simp [decode, hblank, hutf8]⟩))
      | some text =>
          have htext : HoldsText bytes text := ⟨hblank, hutf8⟩
          have hdecode := decode_of_holdsText now htext
          rcases hload : Yaml.load text with (_ | what) | v
          · rw [hload] at hdecode
            exact .inr (.inr (.inr ⟨_, hdecode⟩))
          · exact .inr (.inr (.inl ⟨what, .scalar htext hload⟩))
          · rw [hload] at hdecode
            cases v with
            | null => exact .inl (.inr ⟨text, htext, hload⟩)
            | map entries =>
                rcases decodeEntries_cases now entries {} with ⟨named, hall, -⟩
                  | ⟨pre, e, post, named, what, rfl, hpre, hoffends⟩ | ⟨why, hend⟩
                · exact .inr (.inl ⟨_, text, entries, named, htext, hload, hall, rfl⟩)
                · exact .inr (.inr (.inl ⟨what, .entry htext hload hpre hoffends⟩))
                · exact .inr (.inr (.inr ⟨why, hdecode.trans hend⟩))
            | _ => exact .inr (.inr (.inr ⟨_, hdecode⟩))

/-- What is read as sessions is nothing at all, or a mapping of sessions. -/
theorem holds_of_decode [Time.Zone] {sessions : Keyed Record}
    (h : decode now bytes = .ok (.sessions sessions)) :
    sessions = {} ∨ HoldsSessions now bytes sessions := by
  rcases holds_cases now bytes with hnothing | ⟨sessions', hsessions⟩ | ⟨what, haccident⟩
    | ⟨why, hcorrupt⟩
  · rcases decode_of_holdsNothing now hnothing with hblank | hempty
    · rw [hblank] at h
      cases h
    · rw [hempty] at h
      cases h
      exact .inl rfl
  · rw [decode_of_holdsSessions hsessions] at h
    cases h
    exact .inr hsessions
  · rw [decode_of_holdsAccident haccident] at h
    cases h
  · rw [hcorrupt] at h
    cases h

end PaneWatch.Registry
