/-
How an update fails, and how it should not.

An update announces that it may find no session, be given a value that is not valid, or be
unable to write the file. It keeps to that, but for two accidents of reading. A time of the last
access is brought to the local zone, and there may be beyond the calendar (`isLost_iff`): nothing
looks for that. And a value of the wrong type is shown in the message about it, but an integer
can be too long for any text. In both cases the caller gets another failure than the one for
values that are not valid, and nothing has changed (`update_promise_iff`).
-/
import PaneWatch.Proofs.Registry.Updating
import PaneWatch.Proofs.Time.Order

namespace PaneWatch.Registry

open Session (Record)
open Time (Stamp Moment)

namespace Change

variable {key : String} {v : Value} {updates : List (String × Value)}

-- ===================================================== accidents of reading

/-- That the reading of a key and its value ends with an accident. -/
inductive Trips : String → Value → Accident → Prop where
  | lost {key : String} {v : Value} : IsLost key v → Trips key v .outOfRange
  | unshown {key : String} {v : Value} :
    IsWrong key v → v.isPrintable = false → Trips key v .noSuchValue

/-- That the reading of an update ends with an accident. -/
def EndsIn (updates : List (String × Value)) (what : Accident) : Prop :=
  ∃ before key v after, updates = before ++ (key, v) :: after
    ∧ (∀ e ∈ before, ∃ c, Asks e.1 e.2 c) ∧ Trips key v what

/-- A time is lost that lies before the calendar in UTC, or behind it in the local zone. -/
theorem isLost_iff : IsLost key v ↔ key = "last_access" ∧ ∃ stamp offset,
    momentOf? v = some ⟨stamp, some offset⟩ ∧ ((stamp.micros : Int) < offset
      ∨ (Time.calendarDays * Time.day : Int) ≤ stamp.micros - offset + Time.localOffset) := by
  refine and_congr_right fun _ => ?_
  simp only [Moment.toLocal?_eq_none_iff]
  constructor
  · rintro ⟨⟨stamp, _⟩, hmoment, offset, rfl, hout⟩
    exact ⟨stamp, offset, hmoment, hout⟩
  · rintro ⟨stamp, offset, hmoment, hout⟩
    exact ⟨_, hmoment, offset, rfl, hout⟩

private theorem Asks.isAccess {c : Change} (h : Asks "last_access" v c) : ∃ t, IsAccess v t := by
  generalize hkey : "last_access" = key at h
  cases h with
  | access h => exact ⟨_, h⟩
  | state => exact absurd hkey (by decide)
  | directory => exact absurd hkey (by decide)
  | branch => exact absurd hkey (by decide)
  | noted h =>
      subst hkey
      exact absurd (by decide) h

private theorem read_of_trips {what : Accident} (h : Trips key v what) :
    read key v = .error (.accident what) := by
  cases h with
  | lost h => exact read_of_isLost h
  | unshown h hv =>
      obtain ⟨wanted, hread⟩ := read_of_isWrong h
      rw [hread, wrongType, Value.display?, if_neg (by simpa using hv)]

/-- Reading fails with an accident, or because the value is not valid. -/
theorem read_error_cases {f : Failure} (h : read key v = .error f) :
    (∃ what, Trips key v what ∧ f = .accident what) ∨ f.kind = .invalid := by
  rcases asks_or key v with ⟨c, hasks⟩ | hlost | hwrong
  · rw [read_of_asks hasks] at h
    cases h
  · rw [read_of_isLost hlost] at h
    cases h
    exact .inl ⟨_, .lost hlost, rfl⟩
  · cases hv : v.isPrintable with
    | false =>
        rw [read_of_trips (.unshown hwrong hv)] at h
        cases h
        exact .inl ⟨_, .unshown hwrong hv, rfl⟩
    | true =>
        obtain ⟨wanted, hread⟩ := read_of_isWrong hwrong
        rw [hread, wrongType, Value.display?, if_pos hv] at h
        cases h
        exact .inr rfl

/-- An update fails with the first key that asks for nothing. -/
theorem readAll_eq_error_iff {f : Failure} : readAll updates = .error f
    ↔ ∃ before key v after, updates = before ++ (key, v) :: after
      ∧ (∀ e ∈ before, ∃ c, Asks e.1 e.2 c) ∧ read key v = .error f := by
  induction updates with
  | nil => simp [readAll, pure, Except.pure]
  | cons e updates ih =>
      have hcons : readAll (e :: updates)
          = (do let c ← read e.1 e.2; let cs ← readAll updates; return c :: cs) := by
        rw [readAll, List.mapM_cons]
        rfl
      cases hread : read e.1 e.2 with
      | error f' =>
          rw [hcons, hread]
          constructor
          · intro h
            cases h
            exact ⟨[], e.1, e.2, updates, rfl, by simp, hread⟩
          · rintro ⟨_ | ⟨e', before⟩, key, v, after, heq, hbefore, h⟩
            · cases heq
              rw [hread] at h
              cases h
              rfl
            · cases heq
              obtain ⟨c, hasks⟩ := hbefore e List.mem_cons_self
              rw [read_of_asks hasks] at hread
              cases hread
      | ok c =>
          have hrest : readAll (e :: updates) = .error f ↔ readAll updates = .error f := by
            rw [hcons, hread]
            cases readAll updates <;> simp [bind, Except.bind, pure, Except.pure]
          rw [hrest, ih]
          constructor
          · rintro ⟨before, key, v, after, rfl, hbefore, h⟩
            refine ⟨e :: before, key, v, after, rfl, ?_, h⟩
            exact List.forall_mem_cons.2 ⟨⟨c, read_eq_ok_iff.1 hread⟩, hbefore⟩
          · rintro ⟨_ | ⟨e', before⟩, key, v, after, heq, hbefore, h⟩
            · cases heq
              rw [hread] at h
              cases h
            · cases heq
              exact ⟨before, key, v, after, rfl, (List.forall_mem_cons.1 hbefore).2, h⟩

private theorem readAll_of_endsIn {what : Accident} (h : EndsIn updates what) :
    readAll updates = .error (.accident what) := by
  obtain ⟨before, key, v, after, rfl, hbefore, htrips⟩ := h
  exact readAll_eq_error_iff.2 ⟨before, key, v, after, rfl, hbefore, read_of_trips htrips⟩

private theorem readAll_error_cases {f : Failure} (h : readAll updates = .error f) :
    (∃ what, EndsIn updates what ∧ f = .accident what) ∨ f.kind = .invalid := by
  obtain ⟨before, key, v, after, rfl, hbefore, hread⟩ := readAll_eq_error_iff.1 h
  refine (read_error_cases hread).imp_left ?_
  rintro ⟨what, htrips, rfl⟩
  exact ⟨what, ⟨before, key, v, after, rfl, hbefore, htrips⟩, rfl⟩

end Change

open Change

-- ===================================================== the promise

/-- What an update promises about its failures: there are no others than it announces, and a
time of the last access that is a text or a moment but cannot be stored is not valid. -/
structure KeepsUpdatePromise (updates : List (String × Value))
    (outcome : Except Failure Ending) : Prop where
  announced : ∀ f, outcome = .error f →
    f.kind = .notFound ∨ f.kind = .invalid ∨ f.kind = .storage
  told : ∀ v, ("last_access", v) ∈ updates → (∃ s, IsText v s) ∨ (∃ m, v = .moment m) →
    (∀ t, ¬IsAccess v t) → ∃ f, outcome = .error f ∧ f.kind = .invalid

namespace Operation

variable {key : String} {updates : List (String × Value)} {d : Desk}

/-- An update that cannot be read changes nothing, whatever stands under its key. -/
theorem run_of_readAll_error {f : Failure} (h : readAll updates = .error f) :
    (update key updates).run d = (.error f, d) := by
  have hlaw := run_planned (update key updates) d
  rw [plan, h] at hlaw
  exact hlaw

/-- An update fails as it announces, or with the accident in which the reading of it ends. -/
theorem update_error_cases {f : Failure} (h : ((update key updates).run d).1 = .error f) :
    (∃ what, EndsIn updates what ∧ f = .accident what)
      ∨ f.kind = .notFound ∨ f.kind = .invalid ∨ f.kind = .storage := by
  rcases (update key updates).run_cases d with
    ⟨f', hplan, hrun⟩ | ⟨-, hrun⟩ | ⟨r, -, hsaves, -⟩
  · rw [hrun] at h
    cases h
    simp only [plan] at hplan
    split at hplan
    · next hread =>
      cases hplan
      exact (readAll_error_cases hread).imp_right fun hkind => .inr (.inl hkind)
    · cases hplan
      exact .inr (.inl rfl)
    · split at hplan
      · cases hplan
        exact .inr (.inr (.inl rfl))
      · cases hplan
  · rw [hrun] at h
    cases h
  · have houtcome := hsaves.outcome
    rw [h] at houtcome
    exact .inr (.inr (.inr (kind_of_write houtcome.symm)))

/-- An update keeps its promise exactly if the reading of it does not end with an accident. If
it does, the update fails with that accident and changes nothing. -/
theorem update_promise_iff (key : String) (updates : List (String × Value)) (d : Desk) :
    (KeepsUpdatePromise updates ((update key updates).run d).1 ↔ ∀ what, ¬EndsIn updates what)
      ∧ ∀ what, EndsIn updates what →
        (update key updates).run d = (.error (.accident what), d) := by
  have hfails (what : Accident) (h : EndsIn updates what) :
      (update key updates).run d = (.error (.accident what), d) :=
    run_of_readAll_error (readAll_of_endsIn h)
  refine ⟨⟨fun hpromise what h => ?_, fun hnone => ⟨fun f hf => ?_, fun v hmem _ hnot => ?_⟩⟩,
    hfails⟩
  · have hkind := hpromise.announced _ (congrArg Prod.fst (hfails what h))
    simp [Failure.kind] at hkind
  · refine (update_error_cases hf).resolve_left ?_
    rintro ⟨what, h, -⟩
    exact hnone what h
  · -- a time that cannot be stored keeps the whole update from being read
    cases hread : readAll updates with
    | error f =>
        refine ⟨f, congrArg Prod.fst (run_of_readAll_error hread), ?_⟩
        refine (readAll_error_cases hread).resolve_left ?_
        rintro ⟨what, h, -⟩
        exact hnone what h
    | ok changes =>
        obtain ⟨c, hasks⟩ := exists_readAll_iff.1 ⟨changes, hread⟩ _ hmem
        obtain ⟨t, haccess⟩ := hasks.isAccess
        exact absurd haccess (hnot t)

end Operation

-- ===================================================== cases

/-- The first midnight of the calendar, in a zone that lies a minute east of the local one. -/
def dawn : Value := .text "0001-01-01T00:00:00+05:31"

/-- The registry of one session. -/
def soleDesk : Desk := { emptyDesk with registry := emptyDesk.registry.insert "s" sampleSession }

/-- A time that lies a minute before the calendar is not refused as a value that is not valid. -/
theorem dawn_breaks_promise :
    ¬KeepsUpdatePromise [("last_access", dawn)]
        ((Operation.update "s" [("last_access", dawn)]).run soleDesk).1
      ∧ (Operation.update "s" [("last_access", dawn)]).run soleDesk
        = (.error (.accident .outOfRange), soleDesk) := by
  have hlost : IsLost "last_access" dawn :=
    isLost_iff.2 ⟨rfl, .midnight ⟨1, 1, 1⟩, 19860000000, by decide +kernel, by decide⟩
  have hends : EndsIn [("last_access", dawn)] .outOfRange :=
    ⟨[], _, _, [], rfl, nofun, .lost hlost⟩
  have hrun : (Operation.update "s" [("last_access", dawn)]).run soleDesk
      = (.error (.accident .outOfRange), soleDesk) :=
    Operation.run_of_readAll_error (readAll_of_endsIn hends)
  refine ⟨fun hpromise => ?_, hrun⟩
  have hkind := hpromise.announced (.accident .outOfRange) (congrArg Prod.fst hrun)
  simp [Failure.kind] at hkind

end PaneWatch.Registry
