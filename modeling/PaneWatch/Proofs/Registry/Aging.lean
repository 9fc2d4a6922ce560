/-
Cleaning up with ages great and small.

What is stale was last used before the present less an age. Where the calendar does not reach
back so far its first stamp stands in for that time, and no stamp comes before the first. For an
age that is not negative both cases are therefore one inequality between microseconds
(`isStale_cutoff_iff`), and a greater age makes the inequality harder to meet.

Nobody touches the registry while the panes answer here, and they answer the same whenever they
are asked (`Answers`). So what a clean-up removes are the entries that are due in the beginning,
and none is due in what it leaves.
-/
import PaneWatch.Proofs.Registry.Sweeping
import PaneWatch.Proofs.Time.Order

namespace PaneWatch.Registry

open Session (Record)
open Time (Stamp Span)

-- ===================================================== stale by age

/-- Nothing was used before the calendar began. -/
theorem isStale_first (s : Record) : isStale Stamp.first s = false := by
  rw [isStale, Bool.eq_false_iff, Ne, Stamp.before_iff, Stamp.micros_first]
  exact Nat.not_lt_zero _

private theorem cutoff_of_none {now : Stamp} {age : Int} (h : now.add? (-age) = none) :
    cutoff now age = Stamp.first := by
  rw [cutoff, h, Option.getD_none]

/-- What is stale was last used so long ago, also if the calendar does not reach back so far. -/
theorem isStale_cutoff_iff {now : Stamp} {age : Int} (h : 0 ≤ age) {s : Record} :
    isStale (cutoff now age) s ↔ (s.lastAccess.micros : Int) + age < now.micros := by
  cases hlimit : now.add? (-age) with
  | none =>
      -- going back, the calendar can only be left at its beginning
      have hbefore : (now.micros : Int) < age := by
        have hout := Stamp.add?_eq_none_iff.1 hlimit
        have hnow := now.micros_lt
        omega
      rw [cutoff_of_none hlimit, isStale_first]
      simp only [Bool.false_eq_true, false_iff]
      omega
  | some limit =>
      have hmicros := Stamp.micros_of_add? hlimit
      rw [cutoff, hlimit, Option.getD_some, isStale, Stamp.before_iff]
      omega

-- ===================================================== what is due

/-- What panes answer whenever they are asked. They may fail, but with failures that are held up:
a clean-up takes every one of the answers. -/
structure Answers where
  answer : String → Except Failure Bool
  counts : ∀ key, counts (answer key)

instance : Coe Answers (String → Except Failure Bool) := ⟨Answers.answer⟩

instance : CoeFun Answers fun _ => String → Except Failure Bool := ⟨Answers.answer⟩

section

variable (answer : Answers)

/-- Whether an entry is stale and its panes are gone. -/
def isDue (limit : Stamp) (e : String × Record) : Bool :=
  isStale limit e.2 && saysGone (answer e.1)

/-- What is not due in a registry. -/
def undue (limit : Stamp) (r : Registry) : Registry :=
  { r with sessions := r.sessions.filter fun e => !isDue answer limit e }

/-- The keys of the entries that are due. -/
def dueKeys (limit : Stamp) (r : Registry) : List String :=
  (r.candidates limit).filter fun key => saysGone (answer key)

/-- A clean-up is a sweep of what is due. -/
theorem cleanUp_answers (age : Span) (d : Desk) :
    (Operation.reach (some answer)).cleanUp age d
      = (sweep (cutoff d.machine.now age.micros)
          (dueKeys answer (cutoff d.machine.now age.micros) d.registry)).on d := by
  rw [Operation.cleanUp_reach, Operation.gone_of_counts fun key _ => answer.counts key]
  rfl

/-- Removing these removes what is due. -/
theorem removeStale_dueKeys (limit : Stamp) (r : Registry) :
    r.removeStale limit (dueKeys answer limit r)
      = (undue answer limit r, r.sessions.entries.countP (isDue answer limit)) := by
  have hdue : ∀ e ∈ r.sessions.entries,
      ((dueKeys answer limit r).contains e.1 && isStale limit e.2) = isDue answer limit e := by
    intro e he
    have hasked : e.1 ∈ r.candidates limit ↔ isStale limit e.2 := by
      rw [mem_candidates, find?, Keyed.find?, lookup_of_mem r.sessions.distinct he]
      rfl
    rw [isDue, Bool.eq_iff_iff]
    simp only [Bool.and_eq_true, List.contains_iff_mem, dueKeys, List.mem_filter, hasked]
    tauto
  refine Prod.ext ?_ ?_
  · show Registry.mk _ _ = Registry.mk _ _
    congr 1
    exact Keyed.ext (List.filter_congr fun e he => congrArg not (hdue e he))
  · exact List.countP_congr fun e he => by rw [hdue e he]

/-- A clean-up keeps what is not due. -/
theorem registry_cleanUp (age : Span) (d : Desk) :
    ((Operation.reach (some answer)).cleanUp age d).2.registry
      = undue answer (cutoff d.machine.now age.micros) d.registry := by
  rw [cleanUp_answers]
  generalize cutoff d.machine.now age.micros = limit
  have hleft := removeStale_dueKeys answer limit d.registry
  rcases sweep_cases limit (dueKeys answer limit d.registry) d with
    ⟨hzero, hdone⟩ | ⟨-, hsaves, -⟩
  · rw [hleft] at hzero
    have hall : (d.registry.sessions.filter fun e => !isDue answer limit e)
        = d.registry.sessions := by
      refine Keyed.ext (List.filter_eq_self.2 fun e he => ?_)
      simpa using List.countP_eq_zero.1 hzero e he
    rw [hdone, undue, hall]
  · rw [hsaves.registry, hleft]

/-- A clean-up that finds nothing due changes nothing. -/
theorem cleanUp_of_not_due {age : Span} {d : Desk}
    (h : ∀ e ∈ d.registry.sessions.entries,
      isDue answer (cutoff d.machine.now age.micros) e = false) :
    (Operation.reach (some answer)).cleanUp age d = (.ok 0, d) := by
  rw [cleanUp_answers]
  refine Operation.sweep_quiet ?_
  rw [removeStale_dueKeys]
  exact List.countP_eq_zero.2 fun e he => Bool.eq_false_iff.1 (h e he)

/-- A clean-up takes no time. -/
theorem now_cleanUp (age : Span) (d : Desk) :
    ((Operation.reach (some answer)).cleanUp age d).2.machine.now = d.machine.now := by
  rw [cleanUp_answers]
  rcases sweep_cases _ _ d with ⟨-, hdone⟩ | ⟨-, hsaves, -⟩
  · rw [hdone]
  · exact hsaves.now

-- ===================================================== what is removed

/-- That a clean-up removes an entry. -/
def Removes (age : Span) (d : Desk) (e : String × Record) : Prop :=
  e ∈ d.registry.sessions.entries
    ∧ e ∉ ((Operation.reach (some answer)).cleanUp age d).2.registry.sessions.entries

private theorem removes_iff {age : Span} {d : Desk} {e : String × Record} :
    Removes answer age d e ↔ e ∈ d.registry.sessions.entries
      ∧ isDue answer (cutoff d.machine.now age.micros) e := by
  rw [Removes, registry_cleanUp, undue, Keyed.entries_filter, List.mem_filter]
  simp only [Bool.not_eq_true', not_and, Bool.not_eq_false]
  exact and_congr_right fun he => ⟨fun h => h he, fun h _ => h⟩

/-- With an age that is not negative, what is removed was last used so long ago. -/
theorem removes_iff_micros {age : Span} (h : 0 ≤ age.micros) {d : Desk} {e : String × Record} :
    Removes answer age d e ↔ e ∈ d.registry.sessions.entries ∧ saysGone (answer e.1)
      ∧ (e.2.lastAccess.micros : Int) + age.micros < d.machine.now.micros := by
  rw [removes_iff, isDue, Bool.and_eq_true, isStale_cutoff_iff h, and_comm (a := _ < _)]

/-- Of two ages that are not negative the greater removes no more. If the calendar does not reach
back so far, nothing is removed and nothing is written. And whatever a clean-up did, the same
clean-up at the same time finds nothing more to do, even if what it left could not be written. -/
theorem cleanUp_antitone (d : Desk) {a b : Span} (ha : 0 ≤ a.micros) (hab : a.micros ≤ b.micros) :
    let left := ((Operation.reach (some answer)).cleanUp a d).2
    (∀ e, Removes answer b d e → Removes answer a d e)
      ∧ (d.machine.now.add? (-b.micros) = none →
          (Operation.reach (some answer)).cleanUp b d = (.ok 0, d))
      ∧ left.machine.now = d.machine.now
      ∧ (Operation.reach (some answer)).cleanUp a left = (.ok 0, left) := by
  intro left
  refine ⟨?_, ?_, now_cleanUp answer a d, ?_⟩
  · intro e hremoved
    rw [removes_iff_micros answer (Int.le_trans ha hab)] at hremoved
    rw [removes_iff_micros answer ha]
    obtain ⟨hmem, hgone, hstale⟩ := hremoved
    exact ⟨hmem, hgone, by omega⟩
  · intro hnone
    refine cleanUp_of_not_due answer fun e _ => ?_
    rw [cutoff_of_none hnone, isDue, isStale_first, Bool.false_and]
  · refine cleanUp_of_not_due answer fun e he => ?_
    rw [registry_cleanUp, undue, Keyed.entries_filter, List.mem_filter] at he
    rw [now_cleanUp]
    simpa using he.2

end

/-- An hour, and a time that goes back beyond the calendar, at noon: of three sessions that were
last used at midnight the panes of one are there. -/
theorem cleanUp_antitone_at_noon :
    let answer : Answers := ⟨fun key => .ok (key == "b"), fun _ => rfl⟩
    let hour : Span := .ofWholeHours 1
    let eons : Span := .ofWholeHours 20000000
    (0 ≤ hour.micros ∧ hour.micros ≤ eons.micros
        ∧ noonDesk.machine.now.add? (-eons.micros) = none)
      ∧ (∀ e, Removes answer eons noonDesk e → Removes answer hour noonDesk e)
      ∧ (Operation.reach (some answer)).cleanUp eons noonDesk = (.ok 0, noonDesk)
      ∧ ((Operation.reach (some answer)).cleanUp hour noonDesk).2.registry.sessions.keys
        = ["b"] := by
  intro answer hour eons
  have hbounds : 0 ≤ hour.micros ∧ hour.micros ≤ eons.micros
      ∧ noonDesk.machine.now.add? (-eons.micros) = none := by decide +kernel
  obtain ⟨hfewer, hnothing, -⟩ := cleanUp_antitone answer noonDesk hbounds.1 hbounds.2.1
  exact ⟨hbounds, hfewer, hnothing hbounds.2.2, by decide +kernel⟩

end PaneWatch.Registry
