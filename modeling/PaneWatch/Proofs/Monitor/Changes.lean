/-
The changes that a log tells of.

A move has committed a change if it was answered one: `Move.change?` reads this off the move
alone. The changes of a watch are those of its session that were committed while it stood
(`taken`). `commits` tells more of each change, what the call had seen when it committed it, and
leaves none out: `tellsAll` holds of everything that can be under way.
-/
import PaneWatch.Proofs.Monitor.Ownership

namespace PaneWatch.Monitor

open Time (Stamp)

variable {η : Type}

/-- The change that a move has committed, with its session. -/
def Move.change? (e : Move η) : Option (String × Transition) :=
  match e.act, e.answer with
  | .record id _ _, .ok (some t) => some (id, t)
  | _, _ => none

/-- The changes that were committed, the last one first. -/
def changed (log : List (Move η)) : List (String × Transition) := log.filterMap Move.change?

/-- The change that a move has committed to a watch. -/
def Move.changeOf? (e : Move η) (id : String) (number : Nat) : Option Transition :=
  match e.change? with
  | some (i, t) => if i = id ∧ e.before.isCurrent id number then some t else none
  | none => none

/-- The changes that a watch has taken, the first one first. -/
def taken (id : String) (number : Nat) (log : List (Move η)) : List Transition :=
  (log.filterMap (·.changeOf? id number)).reverse

variable {id i trigger : String} {n k : Nat} {log : List (Move η)} {m : Monitor η} {t : Transition}
  {w : Watch}

theorem changeOf?_eq_none {e : Move η} (h : e.change? = none) : e.changeOf? id n = none := by
  rw [Move.changeOf?, h]

theorem taken_cons {e : Move η} (h : e.changeOf? id n = none) :
    taken id n (e :: log) = taken id n log := by
  unfold taken
  rw [List.filterMap_cons, h]

/-- A change goes to the watch that stands. -/
theorem changeOf?_record (hw : m.watch? i = some (k, w)) (call : Nat) (r : Request) (a : Activity)
    (now : Stamp) (id : String) (n : Nat) :
    (Move.mk call r (.record i a trigger) (.ok (some t)) now m).changeOf? id n
      = if i = id ∧ k = n then some t else none := by
  show (if i = id ∧ m.isCurrent id n = true then some t else none) = _
  by_cases hid : i = id
  · subst hid
    have hcurrent : m.isCurrent i n = true ↔ k = n := by
      rw [isCurrent_iff, hw]
      simp
    simp only [hcurrent]
  · rw [if_neg fun h => hid h.1, if_neg fun h => hid h.1]

/-- A change that a watch takes comes behind those it has taken. -/
theorem taken_record_self (hw : m.watch? id = some (n, w)) (call : Nat) (r : Request) (a : Activity)
    (now : Stamp) :
    taken id n (⟨call, r, .record id a trigger, .ok (some t), now, m⟩ :: log)
      = taken id n log ++ [t] := by
  unfold taken
  rw [List.filterMap_cons, changeOf?_record hw, if_pos ⟨rfl, rfl⟩]
  exact List.reverse_cons

/-- No other watch takes it. -/
theorem taken_record_ne (hw : m.watch? i = some (k, w)) (hne : ¬(i = id ∧ k = n)) (call : Nat)
    (r : Request) (a : Activity) (now : Stamp) :
    taken id n (⟨call, r, .record i a trigger, .ok (some t), now, m⟩ :: log) = taken id n log := by
  refine taken_cons ?_
  rw [changeOf?_record hw, if_neg hne]

/-- A move that was answered no change has committed none. -/
theorem change?_record_eq_none {call : Nat} {r : Request} {a : Activity} {now : Stamp}
    {y : Except Failure (Option Transition)} (h : ∀ t, y ≠ .ok (some t)) :
    (Move.mk call r (.record i a trigger) y now m).change? = none := by
  rcases y with f | _ | t
  · rfl
  · rfl
  · exact absurd rfl (h t)

-- ===================================================== runs

/-- The commits of a log tell of all changes that watches have taken. -/
def TellsAll (log : List (Move η)) : Prop := ∀ id n, taken id n log = changes id n log

private theorem changes_cons {e : Move η} (h : e.commit? log = none) :
    changes id n (e :: log) = changes id n log := by
  rw [changes, commits_cons h, changes]

/-- A move that the rule allows is told of with all it has changed. -/
theorem TellsAll.move (h : TellsAll log) {call : Nat} {r : Request} {x : Act η}
    (hallows : (flightRule r).allows (flight call log) x) (now : Stamp) (world : World) :
    TellsAll (⟨call, r, x, (x.perform now world m).1, now, m⟩ :: log) := by
  intro id n
  cases x with
  | record i a trigger =>
      obtain ⟨f, hf, -⟩ := hallows
      show taken id n (⟨_, _, .record i a trigger, (m.commit now i a trigger).1, _, _⟩ :: log)
        = changes id n (⟨_, _, .record i a trigger, (m.commit now i a trigger).1, _, _⟩ :: log)
      rcases commit_cases m now i a trigger with ⟨t, k, w, hok, -, -, -, htook⟩ | ⟨hnone, -⟩
      · rw [hok, changes, commits_record hf htook.before]
        by_cases hsame : i = id ∧ k = n
        · obtain ⟨rfl, rfl⟩ := hsame
          rw [taken_record_self htook.before, List.filter_cons_of_pos (by simp), List.map_cons,
            List.reverse_cons, h i k, changes]
        · rw [taken_record_ne htook.before hsame, List.filter_cons_of_neg (by simpa using hsame),
            h id n, changes]
      · rw [taken_cons (changeOf?_eq_none (change?_record_eq_none hnone)), h id n]
        refine (changes_cons ?_).symm
        rcases houtcome : (m.commit now i a trigger).1 with f | _ | t
        · rfl
        · rfl
        · exact absurd houtcome (hnone t)
  | _ => exact h id n

/-- Everything that happens leaves no change untold. -/
theorem Traffic.IsAccounted.tellsAll_play {s : Traffic η} (h : s.IsAccounted) (site : Site η)
    (e : Event η) (htells : TellsAll s.log) : TellsAll (s.play site e).log := by
  refine play_invariant (P := fun _ log => TellsAll log) htells (fun _ => htells) ?_ site e
  intro call r x next now world hcall _
  exact htells.move (h.keeps.calls _ _ _ hcall).1 now world

/-- However calls are interleaved, the log tells of all changes. -/
theorem tellsAll (site : Site η) (table : List Signal.Row) (hooks : List η)
    (events : List (Event η)) :
    TellsAll (Traffic.playAll site (Traffic.new table hooks) events).log := by
  refine (Traffic.playAll_induction (P := fun s => s.IsAccounted ∧ TellsAll s.log)
    ⟨Traffic.isAccounted_new table hooks, fun _ _ => rfl⟩ ?_ events).2
  rintro s e ⟨haccount, htells⟩
  exact ⟨haccount.play site e, haccount.tellsAll_play site e htells⟩

end PaneWatch.Monitor
