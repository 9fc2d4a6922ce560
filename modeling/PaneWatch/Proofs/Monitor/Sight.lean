/-
What a look at the watch of a session is worth later on.

A watch shows the last change that it has taken (`Reflects`), and the look stays true of
the changes that had been committed by then. Whether it is still true of the session
depends on what has become of the watch: a watch that is over never comes back under its
number (`IsOver.follows`), so if the last change had gone to a watch that stands now, the look
has found that watch and shows the change (`Seen.shownAfter_eq`).
-/
import PaneWatch.Proofs.Monitor.Ownership
import PaneWatch.Proofs.Monitor.Stage

namespace PaneWatch.Monitor

open Time (Stamp)

variable {η : Type} {m m' : Monitor η} {id : String}

-- ===================================================== watches that are over

/-- That a monitor comes after another one: a watch of it was there before, or has a number
that was not given out. -/
structure Follows (m m' : Monitor η) : Prop where
  next : m.nextNumber ≤ m'.nextNumber
  watches : ∀ id n w, m'.watch? id = some (n, w) →
    (∃ w', m.watch? id = some (n, w')) ∨ m.nextNumber ≤ n

theorem SameWatches.follows (h : SameWatches m m') : Follows m m' := by
  refine ⟨Nat.le_of_eq h.2.symm, ?_⟩
  intro id n w hw
  rw [watch?, h.1] at hw
  exact .inl ⟨w, hw⟩

theorem Follows.refl (m : Monitor η) : Follows m m := SameWatches.follows ⟨rfl, rfl⟩

/-- Every act makes a monitor that comes after the one before. -/
theorem follows_perform (x : Act η) (now : Stamp) (world : World) (m : Monitor η) :
    Follows m (x.perform now world m).2 := by
  cases x with
  | register id pid =>
      show Follows m (m.register now id pid).2
      rcases register_cases m now id pid with ⟨-, hbegan⟩ | hrefused
      · refine ⟨by rw [hbegan.next]; exact Nat.le_succ _, ?_⟩
        intro i n w hi
        rcases hbegan.watch_cases hi with ⟨hold, -⟩ | ⟨-, rfl, -⟩
        · exact .inl ⟨w, hold⟩
        · exact .inr (Nat.le_refl _)
      · rw [hrefused]
        exact Follows.refl m
  | deregister id =>
      show Follows m (m.deregister id).2
      rcases deregister_cases m id with ⟨-, hended⟩ | hrefused
      · exact ⟨Nat.le_of_eq hended.next.symm, fun i n w hi => .inl ⟨w, (hended.of_watch hi).1⟩⟩
      · rw [hrefused]
        exact Follows.refl m
  | record id a trigger =>
      show Follows m (m.commit now id a trigger).2
      rcases commit_cases m now id a trigger with ⟨t, n, w, -, -, -, -, htook⟩ | ⟨-, hm⟩
      · refine ⟨Nat.le_of_eq htook.next.symm, ?_⟩
        intro i n' w' hi
        rcases htook.watch_cases hi with ⟨hold, -⟩ | ⟨rfl, rfl, -⟩
        · exact .inl ⟨w', hold⟩
        · exact .inl ⟨w, htook.before⟩
      · rw [hm]
        exact Follows.refl m
  | dismiss => exact SameWatches.follows ⟨rfl, rfl⟩
  | _ => exact Follows.refl m

/-- That a watch of a session has begun and ended. -/
structure IsOver (m : Monitor η) (id : String) (n : Nat) : Prop where
  begun : n < m.nextNumber
  ended : ∀ w, m.watch? id ≠ some (n, w)

/-- What is over stays so. -/
theorem IsOver.follows {n : Nat} (h : IsOver m id n) (hm : Follows m m') : IsOver m' id n := by
  refine ⟨Nat.lt_of_lt_of_le h.begun hm.next, ?_⟩
  intro w hw
  rcases hm.watches id n w hw with ⟨w', hold⟩ | hnew
  · exact h.ended w' hold
  · exact Nat.lt_irrefl _ (Nat.lt_of_lt_of_le h.begun hnew)

-- ===================================================== what watches show

/-- The changes of a session that were committed, the last one first. -/
def commitsOf (id : String) (log : List (Move η)) : List Commit :=
  (commits log).filter (·.id == id)

/-- That a watch shows the last change of its session, or has taken none so far. -/
def Reflects (past : List Commit) (n : Nat) (w : Watch) : Prop :=
  (∃ c, past.head? = some c ∧ c.number = n ∧ w.shown = c.transition.shown)
    ∨ (∀ c ∈ past, c.number ≠ n) ∧ w.current = .unknown

/-- A watch that has taken the last change shows it. -/
theorem Reflects.shown {past : List Commit} {n : Nat} {w : Watch} {c : Commit}
    (h : Reflects past n w) (hc : past.head? = some c) (hn : c.number = n) :
    w.shown = c.transition.shown := by
  rcases h with ⟨c', hc', -, hshown⟩ | ⟨hnone, -⟩
  · rw [hc] at hc'
    cases hc'
    exact hshown
  · exact absurd hn (hnone c (List.mem_of_mem_head? hc))

/-- A move that commits nothing adds no commit of a session. -/
theorem commitsOf_cons {e : Move η} {log : List (Move η)} (h : e.commit? log = none) (id : String) :
    commitsOf id (e :: log) = commitsOf id log := by
  rw [commitsOf, commits_cons h, commitsOf]

/-- The changes that were committed before are among those later on. -/
theorem suffix_commitsOf (e : Move η) (log : List (Move η)) (id : String) :
    commitsOf id log <:+ commitsOf id (e :: log) := by
  show _ <:+ ((e.commit? log).toList ++ commits log).filter _
  rw [List.filter_append]
  exact List.suffix_append _ _

/-- The watches of a monitor show the last changes. -/
def IsCurrent (m : Monitor η) (log : List (Move η)) : Prop :=
  ∀ id n w, m.watch? id = some (n, w) → Reflects (commitsOf id log) n w

theorem IsCurrent.perform {log : List (Move η)} (h : IsCurrent m log) (haccount : Accounted m log)
    {call : Nat} {r : Request} {x : Act η} (hallows : (flightRule r).allows (flight call log) x)
    (now : Stamp) (world : World) :
    IsCurrent (x.perform now world m).2
      (⟨call, r, x, (x.perform now world m).1, now, m⟩ :: log) := by
  cases x with
  | register id pid =>
      intro i n w hi
      rw [commitsOf_cons rfl]
      have hi : (m.register now id pid).2.watch? i = some (n, w) := hi
      rcases register_cases m now id pid with ⟨-, hbegan⟩ | hrefused
      · rcases hbegan.watch_cases hi with ⟨hold, -⟩ | ⟨-, rfl, rfl⟩
        · exact h i n w hold
        · -- no change can have gone to a watch that has just begun
          refine .inr ⟨?_, rfl⟩
          intro c hc
          exact Nat.ne_of_lt (haccount.past c (List.mem_filter.1 hc).1)
      · rw [hrefused] at hi
        exact h i n w hi
  | deregister id =>
      intro i n w hi
      rw [commitsOf_cons rfl]
      have hi : (m.deregister id).2.watch? i = some (n, w) := hi
      rcases deregister_cases m id with ⟨-, hended⟩ | hrefused
      · exact h i n w (hended.of_watch hi).1
      · rw [hrefused] at hi
        exact h i n w hi
  | record id a trigger =>
      obtain ⟨f, hf, -⟩ := hallows
      show IsCurrent (m.commit now id a trigger).2
        (⟨_, _, .record id a trigger, (m.commit now id a trigger).1, _, _⟩ :: log)
      rcases commit_cases m now id a trigger with ⟨t, n, w, hok, -, -, -, htook⟩ | ⟨hnone, hm⟩
      · rw [hok]
        intro i n' w' hi
        rw [commitsOf, commits_record hf htook.before]
        rcases htook.watch_cases hi with ⟨hold, hne⟩ | ⟨rfl, rfl, rfl⟩
        · rw [List.filter_cons_of_neg (by simpa using Ne.symm hne)]
          exact h i n' w' hold
        · rw [List.filter_cons_of_pos (by simp)]
          exact .inl ⟨_, rfl, rfl, Watch.shown_record w t⟩
      · rw [hm]
        intro i n w hi
        rw [commitsOf_cons ?_]
        · exact h i n w hi
        · rcases houtcome : (m.commit now id a trigger).1 with f | _ | t
          · rfl
          · rfl
          · exact absurd houtcome (hnone t)
  | _ => exact h

-- ===================================================== what was seen

/-- What is true of a watch that was found for a session after some changes of it: it reflects
them, and every other watch that has taken one is over. -/
structure Seen (m : Monitor η) (id : String) (found : Option (Nat × Watch)) (past : List Commit) :
    Prop where
  reflects : ∀ n w, found = some (n, w) → Reflects past n w
  others : ∀ c ∈ past, (∃ w, found = some (c.number, w)) ∨ IsOver m id c.number

/-- What was seen of a session still holds of what follows. -/
theorem Seen.follows {found : Option (Nat × Watch)} {past : List Commit}
    (h : Seen m id found past) (hm : Follows m m') : Seen m' id found past :=
  ⟨h.reflects, fun c hc => (h.others c hc).imp_right fun hover => hover.follows hm⟩

/-- What a look finds. -/
theorem IsCurrent.seen {log : List (Move η)} (h : IsCurrent m log) (haccount : Accounted m log)
    (id : String) : Seen m id (m.watch? id) (commitsOf id log) := by
  refine ⟨fun n w hw => h id n w hw, ?_⟩
  intro c hc
  by_cases hstands : ∃ w, m.watch? id = some (c.number, w)
  · exact .inl hstands
  · rw [not_exists] at hstands
    exact .inr ⟨haccount.past c (List.mem_filter.1 hc).1, hstands⟩

/-- If the last change went to a watch that stands, the look has found that watch and shows
the change. -/
theorem Seen.shownAfter_eq {found : Option (Nat × Watch)} {past : List Commit} {c : Commit}
    {w : Watch} (h : Seen m id found past) (hc : past.head? = some c)
    (hw : m.watch? id = some (c.number, w)) (t : Transition) :
    shownAfter t found = c.transition.shown := by
  rcases h.others c (List.mem_of_mem_head? hc) with ⟨w', rfl⟩ | hover
  · exact (h.reflects c.number w' rfl).shown hc rfl
  · exact absurd hw (hover.ended w)

end PaneWatch.Monitor
