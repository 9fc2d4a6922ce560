/-
What is stored after changes.

`Write` is something that was stored, together with what the look before it had found and
which changes had been committed by then; `writes` reads all of them off the log. What one
act can do to them is said once, for a call that keeps to the rules (`IsStep`): it
commits a change or leaves the changes as they are, and it stores what the call has found
or stores nothing.
-/
import PaneWatch.Proofs.Monitor.Sight

namespace PaneWatch.Monitor

open Time (Stamp)

variable {η : Type}

-- ===================================================== reading the log

/-- Where a call stands with its changes. -/
def stage (call : Nat) (log : List (Move η)) : Stage :=
  Traffic.observed (fun _ => stageRule) .free call log

/-- Whether a move is a look of a call. -/
def Move.isLookOf (e : Move η) (call : Nat) : Bool :=
  match e.act with
  | .look => e.call == call
  | _ => false

/-- The changes of a session that had been committed when a call looked last. -/
def known (call : Nat) (id : String) : List (Move η) → List Commit
  | [] => []
  | e :: older => if e.isLookOf call then commitsOf id older else known call id older

/-- Something that was stored. -/
structure Write where
  id : String
  activity : Activity
  time : Stamp
  /-- The change after which it was stored. -/
  change : Transition
  /-- The watch that was found before, with its number, if there was one. -/
  found : Option (Nat × Watch)
  /-- The changes of the session that had been committed by then, the last one first. -/
  past : List Commit

/-- What the entry of the session shows by it. -/
def Write.shown (v : Write) : Activity × Stamp := (v.activity, v.time)

/-- What a move stores, if it does. -/
def Move.write? (e : Move η) (older : List (Move η)) : Option Write :=
  match e.act, stage e.call older with
  | .store id a time, .found _ t watch => some ⟨id, a, time, t, watch, known e.call id older⟩
  | _, _ => none

/-- All that was stored, the last one first. -/
def writes : List (Move η) → List Write
  | [] => []
  | e :: older => (e.write? older).toList ++ writes older

/-- What was stored last for a session. -/
def lastWrite? (id : String) (log : List (Move η)) : Option Write :=
  (writes log).find? (·.id == id)

/-- That no call has still to store what is current for a session. -/
def IsSettled (id : String) (log : List (Move η)) : Prop :=
  ∀ call, (stage call log).isPending id = false

/-- A call that has done nothing has nothing to store. -/
theorem isSettled_iff {id : String} {log : List (Move η)} :
    IsSettled id log ↔ ∀ e ∈ log, (stage e.call log).isPending id = false := by
  refine ⟨fun h e _ => h e.call, ?_⟩
  intro h call
  by_cases hmoved : ∃ e ∈ log, e.call = call
  · obtain ⟨e, he, rfl⟩ := hmoved
    exact h e he
  · have hfree : stage call log = .free := by
      refine Traffic.observed_of_notMem ?_
      rintro e he rfl
      exact hmoved ⟨e, he, rfl⟩
    rw [hfree]
    rfl

instance (id : String) (log : List (Move η)) : Decidable (IsSettled id log) :=
  decidable_of_iff _ isSettled_iff.symm

-- ===================================================== one move

/-- A move takes its call to the next stage. -/
private theorem stage_cons_self (e : Move η) (log : List (Move η)) :
    stage e.call (e :: log) = (stage e.call log).after e.act e.answer := if_pos rfl

/-- It leaves all other calls at theirs. -/
theorem stage_cons_ne {e : Move η} {c : Nat} (h : e.call ≠ c) (log : List (Move η)) :
    stage c (e :: log) = stage c log := if_neg h

/-- A call that looks while it is alone knows of all commits. -/
private theorem known_cons_of_look {e : Move η} {c : Nat} (h : e.isLookOf c = true) (id : String)
    (log : List (Move η)) : known c id (e :: log) = commitsOf id log := if_pos h

/-- Any other move leaves it what it knows. -/
theorem known_cons {e : Move η} {c : Nat} (h : e.isLookOf c = false) (id : String)
    (log : List (Move η)) : known c id (e :: log) = known c id log := if_neg (by simp [h])

/-- A move of another call is no look of this one. -/
theorem isLookOf_ne {e : Move η} {c : Nat} (h : e.call ≠ c) : e.isLookOf c = false := by
  unfold Move.isLookOf
  split <;> simp [h]

private theorem isLookOf_of_ne_look {e : Move η} (h : e.act ≠ .look) (c : Nat) :
    e.isLookOf c = false := by
  unfold Move.isLookOf
  split
  · next hlook => exact absurd hlook h
  · rfl

/-- A move that stores nothing adds nothing that is stored. -/
theorem writes_cons {e : Move η} (h : ∀ id a time, e.act ≠ .store id a time)
    (log : List (Move η)) : writes (e :: log) = writes log := by
  have hnone : e.write? log = none := by
    unfold Move.write?
    split
    · next hstore _ => exact absurd hstore (h _ _ _)
    · rfl
  rw [writes, hnone]
  rfl

variable {m : Monitor η} {log : List (Move η)} {call : Nat} {r : Request} {x : Act η}
variable {now : Stamp} {world : World} {g : Stage}

/-- The move of a call that does an act. -/
abbrev Act.move (x : Act η) (call : Nat) (r : Request) (now : Stamp) (world : World)
    (m : Monitor η) : Move η := ⟨call, r, x, (x.perform now world m).1, now, m⟩

/-- What a call has found is in the log when it is stored. -/
theorem writes_store {id : String} {t : Transition} {found : Option (Nat × Watch)}
    (hstage : stage call log = .found id t found) (r : Request) (now : Stamp) (world : World)
    (a : Activity) (time : Stamp) :
    writes ((Act.store id a time).move call r now world m :: log)
      = ⟨id, a, time, t, found, known call id log⟩ :: writes log := by
  simp only [writes, Move.write?, hstage]
  rfl

/-- That a call does an act by the rules and without having to wait, and where it takes the
call. -/
structure IsStep (m : Monitor η) (log : List (Move η)) (call : Nat) (r : Request) (x : Act η)
    (now : Stamp) (world : World) (g : Stage) : Prop where
  flight : (flightRule r).allows (flight call log) x
  free : x.waits log = false
  turn : Turn m now (stage call log) x g
  stands : stage call (x.move call r now world m :: log) = g

/-- A move that both rules allow is a step. -/
theorem isStep_of_allows (hflight : (flightRule r).allows (flight call log) x)
    (hstage : (stage call log).allows x) (hfree : x.waits log = false) (now : Stamp)
    (world : World) :
    IsStep m log call r x now world ((stage call log).after x (x.perform now world m).1) :=
  ⟨hflight, hfree, turn_of_allows hstage now world m, stage_cons_self _ log⟩

/-- A call has found what it looks at now, or had found it before. -/
theorem IsStep.found_cases (hstep : IsStep m log call r x now world g) {c : Nat} {id : String}
    {t : Transition} {found : Option (Nat × Watch)}
    (h : stage c (x.move call r now world m :: log) = .found id t found) :
    (x = .look ∧ stage c log = .alone id t ∧ found = m.watch? id
        ∧ known c id (x.move call r now world m :: log) = commitsOf id log)
      ∨ (stage c log = .found id t found
        ∧ known c id (x.move call r now world m :: log) = known c id log) := by
  obtain ⟨-, -, hturn, hself⟩ := hstep
  by_cases hcall : call = c
  · subst hcall
    rw [hself] at h
    subst h
    generalize hg : stage call log = g₀ at hturn
    cases hturn with
    | look => exact .inl ⟨rfl, rfl, rfl, known_cons_of_look (by simp [Move.isLookOf]) id log⟩
    | stay hway hcommit hlook =>
        refine .inr ⟨rfl, known_cons (isLookOf_of_ne_look ?_ call) id log⟩
        intro hx
        cases hlook hx
  · rw [stage_cons_ne hcall] at h
    exact .inr ⟨h, known_cons (isLookOf_ne hcall) id log⟩

/-- A step commits a change, or leaves those of all sessions as they are. -/
theorem IsStep.commits_cases (hstep : IsStep m log call r x now world g) :
    (∃ id t c, stage call log = .free ∧ g = .due id t ∧ c.id = id
        ∧ commits (x.move call r now world m :: log) = c :: commits log
        ∧ writes (x.move call r now world m :: log) = writes log)
      ∨ (x.move call r now world m).commit? log = none := by
  obtain ⟨hflight, -, hturn, -⟩ := hstep
  generalize hg : stage call log = g₀ at hturn
  cases hturn with
  | commit hok =>
      next id trigger a t =>
      obtain ⟨f, hf, -⟩ := hflight
      refine .inl ⟨id, t, ?_⟩
      rcases commit_cases m now id a trigger with ⟨_, n, w, hok', -, -, -, htook⟩ | ⟨hnone, -⟩
      · rw [hok] at hok'
        cases hok'
        refine ⟨⟨id, n, w.pid, t, f.began, f.pid, r.worker?, stopped call log⟩, rfl, rfl, rfl, ?_,
          writes_cons (by simp) log⟩
        show commits (⟨_, _, .record id a trigger, (m.commit now id a trigger).1, _, _⟩ :: log) = _
        rw [hok]
        exact commits_record hf htook.before now
      · exact absurd hok (hnone t)
  | enter => exact .inr rfl
  | look => exact .inr rfl
  | store => exact .inr rfl
  | leave => exact .inr rfl
  | stay hway hcommit hlook =>
      refine .inr ?_
      cases x with
      | record id a trigger =>
          have hnone := hcommit id a trigger
          show Move.commit?
            ⟨_, _, .record id a trigger, (m.commit now id a trigger).1, _, _⟩ log = _
          rcases houtcome : (m.commit now id a trigger).1 with f | _ | t
          · rfl
          · rfl
          · exact absurd houtcome (hnone t rfl)
      | _ => rfl

/-- A step stores what the call has found, or stores nothing. -/
theorem IsStep.writes_cases (hstep : IsStep m log call r x now world g) :
    (∃ id t found, stage call log = .found id t found ∧ g = .stored
        ∧ writes (x.move call r now world m :: log)
          = ⟨id, (shownAfter t found).1, (shownAfter t found).2, t, found, known call id log⟩
            :: writes log)
      ∨ writes (x.move call r now world m :: log) = writes log
        ∧ ∀ id a time, x ≠ .store id a time := by
  obtain ⟨-, -, hturn, -⟩ := hstep
  generalize hg : stage call log = g₀ at hturn
  cases hturn with
  | store =>
      next id t found =>
      exact .inl ⟨id, t, found, rfl, rfl, writes_store hg r now world _ _⟩
  | commit hok => exact .inr ⟨writes_cons (by simp) log, by simp⟩
  | enter => exact .inr ⟨writes_cons (by simp) log, by simp⟩
  | look => exact .inr ⟨writes_cons (by simp) log, by simp⟩
  | leave => exact .inr ⟨writes_cons (by simp) log, by simp⟩
  | stay hway hcommit hlook => exact .inr ⟨writes_cons hway.2.2 log, hway.2.2⟩

end PaneWatch.Monitor
