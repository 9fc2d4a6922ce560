/-
The order in which calls store.

As a call looks and stores while it is alone, the changes behind what is stored are never fewer
than those behind what was stored before (`Orderly.order`). And as a call that has committed a
change looks afterwards, either some call has still to store for the session, or what was
stored last knew of all changes (`Orderly.covered`).

The invariant that carries this is `Orderly`: who is alone is the call that the stages say, and
what a call has found while it is alone is no older than anything stored.
-/
import PaneWatch.Proofs.Monitor.Writes

namespace PaneWatch.Monitor

open Time (Stamp)

variable {η : Type}

-- ===================================================== the invariant

/-- That a call has still to store for a session, and knows of all its changes if it has looked. -/
structure Covers (id : String) (log : List (Move η)) (call : Nat) : Prop where
  pending : (stage call log).isPending id = true
  known : ∀ t found, stage call log = .found id t found → known call id log = commitsOf id log

/-- That what was stored last for a session knew of all its changes, if there were any, or a call
is going to store what does. -/
def Covered (id : String) (log : List (Move η)) : Prop :=
  commitsOf id log = []
    ∨ (∃ v, lastWrite? id log = some v ∧ v.past = commitsOf id log)
    ∨ ∃ call, Covers id log call

/-- What is true of the calls that store, and of what they have stored. -/
structure Orderly (m : Monitor η) (log : List (Move η)) : Prop where
  current : IsCurrent m log
  alone : ∀ call, (stage call log).isAlone = true ↔ holder log = some call
  looked : ∀ call id t found, stage call log = .found id t found →
    Seen m id found (known call id log) ∧ known call id log <:+ commitsOf id log
      ∧ ∀ v ∈ writes log, v.id = id → v.past <:+ known call id log
  written : ∀ v ∈ writes log, Seen m v.id v.found v.past ∧ v.past <:+ commitsOf v.id log
    ∧ v.shown = shownAfter v.change v.found
  order : (writes log).Pairwise fun v older => v.id = older.id → older.past <:+ v.past
  covered : ∀ id, Covered id log

variable {m : Monitor η} {log : List (Move η)}

/-- All is in order before anything has been stored. -/
private theorem orderly_new (table : List Signal.Row) (hooks : List η) :
    Orderly { table, hooks } ([] : List (Move η)) where
  current _ _ _ h := nomatch h
  alone _ := ⟨fun h => (nomatch h), fun h => (nomatch h)⟩
  looked _ _ _ _ h := nomatch h
  written _ h := nomatch h
  order := List.Pairwise.nil
  covered _ := .inl rfl

/-- Where nothing has still to be stored, what was stored last knew of all changes. -/
theorem Orderly.exists_lastWrite (h : Orderly m log) {id : String} (hsettled : IsSettled id log)
    (hchanged : commitsOf id log ≠ []) :
    ∃ v ∈ writes log, lastWrite? id log = some v ∧ v.id = id ∧ v.past = commitsOf id log := by
  rcases h.covered id with hnone | ⟨v, hv, hpast⟩ | ⟨call, hpending, -⟩
  · exact absurd hnone hchanged
  · exact ⟨v, List.mem_of_find?_eq_some hv, hv, by simpa using List.find?_some hv, hpast⟩
  · rw [hsettled call] at hpending
    cases hpending

-- ===================================================== one step

section Step

variable {call : Nat} {r : Request} {x : Act η} {now : Stamp} {world : World} {g : Stage}

/-- After a step the one that is alone is again the call that the stages say. -/
private theorem Orderly.alone_step (h : Orderly m log) (hstep : IsStep m log call r x now world g)
    (c : Nat) :
    (stage c (x.move call r now world m :: log)).isAlone = true
      ↔ holder (x.move call r now world m :: log) = some c := by
  have hself := hstep.stands
  have hmine := h.alone call
  obtain ⟨-, hfree, hturn, -⟩ := hstep
  generalize hg : stage call log = g₀ at hturn hmine
  -- a call that is alone before and after, or at neither time, leaves the others alone
  have hstay (hsame : g.isAlone = g₀.isAlone)
      (hholder : holder (x.move call r now world m :: log) = holder log) :
      (stage c (x.move call r now world m :: log)).isAlone = true
        ↔ holder (x.move call r now world m :: log) = some c := by
    rw [hholder]
    by_cases hcall : call = c
    · subst hcall
      rw [hself, hsame]
      exact hmine
    · rw [stage_cons_ne hcall]
      exact h.alone c
  cases hturn with
  | commit hok => exact hstay rfl rfl
  | look => exact hstay rfl rfl
  | store => exact hstay rfl rfl
  | enter =>
      -- nobody was alone, or the call would have had to wait
      have hnobody : holder log = none := by simpa [Act.waits] using hfree
      show _ ↔ some call = some c
      by_cases hcall : call = c
      · subst hcall
        rw [hself]
        simp [Stage.isAlone]
      · rw [stage_cons_ne hcall, h.alone c, hnobody]
        simp [hcall]
  | leave =>
      show _ ↔ none = some c
      by_cases hcall : call = c
      · subst hcall
        rw [hself]
        simp [Stage.isAlone]
      · rw [stage_cons_ne hcall, h.alone c, hmine.1 rfl]
        simp [hcall]
  | stay hway hcommit hlook =>
      refine hstay rfl ?_
      cases x with
      | enter => exact absurd rfl hway.1
      | leave => exact absurd rfl hway.2.1
      | _ => rfl

/-- What a call has found is still no older than anything stored. -/
private theorem Orderly.looked_step (h : Orderly m log) (haccount : Accounted m log)
    (hstep : IsStep m log call r x now world g) (c : Nat) (id : String) (t : Transition)
    (found : Option (Nat × Watch))
    (hfound : stage c (x.move call r now world m :: log) = .found id t found) :
    Seen (x.perform now world m).2 id found (known c id (x.move call r now world m :: log))
      ∧ known c id (x.move call r now world m :: log)
        <:+ commitsOf id (x.move call r now world m :: log)
      ∧ ∀ v ∈ writes (x.move call r now world m :: log), v.id = id →
        v.past <:+ known c id (x.move call r now world m :: log) := by
  have hfollows := follows_perform x now world m
  have hgrows := suffix_commitsOf (x.move call r now world m) log id
  rcases hstep.found_cases hfound with ⟨rfl, -, rfl, hknown⟩ | ⟨hold, hknown⟩
  · -- a look knows of all changes that there are
    rw [hknown, writes_cons (by simp)]
    refine ⟨(h.current.seen haccount id).follows hfollows, hgrows, ?_⟩
    rintro v hv rfl
    exact (h.written v hv).2.1
  · rw [hknown]
    obtain ⟨hseen, hpast, hbefore⟩ := h.looked c id t found hold
    refine ⟨hseen.follows hfollows, hpast.trans hgrows, ?_⟩
    rcases hstep.writes_cases with ⟨id', t', found', hother, rfl, -⟩ | ⟨hwrites, -⟩
    · -- only this call is alone, and it has not stored
      have hholder : holder log = some c := (h.alone c).1 (by rw [hold]; rfl)
      have hholder' : holder log = some call := (h.alone call).1 (by rw [hother]; rfl)
      obtain rfl : c = call := Option.some.inj (hholder.symm.trans hholder')
      rw [hstep.stands] at hfound
      cases hfound
    · rw [hwrites]
      exact hbefore

/-- What has been stored is still what its call had found, with its own change if it found none.
-/
private theorem Orderly.written_step (h : Orderly m log)
    (hstep : IsStep m log call r x now world g) :
    ∀ v ∈ writes (x.move call r now world m :: log),
      Seen (x.perform now world m).2 v.id v.found v.past
        ∧ v.past <:+ commitsOf v.id (x.move call r now world m :: log)
        ∧ v.shown = shownAfter v.change v.found := by
  have hfollows := follows_perform x now world m
  have hgrows := suffix_commitsOf (x.move call r now world m) log
  have hold (v : Write) (hv : v ∈ writes log) :
      Seen (x.perform now world m).2 v.id v.found v.past
        ∧ v.past <:+ commitsOf v.id (x.move call r now world m :: log)
        ∧ v.shown = shownAfter v.change v.found := by
    obtain ⟨hseen, hpast, hshown⟩ := h.written v hv
    exact ⟨hseen.follows hfollows, hpast.trans (hgrows v.id), hshown⟩
  rcases hstep.writes_cases with ⟨id, t, found, hstage, -, hwrites⟩ | ⟨hwrites, -⟩
  · rw [hwrites]
    intro v hv
    rcases List.mem_cons.1 hv with rfl | hv
    · obtain ⟨hseen, hpast, -⟩ := h.looked call id t found hstage
      exact ⟨hseen.follows hfollows, hpast.trans (hgrows id), rfl⟩
    · exact hold v hv
  · rw [hwrites]
    exact hold

/-- What a step stores rests on no fewer changes than what was stored before. -/
private theorem Orderly.order_step (h : Orderly m log) (hstep : IsStep m log call r x now world g) :
    (writes (x.move call r now world m :: log)).Pairwise
      fun v older => v.id = older.id → older.past <:+ v.past := by
  rcases hstep.writes_cases with ⟨id, t, found, hstage, -, hwrites⟩ | ⟨hwrites, -⟩
  · rw [hwrites, List.pairwise_cons]
    refine ⟨?_, h.order⟩
    intro older holder hsame
    exact (h.looked call id t found hstage).2.2 older holder hsame.symm
  · rw [hwrites]
    exact h.order

/-- What another call does changes nothing about what a call is going to store, unless it commits
a change of the session. -/
theorem Covers.cons_ne {e : Move η} {c : Nat} {id : String} (h : Covers id log c)
    (hcall : e.call ≠ c)
    (hsame : commitsOf id (e :: log) = commitsOf id log) : Covers id (e :: log) c := by
  constructor
  · rw [stage_cons_ne hcall]
    exact h.pending
  · rw [stage_cons_ne hcall, known_cons (isLookOf_ne hcall), hsame]
    exact h.known

/-- A step that neither commits nor stores leaves a call the changes it knows of. -/
private theorem IsStep.covers (hstep : IsStep m log call r x now world g)
    (hcommit : (x.move call r now world m).commit? log = none)
    (hstore : ∀ id a time, x ≠ .store id a time) {c : Nat} {id : String} (h : Covers id log c) :
    Covers id (x.move call r now world m :: log) c := by
  have hsame := commitsOf_cons hcommit id
  by_cases hcall : call = c
  · subst hcall
    constructor
    · have hpending := h.pending
      obtain ⟨-, -, hturn, hself⟩ := hstep
      rw [hself]
      generalize stage call log = g₀ at hturn hpending
      cases hturn with
      | commit hok => cases hpending
      | enter => exact hpending
      | look => exact hpending
      | store => exact absurd rfl (hstore _ _ _)
      | leave => cases hpending
      | stay hway hcommit hlook => exact hpending
    · intro t found hfound
      rw [hsame]
      rcases hstep.found_cases hfound with ⟨-, -, -, hnew⟩ | ⟨hold, hknown⟩
      · exact hnew
      · rw [hknown]
        exact h.known t found hold
  · exact h.cons_ne hcall hsame

/-- A change that is committed is stored later on by the call that commits it. -/
theorem Orderly.covered_commit (h : Orderly m log) (hstep : IsStep m log call r x now world g)
    {id' : String} {t : Transition} {c : Commit} (hfree : stage call log = .free)
    (hg : g = .due id' t) (hc : c.id = id')
    (hcommits : commits (x.move call r now world m :: log) = c :: commits log)
    (hwrites : writes (x.move call r now world m :: log) = writes log) (id : String) :
    Covered id (x.move call r now world m :: log) := by
  subst hg
  by_cases hid : id' = id
  · subst hid
    refine .inr (.inr ⟨call, ?_, ?_⟩)
    · rw [hstep.stands]
      simp [Stage.isPending]
    · intro t' found hfound
      rw [hstep.stands] at hfound
      cases hfound
  · have hsame : commitsOf id (x.move call r now world m :: log) = commitsOf id log := by
      rw [commitsOf, hcommits, List.filter_cons_of_neg (by simpa [hc] using hid)]
      rfl
    rcases h.covered id with hnone | ⟨v, hv, hpast⟩ | ⟨other, hcovers⟩
    · exact .inl (hsame.trans hnone)
    · refine .inr (.inl ⟨v, ?_, hpast.trans hsame.symm⟩)
      rw [lastWrite?, hwrites]
      exact hv
    · refine .inr (.inr ⟨other, hcovers.cons_ne ?_ hsame⟩)
      rintro rfl
      have hpending := hcovers.pending
      rw [hfree] at hpending
      cases hpending

/-- What a call stores knows of no fewer changes than what was stored last, so it knows of all if
that did, or if the call itself was going to store what does. -/
theorem Orderly.covered_store (h : Orderly m log) {e : Move η} {id' : String} {t : Transition}
    {found : Option (Nat × Watch)} (hstage : stage e.call log = .found id' t found)
    {v' : Write} (hid' : v'.id = id') (hpast' : v'.past = known e.call id' log)
    (hcommit : e.commit? log = none) (hwrites : writes (e :: log) = v' :: writes log)
    (id : String) :
    Covered id (e :: log) := by
  have hsame := commitsOf_cons hcommit id
  rw [Covered, hsame]
  refine (h.covered id).imp_right ?_
  by_cases hid : id' = id
  · subst hid
    have hlast : lastWrite? id' (e :: log) = some v' := by
      rw [lastWrite?, hwrites, List.find?_cons_of_pos (by simpa using hid')]
    rw [hlast]
    obtain ⟨-, hknown, hbefore⟩ := h.looked _ _ t found hstage
    rintro (⟨v, hv, hpast⟩ | ⟨other, hcovers⟩)
    · -- what the call knows lies between what was stored last and all that there is
      have hle := hbefore v (List.mem_of_find?_eq_some hv) (by simpa using List.find?_some hv)
      rw [hpast] at hle
      exact .inl ⟨v', rfl, hpast'.trans (hknown.eq_of_length_le hle.length_le)⟩
    · by_cases hcall : e.call = other
      · subst hcall
        exact .inl ⟨v', rfl, hpast'.trans (hcovers.known t found hstage)⟩
      · exact .inr ⟨other, hcovers.cons_ne hcall hsame⟩
  · have hlast : lastWrite? id (e :: log) = lastWrite? id log := by
      rw [lastWrite?, hwrites, List.find?_cons_of_neg (by simpa [hid'] using hid)]
      rfl
    rw [hlast]
    refine Or.imp_right ?_
    rintro ⟨other, hcovers⟩
    refine ⟨other, hcovers.cons_ne ?_ hsame⟩
    rintro rfl
    have hpending := hcovers.pending
    rw [hstage] at hpending
    exact hid (by simpa [Stage.isPending] using hpending)

/-- After a step all changes are again stored, or known to a call that will store. -/
private theorem Orderly.covered_step (h : Orderly m log) (hstep : IsStep m log call r x now world g)
    (id : String) : Covered id (x.move call r now world m :: log) := by
  rcases hstep.commits_cases with ⟨id', t, c, hfree, hg, hc, hcommits, hwrites⟩ | hcommit
  · exact h.covered_commit hstep hfree hg hc hcommits hwrites id
  · rcases hstep.writes_cases with ⟨id', t, found, hstage, -, hwrites⟩ | ⟨hwrites, hstore⟩
    · exact h.covered_store hstage rfl rfl hcommit hwrites id
    · rw [Covered, commitsOf_cons hcommit, lastWrite?, hwrites]
      refine (h.covered id).imp_right (Or.imp_right ?_)
      rintro ⟨other, hcovers⟩
      exact ⟨other, hstep.covers hcommit hstore hcovers⟩

/-- Every step keeps the order. -/
theorem Orderly.step (h : Orderly m log) (haccount : Accounted m log)
    (hstep : IsStep m log call r x now world g) :
    Orderly (x.perform now world m).2 (x.move call r now world m :: log) where
  current := h.current.perform haccount hstep.flight now world
  alone := h.alone_step hstep
  looked := h.looked_step haccount hstep
  written := h.written_step hstep
  order := h.order_step hstep
  covered := h.covered_step hstep

end Step

-- ===================================================== runs

/-- That what is under way is in order, and accounted for. -/
structure Traffic.IsOrderly (s : Traffic η) : Prop where
  accounted : s.IsAccounted
  keeps : Traffic.Keeps (fun _ => stageRule) .free s
  order : Orderly s.monitor s.log

/-- A new monitor is in order. -/
theorem Traffic.isOrderly_new (table : List Signal.Row) (hooks : List η) :
    (Traffic.new table hooks).IsOrderly :=
  ⟨isAccounted_new table hooks, keeps_new _ _ table hooks, orderly_new table hooks⟩

/-- Every event keeps the order. -/
theorem Traffic.IsOrderly.play {s : Traffic η} (h : s.IsOrderly) {site : Site η}
    (hstored : site.isStored) (e : Event η) : (s.play site e).IsOrderly := by
  refine ⟨h.accounted.play site e, h.keeps.play (keeps_stageRule hstored) e,
    play_invariant h.order ?_ ?_ site e⟩
  · intro hook
    obtain ⟨current, alone, looked, written, order, covered⟩ := h.order
    refine ⟨current, alone, ?_, ?_, order, covered⟩
    · intro c id t found hfound
      obtain ⟨hseen, hknown⟩ := looked c id t found hfound
      exact ⟨hseen.follows (SameWatches.follows ⟨rfl, rfl⟩), hknown⟩
    · intro v hv
      obtain ⟨hseen, hrest⟩ := written v hv
      exact ⟨hseen.follows (SameWatches.follows ⟨rfl, rfl⟩), hrest⟩
  · intro call r x next now world hcall hfree
    exact h.order.step h.accounted.account
      (isStep_of_allows (h.accounted.keeps.calls _ _ _ hcall).1
        (h.keeps.calls _ _ _ hcall).1 hfree now world)

end PaneWatch.Monitor
