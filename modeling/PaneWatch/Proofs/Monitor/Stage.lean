/-
How far a call is with the change that it has committed.

A detection that has committed a change goes on to store what is current: it waits until it
is alone, looks at the watch of the session, stores what that shows, and makes room for
the next. `Stage` is where a call stands on this way, and `stageRule` says that a call goes it
from end to end: it commits no second change before it is through, does not store but
what it has found, and is not done on the way (`keeps_stageRule`).
-/
import PaneWatch.Proofs.Monitor.Aside
import PaneWatch.Proofs.Monitor.Watches

namespace PaneWatch

open Time (Stamp)

/-- What a change makes of the entry of its session. -/
def Transition.shown (t : Transition) : Activity × Stamp := (t.target, t.time)

/-- What the entry of a session should show while it is watched. -/
def Watch.shown (w : Watch) : Activity × Stamp := (w.current, w.lastChange)

/-- A watch shows the change that it has recorded last. -/
theorem Watch.shown_record (w : Watch) (t : Transition) : (w.record t).shown = t.shown := rfl

namespace Monitor

variable {η : Type}

/-- What is stored after a change, by the watch that was found: what it shows, or the change
itself if there was none. -/
def shownAfter (t : Transition) (found : Option (Nat × Watch)) : Activity × Stamp :=
  found.elim t.shown (·.2.shown)

private theorem latest_eq (m : Monitor η) (id : String) (t : Transition) :
    m.latest id t = shownAfter t (m.watch? id) := by
  unfold latest find watch?
  cases m.watches.lookup id <;> rfl

-- ===================================================== stages

/-- How far a call is with a change. -/
inductive Stage where
  /-- It has committed none, or is through with it. -/
  | free
  /-- It has committed one, and stores what is current as soon as it can be alone. -/
  | due (id : String) (t : Transition)
  /-- It is alone, and has not looked. -/
  | alone (id : String) (t : Transition)
  /-- It is alone, and has looked for the watch of the session. -/
  | found (id : String) (t : Transition) (watch : Option (Nat × Watch))
  /-- It is alone, and has stored what it found. -/
  | stored

namespace Stage

/-- Whether a call is alone. -/
def isAlone : Stage → Bool
  | alone .. | found .. | stored => true
  | _ => false

/-- Whether a call has still to store what is current for a session. -/
def isPending (id : String) : Stage → Bool
  | due i _ | alone i _ | found i _ _ => i == id
  | _ => false

/-- Whether an act is the next one on the way, or one that may stand between two of them. -/
def allows : Stage → Act η → Prop
  | _, .note .. => True
  | free, .enter | free, .store .. | free, .leave => False
  | free, _ => True
  | due .., .enter => True
  | alone .., .look => True
  | found id t watch, .store i a time => i = id ∧ (a, time) = shownAfter t watch
  | stored, .leave => True
  | _, _ => False

/-- Where a call stands after an act. -/
def after : Stage → (x : Act η) → x.Answer → Stage
  | free, .record id _ _, .ok (some t) => due id t
  | due id t, .enter, _ => alone id t
  | alone id t, .look, m => found id t (m.watch? id)
  | found .., .store .., _ => stored
  | stored, .leave, _ => free
  | g, _, _ => g

/-- Who stores has found what to store. -/
theorem exists_of_allows_store {g : Stage} {id : String} {a : Activity} {time : Stamp}
    (h : g.allows (.store (η := η) id a time)) : ∃ t watch, g = found id t watch := by
  cases g with
  | found i t watch =>
      obtain ⟨rfl, -⟩ := h
      exact ⟨t, watch, rfl⟩
  | _ => exact h.elim

end Stage

/-- That a call goes the way of a change from end to end. -/
def stageRule : Rule η Stage where
  allows := Stage.allows
  after := Stage.after
  ends g := g = .free

/-- Where an act takes a call that stands somewhere on the way of a change. -/
inductive Turn (m : Monitor η) (now : Stamp) : Stage → Act η → Stage → Prop where
  | commit {id trigger : String} {a : Activity} {t : Transition}
      (h : (m.commit now id a trigger).1 = .ok (some t)) :
      Turn m now .free (.record id a trigger) (.due id t)
  | enter {id : String} {t : Transition} : Turn m now (.due id t) .enter (.alone id t)
  | look {id : String} {t : Transition} :
      Turn m now (.alone id t) .look (.found id t (m.watch? id))
  | store {id : String} {t : Transition} {watch : Option (Nat × Watch)} :
      Turn m now (.found id t watch)
        (.store id (shownAfter t watch).1 (shownAfter t watch).2) .stored
  | leave : Turn m now .stored .leave .free
  /-- The call stays where it is. -/
  | stay {g : Stage} {x : Act η}
      (hway : x ≠ .enter ∧ x ≠ .leave ∧ ∀ id a time, x ≠ .store id a time)
      (hcommit : ∀ id a trigger t, x = .record id a trigger →
        (m.commit now id a trigger).1 ≠ .ok (some t))
      (hlook : x = .look → g = .free) : Turn m now g x g

/-- What a call does by the rule is one of these turns. -/
theorem turn_of_allows {g : Stage} {x : Act η} (h : g.allows x) (now : Stamp) (world : World)
    (m : Monitor η) : Turn m now g x (g.after x (x.perform now world m).1) := by
  cases x with
  | note level message =>
      cases g <;> exact .stay (by simp) (by simp) (by simp)
  | look =>
      cases g with
      | free => exact .stay (by simp) (by simp) fun _ => rfl
      | alone id t => exact .look
      | _ => exact h.elim
  | record id a trigger =>
      cases g with
      | free =>
          show Turn m now .free _ (Stage.after .free (.record id a trigger)
            (m.commit now id a trigger).1)
          -- a commit without a change leaves the call where it stands
          have hstay (h : ∀ t, (m.commit now id a trigger).1 ≠ .ok (some t)) :
              Turn m now .free (.record id a trigger) .free := by
            refine .stay (by simp) ?_ (by simp)
            rintro _ _ _ t ⟨⟩
            exact h t
          rcases houtcome : (m.commit now id a trigger).1 with f | _ | t
          · exact hstay (by simp [houtcome])
          · exact hstay (by simp [houtcome])
          · exact .commit houtcome
      | _ => exact h.elim
  | enter =>
      cases g with
      | due id t => exact .enter
      | _ => exact h.elim
  | store id a time =>
      cases g with
      | found i t watch =>
          obtain ⟨rfl, hshown⟩ := h
          obtain ⟨rfl, rfl⟩ := Prod.mk.inj hshown
          exact .store
      | _ => exact h.elim
  | leave =>
      cases g with
      | stored => exact .leave
      | _ => exact h.elim
  | _ =>
      cases g with
      | free => exact .stay (by simp) (by simp) (by simp)
      | _ => exact h.elim

-- ===================================================== the code of a detection

section Code

variable {site : Site η}

/-- What is aside changes nothing about a call that is through with its changes. -/
theorem Task.IsAside.keepsFree {α : Type} {t : Task η α} (h : t.IsAside) :
    t.Keeps stageRule (fun g _ => g = .free) .free := by
  refine h.keeps ?_ rfl
  rintro _ x rfl haside
  cases x with
  | probe pid => exact haside.elim
  | record id a trigger => exact haside.elim
  | enter => exact haside.elim
  | store id a time => exact haside.elim
  | leave => exact haside.elim
  | _ => exact ⟨trivial, fun _ => rfl⟩

/-- A message changes nothing. -/
theorem keepsStage_note (level : LogLevel) (message : String) (g : Stage) :
    (site.reach.note level message).Keeps stageRule (fun g' _ => g' = g) g :=
  ⟨by cases g <;> trivial, fun _ => by cases g <;> rfl⟩

private theorem keepsStage_persist (id : String) (t : Transition) :
    (site.reach.persist id t).Keeps stageRule (fun g _ => g = .stored) (.alone id t) := by
  unfold Reach.persist
  refine Task.keeps_bind (Task.keeps_look trivial) ?_
  rintro _ _ ⟨m, rfl, rfl⟩
  have hstore : stageRule.allows (.found id t (m.watch? id))
      (.store (η := η) id (m.latest id t).1 (m.latest id t).2) := ⟨rfl, latest_eq m id t⟩
  refine Task.keeps_bind (Task.keeps_one hstore) ?_
  rintro _ outcome rfl
  split
  · rfl
  · split
    · rfl
    · split
      · rfl
      · refine Task.keeps_bind (keepsStage_note _ _ .stored) ?_
        rintro _ _ rfl
        rfl

/-- Storing begins when a change is committed, and when it ends the call is through. -/
theorem keepsStage_writeThrough (hstored : site.isStored) (id : String) (t : Transition) :
    (site.reach.writeThrough id t).Keeps stageRule (fun g _ => g = .free) (.due id t) := by
  rw [Reach.writeThrough, if_pos (show site.reach.isStored from hstored)]
  refine Task.keeps_bind (Task.keeps_one trivial) ?_
  rintro _ _ rfl
  refine Task.keeps_bind (keepsStage_persist id t) ?_
  rintro _ _ rfl
  exact ⟨trivial, fun _ => rfl⟩

/-- Where a call stands by what its commit was answered. -/
def Stage.ofCommit (id : String) : Except Failure (Option Transition) → Stage
  | .ok (some t) => .due id t
  | _ => .free

private theorem keepsStage_commit (id : String) (a : Activity) (trigger : String) :
    (site.reach.commit id a trigger).Keeps stageRule
      (fun g outcome => g = Stage.ofCommit id outcome) .free := by
  unfold Reach.commit
  refine Task.keeps_bind (Task.keeps_one trivial) ?_
  rintro _ (f | _ | t) rfl
  · rfl
  · rfl
  · refine Task.keeps_bind (keepsStage_note _ _ (.due id t)) ?_
    rintro _ _ rfl
    rfl

private theorem keepsStage_detect (hstored : site.isStored) (id trigger : String) :
    (site.reach.detect id trigger).Keeps stageRule (fun g _ => g = .free) .free := by
  refine keeps_detect_of (fun g outcome => g = Stage.ofCommit id outcome) trivial (fun _ => rfl)
    ?_ ?_ ?_
  · intro m w _
    exact ⟨⟨trivial, fun _ => rfl⟩, ⟨trivial, fun _ => rfl⟩,
      fun a => keepsStage_commit id a trigger⟩
  · rintro _ outcome rfl hnone
    rcases outcome with f | _ | t
    · rfl
    · rfl
    · exact absurd rfl (hnone t)
  · rintro _ t rfl
    refine Task.keeps_mono (keepsStage_writeThrough hstored id t) ?_
    rintro _ stored rfl
    exact ⟨fun _ _ => rfl, fun _ => (isAside_announce id t).keepsFree⟩

private theorem keepsStage_round (hstored : site.isStored) (id : String) (number : Nat) :
    (site.reach.round id number).Keeps stageRule (fun g _ => g = .free) .free := by
  refine keeps_round_of trivial (fun _ => rfl) ?_ ?_
  · intro m _
    exact keepsStage_detect hstored id Reach.pollTrigger
  · rintro _ level message rfl
    exact (isAside_note level message).keepsFree

/-- The code of every request keeps to the rule. -/
theorem keeps_stageRule (hstored : site.isStored) (r : Request) :
    (r.task site).Keeps stageRule (fun g _ => g = .free) .free := by
  cases r with
  | start id => exact Task.keeps_bind (isAside_start id).keepsFree fun _ _ hg => hg
  | stop id => exact Task.keeps_bind (isAside_stop id).keepsFree fun _ _ hg => hg
  | detect id =>
      exact Task.keeps_bind (keepsStage_detect hstored id Reach.demandTrigger) fun _ _ hg => hg
  | round id number =>
      exact Task.keeps_bind (keepsStage_round hstored id number) fun _ _ hg => hg
  | shutDown => exact Task.keeps_bind isAside_shutDown.keepsFree fun _ _ hg => hg

end Code

end Monitor

end PaneWatch
