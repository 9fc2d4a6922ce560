/-
How far a detection is with the announcement of its change.

A detection that has committed a change stores it, takes the list of the hooks as it is then, and
calls one after the other. `Notice` is where it stands on this way. By the code of all calls
(`keeps_noticeRule`), no hook is called but the next one of that list and with the change that was
committed, nothing else is done before all of them have been called, and no call is done before.
Only a failure that nothing holds up (`Move.isBreach`) makes a call leave the way, and then it
calls no hook any more. What is no detection commits no change and calls no hook.
-/
import PaneWatch.Proofs.Failure
import PaneWatch.Proofs.Monitor.Aside

namespace PaneWatch.Monitor

variable {η : Type}

-- ===================================================== the rule

/-- How far a call is with the announcement of a change. -/
inductive Notice (η : Type) where
  /-- It has committed none. -/
  | silent
  /-- It has committed one, and has not yet taken the list of the hooks. -/
  | due (id : String) (t : Transition)
  /-- So it is, and it is alone to store the change. -/
  | storing (id : String) (t : Transition)
  /-- It has still to call some hooks. -/
  | calling (id : String) (t : Transition) (rest : List η)
  /-- A failure has made it leave the way. -/
  | left (id : String) (t : Transition)

namespace Notice

/-- Whether nothing is left to announce. -/
def isOver : Notice η → Prop
  | silent | calling _ _ [] => True
  | _ => False

/-- Whether a failure has made a call leave the way. -/
def isLeft : Notice η → Prop
  | left .. => True
  | _ => False

/-- Where a call stands that goes on after some step, unless the step fails. -/
def orLeft (g : Notice η) (id : String) (t : Transition) : Except Failure Unit → Notice η
  | .ok () => g
  | .error _ => left id t

/-- Whether an act is the next one on the way. -/
def allows : Notice η → Act η → Prop
  | _, .note .. => True
  | silent, .probe _ | silent, .record .. => True
  | silent, x => x.IsQuiet
  | due .., .enter | due .., .look => True
  | storing .., .look | storing .., .store .. | storing .., .leave => True
  | calling id t (next :: _), .call hook i source target =>
    hook = next ∧ i = id ∧ source = t.source ∧ target = t.target
  -- who was alone is so no longer
  | left .., .leave => True
  | _, _ => False

/-- Where a call stands after an act. -/
def after : Notice η → (x : Act η) → x.Answer → Notice η
  | silent, .record id _ _, .ok (some t) => due id t
  | due id t, .enter, _ => storing id t
  | due id t, .look, m => calling id t m.hooks
  | storing id t, .store .., .error f => if f.kind.isOwn then storing id t else left id t
  | storing id t, .leave, _ => due id t
  | calling id t (_ :: rest), .call .., .ok () => calling id t rest
  | calling id t (_ :: rest), .call .., .error f =>
    if f.isHeld then calling id t rest else left id t
  | g, _, _ => g

end Notice

/-- That a detection goes the way of its change to the end, or leaves it. -/
def detectionRule : Rule η (Notice η) where
  allows := Notice.allows
  after := Notice.after
  ends g := g.isOver ∨ g.isLeft

/-- Whether a move is answered by a failure that a detection does not hold up after its commit:
one of the store that the program does not announce, or one of a hook that gets through the
handler. -/
def Move.isBreach : Move η → Bool
  | ⟨_, _, .store .., .error f, _, _⟩ => !f.kind.isOwn
  | ⟨_, _, .call .., .error f, _, _⟩ => !f.isHeld
  | _ => false

/-- That a call does only what is quiet. -/
def quietRule : Rule η (Notice η) where
  allows _ x := x.IsQuiet
  after g _ _ := g

/-- Whether a request asks for a detection. -/
def Request.detects : Request → Bool
  | detect _ | round .. => true
  | _ => false

/-- That only detections commit changes, and announce them. -/
def noticeRule (r : Request) : Rule η (Notice η) := if r.detects then detectionRule else quietRule

/-- Only an answer that nothing holds up makes a call leave its way. -/
theorem Notice.isBreach_of_after {g : Notice η} {e : Move η} (hbefore : ¬g.isLeft)
    (hafter : (g.after e.act e.answer).isLeft) : e.isBreach := by
  obtain ⟨call, r, x, y, now, m⟩ := e
  dsimp only at hafter
  unfold Notice.after at hafter
  split at hafter
  · exact hafter.elim
  · exact hafter.elim
  · exact hafter.elim
  · split at hafter
    · exact hafter.elim
    · next hforeign => simpa [Move.isBreach] using hforeign
  · exact hafter.elim
  · exact hafter.elim
  · split at hafter
    · exact hafter.elim
    · next hnot => simpa [Move.isBreach] using hnot
  · exact absurd hafter hbefore

-- ===================================================== storing and announcing

section Code

variable {site : Site η}

private theorem keepsNotice_note (level : LogLevel) (message : String) (g : Notice η) :
    (site.reach.note level message).Keeps detectionRule (fun g' _ => g' = g) g := by
  cases g with
  | calling id t rest => cases rest <;> exact ⟨trivial, fun _ => rfl⟩
  | _ => exact ⟨trivial, fun _ => rfl⟩

/-- Storing fails only by a failure that the program does not announce. -/
theorem keepsNotice_persist (id : String) (t : Transition) :
    (site.reach.persist id t).Keeps detectionRule
      (fun g outcome => g = Notice.orLeft (.storing id t) id t outcome) (.storing id t) := by
  unfold Reach.persist
  refine Task.keeps_bind (Task.keeps_look trivial) ?_
  rintro _ _ ⟨m, rfl, rfl⟩
  refine Task.keeps_bind (Task.keeps_one trivial) ?_
  rintro g (f | u) hg
  · have hafter : g = if f.kind.isOwn then .storing id t else .left id t := hg
    dsimp only
    split
    · next hforeign => exact hafter.trans (if_neg (by simpa using hforeign))
    · next hown =>
      obtain rfl : g = .storing id t := hafter.trans (if_pos (by simpa using hown))
      split
      · rfl
      · refine Task.keeps_bind (keepsNotice_note _ _ (.storing id t)) ?_
        rintro _ _ rfl
        rfl
  · exact hg

/-- However a change is stored, it is announced afterwards, unless that failed. -/
theorem keepsNotice_writeThrough (id : String) (t : Transition) :
    (site.reach.writeThrough id t).Keeps detectionRule
      (fun g outcome => g = Notice.orLeft (.due id t) id t outcome) (.due id t) := by
  unfold Reach.writeThrough
  split
  · refine Task.keeps_bind (Task.keeps_one trivial) ?_
    rintro _ _ rfl
    refine Task.keeps_bind (keepsNotice_persist id t) ?_
    rintro _ (f | u) rfl
    · exact ⟨trivial, fun _ => rfl⟩
    · exact ⟨trivial, fun _ => rfl⟩
  · rfl

/-- A hook is called once, even if it fails. -/
theorem keepsNotice_callHook (id : String) (t : Transition) (hook : η) (rest : List η) :
    (site.reach.callHook id t hook).Keeps detectionRule
      (fun g outcome => g = Notice.orLeft (.calling id t rest) id t outcome)
      (.calling id t (hook :: rest)) := by
  have hnext : (detectionRule (η := η)).allows (.calling id t (hook :: rest))
      (.call hook id t.source t.target) := ⟨rfl, rfl, rfl, rfl⟩
  unfold Reach.callHook
  refine Task.keeps_bind (Task.keeps_one hnext) ?_
  rintro g (f | u) hg
  · have hafter : g = if f.isHeld then .calling id t rest else .left id t := hg
    dsimp only
    cases hheld : f.isHeld with
    | false =>
        obtain ⟨left, hleft⟩ := Failure.exists_held_of_not_isHeld hheld
        rw [hleft]
        exact hafter.trans (if_neg (by simp [hheld]))
    | true =>
        rw [Failure.held_of_isHeld hheld]
        obtain rfl : g = .calling id t rest := hafter.trans (if_pos hheld)
        refine Task.keeps_bind (keepsNotice_note _ _ (.calling id t rest)) ?_
        rintro _ _ rfl
        rfl
  · exact hg

/-- All hooks are called, unless a failure gets through. -/
theorem keepsNotice_callHooks (id : String) (t : Transition) (hooks : List η) :
    (site.reach.callHooks id t hooks).Keeps detectionRule
      (fun g outcome => g = Notice.orLeft (.calling id t []) id t outcome)
      (.calling id t hooks) := by
  induction hooks with
  | nil => rfl
  | cons hook rest ih =>
      unfold Reach.callHooks
      refine Task.keeps_bind (keepsNotice_callHook id t hook rest) ?_
      rintro _ (f | u) rfl
      · rfl
      · exact ih

/-- An announcement calls the hooks in their order, until one of them ends the call. -/
theorem keepsNotice_announce (id : String) (t : Transition) :
    (site.reach.announce id t).Keeps detectionRule
      (fun g outcome => g = Notice.orLeft (.calling id t []) id t outcome) (.due id t) := by
  unfold Reach.announce
  refine Task.keeps_bind (Task.keeps_look trivial) ?_
  rintro _ _ ⟨m, rfl, rfl⟩
  exact keepsNotice_callHooks id t m.hooks

-- ===================================================== detections

/-- Where a call stands by what its commit was answered. -/
def Notice.ofCommit (id : String) : Except Failure (Option Transition) → Notice η
  | .ok (some t) => .due id t
  | _ => .silent

private theorem keepsNotice_commit (id : String) (a : Activity) (trigger : String) :
    (site.reach.commit id a trigger).Keeps detectionRule
      (fun g outcome => g = Notice.ofCommit id outcome) .silent := by
  unfold Reach.commit
  refine Task.keeps_bind (Task.keeps_one trivial) ?_
  rintro _ (f | _ | t) rfl
  · rfl
  · rfl
  · refine Task.keeps_bind (keepsNotice_note _ _ (.due id t)) ?_
    rintro _ _ rfl
    rfl

private theorem keepsNotice_detect (id trigger : String) :
    (site.reach.detect id trigger).Keeps detectionRule (fun g _ => g.isOver ∨ g.isLeft)
      .silent := by
  refine keeps_detect_of (fun g outcome => g = Notice.ofCommit id outcome) trivial
    (fun _ => .inl trivial) ?_ ?_ ?_
  · intro m w _
    exact ⟨⟨trivial, fun _ => rfl⟩, ⟨trivial, fun _ => rfl⟩,
      fun a => keepsNotice_commit id a trigger⟩
  · rintro _ outcome rfl hnone
    rcases outcome with f | _ | t
    · exact .inl trivial
    · exact .inl trivial
    · exact absurd rfl (hnone t)
  · rintro _ t rfl
    refine Task.keeps_mono (keepsNotice_writeThrough id t) ?_
    rintro _ stored rfl
    constructor
    · rintro f rfl
      exact .inr trivial
    · rintro rfl
      refine Task.keeps_mono (keepsNotice_announce id t) ?_
      rintro _ (f | u) rfl
      · exact .inr trivial
      · exact .inl trivial

private theorem keepsNotice_round (id : String) (number : Nat) :
    (site.reach.round id number).Keeps detectionRule (fun g _ => g.isOver ∨ g.isLeft)
      .silent := by
  refine keeps_round_of trivial (fun _ => .inl trivial) ?_ ?_
  · intro m _
    exact keepsNotice_detect id Reach.pollTrigger
  · intro g level message hends
    refine Task.keeps_mono (keepsNotice_note level message g) ?_
    rintro _ _ rfl
    exact hends

/-- What does only quiet acts keeps to the rule for what is no detection. -/
theorem Task.IsQuiet.keepsQuiet {α : Type} {t : Task η α} (h : t.IsQuiet) (g : Notice η) :
    t.Keeps quietRule (fun _ _ => True) g :=
  h.keeps (fun _ _ _ hx => ⟨hx, fun _ => trivial⟩) trivial

/-- The code of every request keeps to the rule. -/
theorem keeps_noticeRule (site : Site η) (r : Request) :
    (r.task site).Keeps (noticeRule r) (fun g _ => (noticeRule (η := η) r).ends g) .silent := by
  cases r with
  | start id => exact Task.keeps_bind ((isQuiet_start id).keepsQuiet _) fun _ _ _ => trivial
  | stop id => exact Task.keeps_bind ((isQuiet_stop id).keepsQuiet _) fun _ _ _ => trivial
  | detect id =>
      exact Task.keeps_bind (keepsNotice_detect id Reach.demandTrigger) fun _ _ hover => hover
  | round id number => exact Task.keeps_bind (keepsNotice_round id number) fun _ _ hover => hover
  | shutDown => exact Task.keeps_bind (isQuiet_shutDown.keepsQuiet _) fun _ _ _ => trivial

end Code

end PaneWatch.Monitor
