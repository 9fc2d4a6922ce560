/-
What a call does, deed by deed.

A `Scene` is what an act finds: the time, what the world answers, and the monitor as everybody
else has left it. A task that is given a scene for each of its acts does its deeds and comes to a
result (`Task.play`). The scenes are arbitrary, so a theorem about all of them is one about all
that may happen between two acts and all that the world may answer.

`Task.Does` is the same as a relation, which is taken apart along the code: `Does.bind_inv` is the
law for one thing after the other. By `Does.detect_cases` a detection goes one of five ways, and
it says that its session was not found if and only if the monitor did not have it, at the look or
at the commit: whatever panes, processes, stores and hooks say does not pass for that
(`notFound_iff`). It is ended by the order to end the program if and only if one of these
gives it (`Goes.heeds`).
-/
import PaneWatch.Proofs.Monitor.Notice
import PaneWatch.Proofs.Monitor.Watches

namespace PaneWatch.Monitor

open Time (Stamp)

variable {η α β γ : Type}

-- ===================================================== scenes and deeds

/-- What an act finds. -/
structure Scene (η : Type) where
  now : Stamp
  world : World
  monitor : Monitor η

/-- An act and what it found. -/
structure Deed (η : Type) where
  act : Act η
  scene : Scene η

/-- What a deed was answered. -/
def Deed.answer (d : Deed η) : d.act.Answer :=
  (d.act.perform d.scene.now d.scene.world d.scene.monitor).1

namespace Task

/-- What a task does and what it comes to, if its acts find some scenes one after the other. -/
def play : Task η α → (Nat → Scene η) → List (Deed η) × α
  | done a, _ => ([], a)
  | act x next, scenes =>
    let (deeds, a) := (next (Deed.mk x (scenes 0)).answer).play fun k => scenes (k + 1)
    (⟨x, scenes 0⟩ :: deeds, a)

/-- That a task may do some deeds and come to a result. -/
def Does : Task η α → List (Deed η) → α → Prop
  | done a, deeds, b => deeds = [] ∧ b = a
  | act x next, deeds, b =>
    ∃ scene rest, deeds = ⟨x, scene⟩ :: rest ∧ (next (Deed.mk x scene).answer).Does rest b

/-- A task does what it does when it is played, whatever the scenes are. -/
theorem does_play (t : Task η α) (scenes : Nat → Scene η) :
    t.Does (t.play scenes).1 (t.play scenes).2 := by
  induction t generalizing scenes with
  | done a => exact ⟨rfl, rfl⟩
  | act x next ih => exact ⟨scenes 0, _, rfl, ih _ _⟩

variable {site : Site η} {deeds : List (Deed η)}

/-- What is done by two tasks in a row is what the first has done and then what the second has. -/
theorem Does.bind_inv {t : Task η α} {f : α → Task η β} {b : β} (h : (t >>= f).Does deeds b) :
    ∃ first a rest, deeds = first ++ rest ∧ t.Does first a ∧ (f a).Does rest b := by
  induction t generalizing deeds with
  | done a => exact ⟨[], a, deeds, rfl, ⟨rfl, rfl⟩, h⟩
  | act x next ih =>
      obtain ⟨scene, tail, rfl, htail⟩ := h
      obtain ⟨first, a, rest, rfl, hfirst, hrest⟩ := ih _ htail
      exact ⟨⟨x, scene⟩ :: first, a, rest, rfl, ⟨scene, first, rfl, hfirst⟩, hrest⟩

/-- A task that is done does nothing more. -/
theorem Does.done_inv {a b : α} (h : (done a : Task η α).Does deeds b) : deeds = [] ∧ b = a := h

/-- One act is one deed, and its answer is that of the scene. -/
theorem Does.one_inv {x : Act η} {y : x.Answer} (h : (one x).Does deeds y) :
    ∃ scene, deeds = [⟨x, scene⟩] ∧ y = (Deed.mk x scene).answer := by
  obtain ⟨scene, rest, rfl, rfl, rfl⟩ := h
  exact ⟨scene, rfl, rfl⟩

/-- A look is answered by the monitor of its scene. -/
theorem Does.look_inv {f : Monitor η → α} {a : α} (h : (site.reach.look f).Does deeds a) :
    ∃ scene, deeds = [⟨.look, scene⟩] ∧ a = f scene.monitor := by
  obtain ⟨scene, rest, rfl, rfl, rfl⟩ := h
  exact ⟨scene, rfl, rfl⟩

/-- What a task does is allowed by every rule without a record that it keeps to. -/
theorem Does.allowed {rule : Rule η Unit} {post : Unit → α → Prop} {t : Task η α} {a : α}
    (h : t.Does deeds a) (hkeeps : t.Keeps rule post ()) : ∀ d ∈ deeds, rule.allows () d.act := by
  induction t generalizing deeds with
  | done b =>
      obtain ⟨rfl, -⟩ := h
      simp
  | act x next ih =>
      obtain ⟨scene, rest, rfl, hrest⟩ := h
      rw [List.forall_mem_cons]
      exact ⟨hkeeps.1, ih _ hrest (hkeeps.2 _)⟩

end Task

-- ===================================================== committing nothing

/-- Whether an act commits an activity. -/
def Act.IsCommit : Act η → Prop
  | record .. => True
  | _ => False

/-- That nothing is committed. -/
def commitless : Rule η Unit where
  allows _ x := ¬x.IsCommit
  after _ _ _ := ()

/-- No act takes a call back to where it has committed nothing. -/
theorem Notice.after_ne_silent {g : Notice η} (hg : g ≠ .silent) (x : Act η) (y : x.Answer) :
    g.after x y ≠ .silent := by
  unfold Notice.after
  split
  · exact absurd rfl hg
  · nofun
  · nofun
  · split <;> nofun
  · nofun
  · nofun
  · split <;> nofun
  · exact hg

/-- A call that has committed a change commits nothing more on its way. -/
theorem Notice.not_isCommit_of_allows {g : Notice η} {x : Act η} (hg : g ≠ .silent)
    (h : g.allows x) : ¬x.IsCommit := by
  cases x with
  | record id a trigger =>
      cases g with
      | silent => exact absurd rfl hg
      | calling id t rest => cases rest <;> exact h.elim
      | _ => exact h.elim
  | _ => exact id

/-- Behind the commit of a detection there is no other. -/
private theorem keeps_commitless {t : Task η α} {post : Notice η → α → Prop} {g : Notice η}
    (h : t.Keeps detectionRule post g) (hg : g ≠ .silent) :
    t.Keeps commitless (fun _ _ => True) () := by
  refine Task.keeps_mono (Task.Keeps.transfer (R := fun g _ => g ≠ .silent) h ?_ hg) ?_
  · intro g _ x hg hallows
    exact ⟨Notice.not_isCommit_of_allows hg hallows, Notice.after_ne_silent hg x⟩
  · intro _ _ _
    trivial

-- ===================================================== the order to end the program

/-- Whether an outcome is the order to end the program. -/
def IsExit (outcome : Except Failure α) : Prop := ∃ f, outcome = .error f ∧ f.kind = .exit

/-- Only a failure can be the order to end the program. -/
@[simp] theorem isExit_error {f : Failure} :
    IsExit (.error f : Except Failure α) ↔ f.kind = .exit :=
  ⟨by rintro ⟨_, ⟨⟩, h⟩; exact h, fun h => ⟨f, rfl, h⟩⟩

@[simp] theorem not_isExit_ok (a : α) : ¬IsExit (.ok a) := by
  rintro ⟨_, ⟨⟩, -⟩

/-- What the program announces is no order to end it. -/
theorem kind_ne_exit_of_isOwn {f : Failure} (h : f.kind.isOwn) : f.kind ≠ .exit := by
  intro hexit
  rw [hexit] at h
  cases h

/-- Whether the world answers an act with the order to end the program. -/
def Act.Exits : (x : Act η) → x.Answer → Prop
  | resolvePid _, y => IsExit y
  | capture _, y => IsExit y
  | probe _, y => IsExit y
  | launch .., y => IsExit y
  | store .., y => IsExit y
  | call .., y => IsExit y
  | _, _ => False

/-- Whether a deed was answered so. -/
def Deed.IsExit (d : Deed η) : Prop := d.act.Exits d.answer

/-- That the order to end the program is what some deeds come to, if and only if one of them was
answered so. -/
def Heeds (deeds : List (Deed η)) (outcome : Except Failure α) : Prop :=
  (∃ d ∈ deeds, d.IsExit) ↔ IsExit outcome

private theorem heeds_nil {outcome : Except Failure α} (h : ¬IsExit outcome) :
    Heeds ([] : List (Deed η)) outcome := iff_of_false (by simp) h

/-- One deed that was answered what it comes to. -/
theorem heeds_one {d : Deed η} {outcome : Except Failure α} (h : d.IsExit ↔ IsExit outcome) :
    Heeds [d] outcome := by
  unfold Heeds
  simpa using h

/-- It does not matter for this what else an outcome is. -/
theorem Heeds.congr {deeds : List (Deed η)} {a : Except Failure α} {b : Except Failure β}
    (h : Heeds deeds a) (hab : IsExit a ↔ IsExit b) : Heeds deeds b := Iff.trans h hab

/-- What has not come to the order to end the program leaves that to what follows. -/
theorem Heeds.append {first rest : List (Deed η)} {a : Except Failure α} {b : Except Failure β}
    (h : Heeds first a) (ha : ¬IsExit a) (hrest : Heeds rest b) : Heeds (first ++ rest) b := by
  have hnone : ¬∃ d ∈ first, d.IsExit := fun hexit => ha (h.1 hexit)
  unfold Heeds at hrest ⊢
  simp only [List.mem_append, or_and_right, exists_or]
  rw [or_iff_right hnone]
  exact hrest

-- ===================================================== classifying

section Detections

variable {site : Site η} {id trigger : String} {deeds : List (Deed η)}

/-- A note is never answered the order to end the program. -/
private theorem Task.Does.heeds_note {level : LogLevel} {message : String} {u : Unit}
    (h : (site.reach.note level message).Does deeds u) :
    Heeds deeds (.ok u : Except Failure Unit) := by
  obtain ⟨scene, rfl, -⟩ := h.one_inv
  exact heeds_one (iff_of_false not_false (by simp))

/-- The order to end the program comes from the process table if that is asked. -/
theorem isExit_ofProbe {output : Option Failure} {probed : Except Failure String} :
    IsExit (Signal.ofProbe id output probed) ↔ IsExit probed := by
  cases probed with
  | ok code => exact iff_of_false (not_isExit_ok _) (not_isExit_ok _)
  | error f =>
      unfold Signal.ofProbe
      dsimp only
      split
      · rw [isExit_error, isExit_error]
      · next hown =>
        have hnone : ¬IsExit (.error f : Except Failure String) := by
          simpa using kind_ne_exit_of_isOwn (by simpa using hown)
        refine iff_of_false ?_ hnone
        cases output <;> simp [Failure.kind]

/-- A session that cannot be classified for the order to end the program was told so by its panes
or by the process table. -/
theorem Task.Does.heeds_classify {table : List Signal.Row} {pid : Int}
    {outcome : Except Failure Activity}
    (h : (Signal.classify table id (site.reach.capture id) (site.reach.probe pid)).Does deeds
      outcome) : Heeds deeds outcome := by
  have hprobe {output : Option Failure} {deeds : List (Deed η)}
      (h : (site.reach.probe pid >>= fun probed =>
        pure (Signal.ofProbe id output probed)).Does deeds outcome) : Heeds deeds outcome := by
    obtain ⟨_, probed, _, rfl, hprobe, hdone⟩ := h.bind_inv
    obtain ⟨scene, rfl, rfl⟩ := hprobe.one_inv
    obtain ⟨rfl, rfl⟩ := hdone.done_inv
    exact heeds_one isExit_ofProbe.symm
  unfold Signal.classify at h
  obtain ⟨_, captured, rest, rfl, hcapture, hrest⟩ := h.bind_inv
  obtain ⟨scene, rfl, hcaptured⟩ := hcapture.one_inv
  have hfirst : Heeds [(⟨.capture id, scene⟩ : Deed η)] captured :=
    heeds_one (by rw [hcaptured]; rfl)
  cases captured with
  | ok output =>
      dsimp only at hrest
      split at hrest
      · exact hfirst.append (not_isExit_ok _) (hprobe hrest)
      · obtain ⟨rfl, rfl⟩ := hrest.done_inv
        exact hfirst.append (not_isExit_ok _) (heeds_nil (not_isExit_ok _))
  | error f =>
      dsimp only at hrest
      split at hrest
      · next hown => exact hfirst.append (by simpa using kind_ne_exit_of_isOwn hown) (hprobe hrest)
      · obtain ⟨rfl, rfl⟩ := hrest.done_inv
        unfold Heeds at hfirst ⊢
        rw [List.append_nil, hfirst]
        simp

/-- A process that could not be asked does not make a session one that is not found. -/
theorem kind_ofProbe {output : Option Failure} {probed : Except Failure String} {f : Failure}
    (h : Signal.ofProbe id output probed = .error f) : f.kind ≠ .notFound := by
  unfold Signal.ofProbe at h
  split at h
  · cases h
  · next g =>
    split at h
    · -- only what nobody announced gets through, and that is of another kind
      next hforeign =>
      cases h
      intro hkind
      rw [hkind] at hforeign
      cases hforeign
    · split at h
      · cases h
        exact nofun
      · cases h

/-- Nor does anything else that keeps a detection from classifying it. -/
theorem Task.Does.kind_of_classify {table : List Signal.Row} {pid : Int} {f : Failure}
    (h : (Signal.classify table id (site.reach.capture id) (site.reach.probe pid)).Does deeds
      (.error f)) : f.kind ≠ .notFound := by
  have hprobe {output : Option Failure} {deeds : List (Deed η)}
      (h : (site.reach.probe pid >>= fun probed =>
        pure (Signal.ofProbe id output probed)).Does deeds (.error f)) : f.kind ≠ .notFound := by
    obtain ⟨_, probed, _, -, -, h⟩ := h.bind_inv
    exact kind_ofProbe h.done_inv.2.symm
  unfold Signal.classify at h
  obtain ⟨_, captured, _, -, -, h⟩ := h.bind_inv
  cases captured with
  | ok output =>
      dsimp only at h
      split at h
      · exact hprobe h
      · cases h.done_inv.2
  | error g =>
      dsimp only at h
      split at h
      · exact hprobe h
      · next hforeign =>
        cases h.done_inv.2
        intro hkind
        rw [hkind] at hforeign
        exact hforeign rfl

/-- The signals are read without a commit. -/
private theorem commitless_of_classify {table : List Signal.Row} {pid : Int}
    {outcome : Except Failure Activity}
    (h : (Signal.classify table id (site.reach.capture id) (site.reach.probe pid)).Does deeds
      outcome) : ∀ d ∈ deeds, ¬d.act.IsCommit := by
  have hkeeps : (Signal.classify table id (site.reach.capture id) (site.reach.probe pid)).Keeps
      commitless (fun g _ => g = ()) () :=
    keeps_classify table id ⟨not_false, fun _ => rfl⟩ ⟨not_false, fun _ => rfl⟩
  exact h.allowed hkeeps

-- ===================================================== storing and announcing

/-- Storing fails only in a way that the program does not announce. -/
theorem Task.Does.persist_cases {t : Transition} {outcome : Except Failure Unit}
    (h : (site.reach.persist id t).Does deeds outcome) :
    Heeds deeds outcome ∧ ∀ f, outcome = .error f → f.kind.isOwn = false := by
  unfold Reach.persist at h
  obtain ⟨_, latest, _, rfl, hlook, hrest⟩ := h.bind_inv
  obtain ⟨look, rfl, -⟩ := hlook.look_inv
  obtain ⟨_, stored, rest, rfl, hstore, hrest⟩ := hrest.bind_inv
  obtain ⟨scene, rfl, hstored⟩ := hstore.one_inv
  have hlooked : Heeds [(⟨.look, look⟩ : Deed η)] (.ok () : Except Failure Unit) :=
    heeds_one (iff_of_false not_false (by simp))
  have hasked : Heeds [(⟨.store id latest.1 latest.2, scene⟩ : Deed η)] stored :=
    heeds_one (by rw [hstored]; rfl)
  have hfirst := hlooked.append (not_isExit_ok ()) hasked
  rw [← List.append_assoc]
  cases stored with
  | ok u =>
      obtain ⟨rfl, rfl⟩ := hrest.done_inv
      exact ⟨hfirst.append (not_isExit_ok u) (heeds_nil (not_isExit_ok _)), nofun⟩
  | error f =>
      dsimp only at hrest
      split at hrest
      · next hforeign =>
        obtain ⟨rfl, rfl⟩ := hrest.done_inv
        rw [List.append_nil]
        refine ⟨hfirst, ?_⟩
        rintro _ ⟨⟩
        simpa using hforeign
      · next hown =>
        have hstays : ¬IsExit (.error f : Except Failure Unit) := by
          simpa using kind_ne_exit_of_isOwn (by simpa using hown)
        split at hrest
        · obtain ⟨rfl, rfl⟩ := hrest.done_inv
          exact ⟨hfirst.append hstays (heeds_nil (not_isExit_ok _)), nofun⟩
        · obtain ⟨_, u, _, rfl, hnote, hdone⟩ := hrest.bind_inv
          obtain ⟨rfl, rfl⟩ := hdone.done_inv
          rw [List.append_nil]
          exact ⟨hfirst.append hstays hnote.heeds_note, nofun⟩

/-- A write-through ends with the order to end the program exactly if it was given it, and with no
failure of the own kinds. -/
private theorem Task.Does.writeThrough_cases {t : Transition} {outcome : Except Failure Unit}
    (h : (site.reach.writeThrough id t).Does deeds outcome) :
    Heeds deeds outcome ∧ ∀ f, outcome = .error f → f.kind.isOwn = false := by
  unfold Reach.writeThrough at h
  split at h
  · obtain ⟨_, _, _, rfl, henter, hrest⟩ := h.bind_inv
    obtain ⟨enter, rfl, -⟩ := henter.one_inv
    obtain ⟨_, stored, _, rfl, hpersist, hrest⟩ := hrest.bind_inv
    obtain ⟨_, _, _, rfl, hleave, hdone⟩ := hrest.bind_inv
    obtain ⟨leave, rfl, -⟩ := hleave.one_inv
    obtain ⟨rfl, rfl⟩ := hdone.done_inv
    obtain ⟨hheeds, hforeign⟩ := hpersist.persist_cases
    refine ⟨?_, hforeign⟩
    -- coming to be alone and being so no longer is answered nothing
    have henter : ¬(⟨.enter, enter⟩ : Deed η).IsExit := not_false
    have hleave : ¬(⟨.leave, leave⟩ : Deed η).IsExit := not_false
    unfold Heeds at hheeds ⊢
    simpa [henter, hleave] using hheeds
  · obtain ⟨rfl, rfl⟩ := h.done_inv
    exact ⟨heeds_nil (not_isExit_ok _), nofun⟩

/-- So does the call of a hook. -/
private theorem Task.Does.callHook_cases {t : Transition} {hook : η} {outcome : Except Failure Unit}
    (h : (site.reach.callHook id t hook).Does deeds outcome) :
    Heeds deeds outcome ∧ ∀ f, outcome = .error f → f.kind.isOwn = false := by
  unfold Reach.callHook at h
  obtain ⟨_, called, rest, rfl, hcall, hrest⟩ := h.bind_inv
  obtain ⟨scene, rfl, hcalled⟩ := hcall.one_inv
  have hfirst : Heeds [(⟨.call hook id t.source t.target, scene⟩ : Deed η)] called :=
    heeds_one (by rw [hcalled]; rfl)
  cases called with
  | ok u =>
      obtain ⟨rfl, rfl⟩ := hrest.done_inv
      exact ⟨hfirst.append (not_isExit_ok u) (heeds_nil (not_isExit_ok _)), nofun⟩
  | error f =>
      cases hheld : f.held with
      | error left =>
          simp only [hheld] at hrest
          obtain ⟨rfl, rfl⟩ := hrest.done_inv
          obtain ⟨hforeign, hexit⟩ := Failure.held_error_cases hheld
          rw [List.append_nil]
          refine ⟨?_, by rintro _ ⟨⟩; exact hforeign⟩
          unfold Heeds at hfirst ⊢
          rw [hfirst, isExit_error, isExit_error, hexit]
      | ok text =>
          simp only [hheld] at hrest
          obtain ⟨_, u, _, rfl, hnote, hdone⟩ := hrest.bind_inv
          obtain ⟨rfl, rfl⟩ := hdone.done_inv
          have hstays : ¬IsExit (.error f : Except Failure Unit) := by
            rw [isExit_error]
            intro hexit
            rw [Failure.held, hexit] at hheld
            cases hheld
          rw [List.append_nil]
          exact ⟨hfirst.append hstays hnote.heeds_note, nofun⟩

/-- So do the calls of all hooks, as the first that is not held up is the last. -/
private theorem Task.Does.callHooks_cases {t : Transition} {hooks : List η}
    {outcome : Except Failure Unit}
    (h : (site.reach.callHooks id t hooks).Does deeds outcome) :
    Heeds deeds outcome ∧ ∀ f, outcome = .error f → f.kind.isOwn = false := by
  induction hooks generalizing deeds with
  | nil =>
      obtain ⟨rfl, rfl⟩ := h.done_inv
      exact ⟨heeds_nil (not_isExit_ok _), nofun⟩
  | cons hook rest ih =>
      unfold Reach.callHooks at h
      obtain ⟨_, called, _, rfl, hcall, hrest⟩ := h.bind_inv
      obtain ⟨hheeds, hforeign⟩ := hcall.callHook_cases
      cases called with
      | error f =>
          obtain ⟨rfl, rfl⟩ := hrest.done_inv
          rw [List.append_nil]
          exact ⟨hheeds, hforeign⟩
      | ok u =>
          obtain ⟨hlater, hleft⟩ := ih hrest
          exact ⟨hheeds.append (not_isExit_ok u) hlater, hleft⟩

/-- What gets through an announcement is no failure that the program announces. -/
theorem Task.Does.announce_cases {t : Transition} {outcome : Except Failure Unit}
    (h : (site.reach.announce id t).Does deeds outcome) :
    Heeds deeds outcome ∧ ∀ f, outcome = .error f → f.kind.isOwn = false := by
  unfold Reach.announce at h
  obtain ⟨_, hooks, _, rfl, hlook, hrest⟩ := h.bind_inv
  obtain ⟨look, rfl, -⟩ := hlook.look_inv
  obtain ⟨hheeds, hforeign⟩ := hrest.callHooks_cases
  have hlooked : Heeds [(⟨.look, look⟩ : Deed η)] (.ok () : Except Failure Unit) :=
    heeds_one (iff_of_false not_false (by simp))
  exact ⟨hlooked.append (not_isExit_ok ()) hheeds, hforeign⟩

-- ===================================================== detections

/-- That a deed commits nothing, and was not answered the order to end the program. -/
def Deed.IsPlain (d : Deed η) : Prop := ¬d.act.IsCommit ∧ ¬d.IsExit

/-- The ways that a detection may go: the session is not watched, or what it is doing cannot be
told, or the session is not watched any more at the commit, or it is; and where there is a change,
a failure may get through behind the commit. -/
inductive Goes (id trigger : String) :
    List (Deed η) → Except Failure (Bool × Activity) → Prop where
  | unwatched {look : Scene η} {f : Failure} (hfind : look.monitor.find id = .error f) :
      Goes id trigger [⟨.look, look⟩] (.error f)
  | unclassified {look : Scene η} {w : Watch} {asked : List (Deed η)} {f : Failure}
      (hfind : look.monitor.find id = .ok w) (hasked : ∀ d ∈ asked, ¬d.act.IsCommit)
      (hkind : f.kind ≠ .notFound) (hexit : (∃ d ∈ asked, d.IsExit) ↔ f.kind = .exit) :
      Goes id trigger (⟨.look, look⟩ :: asked) (.error f)
  | refused {look commit : Scene η} {w : Watch} {asked rest : List (Deed η)} {a : Activity}
      {f : Failure} (hfind : look.monitor.find id = .ok w) (hasked : ∀ d ∈ asked, d.IsPlain)
      (hcommit : (commit.monitor.commit commit.now id a trigger).1 = .error f)
      (hrest : ∀ d ∈ rest, d.IsPlain) :
      Goes id trigger (⟨.look, look⟩ :: asked ++ ⟨.record id a trigger, commit⟩ :: rest) (.error f)
  | committed {look commit : Scene η} {w : Watch} {asked rest : List (Deed η)} {a : Activity}
      {change : Option Transition} (hfind : look.monitor.find id = .ok w)
      (hasked : ∀ d ∈ asked, d.IsPlain)
      (hcommit : (commit.monitor.commit commit.now id a trigger).1 = .ok change)
      (hrest : ∀ d ∈ rest, d.IsPlain) :
      Goes id trigger (⟨.look, look⟩ :: asked ++ ⟨.record id a trigger, commit⟩ :: rest)
        (.ok (change.isSome, a))
  | left {look commit : Scene η} {w : Watch} {asked rest : List (Deed η)} {a : Activity}
      {t : Transition} {f : Failure} (hfind : look.monitor.find id = .ok w)
      (hasked : ∀ d ∈ asked, d.IsPlain)
      (hcommit : (commit.monitor.commit commit.now id a trigger).1 = .ok (some t))
      (hrest : ∀ d ∈ rest, ¬d.act.IsCommit) (hforeign : f.kind.isOwn = false)
      (hexit : (∃ d ∈ rest, d.IsExit) ↔ f.kind = .exit) :
      Goes id trigger (⟨.look, look⟩ :: asked ++ ⟨.record id a trigger, commit⟩ :: rest) (.error f)

/-- Deeds that were not answered the order to end the program have not come to it. -/
theorem heeds_of_forall_not (h : ∀ d ∈ deeds, ¬d.IsExit) :
    Heeds deeds (.ok () : Except Failure Unit) :=
  iff_of_false (fun ⟨d, hd, hexit⟩ => h d hd hexit) (not_isExit_ok _)

/-- What commits nothing and has not come to the order to end the program is plain. -/
theorem Heeds.isPlain {outcome : Except Failure α} (h : Heeds deeds outcome)
    (hstays : ¬IsExit outcome) (hcommit : ∀ d ∈ deeds, ¬d.act.IsCommit) :
    ∀ d ∈ deeds, d.IsPlain :=
  fun d hd => ⟨hcommit d hd, fun hexit => hstays (h.1 ⟨d, hd, hexit⟩)⟩

/-- A commit that is logged is one, with a message behind it. -/
theorem Task.Does.commit_cases {a : Activity} {outcome : Except Failure (Option Transition)}
    (h : (site.reach.commit id a trigger).Does deeds outcome) :
    ∃ commit notes, deeds = ⟨.record id a trigger, commit⟩ :: notes
      ∧ outcome = (commit.monitor.commit commit.now id a trigger).1
      ∧ ∀ d ∈ notes, d.IsPlain := by
  unfold Reach.commit at h
  obtain ⟨_, recorded, notes, rfl, hrecord, hrest⟩ := h.bind_inv
  obtain ⟨commit, rfl, hrecorded⟩ := hrecord.one_inv
  refine ⟨commit, notes, rfl, ?_⟩
  have hanswer : recorded = (commit.monitor.commit commit.now id a trigger).1 := hrecorded
  rw [← hanswer]
  split at hrest
  · obtain ⟨_, _, _, rfl, hnote, hdone⟩ := hrest.bind_inv
    obtain ⟨note, rfl, -⟩ := hnote.one_inv
    obtain ⟨rfl, rfl⟩ := hdone.done_inv
    refine ⟨rfl, ?_⟩
    rw [List.append_nil, List.forall_mem_singleton]
    exact ⟨not_false, not_false⟩
  · obtain ⟨rfl, rfl⟩ := hrest.done_inv
    exact ⟨rfl, by simp⟩

/-- What follows the commit of a change commits nothing. It ends with the activity, or with a
failure that the program does not announce. -/
private theorem Task.Does.behind_cases {t : Transition} {a : Activity}
    {outcome : Except Failure (Bool × Activity)}
    (h : (do
      match ← site.reach.writeThrough id t with
      | .error f => return .error f
      | .ok () =>
        match ← site.reach.announce id t with
        | .error f => return .error f
        | .ok () => return .ok (true, a)
      : Task η (Except Failure (Bool × Activity))).Does deeds outcome) :
    (∀ d ∈ deeds, ¬d.act.IsCommit) ∧ Heeds deeds outcome
      ∧ (outcome = .ok (true, a) ∨ ∃ f, outcome = .error f ∧ f.kind.isOwn = false) := by
  obtain ⟨storing, stored, _, rfl, hstore, hrest⟩ := h.bind_inv
  -- behind the commit the code keeps to the rule of notices, which allows no other
  have hstoring := hstore.allowed (keeps_commitless (keepsNotice_writeThrough id t) nofun)
  obtain ⟨hstored, hforeign⟩ := hstore.writeThrough_cases
  cases stored with
  | error f =>
      obtain ⟨rfl, rfl⟩ := hrest.done_inv
      rw [List.append_nil]
      exact ⟨hstoring, hstored.congr (by simp),
        .inr ⟨f, rfl, hforeign f rfl⟩⟩
  | ok u =>
      obtain ⟨announcing, announced, _, rfl, hannounce, hdone⟩ := hrest.bind_inv
      have hannouncing := hannounce.allowed (keeps_commitless (keepsNotice_announce id t) nofun)
      obtain ⟨hannounced, hforeign⟩ := hannounce.announce_cases
      have hall := hstored.append (not_isExit_ok u) hannounced
      cases announced with
      | error f =>
          obtain ⟨rfl, rfl⟩ := hdone.done_inv
          rw [List.append_nil]
          exact ⟨List.forall_mem_append.2 ⟨hstoring, hannouncing⟩,
            hall.congr (by simp), .inr ⟨f, rfl, hforeign f rfl⟩⟩
      | ok u =>
          obtain ⟨rfl, rfl⟩ := hdone.done_inv
          rw [List.append_nil]
          exact ⟨List.forall_mem_append.2 ⟨hstoring, hannouncing⟩,
            hall.congr (by simp), .inl rfl⟩

/-- A detection goes one of five ways. -/
theorem Task.Does.detect_cases {outcome : Except Failure (Bool × Activity)}
    (h : (site.reach.detect id trigger).Does deeds outcome) : Goes id trigger deeds outcome := by
  unfold Reach.detect at h
  obtain ⟨_, _, rest, rfl, hlook, hrest⟩ := h.bind_inv
  obtain ⟨look, rfl, rfl⟩ := hlook.look_inv
  cases hfind : look.monitor.find id with
  | error f =>
      rw [hfind] at hrest
      obtain ⟨rfl, rfl⟩ := hrest.done_inv
      exact .unwatched hfind
  | ok w =>
      rw [hfind] at hrest
      obtain ⟨asked, classified, rest, rfl, hclassify, hrest⟩ := hrest.bind_inv
      have hcommitless := commitless_of_classify hclassify
      have hheeds := hclassify.heeds_classify
      cases classified with
      | error f =>
          obtain ⟨rfl, rfl⟩ := hrest.done_inv
          rw [List.append_nil]
          exact .unclassified hfind hcommitless hclassify.kind_of_classify
            (hheeds.trans isExit_error)
      | ok a =>
          have hasked := hheeds.isPlain (not_isExit_ok a) hcommitless
          -- the deeds are grouped around the commit, the only one among them
          obtain ⟨_, committed, last, rfl, hcommit, hlast⟩ := hrest.bind_inv
          obtain ⟨commit, notes, rfl, hcommitted, hnotes⟩ := hcommit.commit_cases
          have hdeeds : [⟨.look, look⟩]
              ++ (asked ++ (⟨.record id a trigger, commit⟩ :: notes ++ last))
              = ⟨.look, look⟩ :: asked ++ ⟨.record id a trigger, commit⟩ :: (notes ++ last) := by
            simp
          rw [hdeeds]
          cases committed with
          | error f =>
              obtain ⟨rfl, rfl⟩ := hlast.done_inv
              rw [List.append_nil]
              exact .refused hfind hasked hcommitted.symm hnotes
          | ok change =>
              cases change with
              | none =>
                  obtain ⟨rfl, rfl⟩ := hlast.done_inv
                  rw [List.append_nil]
                  exact .committed hfind hasked hcommitted.symm hnotes
              | some t =>
                  obtain ⟨hquiet, hlast, houtcome⟩ := Task.Does.behind_cases hlast
                  have hheeds := (heeds_of_forall_not fun d hd => (hnotes d hd).2).append
                    (not_isExit_ok ()) hlast
                  have hquiet : ∀ d ∈ notes ++ last, ¬d.act.IsCommit :=
                    List.forall_mem_append.2 ⟨fun d hd => (hnotes d hd).1, hquiet⟩
                  rcases houtcome with rfl | ⟨f, rfl, hforeign⟩
                  · exact .committed hfind hasked hcommitted.symm
                      (hheeds.isPlain (not_isExit_ok _) hquiet)
                  · exact .left hfind hasked hcommitted.symm hquiet hforeign
                      (hheeds.trans isExit_error)

/-- That a detection found its session not watched, when it looked it up or when it was to commit
what it had found. -/
def MissesWatch (id : String) (deeds : List (Deed η)) : Prop :=
  (∃ d, deeds.head? = some d ∧ d.scene.monitor.isMonitoring id = false)
    ∨ ∃ d ∈ deeds, d.act.IsCommit ∧ d.scene.monitor.isMonitoring id = false

/-- A commit that finds no watch fails. -/
theorem isMonitoring_of_commit_eq_ok {m : Monitor η} {now : Stamp} {a : Activity}
    {change : Option Transition} (h : (m.commit now id a trigger).1 = .ok change) :
    m.isMonitoring id ≠ false := by
  intro hvacant
  rw [commit_eq_error.2 ⟨hvacant, rfl⟩] at h
  cases h

/-- A detection that was classified and whose only commit found its session watched has missed no
watch. -/
theorem not_missesWatch {look commit : Scene η} {w : Watch} {asked rest : List (Deed η)}
    {a : Activity} {change : Option Transition} (hfind : look.monitor.find id = .ok w)
    (hasked : ∀ d ∈ asked, ¬d.act.IsCommit)
    (hcommit : (commit.monitor.commit commit.now id a trigger).1 = .ok change)
    (hrest : ∀ d ∈ rest, ¬d.act.IsCommit) :
    ¬MissesWatch id (⟨.look, look⟩ :: asked ++ ⟨.record id a trigger, commit⟩ :: rest) := by
  rintro (⟨d, ⟨⟩, hvacant⟩ | ⟨d, hd, hrecords, hvacant⟩)
  · rw [isMonitoring_iff.2 ⟨w, hfind⟩] at hvacant
    cases hvacant
  · rcases List.mem_append.1 hd with hd | hd
    · rcases List.mem_cons.1 hd with rfl | hd
      · exact hrecords.elim
      · exact absurd hrecords (hasked d hd)
    · rcases List.mem_cons.1 hd with rfl | hd
      · exact isMonitoring_of_commit_eq_ok hcommit hvacant
      · exact absurd hrecords (hrest d hd)

/-- A detection says that its session was not found if and only if it was not watched. -/
theorem Goes.notFound_iff {outcome : Except Failure (Bool × Activity)}
    (h : Goes id trigger deeds outcome) :
    (∃ f, outcome = .error f ∧ f.kind = .notFound) ↔ MissesWatch id deeds := by
  cases h with
  | unwatched hfind =>
      obtain ⟨hvacant, rfl⟩ := find_eq_error.1 hfind
      exact ⟨fun _ => .inl ⟨_, rfl, hvacant⟩, fun _ => ⟨_, rfl, rfl⟩⟩
  | @unclassified look w asked f hfind hasked hkind hexit =>
      constructor
      · rintro ⟨f, ⟨⟩, hnotFound⟩
        exact absurd hnotFound hkind
      · rintro (⟨d, ⟨⟩, hvacant⟩ | ⟨d, hd, hcommit, hvacant⟩)
        · rw [isMonitoring_iff.2 ⟨w, hfind⟩] at hvacant
          cases hvacant
        · rcases List.mem_cons.1 hd with rfl | hd
          · exact hcommit.elim
          · exact absurd hcommit (hasked d hd)
  | refused hfind hasked hcommit hrest =>
      obtain ⟨hvacant, rfl⟩ := commit_eq_error.1 hcommit
      exact ⟨fun _ => .inr ⟨_, List.mem_append_right _ List.mem_cons_self, trivial, hvacant⟩,
        fun _ => ⟨_, rfl, rfl⟩⟩
  | committed hfind hasked hcommit hrest =>
      refine iff_of_false (by rintro ⟨f, ⟨⟩, -⟩) ?_
      exact not_missesWatch hfind (fun d hd => (hasked d hd).1) hcommit fun d hd => (hrest d hd).1
  | left hfind hasked hcommit hrest hforeign hexit =>
      refine iff_of_false ?_ ?_
      · rintro ⟨f, ⟨⟩, hnotFound⟩
        rw [hnotFound] at hforeign
        cases hforeign
      · exact not_missesWatch hfind (fun d hd => (hasked d hd).1) hcommit hrest

/-- A detection is ended by the order to end the program if and only if it was given it by a
pane, by the process table, by the store or by a hook. -/
theorem Goes.heeds {outcome : Except Failure (Bool × Activity)}
    (h : Goes id trigger deeds outcome) : Heeds deeds outcome := by
  -- nothing up to the commit is answered the order, if the session was classified
  have hfront {look commit : Scene η} {asked : List (Deed η)} {a : Activity}
      (hasked : ∀ d ∈ asked, d.IsPlain) :
      Heeds (⟨.look, look⟩ :: asked ++ [⟨.record id a trigger, commit⟩])
        (.ok () : Except Failure Unit) := by
    refine heeds_of_forall_not ?_
    intro d hd
    simp only [List.cons_append, List.mem_cons, List.mem_append, List.not_mem_nil, or_false] at hd
    rcases hd with rfl | hd | rfl
    · exact not_false
    · exact (hasked d hd).2
    · exact not_false
  cases h with
  | unwatched hfind =>
      obtain ⟨-, rfl⟩ := find_eq_error.1 hfind
      exact heeds_one (iff_of_false not_false (by simp [Failure.kind]))
  | @unclassified look w asked f hfind hasked hkind hexit =>
      have hlooked : Heeds [(⟨.look, look⟩ : Deed η)] (.ok () : Except Failure Unit) :=
        heeds_one (iff_of_false not_false (by simp))
      exact hlooked.append (not_isExit_ok ()) (hexit.trans isExit_error.symm)
  | refused hfind hasked hcommit hrest =>
      obtain ⟨-, rfl⟩ := commit_eq_error.1 hcommit
      rw [List.append_cons]
      refine (hfront hasked).append (not_isExit_ok ()) (iff_of_false ?_ (by simp [Failure.kind]))
      rintro ⟨d, hd, hexit⟩
      exact (hrest d hd).2 hexit
  | committed hfind hasked hcommit hrest =>
      rw [List.append_cons]
      refine (hfront hasked).append (not_isExit_ok ()) (iff_of_false ?_ (not_isExit_ok _))
      rintro ⟨d, hd, hexit⟩
      exact (hrest d hd).2 hexit
  | left hfind hasked hcommit hrest hforeign hexit =>
      rw [List.append_cons]
      exact (hfront hasked).append (not_isExit_ok ()) (hexit.trans isExit_error.symm)

end Detections

end PaneWatch.Monitor
