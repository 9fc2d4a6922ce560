/-
The code of a monitor that has no part in a change.

What a detection does before its commit is to classify, and what it does afterwards is to
store and to announce. Everything else that calls do is aside: it asks about no process,
commits nothing and stores nothing. A rule that lets such acts pass is kept by all of this
code at once (`Task.IsAside.keeps`), so each rule has to be followed through the
code of a detection only. What is no detection does not even announce anything: it is
quiet (`Task.IsQuiet`).
-/
import PaneWatch.Proofs.Monitor.Traffic

namespace PaneWatch.Monitor

variable {η α β γ : Type} {site : Site η}

-- ===================================================== acts aside

/-- Whether an act has no part in a change. -/
def Act.IsAside : Act η → Prop
  | probe _ | record .. | enter | store .. | leave => False
  | _ => True

/-- That all acts are aside. -/
def asideRule : Rule η Unit where
  allows _ x := x.IsAside
  after _ _ _ := ()

/-- That a task does nothing but acts aside. -/
def Task.IsAside (t : Task η α) : Prop := t.Keeps asideRule (fun _ _ => True) ()

namespace Task.IsAside

/-- Acts aside keep to every rule that lets them pass. -/
theorem keeps {t : Task η α} (h : t.IsAside) {rule : Rule η γ} {inv : γ → Prop}
    (hrule : ∀ g x, inv g → x.IsAside → rule.allows g x ∧ ∀ y, inv (rule.after g x y)) {g : γ}
    (hg : inv g) : t.Keeps rule (fun g _ => inv g) g := by
  refine keeps_mono (Keeps.transfer (R := fun _ g => inv g) h ?_ hg) ?_
  · intro _ g x hg haside
    exact hrule g x hg haside
  · rintro g a ⟨_, hg, -⟩
    exact hg

/-- What keeps aside all along keeps aside as a whole. -/
theorem bind {t : Task η α} {f : α → Task η β} (h : t.IsAside) (hf : ∀ a, (f a).IsAside) :
    (t >>= f).IsAside := keeps_bind h fun _ a _ => hf a

theorem done (a : α) : (Task.done a : Task η α).IsAside := trivial

end Task.IsAside

private theorem isAside_one {x : Act η} (h : x.IsAside) :
    (Task.one x).IsAside := ⟨h, fun _ => trivial⟩

/-- A look at the monitor keeps aside. -/
theorem isAside_look (f : Monitor η → α) : (site.reach.look f).IsAside :=
  ⟨trivial, fun _ => trivial⟩

/-- So does a note. -/
theorem isAside_note (level : LogLevel) (message : String) :
    (site.reach.note level message).IsAside := isAside_one trivial

-- ===================================================== quiet acts

/-- Whether an act has no part in a change, and does not announce one. -/
def Act.IsQuiet : Act η → Prop
  | call .. => False
  | x => x.IsAside

/-- What is quiet keeps aside. -/
private theorem Act.IsQuiet.isAside {x : Act η} (h : x.IsQuiet) : x.IsAside := by
  cases x with
  | call hook id source target => exact h.elim
  | _ => exact h

/-- That a task does nothing but quiet acts. -/
def Task.IsQuiet : Task η α → Prop
  | done _ => True
  | act x next => x.IsQuiet ∧ ∀ y, (next y).IsQuiet

namespace Task.IsQuiet

/-- What is quiet all along is quiet as a whole. -/
theorem bind {t : Task η α} {f : α → Task η β} (h : t.IsQuiet) (hf : ∀ a, (f a).IsQuiet) :
    (t >>= f).IsQuiet := by
  induction t with
  | done a => exact hf a
  | act x next ih =>
      obtain ⟨hquiet, hnext⟩ := h
      exact ⟨hquiet, fun y => ih y (hnext y)⟩

theorem done (a : α) : (Task.done a : Task η α).IsQuiet := trivial

/-- Quiet acts keep to every rule that lets them pass. -/
theorem keeps {t : Task η α} (h : t.IsQuiet) {rule : Rule η γ} {inv : γ → Prop}
    (hrule : ∀ g x, inv g → x.IsQuiet → rule.allows g x ∧ ∀ y, inv (rule.after g x y)) {g : γ}
    (hg : inv g) : t.Keeps rule (fun g _ => inv g) g := by
  induction t generalizing g with
  | done a => exact hg
  | act x next ih =>
      obtain ⟨hquiet, hnext⟩ := h
      obtain ⟨hallowed, hafter⟩ := hrule g x hg hquiet
      exact ⟨hallowed, fun y => ih y (hnext y) (hafter y)⟩

/-- A quiet task keeps aside. -/
private theorem isAside {t : Task η α} (h : t.IsQuiet) : t.IsAside :=
  h.keeps (fun _ _ _ hx => ⟨hx.isAside, fun _ => trivial⟩) trivial

end Task.IsQuiet

private theorem isQuiet_one {x : Act η} (h : x.IsQuiet) :
    (Task.one x).IsQuiet := ⟨h, fun _ => trivial⟩

private theorem isQuiet_look (f : Monitor η → α) : (site.reach.look f).IsQuiet :=
  ⟨trivial, fun _ => trivial⟩

private theorem isQuiet_note (level : LogLevel) (message : String) :
    (site.reach.note level message).IsQuiet := isQuiet_one trivial

-- ===================================================== classifying

/-- Classifying leaves the record as it is if the two questions do that it may ask. -/
theorem keeps_classify {rule : Rule η γ} {g : γ} (table : List Signal.Row) (id : String)
    {capture probe : Task η (Except Failure String)}
    (hcapture : capture.Keeps rule (fun g' _ => g' = g) g)
    (hprobe : probe.Keeps rule (fun g' _ => g' = g) g) :
    (Signal.classify table id capture probe).Keeps rule (fun g' _ => g' = g) g := by
  have hask {f : Except Failure String → Task η (Except Failure Activity)}
      (hf : ∀ outcome, (f outcome).Keeps rule (fun g' _ => g' = g) g) :
      (probe >>= f).Keeps rule (fun g' _ => g' = g) g := by
    refine Task.keeps_bind hprobe ?_
    rintro _ outcome rfl
    exact hf outcome
  unfold Signal.classify
  refine Task.keeps_bind hcapture ?_
  rintro _ output rfl
  split
  · dsimp only
    split
    · exact hask fun _ => rfl
    · rfl
  · split
    · exact hask fun _ => rfl
    · rfl

-- ===================================================== detections

section Detections

variable {rule : Rule η γ} {g : γ} {post : γ → Prop} {id : String}

/-- What has to be known of a rule for a detection to keep to it: that it lets the look pass, the
two questions about the watch that was seen, the commit, and what follows if there is a change,
where the storing may be the end of it. -/
theorem keeps_detect_of {trigger : String}
    (committed : γ → Except Failure (Option Transition) → Prop)
    (hlook : rule.allows g .look) (hpost : ∀ m : Monitor η, post (rule.after g .look m))
    (hseen : ∀ (m : Monitor η) w, m.find id = .ok w →
      (site.reach.capture id).Keeps rule (fun g' _ => g' = rule.after g .look m)
          (rule.after g .look m)
        ∧ (site.reach.probe w.pid).Keeps rule (fun g' _ => g' = rule.after g .look m)
          (rule.after g .look m)
        ∧ ∀ a, (site.reach.commit id a trigger).Keeps rule committed (rule.after g .look m))
    (hstill : ∀ g' outcome, committed g' outcome → (∀ t, outcome ≠ .ok (some t)) → post g')
    (hchange : ∀ g' t, committed g' (.ok (some t)) →
      (site.reach.writeThrough id t).Keeps rule (fun g' stored =>
        (∀ f, stored = .error f → post g')
          ∧ (stored = .ok () → (site.reach.announce id t).Keeps rule (fun g _ => post g) g'))
        g') :
    (site.reach.detect id trigger).Keeps rule (fun g _ => post g) g := by
  unfold Reach.detect
  refine Task.keeps_bind (Task.keeps_look hlook) ?_
  rintro _ _ ⟨m, rfl, rfl⟩
  split
  · exact hpost m
  · next w table hfound =>
    obtain ⟨hcapture, hprobe, hcommit⟩ := hseen m w (Prod.mk.inj hfound).1
    refine Task.keeps_bind (keeps_classify table id hcapture hprobe) ?_
    rintro _ classified rfl
    split
    · exact hpost m
    · refine Task.keeps_bind (hcommit _) ?_
      intro g' outcome hcommitted
      split
      · exact hstill g' _ hcommitted (by simp)
      · exact hstill g' _ hcommitted (by simp)
      · refine Task.keeps_bind (hchange g' _ hcommitted) ?_
        rintro g' stored ⟨hleft, hannounce⟩
        cases stored with
        | error f => exact hleft f rfl
        | ok u =>
            refine Task.keeps_bind (hannounce rfl) ?_
            intro g' announced hg
            cases announced <;> exact hg

/-- And for a round of a worker: that it lets the look and the logging pass, and the detection if
the watch is current. -/
theorem keeps_round_of {number : Nat} (hlook : rule.allows g .look)
    (hpost : ∀ m : Monitor η, post (rule.after g .look m))
    (hdetect : ∀ m : Monitor η, m.isCurrent id number →
      (site.reach.detect id Reach.pollTrigger).Keeps rule (fun g _ => post g)
        (rule.after g .look m))
    (hnote : ∀ g level message, post g →
      (site.reach.note level message).Keeps rule (fun g _ => post g) g) :
    (site.reach.round id number).Keeps rule (fun g _ => post g) g := by
  unfold Reach.round
  refine Task.keeps_bind (Task.keeps_look hlook) ?_
  rintro _ _ ⟨m, rfl, rfl⟩
  cases hcurrent : m.isCurrent id number with
  | false => exact hpost m
  | true =>
      refine Task.keeps_bind (hdetect m hcurrent) ?_
      intro g' outcome hg
      split
      · exact hg
      · split
        · exact hg
        · split
          · exact hg
          · split
            · exact hg
            · exact Task.keeps_bind (hnote g' _ _ hg) fun _ _ hg => hg

/-- Calling hooks keeps to a rule if calling one does, whichever of them are called. -/
theorem keeps_callHooks {t : Transition} (h : ∀ hook g, post g →
      (site.reach.callHook id t hook).Keeps rule (fun g _ => post g) g) (hooks : List η)
    (hg : post g) : (site.reach.callHooks id t hooks).Keeps rule (fun g _ => post g) g := by
  induction hooks generalizing g with
  | nil => exact hg
  | cons hook rest ih =>
      unfold Reach.callHooks
      refine Task.keeps_bind (h hook g hg) ?_
      intro g' called hg
      cases called with
      | error f => exact hg
      | ok u => exact ih hg

end Detections

-- ===================================================== what announces

/-- The call of a hook keeps aside, however it ends. -/
private theorem isAside_callHook (id : String) (t : Transition) (hook : η) :
    (site.reach.callHook id t hook).IsAside := by
  unfold Reach.callHook
  refine Task.IsAside.bind (isAside_one trivial) ?_
  intro outcome
  split
  · exact Task.IsAside.done _
  · split
    · exact Task.IsAside.done _
    · exact Task.IsAside.bind (isAside_note _ _) fun _ => Task.IsAside.done _

/-- So does an announcement. -/
theorem isAside_announce (id : String) (t : Transition) :
    (site.reach.announce id t).IsAside := by
  unfold Reach.announce
  refine Task.IsAside.bind (isAside_look _) ?_
  intro hooks
  exact keeps_callHooks (fun hook _ _ => isAside_callHook id t hook) hooks trivial

-- ===================================================== what is quiet

/-- A start is quiet: it neither commits nor stores nor calls hooks. -/
theorem isQuiet_start (id : String) : (site.reach.start id).IsQuiet := by
  unfold Reach.start
  refine Task.IsQuiet.bind (isQuiet_look _) ?_
  intro refused
  split
  · exact Task.IsQuiet.done _
  · refine Task.IsQuiet.bind (isQuiet_one trivial) ?_
    intro resolved
    split
    · exact Task.IsQuiet.done _
    · refine Task.IsQuiet.bind (isQuiet_one trivial) ?_
      intro registered
      split
      · exact Task.IsQuiet.done _
      · refine Task.IsQuiet.bind (isQuiet_one trivial) ?_
        intro launched
        split
        · exact Task.IsQuiet.done _
        · exact Task.IsQuiet.bind (isQuiet_note _ _) fun _ => Task.IsQuiet.done _

/-- So is a stop. -/
theorem isQuiet_stop (id : String) : (site.reach.stop id).IsQuiet := by
  unfold Reach.stop
  refine Task.IsQuiet.bind (isQuiet_one trivial) ?_
  intro outcome
  split
  · exact Task.IsQuiet.done _
  · exact Task.IsQuiet.bind (isQuiet_note _ _) fun _ => Task.IsQuiet.done _

/-- So is the end of all work. -/
theorem isQuiet_shutDown : (site.reach.shutDown).IsQuiet := by
  unfold Reach.shutDown
  refine Task.IsQuiet.bind (isQuiet_one trivial) ?_
  intro ids
  exact Task.IsQuiet.bind (isQuiet_note _ _) fun _ => Task.IsQuiet.done _

theorem isAside_start (id : String) : (site.reach.start id).IsAside := (isQuiet_start id).isAside

theorem isAside_stop (id : String) : (site.reach.stop id).IsAside := (isQuiet_stop id).isAside

theorem isAside_shutDown : (site.reach.shutDown).IsAside := isQuiet_shutDown.isAside

end PaneWatch.Monitor
