/-
The code of a monitor as data.

A `Task` is what is left of a call to a monitor: it is done, or it waits for the
answer to its next act, and goes on with whatever that is. The code itself is not
written a second time. It works in any monad that offers a `Reach`, and tasks are
one, so that a call can be held between any two of its acts.

A `Rule` says which acts a call may do, depending on a record that is kept of its acts
so far. `Task.Keeps` says that a task keeps to a rule whatever it is answered, and is
proved along the code: `keeps_bind` is the law for one thing after the other.
-/
import PaneWatch.Monitor.Detection

namespace PaneWatch.Monitor

open Time (Stamp)

-- ===================================================== acts

/-- Something that a call does in one step. -/
inductive Act (η : Type) where
  | look
  | register (id : String) (pid : Int)
  | deregister (id : String)
  | record (id : String) (a : Activity) (trigger : String)
  | dismiss
  | resolvePid (id : String)
  | capture (id : String)
  | probe (pid : Int)
  | launch (id : String) (number : Nat)
  | store (id : String) (a : Activity) (time : Stamp)
  /-- Comes to be alone. -/
  | enter
  /-- Is alone no longer. -/
  | leave
  | call (hook : η) (id : String) (source target : Activity)
  | note (level : LogLevel) (message : String)

/-- What an act is answered. -/
def Act.Answer {η : Type} : Act η → Type
  | look => Monitor η
  | register .. => Except Failure Nat
  | deregister .. => Except Failure Unit
  | record .. => Except Failure (Option Transition)
  | dismiss => List String
  | resolvePid .. => Except Failure Int
  | capture .. => Except Failure String
  | probe .. => Except Failure String
  | launch .. => Except Failure Unit
  | store .. => Except Failure Unit
  | enter => Unit
  | leave => Unit
  | call .. => Except Failure Unit
  | note .. => Unit

/-- What is left of a call. -/
inductive Task (η α : Type) where
  | done (a : α)
  | act (x : Act η) (next : x.Answer → Task η α)

namespace Task

variable {η α β : Type}

/-- One task after another. -/
def bind (t : Task η α) (f : α → Task η β) : Task η β :=
  match t with
  | done a => f a
  | act x next => act x fun y => (next y).bind f

instance : Monad (Task η) where
  pure := done
  bind := bind

/-- The task of one act. -/
def one (x : Act η) : Task η x.Answer := act x done

end Task

/-- What a monitor has been given that does not change. -/
structure Site (η : Type) where
  /-- Whether there is anything to store to. -/
  isStored : Bool
  hookName : η → String

/-- What tasks see of the world. -/
def Site.reach {η : Type} (site : Site η) : Reach (Task η) η where
  look f := .act .look fun m => .done (f m)
  register id pid := .one (.register id pid)
  deregister id := .one (.deregister id)
  record id a trigger := .one (.record id a trigger)
  dismiss := .one .dismiss
  resolvePid id := .one (.resolvePid id)
  capture id := .one (.capture id)
  probe pid := .one (.probe pid)
  launch id number := .one (.launch id number)
  store id a time := .one (.store id a time)
  isStored := site.isStored
  alone t := do
    let () ← .one .enter
    let outcome ← t
    let () ← .one .leave
    return outcome
  call hook id source target := .one (.call hook id source target)
  hookName := site.hookName
  note level message := .one (.note level message)

-- ===================================================== rules

/-- A rule for acts, and a record of acts by which it goes. -/
structure Rule (η γ : Type) where
  allows : γ → Act η → Prop
  after : γ → (x : Act η) → x.Answer → γ
  /-- What the record may be when a call is done. -/
  ends : γ → Prop := fun _ => True

namespace Task

variable {η γ α β : Type}

/-- That a task keeps to a rule, whatever it is answered, and that something holds of the
record and the result in the end. -/
def Keeps (rule : Rule η γ) (post : γ → α → Prop) : Task η α → γ → Prop
  | done a, g => post g a
  | act x next, g => rule.allows g x ∧ ∀ y, (next y).Keeps rule post (rule.after g x y)

variable {rule : Rule η γ}

/-- Two tasks keep to a rule one after the other if each of them does. -/
theorem keeps_bind {first : γ → α → Prop} {post : γ → β → Prop} {t : Task η α}
    {f : α → Task η β} {g : γ} (h : t.Keeps rule first g)
    (hf : ∀ g a, first g a → (f a).Keeps rule post g) : (t >>= f).Keeps rule post g := by
  induction t generalizing g with
  | done a => exact hf g a h
  | act x next ih =>
      obtain ⟨hallowed, hnext⟩ := h
      exact ⟨hallowed, fun y => ih y (hnext y)⟩

theorem keeps_mono {first post : γ → α → Prop} {t : Task η α} {g : γ} (h : t.Keeps rule first g)
    (hpost : ∀ g a, first g a → post g a) : t.Keeps rule post g := by
  induction t generalizing g with
  | done a => exact hpost g a h
  | act x next ih =>
      obtain ⟨hallowed, hnext⟩ := h
      exact ⟨hallowed, fun y => ih y (hnext y)⟩

/-- What keeps to a rule keeps to any other one that lets pass as much on the way. -/
theorem Keeps.transfer {δ : Type} {other : Rule η δ} {R : γ → δ → Prop} {post : γ → α → Prop}
    {t : Task η α} {g : γ} {d : δ} (h : t.Keeps rule post g)
    (hrule : ∀ g d x, R g d → rule.allows g x →
      other.allows d x ∧ ∀ y, R (rule.after g x y) (other.after d x y)) (hd : R g d) :
    t.Keeps other (fun d a => ∃ g, R g d ∧ post g a) d := by
  induction t generalizing g d with
  | done a => exact ⟨g, hd, h⟩
  | act x next ih =>
      obtain ⟨hallowed, hnext⟩ := h
      obtain ⟨hother, hafter⟩ := hrule g d x hd hallowed
      exact ⟨hother, fun y => ih y (hnext y) (hafter y)⟩

/-- Every task keeps to a rule where it lets everything pass. -/
theorem keeps_of_free {g : γ} (h : ∀ x, rule.allows g x ∧ ∀ y, rule.after g x y = g)
    (t : Task η α) : t.Keeps rule (fun g' _ => g' = g) g := by
  induction t with
  | done a => rfl
  | act x next ih =>
      obtain ⟨hallowed, hafter⟩ := h x
      refine ⟨hallowed, fun y => ?_⟩
      rw [hafter]
      exact ih y

/-- One act keeps to a rule that allows it. -/
theorem keeps_one {g : γ} {x : Act η} (h : rule.allows g x) :
    (one x).Keeps rule (fun g' y => g' = rule.after g x y) g := ⟨h, fun _ => rfl⟩

/-- A look keeps to a rule that allows it, and shows the monitor as it is then. -/
theorem keeps_look {site : Site η} {f : Monitor η → α} {g : γ} (h : rule.allows g .look) :
    (site.reach.look f).Keeps rule
      (fun g' a => ∃ m : Monitor η, g' = rule.after g .look m ∧ a = f m) g :=
  ⟨h, fun m => ⟨m, rfl, rfl⟩⟩

end Task

end PaneWatch.Monitor
