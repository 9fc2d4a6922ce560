/-
What handlers make of failures.

The failures that the program announces are made of texts, so their messages can always be
made. What a handler of everything does not hold up is the order to end the program, and a failure
from outside of which no message can be made.
-/
import PaneWatch.Failure

namespace PaneWatch

/-- An outcome that has a value is that value. -/
theorem toOption_eq_some {ε α : Type} {r : Except ε α} {a : α} (h : r.toOption = some a) :
    r = .ok a := by
  cases r with
  | error e => cases h
  | ok b => exact congrArg _ (Option.some.inj h)

namespace Failure

/-- Whether a handler of everything that logs the message of a failure holds it up. -/
def isHeld (f : Failure) : Bool := f.held.isOk

/-- What is held up is held up with its message. -/
theorem held_of_isHeld {f : Failure} (h : f.isHeld) : f.held = .ok f.message := by
  unfold isHeld held at *
  split at h
  · cases h
  · next hexit =>
    rw [if_neg hexit]
    cases f with
    | mute what => cases h
    | _ => rfl

/-- A failure that is not held up leaves as some failure. -/
theorem exists_held_of_not_isHeld {f : Failure} (h : f.isHeld = false) :
    ∃ left, f.held = .error left := by
  unfold isHeld at h
  cases hheld : f.held with
  | error left => exact ⟨left, rfl⟩
  | ok text =>
      rw [hheld] at h
      cases h

/-- A failure that gets through the handler is the order to end the program, or what came of
making the message of another one. -/
theorem held_error_cases {f left : Failure} (h : f.held = .error left) :
    left.kind.isOwn = false ∧ (f.kind = .exit ↔ left.kind = .exit) := by
  unfold held at h
  split at h
  · next hexit =>
    cases h
    have hkind : f.kind = .exit := eq_of_beq hexit
    exact ⟨by rw [hkind]; rfl, Iff.rfl⟩
  · next hstays =>
    cases f with
    | mute what =>
        cases h
        exact ⟨rfl, by simp [kind]⟩
    | _ => cases h

/-- The message of a failure that the program announces can be made. -/
theorem text_of_isOwn {f : Failure} (h : f.kind.isOwn) : f.text = .ok f.message := by
  cases f with
  | mute what => cases h
  | _ => rfl

end Failure

end PaneWatch
