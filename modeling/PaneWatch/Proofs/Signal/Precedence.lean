/-
The precedence of the two signals.

If the output says what a process is doing, that is the answer, and the process table is not asked:
what it would say makes no difference. Only if the output is silent (`IsSilent`), because it says
nothing or because it failed in a way that was announced, does the process table tell, by the first
letter of the state (`ofProcess_eq`). If that fails too, it is the output that decides whether
nothing is known or nothing could be detected. What nobody announced is never held back, whichever
signal it comes from (`classify_precedence`).

The signals are asked in states of any type, and what is asked may depend on what was asked before.
That the process table was not asked is read off the state, which is as the output has left it.
-/
import PaneWatch.Proofs.Signal.Output
import PaneWatch.Proofs.Text.Blank
import PaneWatch.Signal

namespace PaneWatch.Signal

-- ===================================================== the process table

/-- What a process is doing, by the first letter of its state. -/
def activityOf : Char → Activity
  | 'R' => .busy
  | 'S' => .idle
  | 'D' => .waiting
  | 'Z' => .error
  | _ => .unknown

private theorem lookup_processStates (c : Char) :
    (processStates.lookup c).getD .unknown = activityOf c := by
  unfold activityOf
  split
  · rfl
  · rfl
  · rfl
  · rfl
  · next hR hS hD hZ =>
    have hnone : processStates.lookup c = none := by
      rw [List.lookup_eq_none_iff]
      simpa [processStates] using ⟨hR, hS, hD, hZ⟩
    rw [hnone, Option.getD_none]

/-- The first character that is not blank is the letter; if there is none, nothing is known. -/
theorem ofProcess_eq (code : String) :
    ofProcess code = (code.toList.find? fun c => !Text.isBlank c).elim .unknown activityOf := by
  rw [← Text.head?_strip, ofProcess, Text.trim, String.toList_ofList]
  cases Text.strip Text.isBlank code.toList with
  | nil => rfl
  | cons c rest => exact lookup_processStates c

-- ===================================================== the output

/-- That an output is no answer: it says nothing, or it could not be had for a reason that was
announced. -/
inductive IsSilent (table : List Row) : Except Failure String → Prop where
  | unknown {output : String} (h : ofOutput table output = .unknown) : IsSilent table (.ok output)
  | failed {f : Failure} (h : f.kind.isOwn) : IsSilent table (.error f)

variable {ω : Type} {table : List Row} {id : String}
  {capture probe : StateM ω (Except Failure String)} {x around : ω}

/-- An output that says something is the answer. -/
theorem run_classify_of_ne {output : String} (hcapture : capture.run x = (.ok output, around))
    (hsaid : ofOutput table output ≠ .unknown) :
    (classify table id capture probe).run x = (.ok (ofOutput table output), around) := by
  have hknown : ¬(ofOutput table output == .unknown) = true := by simpa using hsaid
  unfold classify
  rw [StateT.run_bind, hcapture]
  show StateT.run (if ofOutput table output == .unknown then _ else _) around = _
  rw [if_neg hknown]
  rfl

/-- So is a failure that nobody announced. -/
theorem run_classify_of_foreign {f : Failure} (hcapture : capture.run x = (.error f, around))
    (hforeign : ¬f.kind.isOwn) :
    (classify table id capture probe).run x = (.error f, around) := by
  unfold classify
  rw [StateT.run_bind, hcapture]
  show StateT.run (if f.kind.isOwn then _ else _) around = _
  rw [if_neg hforeign]
  rfl

/-- The failure of an output, if it failed. -/
def failure? : Except Failure String → Option Failure
  | .ok _ => none
  | .error f => some f

/-- If the output is silent, the process table tells. -/
theorem run_classify_of_silent {captured : Except Failure String}
    (hcapture : capture.run x = (captured, around)) (hsilent : IsSilent table captured) :
    (classify table id capture probe).run x
      = (ofProbe id (failure? captured) (probe.run around).1, (probe.run around).2) := by
  unfold classify
  rw [StateT.run_bind, hcapture]
  cases hsilent with
  | @unknown output h =>
      show StateT.run (if ofOutput table output == .unknown then _ else _) around = _
      rw [if_pos (by simpa using h)]
      rfl
  | @failed f h =>
      show StateT.run (if f.kind.isOwn then _ else _) around = _
      rw [if_pos h]
      rfl

private theorem not_isSilent_cases {captured : Except Failure String}
    (h : ¬IsSilent table captured) :
    (∃ output, captured = .ok output ∧ ofOutput table output ≠ .unknown)
      ∨ ∃ f, captured = .error f ∧ ¬f.kind.isOwn := by
  cases captured with
  | ok output => exact .inl ⟨output, rfl, fun hunknown => h (.unknown hunknown)⟩
  | error f => exact .inr ⟨f, rfl, fun hown => h (.failed hown)⟩

-- ===================================================== the whole

/-- For every table, and whatever the two signals are: what the output says is the answer, and so is
a failure of it that nobody announced. The process table is not asked then, and the result is the
same for every other one. If the output is silent, the process table is asked and the first letter
that it gives is the answer. If it fails too, nothing is known if there was an output, and without
one the failure holds both; a failure that nobody announced is passed on. -/
theorem classify_precedence (table : List Row) (id : String)
    (capture probe : StateM ω (Except Failure String)) (x : ω) :
    let captured := (capture.run x).1
    let around := (capture.run x).2
    let probed := (probe.run around).1
    let around' := (probe.run around).2
    let result := (classify table id capture probe).run x
    (∀ output, captured = .ok output → ofOutput table output ≠ .unknown →
        result = (.ok (ofOutput table output), around))
      ∧ (∀ f, captured = .error f → ¬f.kind.isOwn → result = (.error f, around))
      ∧ (¬IsSilent table captured →
        ∀ another, (classify table id capture another).run x = result)
      ∧ (IsSilent table captured →
        (∀ code, probed = .ok code →
            result = (.ok ((code.toList.find? fun c => !Text.isBlank c).elim .unknown activityOf),
              around'))
          ∧ (∀ g, probed = .error g → ¬g.kind.isOwn → result = (.error g, around'))
          ∧ (∀ g, probed = .error g → g.kind.isOwn →
            (∀ output, captured = .ok output → result = (.ok .unknown, around'))
              ∧ ∀ f, captured = .error f →
                result = (.error (.undetected id f g), around'))) := by
  intro captured around probed around' result
  have hcapture : capture.run x = (captured, around) := rfl
  refine ⟨?_, ?_, ?_, ?_⟩
  · intro output houtput hsaid
    rw [houtput] at hcapture
    exact run_classify_of_ne hcapture hsaid
  · intro f hf hforeign
    rw [hf] at hcapture
    exact run_classify_of_foreign hcapture hforeign
  · intro hspeaks another
    rcases not_isSilent_cases hspeaks with ⟨output, houtput, hsaid⟩ | ⟨f, hf, hforeign⟩
    · rw [houtput] at hcapture
      exact (run_classify_of_ne hcapture hsaid).trans (run_classify_of_ne hcapture hsaid).symm
    · rw [hf] at hcapture
      exact (run_classify_of_foreign hcapture hforeign).trans
        (run_classify_of_foreign hcapture hforeign).symm
  · intro hsilent
    have hresult : result = (ofProbe id (failure? captured) probed, around') :=
      run_classify_of_silent hcapture hsilent
    refine ⟨?_, ?_, ?_⟩
    · intro code hcode
      rw [hresult, hcode, ← ofProcess_eq]
      rfl
    · intro g hg hforeign
      rw [hresult, hg]
      simp [ofProbe, hforeign]
    · intro g hg hown
      rw [hresult, hg]
      constructor
      · intro output houtput
        rw [houtput]
        simp [ofProbe, failure?, hown]
      · intro f hf
        rw [hf]
        simp [ofProbe, failure?, hown]

/-- A signal that notes that it was asked. -/
def noted (name : String) (answer : Except Failure String) :
    StateM (List String) (Except Failure String) :=
  fun asked => (answer, asked ++ [name])

/-- A prompt tells alone; without one the process tells, here that it sleeps. If neither can be had
the failure holds both, and a failure of the system passes through. -/
theorem classify_precedence_noted :
    let run (capture probe : Except Failure String) :=
      (classify defaultTable "a" (noted "pane" capture) (noted "process" probe)).run []
    let noPid : Failure := .command (.noProcess 10)
    let broken : Failure := .told .system "broken"
    ofOutput defaultTable "claude>" ≠ .unknown
      ∧ run (.ok "claude>") (.error broken) = (.ok .idle, ["pane"])
      ∧ run (.error (.noPanes "a")) (.ok " S+") = (.ok .idle, ["pane", "process"])
      ∧ run (.error (.noPanes "a")) (.error noPid)
        = (.error (.undetected "a" (.noPanes "a") noPid), ["pane", "process"])
      ∧ run (.error (.noPanes "a")) (.error broken) = (.error broken, ["pane", "process"]) := by
  intro run noPid broken
  have hprompt : ofOutput defaultTable "claude>" = .idle := by
    rw [ofOutput, recent_eq (.inl ⟨by decide, rfl⟩)]
    decide +kernel
  have hsilent : IsSilent defaultTable (.error (.noPanes "a")) := .failed rfl
  have hsaid : ofOutput defaultTable "claude>" ≠ .unknown := by simp [hprompt]
  refine ⟨hsaid, ?_, ?_, ?_, ?_⟩
  · obtain ⟨htells, -⟩ := classify_precedence defaultTable "a" (noted "pane" (.ok "claude>"))
      (noted "process" (.error broken)) []
    have h := htells "claude>" rfl hsaid
    rwa [hprompt] at h
  · obtain ⟨-, -, -, hprocess⟩ := classify_precedence defaultTable "a"
      (noted "pane" (.error (.noPanes "a"))) (noted "process" (.ok " S+")) []
    exact (hprocess hsilent).1 " S+" rfl
  · obtain ⟨-, -, -, hprocess⟩ := classify_precedence defaultTable "a"
      (noted "pane" (.error (.noPanes "a"))) (noted "process" (.error noPid)) []
    exact ((hprocess hsilent).2.2 noPid rfl rfl).2 (.noPanes "a") rfl
  · obtain ⟨-, -, -, hprocess⟩ := classify_precedence defaultTable "a"
      (noted "pane" (.error (.noPanes "a"))) (noted "process" (.error broken)) []
    exact (hprocess hsilent).2.1 broken rfl (by decide)

end PaneWatch.Signal
