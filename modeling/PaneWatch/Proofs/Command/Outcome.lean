/-
What questions come to that are asked by external commands.

The commands that a question has run are kept with the responses to them (`noting`), so that an
answer can be held against all of them. A question is answered exactly if its commands, and it has
run no others, ended with status zero and wrote what it asks for: `Lists`, `Captures`, `Resolves`
and `Reads` say what that is for each question. In any other case it fails, and as a command does
(`Answers`). Only the question for a session takes a status of one for an answer too (`Finds`).

Every question begins with one command (`AsksOne`). What the answer to that is checked for runs
nothing more (`AsksOne.check`), and what is asked next begins behind it (`AsksOne.bind`).
-/
import PaneWatch.Command.Process
import PaneWatch.Command.Tmux

namespace PaneWatch

open Number (Amount)

namespace Command

variable {ω α β : Type}

-- ===================================================== commands that were run

/-- A command that was run, and the response to it. -/
structure Exchange where
  command : Command
  response : Response
  deriving DecidableEq, Repr

/-- Runs commands and keeps them. -/
def noting (run : Command → StateM ω Response) (c : Command) :
    StateM (ω × List Exchange) Response := fun (x, before) =>
  let (response, x') := (run c).run x
  (response, (x', before ++ [⟨c, response⟩]))

/-- That a command ended with status zero and an output. -/
def Response.Gives (r : Response) (output : String) : Prop :=
  ∃ kept errors, r = .done 0 kept errors ∧ written kept = output

/-- That a failure comes from an external command: it failed, or it listed no panes. -/
def IsExternal (f : Failure) : Prop := f.kind = .command ∨ f.kind = .noPanes

/-- That a question fails as commands do, and is answered exactly as is said of the commands that it
has run. -/
def Answers (question : StateM (ω × List Exchange) (Except Failure α))
    (means : List Exchange → α → Prop) : Prop :=
  ∀ x before, ∃ ran, (question.run (x, before)).2.2 = before ++ ran
    ∧ (∀ f, (question.run (x, before)).1 = .error f → IsExternal f)
    ∧ ∀ a, (question.run (x, before)).1 = .ok a ↔ means ran a

/-- A question answers what is the same as what it answers. -/
theorem Answers.congr {question : StateM (ω × List Exchange) (Except Failure α)}
    {means means' : List Exchange → α → Prop} (h : Answers question means)
    (hiff : ∀ ran a, means ran a ↔ means' ran a) : Answers question means' := by
  intro x before
  obtain ⟨ran, hran, hfails, htells⟩ := h x before
  exact ⟨ran, hran, hfails, fun a => (htells a).trans (hiff ran a)⟩

-- ===================================================== one command after the other

/-- That a question runs exactly one command, and is answered exactly as is said of that. -/
def AsksOne (question : StateM (ω × List Exchange) (Except Failure α))
    (means : Exchange → α → Prop) : Prop :=
  ∀ x before, ∃ e, (question.run (x, before)).2.2 = before ++ [e]
    ∧ (∀ f, (question.run (x, before)).1 = .error f → IsExternal f)
    ∧ ∀ a, (question.run (x, before)).1 = .ok a ↔ means e a

/-- One command whose response is read is one question, if the reading fails only in ways that
come from outside. -/
private theorem asksOne_map (run : Command → StateM ω Response) (c : Command)
    (read : Response → Except Failure α) (hread : ∀ r f, read r = .error f → IsExternal f) :
    AsksOne (read <$> noting run c) fun e a => e.command = c ∧ read e.response = .ok a := by
  intro x before
  refine ⟨⟨c, ((run c).run x).1⟩, rfl, hread _, fun a => ?_⟩
  exact (and_iff_right rfl).symm

theorem AsksOne.congr {question : StateM (ω × List Exchange) (Except Failure α)}
    {means means' : Exchange → α → Prop} (h : AsksOne question means)
    (hiff : ∀ e a, means e a ↔ means' e a) : AsksOne question means' := by
  intro x before
  obtain ⟨e, hran, hfails, htells⟩ := h x before
  exact ⟨e, hran, hfails, fun a => (htells a).trans (hiff e a)⟩

/-- A question of one command answers what its only exchange means. -/
theorem AsksOne.answers {question : StateM (ω × List Exchange) (Except Failure α)}
    {means : Exchange → α → Prop} (h : AsksOne question means) :
    Answers question fun ran a => ∃ e, ran = [e] ∧ means e a := by
  intro x before
  obtain ⟨e, hran, hfails, htells⟩ := h x before
  exact ⟨[e], hran, hfails, fun a => by simp [htells]⟩

section

variable {question : ExceptT Failure (StateM (ω × List Exchange)) α}
  {means : Exchange → α → Prop}

/-- What comes second is run in the state that the first has left, unless that has failed. -/
theorem run_bind_except (next : α → ExceptT Failure (StateM (ω × List Exchange)) β)
    (s : ω × List Exchange) : (question >>= next).run.run s
      = (ExceptT.bindCont next (question.run.run s).1).run (question.run.run s).2 := rfl

/-- What is made of an answer runs no command. -/
theorem AsksOne.check (h : AsksOne question.run means) (read : α → Except Failure β)
    (hread : ∀ a f, read a = .error f → IsExternal f) :
    AsksOne (question >>= fun a => ExceptT.mk (pure (read a))).run
      fun e b => ∃ a, means e a ∧ read a = .ok b := by
  intro x before
  obtain ⟨e, hran, hfails, htells⟩ := h x before
  rw [run_bind_except]
  cases houtcome : (question.run.run (x, before)).1 with
  | error f =>
      refine ⟨e, hran, ?_, ?_⟩
      · rintro g ⟨⟩
        exact hfails f houtcome
      · intro b
        refine iff_of_false nofun ?_
        rintro ⟨a, ha, -⟩
        rw [(htells a).2 ha] at houtcome
        cases houtcome
  | ok a =>
      refine ⟨e, hran, hread a, ?_⟩
      intro b
      constructor
      · intro hb
        exact ⟨a, (htells a).1 houtcome, hb⟩
      · rintro ⟨a', ha', hb⟩
        rw [(htells a').2 ha'] at houtcome
        cases houtcome
        exact hb

/-- The next question runs its commands behind the one that was run. -/
theorem AsksOne.bind {next : α → ExceptT Failure (StateM (ω × List Exchange)) β}
    {means' : α → Exchange → β → Prop} (h : AsksOne question.run means)
    (hnext : ∀ a, AsksOne (next a).run (means' a)) :
    Answers (question >>= next).run
      fun ran b => ∃ first second a, ran = [first, second] ∧ means first a ∧ means' a second b := by
  intro x before
  obtain ⟨e, hran, hfails, htells⟩ := h x before
  rw [run_bind_except]
  cases houtcome : (question.run.run (x, before)).1 with
  | error f =>
      refine ⟨[e], hran, ?_, ?_⟩
      · rintro g ⟨⟩
        exact hfails f houtcome
      · intro b
        refine iff_of_false nofun ?_
        rintro ⟨first, second, a, hlist, -⟩
        cases hlist
  | ok a =>
      rcases hafter : (question.run.run (x, before)).2 with ⟨x', after⟩
      rw [hafter] at hran
      obtain ⟨e', hran', hfails', htells'⟩ := hnext a x' after
      refine ⟨[e, e'], ?_, hfails', ?_⟩
      · exact hran'.trans (by rw [show after = _ from hran]; simp)
      · intro b
        refine (htells' b).trans ?_
        constructor
        · intro hb
          exact ⟨e, e', a, rfl, (htells a).1 houtcome, hb⟩
        · rintro ⟨first, second, a', hlist, ha', hb⟩
          cases hlist
          rw [(htells a').2 ha'] at houtcome
          cases houtcome
          exact hb

end

end Command

open Command

variable {ω : Type}

-- ===================================================== responses of tmux

namespace Tmux

/-- An output is taken exactly of a command that has ended well, and a null one is empty. -/
private theorem outputOf_eq_ok {action output : String} {r : Response} :
    outputOf action r = .ok output ↔ r.Gives output := by
  unfold outputOf Response.Gives
  cases r with
  | done status kept errors =>
      by_cases hstatus : status = 0
      · simp [parts, hstatus]
      · simp [parts, hstatus]
  | timedOut => simp [parts, timedOutStatus]
  | missing => simp [parts, missingStatus]

/-- That no output is taken is the failure of a command. -/
private theorem kind_of_outputOf {action : String} {r : Response} {f : Failure}
    (h : outputOf action r = .error f) : f.kind = .command := by
  rcases hparts : parts r with ⟨status, output, errors⟩
  simp only [outputOf, hparts] at h
  split at h
  · cases h
  · rw [← Except.error.inj h]
    rfl

/-- The number of a process is the integer that an output spells. -/
private theorem pidOf_eq_ok {output : String} {pid : Int} :
    pidOf output = .ok pid ↔ Number.readInt? (Text.trim output) = some pid := by
  unfold pidOf
  cases hread : Number.readInt? (Text.trim output) with
  | none => simp [hread]
  | some n => simp [hread]

private theorem kind_of_pidOf {output : String} {f : Failure} (h : pidOf output = .error f) :
    f.kind = .command := by
  unfold pidOf at h
  cases hread : Number.readInt? (Text.trim output) with
  | none =>
      simp only [hread, Option.elim_none] at h
      rw [← Except.error.inj h]
      rfl
  | some pid =>
      simp only [hread, Option.elim_some] at h
      cases h

/-- The status by which tmux tells whether there is a session. -/
def existenceStatus : Bool → Int
  | true => 0
  | false => 1

/-- A session is there or not by the status that a command has ended with, whatever it has
written. -/
private theorem existence_eq_ok {r : Response} {found : Bool} :
    existence r = .ok found ↔ ∃ output errors, r = .done (existenceStatus found) output errors := by
  unfold existence
  cases r with
  | done status output errors =>
      by_cases hzero : status = 0
      · cases found <;> simp [parts, existenceStatus, hzero]
      · by_cases hone : status = 1
        · cases found <;> simp [parts, existenceStatus, hone]
        · cases found <;> simp [parts, existenceStatus, hzero, hone]
  | timedOut => simp [parts, timedOutStatus]
  | missing => simp [parts, missingStatus]

private theorem kind_of_existence {r : Response} {f : Failure} (h : existence r = .error f) :
    f.kind = .command := by
  rcases hparts : parts r with ⟨status, output, errors⟩
  simp only [existence, hparts] at h
  split at h
  · cases h
  · split at h
    · cases h
    · rw [← Except.error.inj h]
      rfl

-- ===================================================== questions to tmux

variable (t : Tmux) (id : String)

/-- The command that lists the panes of a session. -/
def listing : Command :=
  ⟨[t.executable, "list-panes", "-t", id, "-F", "#\x7bpane_id\x7d"], t.timeout⟩

/-- The command that shows the content of a pane. -/
def showing (pane : String) : Command :=
  ⟨[t.executable, "capture-pane", "-t", id ++ ":" ++ pane, "-p"], t.timeout⟩

/-- The command that shows the number of the process in a pane. -/
def numbering (pane : String) : Command :=
  ⟨[t.executable, "display-message", "-t", id ++ ":" ++ pane, "-p", "#\x7bpane_pid\x7d"], t.timeout⟩

/-- The command that looks for a session. -/
def finding : Command := ⟨[t.executable, "has-session", "-t", id], t.timeout⟩

/-- That a command gave an output. -/
def Gave (c : Command) (e : Exchange) (output : String) : Prop :=
  e.command = c ∧ e.response.Gives output

/-- That a listing gave panes. -/
def Listed (e : Exchange) (panes : List String) : Prop :=
  ∃ output, Gave (t.listing id) e output ∧ panes = lines output

/-- That a question for the panes was answered by the listing. -/
def Lists (ran : List Exchange) (panes : List String) : Prop :=
  ∃ listed, ran = [listed] ∧ t.Listed id listed panes

/-- That a question for the content was answered: there was a first pane, and its content was
shown. -/
def Captures (ran : List Exchange) (content : String) : Prop :=
  ∃ listed shown pane rest, ran = [listed, shown] ∧ t.Listed id listed (pane :: rest)
    ∧ Gave (t.showing id pane) shown content

/-- That a question for the process was answered: there was a first pane, and what was shown for it
is an integer. -/
def Resolves (ran : List Exchange) (pid : Int) : Prop :=
  ∃ listed numbered pane rest output, ran = [listed, numbered] ∧ t.Listed id listed (pane :: rest)
    ∧ Gave (t.numbering id pane) numbered output ∧ Number.readInt? (Text.trim output) = some pid

/-- That a question for a session was answered by a status. -/
def Finds (ran : List Exchange) (found : Bool) : Prop :=
  ∃ output errors, ran = [⟨t.finding id, .done (existenceStatus found) output errors⟩]

variable (run : Command → StateM ω Response)

private theorem asksOne_ask (action : String) (arguments : List String) :
    AsksOne (t.ask (noting run) action arguments).run
      (Gave ⟨t.executable :: arguments, t.timeout⟩) :=
  (asksOne_map run _ (outputOf action) fun _ _ h => .inl (kind_of_outputOf h)).congr
    fun _ _ => and_congr_right fun _ => outputOf_eq_ok

/-- Listing the panes is one question. -/
private theorem asksOne_panes : AsksOne (t.panes (noting run) id).run (t.Listed id) :=
  ((asksOne_ask t run "list panes" ["list-panes", "-t", id, "-F", "#\x7bpane_id\x7d"]).check
    (fun output => .ok (lines output)) nofun).congr fun _ panes => by
      simp [Listed, listing, eq_comm]

/-- The first pane, if there is one. -/
def firstOf (id : String) : List String → Except Failure String
  | [] => .error (.noPanes id)
  | pane :: _ => .ok pane

/-- The first pane is the first one of the list. -/
theorem firstPane_eq : t.firstPane (noting run) id
    = t.panes (noting run) id >>= fun panes => ExceptT.mk (pure (firstOf id panes)) := by
  unfold firstPane
  congr
  funext panes
  cases panes with
  | nil => rfl
  | cons pane rest => rfl

/-- It takes no other question to find the first pane. -/
private theorem asksOne_firstPane : AsksOne (t.firstPane (noting run) id).run
    fun e pane => ∃ rest, t.Listed id e (pane :: rest) := by
  rw [firstPane_eq]
  refine ((asksOne_panes t id run).check (firstOf id) ?_).congr ?_
  · intro panes f hf
    cases panes with
    | nil =>
        cases hf
        exact .inr rfl
    | cons pane rest => cases hf
  · intro e pane
    constructor
    · rintro ⟨panes, hlisted, hfirst⟩
      cases panes with
      | nil => cases hfirst
      | cons head rest =>
          cases hfirst
          exact ⟨rest, hlisted⟩
    · rintro ⟨rest, hlisted⟩
      exact ⟨pane :: rest, hlisted, rfl⟩

/-- Listing panes answers the list, or how the command has failed. -/
theorem answers_panes : Answers (t.panes (noting run) id).run (t.Lists id) :=
  (asksOne_panes t id run).answers

/-- Capturing a pane answers its output by way of two commands, the second of which is about the
first pane. -/
theorem answers_capture : Answers (t.capture (noting run) id).run (t.Captures id) := by
  have h := (asksOne_firstPane t id run).bind fun pane =>
    asksOne_ask t run "capture pane" ["capture-pane", "-t", id ++ ":" ++ pane, "-p"]
  refine h.congr fun ran content => ?_
  constructor
  · rintro ⟨listed, shown, pane, hran, ⟨rest, hlisted⟩, hshown⟩
    exact ⟨listed, shown, pane, rest, hran, hlisted, hshown⟩
  · rintro ⟨listed, shown, pane, rest, hran, hlisted, hshown⟩
    exact ⟨listed, shown, pane, hran, ⟨rest, hlisted⟩, hshown⟩

/-- Resolving a process answers the number that is written for the first pane. -/
theorem answers_resolvePid : Answers (t.resolvePid (noting run) id).run (t.Resolves id) := by
  have h := (asksOne_firstPane t id run).bind fun pane =>
    (asksOne_ask t run "get pane PID" ["display-message", "-t", id ++ ":" ++ pane, "-p",
      "#\x7bpane_pid\x7d"]).check pidOf fun _ _ hf => .inl (kind_of_pidOf hf)
  refine h.congr fun ran pid => ?_
  constructor
  · rintro ⟨listed, numbered, pane, hran, ⟨rest, hlisted⟩, output, hnumbered, hpid⟩
    exact ⟨listed, numbered, pane, rest, output, hran, hlisted, hnumbered, pidOf_eq_ok.1 hpid⟩
  · rintro ⟨listed, numbered, pane, rest, output, hran, hlisted, hnumbered, hpid⟩
    exact ⟨listed, numbered, pane, hran, ⟨rest, hlisted⟩, output, hnumbered, pidOf_eq_ok.2 hpid⟩

/-- Asking for a session answers whether it exists. -/
theorem answers_hasSession : Answers (t.hasSession (noting run) id).run (t.Finds id) := by
  have h := asksOne_map run (t.finding id) existence fun _ _ hf => .inl (kind_of_existence hf)
  refine h.answers.congr fun ran found => ?_
  constructor
  · rintro ⟨⟨c, r⟩, hran, rfl, hfound⟩
    obtain ⟨output, errors, rfl⟩ := existence_eq_ok.1 hfound
    exact ⟨output, errors, hran⟩
  · rintro ⟨output, errors, hran⟩
    exact ⟨_, hran, rfl, existence_eq_ok.2 ⟨output, errors, rfl⟩⟩

end Tmux

-- ===================================================== the process table

namespace Process

/-- The state of a process is what stands in the output, blanks apart, if that is not nothing. -/
private theorem stateOf_eq_ok {pid : Int} {r : Response} {state : String} :
    stateOf pid r = .ok state
      ↔ ∃ output, r.Gives output ∧ Text.trim output = state ∧ state ≠ "" := by
  unfold Response.Gives
  cases r with
  | timedOut => simp [stateOf]
  | missing => simp [stateOf]
  | done status kept errors =>
      by_cases hstatus : status = 0
      · by_cases hblank : Text.trim (written kept) = ""
        · simp [stateOf, hstatus, hblank]
        · have hsaid (h : Text.trim (written kept) = state) : state ≠ "" := h ▸ hblank
          simpa [stateOf, hstatus, hblank] using hsaid
      · simp [stateOf, hstatus]

private theorem kind_of_stateOf {pid : Int} {r : Response} {f : Failure}
    (h : stateOf pid r = .error f) :
    f.kind = .command := by
  cases r with
  | timedOut =>
      cases h
      rfl
  | missing =>
      cases h
      rfl
  | done status output errors =>
      unfold stateOf at h
      dsimp only at h
      split at h
      · cases h
        rfl
      · cases h

/-- That a question for the state of a process was answered: a process can have the number, and a
state was shown for it. -/
def Reads (pid : Int) (timeout : Amount) (ran : List Exchange) (state : String) : Prop :=
  0 < pid ∧ ∃ response output, ran = [⟨stateCommand pid timeout, response⟩]
    ∧ response.Gives output ∧ Text.trim output = state ∧ state ≠ ""

/-- A number that cannot be written out is in no command. -/
theorem run_readState_of_not_hasText {run : Command → StateM ω Response} {pid : Int}
    (htext : Number.hasText pid = false) (timeout : Amount) (x : ω × List Exchange) :
    (readState (noting run) pid timeout).run x = (.error (.accident .noSuchValue), x) := by
  unfold readState
  rw [htext]
  rfl

/-- Reading the state of a process is one question, if its number has a text. -/
theorem answers_readState (run : Command → StateM ω Response) {pid : Int}
    (htext : Number.hasText pid) (timeout : Amount) :
    Answers (readState (noting run) pid timeout) (Reads pid timeout) := by
  have hwritable : ¬(!Number.hasText pid) = true := by simp [htext]
  unfold readState
  rw [if_neg hwritable]
  split
  · next hnone =>
    intro x before
    refine ⟨[], (List.append_nil before).symm, ?_, ?_⟩
    · rintro f ⟨⟩
      exact .inl rfl
    · intro state
      refine iff_of_false nofun ?_
      rintro ⟨hsome, -⟩
      omega
  · next hsome =>
    have h := asksOne_map run (stateCommand pid timeout) (stateOf pid)
      fun _ _ hf => .inl (kind_of_stateOf hf)
    refine h.answers.congr fun ran state => ?_
    constructor
    · rintro ⟨⟨c, r⟩, hran, rfl, hstate⟩
      obtain ⟨output, hgives, hread⟩ := stateOf_eq_ok.1 hstate
      exact ⟨Int.not_le.1 hsome, r, output, hran, hgives, hread⟩
    · rintro ⟨-, r, output, hran, hgives, hread⟩
      exact ⟨_, hran, rfl, stateOf_eq_ok.2 ⟨output, hgives, hread⟩⟩

end Process

end PaneWatch
