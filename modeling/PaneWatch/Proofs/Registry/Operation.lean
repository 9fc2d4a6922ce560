/-
The operations on a registry, and runs of them.

What an operation is going to do depends on the registry and the clock alone:
`plan` says whether it is refused, has nothing to write, or makes some registry
and writes it. The disk comes in only afterwards. `run_planned` is the law of all
operations, one case for each, and every later fact about operations is read off
its cases (`run_cases`) instead of off their code.

In a run anything may happen to the machine between two operations: its clock
moves, other programs change its files, faults come and go. A run therefore
lists a machine with each operation, and what holds of all runs holds whatever
the surroundings do.
-/
import PaneWatch.Proofs.Failure
import PaneWatch.Proofs.Registry.Action

namespace PaneWatch.Registry

open Session (Record)
open Time (Stamp Span)
open Registry.Action

-- ===================================================== answers

/-- Whether an answer counts: it is one, or a failure that is held up. -/
def counts : Except Failure Bool → Bool
  | .ok _ => true
  | .error f => f.isHeld

/-- What an answer says that counts. -/
def saysGone : Except Failure Bool → Bool
  | .ok present => !present
  | .error _ => true

/-- An answer that counts says whether the session is gone. -/
theorem isGone_of_counts {x : Except Failure Bool} (h : counts x) :
    Reach.isGone x = .ok (saysGone x) := by
  cases x with
  | ok present => rfl
  | error f => rw [Reach.isGone, Failure.held_of_isHeld h]; rfl

/-- An answer that does not count is a failure of the clean-up. -/
theorem exists_isGone_error {x : Except Failure Bool} (h : counts x = false) :
    ∃ f, Reach.isGone x = .error f := by
  cases x with
  | ok present => cases h
  | error f =>
      obtain ⟨left, hleft⟩ := Failure.exists_held_of_not_isHeld h
      exact ⟨left, by rw [Reach.isGone, hleft]; rfl⟩

/-- What gets through with an answer is no failure that the program announces. -/
theorem isOwn_of_isGone {x : Except Failure Bool} {f : Failure} (h : Reach.isGone x = .error f) :
    f.kind.isOwn = false := by
  cases x with
  | ok present => cases h
  | error g =>
      cases hheld : g.held with
      | error left =>
          rw [Reach.isGone, hheld] at h
          cases h
          exact (Failure.held_error_cases hheld).1
      | ok text =>
          rw [Reach.isGone, hheld] at h
          cases h

-- ===================================================== operations

/-- An operation that writes the registry, or may have to. -/
inductive Operation where
  | add (s : Record)
  | update (key : String) (updates : List (String × Value))
  | remove (key : String)
  /-- With the answers that panes give about sessions, if there are panes to ask. -/
  | cleanUp (age : Span) (panes : Option (String → Except Failure Bool))
  | save

/-- How an operation ends that does not fail. -/
inductive Ending where
  /-- There was nothing to write. -/
  | quiet
  | wrote
  deriving DecidableEq

namespace Operation

/-- What a registry that stands on a desk of its own sees of the world. -/
def reach (panes : Option (String → Except Failure Bool)) : Reach (StateM Desk) where
  act action := action.run
  now := modifyGet fun d => (d.machine.now, d)
  hasPanes := panes.map fun answer key => return answer key

/-- The code of an operation. -/
def action : Operation → Action Ending
  | add s => do
    Registry.add s
    return .wrote
  | update key updates => do
    Registry.update key updates
    return .wrote
  | remove key => do
    Registry.remove key
    return .wrote
  | cleanUp age panes => do
    let removed ← ExceptT.mk ((reach panes).cleanUp age)
    return if removed = 0 then .quiet else .wrote
  | save => do
    Registry.save
    return .wrote

/-- What an operation gives and what it leaves of a desk. -/
def run (op : Operation) (d : Desk) : Except Failure Ending × Desk := op.action.on d

-- ===================================================== plans

/-- Those of some sessions whose panes are gone, unless a failure gets through. -/
def gone (answer : String → Except Failure Bool) : List String → Except Failure (List String)
  | [] => .ok []
  | key :: rest =>
    match Reach.isGone (answer key) with
    | .error f => .error f
    | .ok isGone => (gone answer rest).map fun others => if isGone then key :: others else others

/-- Where all answers count, those are gone of which an answer says so. -/
theorem gone_of_counts {answer : String → Except Failure Bool} {keys : List String}
    (h : ∀ key ∈ keys, counts (answer key)) :
    gone answer keys = .ok (keys.filter fun key => saysGone (answer key)) := by
  induction keys with
  | nil => rfl
  | cons key keys ih =>
      rw [List.forall_mem_cons] at h
      rw [gone, isGone_of_counts h.1, ih h.2, List.filter_cons]
      rfl

/-- What gets through with one of some answers is none either. -/
theorem isOwn_of_gone {answer : String → Except Failure Bool} {keys : List String} {f : Failure}
    (h : gone answer keys = .error f) : f.kind.isOwn = false := by
  induction keys with
  | nil => cases h
  | cons key keys ih =>
      rw [gone] at h
      cases hgone : Reach.isGone (answer key) with
      | error left =>
          rw [hgone] at h
          cases h
          exact isOwn_of_isGone hgone
      | ok isGone =>
          rw [hgone] at h
          cases hrest : gone answer keys with
          | error f' =>
              rw [hrest] at h
              cases h
              exact ih hrest
          | ok others =>
              rw [hrest] at h
              cases h

/-- The registry that an operation makes and writes, none if it has nothing to write, or
why it is refused. -/
def plan (now : Stamp) (r : Registry) : Operation → Except Failure (Option Registry)
  | add s =>
    if s.id.isEmpty then .error .emptyId
    else if !s.isWritable then .error (.unwritableSession s.id)
    else .ok (some (r.insert s.id s))
  | update key updates =>
    match Change.readAll updates, r.find? key with
    | .error f, _ => .error f
    | .ok _, none => .error (.unknownSession key)
    | .ok changes, some old =>
      let s := changes.foldl Change.apply old
      if !s.isWritable then .error (.unwritableSession s.id) else .ok (some (r.insert key s))
  | remove key =>
    match r.find? key with
    | none => .error (.unknownSession key)
    | some _ => .ok (some (r.erase key))
  | cleanUp _ none => .error .noBackend
  | cleanUp age (some answer) =>
    let limit := cutoff now age.micros
    match gone answer (r.candidates limit) with
    | .error f => .error f
    | .ok keys =>
      let (r', removed) := r.removeStale limit keys
      .ok (if removed = 0 then none else some r')
  | save => .ok (some r)

/-- The registry after an operation. -/
def effect (now : Stamp) (r : Registry) (op : Operation) : Registry :=
  match op.plan now r with
  | .ok (some r') => r'
  | _ => r

/-- An operation keeps to the file of its registry. -/
theorem plan_path {now : Stamp} {r r' : Registry} {op : Operation}
    (h : op.plan now r = .ok (some r')) : r'.path = r.path := by
  cases op with
  | add s =>
      simp only [plan] at h
      split at h
      · cases h
      · split at h
        · cases h
        · cases h
          rfl
  | update key updates =>
      simp only [plan] at h
      split at h
      · cases h
      · cases h
      · split at h
        · cases h
        · cases h
          rfl
  | remove key =>
      simp only [plan] at h
      split at h
      · cases h
      · cases h
        rfl
  | cleanUp age panes =>
      cases panes with
      | none => cases h
      | some answer =>
          simp only [plan] at h
          split at h
          · cases h
          · simp only [Except.ok.injEq] at h
            split at h
            · cases h
            · cases h
              rfl
  | save =>
      cases h
      rfl

/-- No operation changes where the sessions are kept. -/
theorem effect_path (now : Stamp) (r : Registry) (op : Operation) :
    (op.effect now r).path = r.path := by
  unfold effect
  split
  · next h => exact plan_path h
  · rfl

-- ===================================================== the law of each operation

/-- That an operation ends as planned. -/
def Planned (d : Desk) : Except Failure (Option Registry) → Except Failure Ending × Desk → Prop
  | .error f, done => done = (.error f, d)
  | .ok none, done => done = (.ok .quiet, d)
  | .ok (some r), done => Saves d r done ∧ done.1 ≠ .ok .quiet

/-- An action that makes a registry and writes it ends its operation by having written. -/
theorem planned_of_saves {α : Type} {d : Desk} {r : Registry} {act : Action α} {f : α → Ending}
    (h : Saves d r (act.on d)) (hf : ∀ a, (act.on d).1 = .ok a → f a = .wrote) :
    Planned d (.ok (some r)) ((do let a ← act; return f a : Action Ending).on d) := by
  refine ⟨h.bind fun a => onlyLogs_pure (f a), ?_⟩
  intro hquiet
  obtain ⟨a, d', hact, hend⟩ := exists_of_on_bind_ok hquiet
  rw [hf a (by rw [hact])] at hend
  cases hend

private theorem planned_of_throws {d : Desk} {f : Failure} {act : Action Unit}
    (h : act.on d = (.error f, d)) :
    Planned d (.error f) ((do act; return Ending.wrote : Action Ending).on d) := by
  show _ = _
  rw [on_bind, h]

/-- Adding does what is planned. -/
private theorem planned_add (s : Record) (d : Desk) :
    Planned d ((add s).plan d.machine.now d.registry) ((add s).run d) := by
  cases hid : s.id.isEmpty with
  | true =>
      have hplan : (add s).plan d.machine.now d.registry = .error .emptyId := by simp [plan, hid]
      rw [hplan]
      exact planned_of_throws (by simp [Registry.add, hid])
  | false =>
      cases hwritable : s.isWritable with
      | false =>
          have hplan : (add s).plan d.machine.now d.registry
              = .error (.unwritableSession s.id) := by simp [plan, hid, hwritable]
          rw [hplan]
          exact planned_of_throws (by simp [Registry.add, hid, hwritable])
      | true =>
          have hplan : (add s).plan d.machine.now d.registry
              = .ok (some (d.registry.insert s.id s)) := by simp [plan, hid, hwritable]
          rw [hplan]
          refine planned_of_saves ?_ fun _ _ => rfl
          simp only [Registry.add, hid, hwritable, Bool.false_eq_true, if_false, Bool.not_true]
          rw [on_bind, on_registry]
          dsimp only
          have hsaves := saves_edit (·.insert s.id s) saves_save
          split
          · split
            · rw [on_bind, on_note]
              exact (hsaves _).of_logged
            · exact hsaves d
          · exact hsaves d

/-- A session is looked up without touching anything. -/
theorem on_get (key : String) (d : Desk) :
    (Registry.get key).on d
      = ((d.registry.find? key).elim (.error (.unknownSession key)) .ok, d) := by
  rw [Registry.get, on_bind, on_registry]
  dsimp only
  cases d.registry.find? key <;> rfl

/-- An update fails and leaves everything as it is, or puts the changed session in the place of the
old one and writes. -/
theorem on_update_cases [Time.Zone] (key : String) (updates : List (String × Value)) (d : Desk) :
    (∃ f, Change.readAll updates = .error f ∧ (Registry.update key updates).on d = (.error f, d))
      ∨ ∃ changes, Change.readAll updates = .ok changes
        ∧ (d.registry.find? key = none
            ∧ (Registry.update key updates).on d = (.error (.unknownSession key), d)
          ∨ ∃ old s, d.registry.find? key = some old ∧ changes.foldl Change.apply old = s
            ∧ (s.isWritable = false
                ∧ (Registry.update key updates).on d = (.error (.unwritableSession s.id), d)
              ∨ s.isWritable
                ∧ Saves d (d.registry.insert key s) ((Registry.update key updates).on d))) := by
  cases hread : Change.readAll updates with
  | error f => exact .inl ⟨f, rfl, by simp [Registry.update, hread]⟩
  | ok changes =>
      refine .inr ⟨changes, rfl, ?_⟩
      have hget := on_get key d
      cases hfind : d.registry.find? key with
      | none =>
          rw [hfind] at hget
          exact .inl ⟨rfl, by simp [Registry.update, hread, change, on_bind, hget]⟩
      | some old =>
          rw [hfind] at hget
          generalize hnew : changes.foldl Change.apply old = s
          refine .inr ⟨old, s, rfl, hnew, ?_⟩
          cases hwritable : s.isWritable with
          | false =>
              exact .inl ⟨rfl, by
                simp [Registry.update, hread, change, on_bind, hget, hnew, hwritable]⟩
          | true =>
              refine .inr ⟨rfl, ?_⟩
              simp only [Registry.update, hread, change]
              rw [on_bind, hget]
              simp only [Option.elim_some, hnew, hwritable, Bool.not_true, Bool.false_eq_true,
                if_false]
              exact saves_edit (·.insert key s) saves_save d

/-- Updating does what is planned. -/
private theorem planned_update (key : String) (updates : List (String × Value)) (d : Desk) :
    Planned d ((update key updates).plan d.machine.now d.registry)
      ((update key updates).run d) := by
  rcases on_update_cases key updates d with
    ⟨f, hread, hon⟩ | ⟨changes, hread, ⟨hfind, hon⟩ | ⟨old, s, hfind, rfl, hend⟩⟩
  · have hplan : (update key updates).plan d.machine.now d.registry = .error f := by
      simp [plan, hread]
    rw [hplan]
    exact planned_of_throws hon
  · have hplan : (update key updates).plan d.machine.now d.registry
        = .error (.unknownSession key) := by simp [plan, hread, hfind]
    rw [hplan]
    exact planned_of_throws hon
  · rcases hend with ⟨hwritable, hon⟩ | ⟨hwritable, hsaves⟩
    · have hplan : (update key updates).plan d.machine.now d.registry
          = .error (.unwritableSession (changes.foldl Change.apply old).id) := by
        simp [plan, hread, hfind, hwritable]
      rw [hplan]
      exact planned_of_throws hon
    · have hplan : (update key updates).plan d.machine.now d.registry
          = .ok (some (d.registry.insert key (changes.foldl Change.apply old))) := by
        simp [plan, hread, hfind, hwritable]
      rw [hplan]
      exact planned_of_saves hsaves fun _ _ => rfl

/-- Removing does what is planned. -/
private theorem planned_remove (key : String) (d : Desk) :
    Planned d ((remove key).plan d.machine.now d.registry) ((remove key).run d) := by
  have hget := on_get key d
  cases hfind : d.registry.find? key with
  | none =>
      rw [hfind] at hget
      have hplan : (remove key).plan d.machine.now d.registry
          = .error (.unknownSession key) := by simp [plan, hfind]
      rw [hplan]
      exact planned_of_throws (by simp [Registry.remove, on_bind, hget])
  | some old =>
      rw [hfind] at hget
      have hplan : (remove key).plan d.machine.now d.registry
          = .ok (some (d.registry.erase key)) := by simp [plan, hfind]
      rw [hplan]
      refine planned_of_saves ?_ fun _ _ => rfl
      rw [Registry.remove, on_bind, hget]
      exact saves_edit (·.erase key) saves_save d

-- ===================================================== cleaning up

/-- Asking about sessions changes nothing. -/
theorem findGone_reach (answer : String → Except Failure Bool) (keys : List String) (d : Desk) :
    Reach.findGone (m := StateM Desk) (fun key => return answer key) keys d
      = (gone answer keys, d) := by
  induction keys generalizing d with
  | nil => rfl
  | cons key keys ih =>
      cases hgone : Reach.isGone (answer key) with
      | error f =>
          simp only [Reach.findGone, gone, pure_bind, hgone]
          rfl
      | ok isGone =>
          simp only [Reach.findGone, gone, pure_bind, hgone]
          show ((Reach.findGone (m := StateM Desk) (fun key => return answer key) keys d).1.map _,
            (Reach.findGone (m := StateM Desk) (fun key => return answer key) keys d).2) = _
          rw [ih]

/-- Cleaning up is a sweep of the sessions that are stale and found gone. -/
theorem cleanUp_reach (age : Span) (answer : String → Except Failure Bool) (d : Desk) :
    (reach (some answer)).cleanUp age d
      = match gone answer (d.registry.candidates (cutoff d.machine.now age.micros)) with
        | .error f => (.error f, d)
        | .ok keys => (sweep (cutoff d.machine.now age.micros) keys).on d := by
  let found : Except Failure (List String) × Desk :=
    Reach.findGone (m := StateM Desk) (fun key => return answer key)
      (d.registry.candidates (cutoff d.machine.now age.micros)) d
  show (match found.1 with
    | .error f => (return .error f : StateM Desk (Except Failure Nat))
    | .ok keys => (sweep (cutoff d.machine.now age.micros) keys).run) found.2 = _
  rw [show found = _ from findGone_reach answer _ d]
  cases gone answer (d.registry.candidates (cutoff d.machine.now age.micros)) <;> rfl

/-- A sweep that finds nothing stale saves nothing. -/
theorem sweep_quiet {limit : Stamp} {keys : List String} {d : Desk}
    (h : (d.registry.removeStale limit keys).2 = 0) : (sweep limit keys).on d = (.ok 0, d) := by
  rw [sweep, on_bind, on_registry]
  simp [h]

/-- A sweep that removes sessions saves those that are left. -/
theorem sweep_saves {limit : Stamp} {keys : List String} {d : Desk}
    (h : (d.registry.removeStale limit keys).2 ≠ 0) :
    Saves d (d.registry.removeStale limit keys).1 ((sweep limit keys).on d) := by
  rw [sweep, on_bind, on_registry]
  simp only [h, if_false]
  exact saves_edit (fun _ => (d.registry.removeStale limit keys).1)
    (fun d' => (saves_save d').bind fun _ => onlyLogs_note _ _ _) d

/-- A sweep gives the number of sessions that it removed. -/
theorem sweep_ok {limit : Stamp} {keys : List String} {d : Desk} {removed : Nat}
    (h : ((sweep limit keys).on d).1 = .ok removed) :
    (d.registry.removeStale limit keys).2 = removed := by
  rw [sweep, on_bind, on_registry] at h
  dsimp only at h
  split at h
  · next hzero =>
    cases h
    exact hzero
  · rw [on_bind_ok (on_edit _ _)] at h
    obtain ⟨u, d', -, hlogged⟩ := exists_of_on_bind_ok h
    cases hlogged
    rfl

/-- Cleaning up does what is planned. -/
private theorem planned_cleanUp (age : Span) (panes : Option (String → Except Failure Bool))
    (d : Desk) :
    Planned d ((cleanUp age panes).plan d.machine.now d.registry) ((cleanUp age panes).run d) := by
  cases panes with
  | none => rfl
  | some answer =>
      have hcleanUp : Action.on (ExceptT.mk ((reach (some answer)).cleanUp age)) d = _ :=
        cleanUp_reach age answer d
      rw [plan]
      dsimp only
      cases hgone : gone answer (d.registry.candidates (cutoff d.machine.now age.micros)) with
      | error f =>
          rw [hgone] at hcleanUp
          exact on_bind_error hcleanUp
      | ok keys =>
          rw [hgone] at hcleanUp
          dsimp only at hcleanUp ⊢
          by_cases hzero : (d.registry.removeStale (cutoff d.machine.now age.micros) keys).2 = 0
          · simp only [hzero, if_true]
            rw [sweep_quiet hzero] at hcleanUp
            exact on_bind_ok hcleanUp
          · simp only [hzero, if_false]
            refine planned_of_saves ?_ ?_
            · rw [hcleanUp]
              exact sweep_saves hzero
            · intro removed hremoved
              rw [hcleanUp] at hremoved
              refine if_neg ?_
              rwa [← sweep_ok hremoved]

/-- Every operation ends as planned. -/
theorem run_planned (op : Operation) (d : Desk) :
    Planned d (op.plan d.machine.now d.registry) (op.run d) := by
  cases op with
  | add s => exact planned_add s d
  | update key updates => exact planned_update key updates d
  | remove key => exact planned_remove key d
  | cleanUp age panes => exact planned_cleanUp age panes d
  | save => exact planned_of_saves (saves_save d) fun _ _ => rfl

/-- An operation is refused, or has nothing to write, or makes a registry and writes it. -/
theorem run_cases (op : Operation) (d : Desk) :
    (∃ f, op.plan d.machine.now d.registry = .error f ∧ op.run d = (.error f, d))
      ∨ (op.plan d.machine.now d.registry = .ok none ∧ op.run d = (.ok .quiet, d))
      ∨ ∃ r, op.plan d.machine.now d.registry = .ok (some r) ∧ Saves d r (op.run d)
        ∧ (op.run d).1 ≠ .ok .quiet := by
  have h := run_planned op d
  rcases hplan : op.plan d.machine.now d.registry with f | _ | r
  · rw [hplan] at h
    exact .inl ⟨f, rfl, h⟩
  · rw [hplan] at h
    exact .inr (.inl ⟨rfl, h⟩)
  · rw [hplan] at h
    exact .inr (.inr ⟨r, rfl, h⟩)

end Operation

end PaneWatch.Registry
