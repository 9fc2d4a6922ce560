/-
Cleaning up while anything may happen to the registry.

The sessions to ask about are chosen when a clean-up begins, and until the last of its
questions is answered sessions may be added, used, removed, or removed by another
clean-up. A question is therefore anything that gives an answer, whatever it does to the desk
on the way: `survey` tells all answers, and the desk that the last of them leaves. An answer that
does not count, a failure that nothing holds up, is the last one, and nothing is removed then.

What is removed is read off these and the registry at the beginning (`isSwept`). The argument has
two halves that do not know of each other: which keys a survey finds gone, and what a sweep
of some keys does to a desk. Sessions go by the keys that they are filed under: a session that is
filed under another ID than its own is asked about, and removed, as if it had that one
(`cleanUp_by_key`).
-/
import PaneWatch.Proofs.Lookup
import PaneWatch.Proofs.Registry.Reconcile

namespace PaneWatch.Registry

open Session (Record)
open Time (Stamp Span)

-- ===================================================== questions

/-- What a clean-up sees of the world, where anything may happen until a question is answered. -/
def reachAmid (ask : String → StateM Desk (Except Failure Bool)) : Reach (StateM Desk) :=
  { Operation.reach none with hasPanes := some ask }

/-- Asks about some sessions, one after the other, as long as the answers count. -/
def survey (ask : String → StateM Desk (Except Failure Bool)) :
    List String → StateM Desk (List (String × Except Failure Bool))
  | [] => return []
  | key :: keys => do
    let answer ← ask key
    if counts answer then return (key, answer) :: (← survey ask keys) else return [(key, answer)]

/-- The sessions that some answers say are gone. -/
def goneIn (answers : List (String × Except Failure Bool)) : List String :=
  (answers.filter fun e => saysGone e.2).map (·.1)

variable (ask : String → StateM Desk (Except Failure Bool))

/-- What a survey has asked and where it leaves the desk, by the answer to its first question. -/
theorem survey_cons_of_counts {key : String} {d : Desk} (h : counts (ask key d).1)
    (keys : List String) :
    survey ask (key :: keys) d
      = ((key, (ask key d).1) :: (survey ask keys (ask key d).2).1,
        (survey ask keys (ask key d).2).2) := by
  show (if counts (ask key d).1 then _ else _ : StateM Desk _) (ask key d).2 = _
  rw [if_pos h]
  rfl

private theorem survey_cons_of_not_counts {key : String} {d : Desk}
    (h : counts (ask key d).1 = false)
    (keys : List String) :
    survey ask (key :: keys) d = ([(key, (ask key d).1)], (ask key d).2) := by
  show (if counts (ask key d).1 then _ else _ : StateM Desk _) (ask key d).2 = _
  rw [if_neg (Bool.eq_false_iff.1 h)]
  rfl

/-- Each session is asked about once, in order, and all are if all answers count. -/
theorem keys_survey (keys : List String) (d : Desk) :
    (survey ask keys d).1.map (·.1) <+: keys
      ∧ ((∀ e ∈ (survey ask keys d).1, counts e.2) → (survey ask keys d).1.map (·.1) = keys) := by
  induction keys generalizing d with
  | nil => exact ⟨List.prefix_rfl, fun _ => rfl⟩
  | cons key keys ih =>
      obtain ⟨hbegins, hall⟩ := ih (ask key d).2
      cases hcounts : counts (ask key d).1 with
      | false =>
          rw [survey_cons_of_not_counts ask hcounts]
          refine ⟨⟨keys, rfl⟩, fun h => ?_⟩
          rw [h _ List.mem_cons_self] at hcounts
          cases hcounts
      | true =>
          rw [survey_cons_of_counts ask hcounts]
          refine ⟨(List.prefix_cons_inj key).2 hbegins, fun h => ?_⟩
          rw [List.map_cons, hall (List.forall_mem_cons.1 h).2]

/-- The search goes on behind an answer that counts. -/
private theorem findGone_cons (key : String) (keys : List String) (d : Desk) :
    Reach.findGone ask (key :: keys) d
      = (match Reach.isGone (ask key d).1 with
        | .error f => (return .error f : StateM Desk (Except Failure (List String)))
        | .ok gone => do
          let others ← Reach.findGone ask keys
          return others.map fun others => if gone then key :: others else others)
        (ask key d).2 := rfl

/-- What is found gone is what the answers say, unless one of them does not count: what it comes to
is what the search comes to. -/
theorem findGone_survey (keys : List String) (d : Desk) :
    (∃ e ∈ (survey ask keys d).1, counts e.2 = false ∧ ∃ f, Reach.isGone e.2 = .error f
        ∧ Reach.findGone ask keys d = (.error f, (survey ask keys d).2))
      ∨ (∀ e ∈ (survey ask keys d).1, counts e.2)
        ∧ Reach.findGone ask keys d
          = (.ok (goneIn (survey ask keys d).1), (survey ask keys d).2) := by
  induction keys generalizing d with
  | nil => exact .inr ⟨by rintro e ⟨⟩, rfl⟩
  | cons key keys ih =>
      cases hcounts : counts (ask key d).1 with
      | false =>
          obtain ⟨f, hf⟩ := exists_isGone_error hcounts
          rw [survey_cons_of_not_counts ask hcounts, findGone_cons, hf]
          exact .inl ⟨_, List.mem_cons_self, hcounts, f, hf, rfl⟩
      | true =>
          rw [survey_cons_of_counts ask hcounts, findGone_cons, isGone_of_counts hcounts]
          have hbind (gone : Bool) : (do
              let others ← Reach.findGone ask keys
              return others.map fun others => if gone then key :: others else others
                : StateM Desk (Except Failure (List String))) (ask key d).2
              = ((Reach.findGone ask keys (ask key d).2).1.map fun others =>
                  if gone then key :: others else others,
                (Reach.findGone ask keys (ask key d).2).2) := rfl
          dsimp only
          rw [hbind]
          rcases ih (ask key d).2 with ⟨e, he, hnot, f, hf, hfound⟩ | ⟨hall, hfound⟩
          · rw [hfound]
            exact .inl ⟨e, List.mem_cons_of_mem _ he, hnot, f, hf, rfl⟩
          · rw [hfound]
            refine .inr ⟨List.forall_mem_cons.2 ⟨hcounts, hall⟩, ?_⟩
            rw [goneIn, goneIn, List.filter_cons]
            cases saysGone (ask key d).1 <;> rfl

/-- A clean-up is a search and then a sweep of what was found. -/
private theorem cleanUp_amid_eq (age : Span) (d : Desk) :
    let limit := cutoff d.machine.now age.micros
    let found := Reach.findGone ask (d.registry.candidates limit) d
    (reachAmid ask).cleanUp age d
      = (match found.1 with
        | .error f => (return .error f : StateM Desk (Except Failure Nat))
        | .ok keys => (sweep limit keys).run) found.2 := rfl

/-- A clean-up is a survey and then a sweep, if all answers count. -/
theorem cleanUp_amid (age : Span) (d : Desk) :
    let limit := cutoff d.machine.now age.micros
    let answers := (survey ask (d.registry.candidates limit) d).1
    let asked := (survey ask (d.registry.candidates limit) d).2
    (∃ e ∈ answers, counts e.2 = false ∧ ∃ f, Reach.isGone e.2 = .error f
        ∧ (reachAmid ask).cleanUp age d = (.error f, asked))
      ∨ (∀ e ∈ answers, counts e.2)
        ∧ (reachAmid ask).cleanUp age d = (sweep limit (goneIn answers)).on asked := by
  intro limit answers asked
  rw [cleanUp_amid_eq]
  rcases findGone_survey ask (d.registry.candidates limit) d with
    ⟨e, he, hnot, f, hf, hfound⟩ | ⟨hall, hfound⟩
  · rw [hfound]
    exact .inl ⟨e, he, hnot, f, hf, rfl⟩
  · rw [hfound]
    exact .inr ⟨hall, rfl⟩

-- ===================================================== what is swept

/-- Whether an entry is removed: what stood under its key was stale at the beginning, the answer
about the key was that it is gone, and the entry is stale in the end. -/
def isSwept (limit : Stamp) (r : Registry) (answers : List (String × Except Failure Bool))
    (e : String × Record) : Bool :=
  (r.find? e.1).any (isStale limit) && (answers.lookup e.1).any saysGone && isStale limit e.2

/-- The candidates are the sessions that are stale. -/
theorem mem_candidates {r : Registry} {limit : Stamp} {key : String} :
    key ∈ r.candidates limit ↔ (r.find? key).any (isStale limit) := by
  rw [Option.any_eq_true]
  constructor
  · intro h
    obtain ⟨⟨key', s⟩, he, rfl⟩ := List.mem_map.1 h
    obtain ⟨hmem, hstale⟩ := List.mem_filter.1 he
    exact ⟨s, lookup_of_mem r.sessions.distinct hmem, hstale⟩
  · rintro ⟨s, hfind, hstale⟩
    exact List.mem_map.2 ⟨(key, s), List.mem_filter.2 ⟨mem_of_lookup hfind, hstale⟩, rfl⟩

private theorem nodup_candidates (r : Registry) (limit : Stamp) : (r.candidates limit).Nodup :=
  (r.sessions.filter fun e => isStale limit e.2).distinct

private theorem mem_goneIn {answers : List (String × Except Failure Bool)} {key : String}
    (h : (answers.map (·.1)).Nodup) :
    key ∈ goneIn answers ↔ (answers.lookup key).any saysGone := by
  rw [Option.any_eq_true]
  constructor
  · intro hgone
    obtain ⟨⟨key', answer⟩, he, rfl⟩ := List.mem_map.1 hgone
    obtain ⟨hmem, hanswer⟩ := List.mem_filter.1 he
    exact ⟨answer, lookup_of_mem h hmem, hanswer⟩
  · rintro ⟨answer, hlookup, hanswer⟩
    exact List.mem_map.2 ⟨(key, answer), List.mem_filter.2 ⟨mem_of_lookup hlookup, hanswer⟩, rfl⟩

/-- A sweep tests an entry for no more than it needs to: only what was stale is asked about. -/
theorem isSwept_eq {limit : Stamp} {r : Registry} {answers : List (String × Except Failure Bool)}
    (h : answers.map (·.1) = r.candidates limit) (e : String × Record) :
    isSwept limit r answers e = ((goneIn answers).contains e.1 && isStale limit e.2) := by
  have hgone : e.1 ∈ goneIn answers ↔ (answers.lookup e.1).any saysGone :=
    mem_goneIn (h ▸ nodup_candidates r limit)
  have hasked : e.1 ∈ goneIn answers → (r.find? e.1).any (isStale limit) := by
    intro hmem
    rw [← mem_candidates, ← h]
    exact (List.filter_sublist.map _).subset hmem
  rw [isSwept, Bool.eq_iff_iff]
  simp only [Bool.and_eq_true, List.contains_iff_mem]
  constructor
  · rintro ⟨⟨-, hanswer⟩, hstale⟩
    exact ⟨hgone.2 hanswer, hstale⟩
  · rintro ⟨hmem, hstale⟩
    exact ⟨⟨hasked hmem, hgone.1 hmem⟩, hstale⟩

-- ===================================================== a sweep

/-- What is kept and what is taken out is all there was. -/
theorem size_filter_not {α : Type} (k : Keyed α) (p : String × α → Bool) :
    (k.filter fun e => !p e).size + k.entries.countP p = k.size := by
  have hsplit := List.length_eq_countP_add_countP p (l := k.entries)
  have hrest : k.entries.countP (fun e => ¬p e) = (k.filter fun e => !p e).size := by
    rw [Keyed.size, Keyed.entries_filter, ← List.countP_eq_length_filter]
    exact List.countP_congr fun e _ => by simp
  unfold Keyed.size at hrest ⊢
  omega

/-- A sweep that removes nothing leaves everything as it is. One that removes something ends as
the writing of what is left ends, with the number of what was removed. -/
theorem sweep_cases (limit : Stamp) (gone : List String) (d : Desk) :
    (d.registry.removeStale limit gone).2 = 0 ∧ (sweep limit gone).on d = (.ok 0, d)
      ∨ (d.registry.removeStale limit gone).2 ≠ 0
        ∧ Saves d (d.registry.removeStale limit gone).1 ((sweep limit gone).on d)
        ∧ ((sweep limit gone).on d).1
          = (((d.registry.removeStale limit gone).1.write d.machine.disk).1.map
              fun _ => (d.registry.removeStale limit gone).2) := by
  by_cases hzero : (d.registry.removeStale limit gone).2 = 0
  · exact .inl ⟨hzero, Operation.sweep_quiet hzero⟩
  · have hsaves := Operation.sweep_saves hzero
    refine .inr ⟨hzero, hsaves, ?_⟩
    rw [← hsaves.outcome]
    cases hdone : ((sweep limit gone).on d).1 with
    | error f => rfl
    | ok removed =>
        rw [Operation.sweep_ok hdone]
        rfl

/-- A sweep of what some answers say is gone takes out what is stale by them. -/
private theorem removeStale_goneIn {limit : Stamp} {r : Registry}
    {answers : List (String × Except Failure Bool)}
    (h : answers.map (·.1) = r.candidates limit) (asked : Registry) :
    asked.removeStale limit (goneIn answers)
      = ({ asked with sessions := asked.sessions.filter fun e => !isSwept limit r answers e },
        asked.sessions.entries.countP (isSwept limit r answers)) := by
  have hswept : isSwept limit r answers
      = fun e => (goneIn answers).contains e.1 && isStale limit e.2 :=
    funext fun e => isSwept_eq h e
  rw [hswept]
  rfl

/-- A sweep that takes some entries out leaves the others, and what it saves are these. It saves
nothing if there is nothing to take out. -/
private theorem sweep_leaves {limit : Stamp} {gone : List String} {d left : Desk}
    {swept : String × Record → Bool} {removed : Nat} {outcome : Except Failure Nat}
    (hremoved : d.registry.sessions.entries.countP swept = removed)
    (hstale : d.registry.removeStale limit gone
      = ({ d.registry with sessions := d.registry.sessions.filter fun e => !swept e }, removed))
    (hdone : (sweep limit gone).on d = (outcome, left)) :
    left.registry.path = d.registry.path
      ∧ left.registry.sessions.entries = d.registry.sessions.entries.filter (fun e => !swept e)
      ∧ left.registry.size + removed = d.registry.size
      ∧ (removed = 0 → outcome = .ok 0 ∧ left = d)
      ∧ (0 < removed →
          outcome = (left.registry.write d.machine.disk).1.map (fun _ => removed)
            ∧ left.machine.disk = (left.registry.write d.machine.disk).2)
      ∧ (0 < removed → outcome = .ok removed →
          ∃ bytes, left.registry.encode = .ok bytes
            ∧ left.machine.disk.bytesAt? left.registry.path.place = some bytes) := by
  have hcount : (d.registry.sessions.filter fun e => !swept e).size + removed
      = d.registry.size := by
    rw [← hremoved]
    exact size_filter_not d.registry.sessions swept
  have hcases := sweep_cases limit gone d
  rw [hdone, hstale] at hcases
  -- nothing is written unless something was removed
  rcases hcases with ⟨hzero, hquiet⟩ | ⟨hsome, hsaves, houtcome⟩
  · cases hquiet
    have hzero : removed = 0 := hzero
    rw [hzero] at hcount
    have hnone : d.registry.sessions.entries.filter (fun e => !swept e)
        = d.registry.sessions.entries := List.filter_sublist.eq_of_length hcount
    refine ⟨rfl, hnone.symm, ?_, fun _ => ⟨rfl, rfl⟩, ?_, ?_⟩
    · rw [hzero]
      rfl
    · intro hpos
      omega
    · intro hpos
      omega
  · have hregistry : left.registry = { d.registry with
        sessions := d.registry.sessions.filter fun e => !swept e } := hsaves.registry
    rw [hregistry]
    refine ⟨rfl, rfl, hcount, fun hzero => absurd hzero hsome, ?_, ?_⟩
    · intro _
      exact ⟨houtcome, hsaves.disk⟩
    · intro _ hok
      obtain ⟨bytes, hbytes, hat, -⟩ := hsaves.holds hok
      exact ⟨bytes, hbytes, hat⟩

/-- Whatever happens to the registry while panes are asked about: if all answers count, exactly
those entries are removed that were stale at the beginning, are gone by the answers and are stale
in the end. All others stay as they are and where they are. The number that is given is how many
are removed. If there are none, nothing is written and nothing has changed; else the file holds
what is left, and if it cannot be written the failure is that of the writing. An answer that does
not count ends the clean-up with what gets through, and nothing is removed. -/
theorem cleanUp_sweeps (age : Span) (d : Desk) :
    let limit := cutoff d.machine.now age.micros
    let answers := (survey ask (d.registry.candidates limit) d).1
    let asked := (survey ask (d.registry.candidates limit) d).2
    let outcome := ((reachAmid ask).cleanUp age d).1
    let left := ((reachAmid ask).cleanUp age d).2
    let swept := isSwept limit d.registry answers
    let removed := asked.registry.sessions.entries.countP swept
    (answers.map (·.1) <+: d.registry.candidates limit)
      ∧ ((∃ e ∈ answers, counts e.2 = false) →
          (∃ e ∈ answers, ∃ f, Reach.isGone e.2 = .error f ∧ outcome = .error f) ∧ left = asked)
      ∧ ((∀ e ∈ answers, counts e.2) →
        answers.map (·.1) = d.registry.candidates limit
          ∧ left.registry.path = asked.registry.path
          ∧ left.registry.sessions.entries
            = asked.registry.sessions.entries.filter (fun e => !swept e)
          ∧ left.registry.size + removed = asked.registry.size
          ∧ (removed = 0 → outcome = .ok 0 ∧ left = asked)
          ∧ (0 < removed →
              outcome = (left.registry.write asked.machine.disk).1.map (fun _ => removed)
                ∧ left.machine.disk = (left.registry.write asked.machine.disk).2)
          ∧ (0 < removed → outcome = .ok removed →
              ∃ bytes, left.registry.encode = .ok bytes
                ∧ left.machine.disk.bytesAt? left.registry.path.place = some bytes)) := by
  intro limit answers asked outcome left swept removed
  obtain ⟨hbegins, hkeys⟩ := keys_survey ask (d.registry.candidates limit) d
  refine ⟨hbegins, ?_, ?_⟩
  · rintro ⟨e, he, hnot⟩
    rcases cleanUp_amid ask age d with ⟨e', he', -, f, hf, hdone⟩ | ⟨hall, -⟩
    · exact ⟨⟨e', he', f, hf, congrArg Prod.fst hdone⟩, congrArg Prod.snd hdone⟩
    · rw [hall e he] at hnot
      cases hnot
  · intro hall
    have hanswered : answers.map (·.1) = d.registry.candidates limit := hkeys hall
    have hcleanUp : (reachAmid ask).cleanUp age d = (sweep limit (goneIn answers)).on asked := by
      rcases cleanUp_amid ask age d with ⟨e, he, hnot, -⟩ | ⟨-, hdone⟩
      · rw [hall e he] at hnot
        cases hnot
      · exact hdone
    exact ⟨hanswered, sweep_leaves rfl (removeStale_goneIn hanswered asked.registry) hcleanUp.symm⟩

/-- Three sessions at noon that were last used at midnight. -/
def noonDesk : Desk where
  registry := ["a", "b", "c"].foldl (fun r id => r.insert id { sampleSession with id })
    emptyDesk.registry
  machine := { emptyDesk.machine with now := ⟨⟨2024, 6, 15⟩, 12, 0, 0, 0⟩ }

/-- All panes are gone. Until the first answer comes the second session is used, and until
the others come another clean-up removes the third. -/
def busyAsk (key : String) : StateM Desk (Except Failure Bool) :=
  let op : Operation :=
    if key = "a" then .update "b" (stateUpdate .idle noonDesk.machine.now)
    else .cleanUp ⟨0⟩ (some fun other => .ok (other ≠ "c"))
  modifyGet fun d => (.ok false, (op.run d).2)

/-- The first session is removed and counted. The second one has been used meanwhile, and the third
one is not there any more. -/
theorem cleanUp_sweeps_busy :
    let limit := cutoff noonDesk.machine.now 0
    let answers := (survey busyAsk (noonDesk.registry.candidates limit) noonDesk).1
    let outcome := ((reachAmid busyAsk).cleanUp ⟨0⟩ noonDesk).1
    let left := ((reachAmid busyAsk).cleanUp ⟨0⟩ noonDesk).2
    answers.map (·.1) = ["a", "b", "c"] ∧ outcome = .ok 1 ∧ left.registry.sessions.keys = ["b"]
      ∧ ∃ bytes, left.registry.encode = .ok bytes
        ∧ left.machine.disk.bytesAt? left.registry.path.place = some bytes := by
  intro limit answers outcome left
  have hdone : outcome = .ok 1 := toOption_eq_some (by decide +kernel)
  have hcounts : answers.all (counts ·.2) := by decide +kernel
  obtain ⟨-, -, hswept⟩ := cleanUp_sweeps busyAsk ⟨0⟩ noonDesk
  obtain ⟨-, -, -, -, -, -, hholds⟩ := hswept fun e he => List.all_eq_true.1 hcounts e he
  refine ⟨by decide +kernel, hdone, by decide +kernel, ?_⟩
  let asked := (survey busyAsk (noonDesk.registry.candidates limit) noonDesk).2
  have hremoved : asked.registry.sessions.entries.countP
      (isSwept limit noonDesk.registry answers) = 1 := by decide +kernel
  exact hholds (by rw [hremoved]; decide) (by rw [hremoved]; exact hdone)

/-- A session that is filed under another ID than its own. -/
def strayDesk : Desk :=
  { noonDesk with registry := emptyDesk.registry.insert "a" { sampleSession with id := "b" } }

/-- No file can be put in its place. -/
def blockedDesk : Desk :=
  { noonDesk with machine := { noonDesk.machine with
      disk := { noonDesk.machine.disk with faults := [(.rename, "denied")] } } }

/-- What entries a clean-up removes does not go by their IDs: an entry is removed though the answer
about its ID is that the panes are there, if it is filed under another one. Nor is a clean-up over
with the number of what it has removed, or with what is left in the file, if that cannot be
written: the entries are gone all the same. And the order to end the program, given instead of an
answer, is not taken for one. -/
theorem cleanUp_by_key :
    (let ask (id : String) : StateM Desk (Except Failure Bool) := return .ok (id == "b")
      strayDesk.registry.sessions.entries.map (·.2.id) = ["b"]
        ∧ ((reachAmid ask).cleanUp ⟨0⟩ strayDesk).1.toOption = some 1
        ∧ ((reachAmid ask).cleanUp ⟨0⟩ strayDesk).2.registry.size = 0)
      ∧ (let ask (_ : String) : StateM Desk (Except Failure Bool) := return .ok false
        ((reachAmid ask).cleanUp ⟨0⟩ blockedDesk).1.toOption = none
          ∧ ((reachAmid ask).cleanUp ⟨0⟩ blockedDesk).2.registry.size = 0
          ∧ ((reachAmid ask).cleanUp ⟨0⟩ blockedDesk).2.machine.disk.bytesAt?
              blockedDesk.registry.path.place
            = blockedDesk.machine.disk.bytesAt? blockedDesk.registry.path.place)
      ∧ (let ask (_ : String) : StateM Desk (Except Failure Bool) := return .error (.told .exit "1")
        ((reachAmid ask).cleanUp ⟨0⟩ noonDesk).1.toOption = none
          ∧ ((reachAmid ask).cleanUp ⟨0⟩ noonDesk).2.registry.size = 3) := by
  decide +kernel

end PaneWatch.Registry
