/-
Whether the entry of a session comes to show its last change.

Once nothing has still to be stored, what was stored last knew of all changes
(`Office.exists_settled`). As long as the session is watched that is the state after the last
of them, and the entry shows what the watch shows (`stored_converges`). After the session
was stopped there is no watch to look at: each call stores the change that it has
committed itself, and which of these comes last is up to the calls
(`settled_entry_iff`).
-/
import PaneWatch.Proofs.Monitor.Office
import PaneWatch.Proofs.Registry.Reconcile

namespace PaneWatch.Monitor

open Session (Record)
open Time (Stamp)

variable {η : Type} {id : String}

-- ===================================================== what was stored last

/-- A change of a watch is one of its session. -/
theorem changes_ne_nil {log : List (Move η)} {n : Nat} :
    changes id n log ≠ [] ↔ ∃ c ∈ commitsOf id log, c.number = n := by
  simp only [changes, commitsOf, ne_eq, List.reverse_eq_nil_iff, List.map_eq_nil_iff,
    List.filter_eq_nil_iff, List.mem_filter, Bool.and_eq_true, beq_iff_eq, not_forall, not_not]
  constructor
  · rintro ⟨c, hc, hid, hn⟩
    exact ⟨c, ⟨hc, hid⟩, hn⟩
  · rintro ⟨c, ⟨hc, hid⟩, hn⟩
    exact ⟨c, hc, hid, hn⟩

/-- A watch that stands and has taken a change shows the last one of its session. -/
theorem IsCurrent.exists_head {m : Monitor η} {log : List (Move η)} (h : IsCurrent m log) {n : Nat}
    {w : Watch} (hw : m.watch? id = some (n, w)) (hchanged : changes id n log ≠ []) :
    ∃ c, (commitsOf id log).head? = some c ∧ c.number = n ∧ w.shown = c.transition.shown := by
  rcases h id n w hw with hlast | ⟨hnone, -⟩
  · exact hlast
  · obtain ⟨c, hc, hn⟩ := changes_ne_nil.1 hchanged
    exact absurd hn (hnone c hc)

/-- Where nothing has still to be stored, the entry of a session shows what was stored by a call
that knew of all its changes, if there is one that had not been committed at first. -/
theorem Office.exists_settled {s₀ s : Office η} (h₀ : s₀.traffic.IsOrderly)
    (h : s.traffic.IsOrderly) {old entry : Record} {newer : List Write}
    (hshows : ShowsLast s₀ s id old newer entry) (hsettled : IsSettled id s.traffic.log)
    (hnew : ¬commitsOf id s.traffic.log <:+ commitsOf id s₀.traffic.log) :
    ∃ v ∈ writes s.traffic.log, lastWrite? id s.traffic.log = some v ∧ v.id = id
      ∧ v.past = commitsOf id s.traffic.log ∧ entry.shown = v.shown := by
  have hchanged : commitsOf id s.traffic.log ≠ [] := by
    intro hnone
    rw [hnone] at hnew
    exact hnew List.nil_suffix
  obtain ⟨v, hmem, hlast, hid, hpast⟩ := h.order.exists_lastWrite hsettled hchanged
  refine ⟨v, hmem, hlast, hid, hpast, ?_⟩
  rw [lastWrite?, hshows.log, List.find?_append] at hlast
  cases hnewer : newer.find? (·.id == id) with
  | some v' =>
      rw [hnewer] at hlast
      cases hlast
      rw [hshows.shown, shownLast, hnewer]
      rfl
  | none =>
      -- what was stored before cannot have known of the change
      rw [hnewer, Option.none_or] at hlast
      have hold := (h₀.order.written v (List.mem_of_find?_eq_some hlast)).2.1
      rw [hid, hpast] at hold
      exact absurd hold hnew

-- ===================================================== while a session is watched

/-- However calls are interleaved, and whatever becomes of saving: take a watch that has taken no
change by the time when its session has an entry, and let nothing but what calls store change
the entry from then on. As long as the watch stands,

- a call that is done has nothing still to store;
- what is stored never knows of fewer changes of the session than what was stored before;
- what is stored after a change of the watch shows the last one that it knows of;
- the entry shows what was stored last, or what it showed at first;
- and once the watch has taken a change and nothing has still to be stored, the entry shows what
  the watch shows. -/
theorem stored_converges {site : Site η} (hstored : site.isStored) (table : List Signal.Row)
    (hooks : List η) (desk : Registry.Desk) (before after : List (Happening η)) {n : Nat}
    {w : Watch} {old : Record} :
    let s₀ := (Office.new table hooks desk).playAll site before
    let s := s₀.playAll site after
    s₀.find? id = some old → old.isWritable → changes id n s₀.traffic.log = [] →
    Office.Spares site id s₀ after → s.traffic.monitor.watch? id = some (n, w) →
      (∀ call r a, s.traffic.calls[call]? = some (r, .done a) →
          (stage call s.traffic.log).isPending id = false)
        ∧ ((writes s.traffic.log).Pairwise fun v older => v.id = older.id → older.past <:+ v.past)
        ∧ (∀ v ∈ writes s.traffic.log, v.id = id → ∀ c, v.past.head? = some c → c.number = n →
            v.shown = c.transition.shown)
        ∧ (∃ newer entry, Office.ShowsLast s₀ s id old newer entry)
        ∧ (changes id n s.traffic.log ≠ [] → IsSettled id s.traffic.log →
            ∃ entry, s.find? id = some entry ∧ entry.lastState = w.current
              ∧ entry.lastAccess = w.lastChange) := by
  intro s₀ s hold hwritable hfirst hspares hw
  have h₀ : s₀.traffic.IsOrderly :=
    Office.isOrderly_playAll (Traffic.isOrderly_new table hooks) hstored before
  have h : s.traffic.IsOrderly := Office.isOrderly_playAll h₀ hstored after
  have hshown : ∀ v ∈ writes s.traffic.log, v.id = id → ∀ c, v.past.head? = some c →
      c.number = n → v.shown = c.transition.shown := by
    rintro v hv rfl c hc rfl
    obtain ⟨hseen, -, hvalue⟩ := h.order.written v hv
    exact hvalue.trans (hseen.shownAfter_eq hc hw v.change)
  obtain ⟨newer, entry, hshows⟩ := Office.exists_showsLast h₀ hstored hold hwritable after hspares
  refine ⟨?_, h.order.order, hshown, ⟨newer, entry, hshows⟩, ?_⟩
  · intro call r a hdone
    have hfree : stage call s.traffic.log = .free := h.keeps.ends_of_done hdone
    rw [hfree]
    rfl
  · intro hchanged hsettled
    obtain ⟨c, hc, hn, hwatch⟩ := h.order.current.exists_head hw hchanged
    have hnew : ¬commitsOf id s.traffic.log <:+ commitsOf id s₀.traffic.log := by
      intro hsuffix
      have hmem := hsuffix.subset (List.mem_of_mem_head? hc)
      exact changes_ne_nil.2 ⟨c, hmem, hn⟩ hfirst
    obtain ⟨v, hv, -, hid, hpast, hentry⟩ := Office.exists_settled h₀ h hshows hsettled hnew
    have hall : entry.shown = w.shown :=
      calc entry.shown = v.shown := hentry
        _ = c.transition.shown := hshown v hv hid c (by rw [hpast, hc]) hn
        _ = w.shown := hwatch.symm
    exact ⟨entry, hshows.found, congrArg Prod.fst hall, congrArg Prod.snd hall⟩

-- ===================================================== after a session was stopped

/-- However calls are interleaved with stops and starts, and whatever becomes of saving: let
nothing but what calls store change the entry of a session, and let a change `c` be the last one
of the session, committed since then. Once nothing has still to be stored,

- what was stored last knew of all changes, and the entry shows it: what the watch showed that
  was found, or the change that the storing call had committed itself if there was no watch;
- a watch that was found and is not the one of `c` had taken no change;
- the entry shows `c` exactly if the watch of `c` was found, or what was stored in its stead
  shows the same;
- the entry shows `c` if the watch of `c` still stands. -/
theorem settled_entry_iff {site : Site η} (hstored : site.isStored) (table : List Signal.Row)
    (hooks : List η) (desk : Registry.Desk) (before after : List (Happening η)) {old : Record}
    {c : Commit} :
    let s₀ := (Office.new table hooks desk).playAll site before
    let s := s₀.playAll site after
    s₀.find? id = some old → old.isWritable → Office.Spares site id s₀ after →
    IsSettled id s.traffic.log → (commitsOf id s.traffic.log).head? = some c →
    ¬commitsOf id s.traffic.log <:+ commitsOf id s₀.traffic.log →
      ∃ v entry, lastWrite? id s.traffic.log = some v ∧ v.past = commitsOf id s.traffic.log
        ∧ s.find? id = some entry ∧ entry.shown = shownAfter v.change v.found
        ∧ (∀ n w, v.found = some (n, w) → n ≠ c.number → w.current = .unknown)
        ∧ (entry.shown = c.transition.shown ↔ v.found.elim (v.change.shown = c.transition.shown)
            fun (n, w) => n = c.number ∨ w.shown = c.transition.shown)
        ∧ (∀ w, s.traffic.monitor.watch? id = some (c.number, w) →
            entry.shown = c.transition.shown) := by
  intro s₀ s hold hwritable hspares hsettled hc hnew
  have h₀ : s₀.traffic.IsOrderly :=
    Office.isOrderly_playAll (Traffic.isOrderly_new table hooks) hstored before
  have h : s.traffic.IsOrderly := Office.isOrderly_playAll h₀ hstored after
  obtain ⟨newer, entry, hshows⟩ := Office.exists_showsLast h₀ hstored hold hwritable after hspares
  obtain ⟨v, hv, hlast, rfl, hpast, hentry⟩ := Office.exists_settled h₀ h hshows hsettled hnew
  obtain ⟨hseen, -, hvalue⟩ := h.order.written v hv
  have hall : entry.shown = shownAfter v.change v.found := hentry.trans hvalue
  rw [← hpast] at hc
  refine ⟨v, entry, hlast, hpast, hshows.found, hall, ?_, ?_, ?_⟩
  · intro n w hw hne
    rcases hseen.reflects n w hw with ⟨c', hc', hn, -⟩ | ⟨-, hunknown⟩
    · rw [hc] at hc'
      cases hc'
      exact absurd hn.symm hne
    · exact hunknown
  · rw [hall]
    cases hw : v.found with
    | none => exact Iff.rfl
    | some e =>
        obtain ⟨n, w⟩ := e
        show w.shown = c.transition.shown ↔ n = c.number ∨ w.shown = c.transition.shown
        refine ⟨.inr, ?_⟩
        rintro (rfl | hsame)
        · exact (hseen.reflects _ w hw).shown hc rfl
        · exact hsame
  · intro w hw
    exact hall.trans (hseen.shownAfter_eq hc hw v.change)

-- ===================================================== cases

def midnight : Stamp := Stamp.midnight ⟨2024, 6, 15⟩

def noon : Stamp := ⟨⟨2024, 6, 15⟩, 12, 0, 0, 0⟩

/-- A call does some acts while the process of its session is in some state. -/
def acts (call count : Nat) (now : Stamp) (code : String) : List (Happening Unit) :=
  List.replicate count (.move call now { sleeping 10 with code := .ok code } fun disk => disk)

/-- A session is watched, and found idle at midnight and busy at noon, by two detections neither of
which has stored anything. -/
def twoChanges : List (Happening Unit) :=
  .make (.start "a") :: acts 0 3 midnight "S"
    ++ .make (.detect "a") :: acts 1 4 midnight "S"
    ++ .make (.detect "a") :: acts 2 4 noon "R"

/-- A detection logs its change, and stores. -/
def storing (call : Nat) : List (Happening Unit) := acts call 5 noon "S"

/-- The session is stopped. -/
def stopping : List (Happening Unit) := .make (.stop "a") :: acts 3 1 noon "S"

/-- A registry that knows the session. -/
def knowing : Registry.Desk where
  registry := Registry.emptyDesk.registry.insert "a" { Registry.sampleSession with id := "a" }
  machine := Registry.emptyDesk.machine

private theorem writable_knowing : { Registry.sampleSession with id := "a" }.isWritable := by
  decide +kernel

/-- A monitor that stores. -/
def keeping : Site Unit := ⟨true, fun _ => ""⟩

/-- What is there after some events. -/
def officeAfter (events : List (Happening Unit)) : Office Unit :=
  (Office.new Signal.defaultTable [] knowing).playAll keeping events

/-- While the session is watched, the older change may be stored last: the entry shows the newer. -/
theorem stored_converges_overlapping : ∃ entry,
    (officeAfter (twoChanges ++ storing 2 ++ storing 1)).find? "a" = some entry
      ∧ entry.lastState = .busy ∧ entry.lastAccess = noon := by
  have hwatch :
      ((officeAfter (twoChanges ++ storing 2 ++ storing 1)).traffic.monitor.watch? "a").any
        fun e => decide (e.1 = 0 ∧ e.2.shown = (.busy, noon)) := by decide +kernel
  obtain ⟨⟨n, w⟩, hw, hshown⟩ := (Option.any_eq_true _ _).1 hwatch
  obtain ⟨rfl, hshown⟩ := of_decide_eq_true hshown
  have hstored : keeping.isStored := rfl
  obtain ⟨-, -, -, -, hsettled⟩ := stored_converges hstored Signal.defaultTable [] knowing []
    (twoChanges ++ storing 2 ++ storing 1) rfl writable_knowing rfl
    (Office.spares_of_all (by decide +kernel) _) hw
  obtain ⟨entry, hentry, hstate, haccess⟩ := hsettled (by decide +kernel) (by decide +kernel)
  exact ⟨entry, hentry, hstate.trans (congrArg Prod.fst hshown),
    haccess.trans (congrArg Prod.snd hshown)⟩

/-- After a stop the newer change stays if it is stored last. -/
theorem settled_entry_in_order : ∃ entry,
    (officeAfter (twoChanges ++ stopping ++ storing 1 ++ storing 2)).find? "a" = some entry
      ∧ entry.shown = (.busy, noon) := by
  have hchange : (commitsOf "a" (officeAfter (twoChanges ++ stopping ++ storing 1
      ++ storing 2)).traffic.log).head?.any
        fun c => decide (c.transition.shown = (.busy, noon)) := by
    decide +kernel
  have hlast : (lastWrite? "a" (officeAfter (twoChanges ++ stopping ++ storing 1
      ++ storing 2)).traffic.log).any fun v =>
        decide (v.found.isNone ∧ v.change.shown = (.busy, noon)) := by decide +kernel
  obtain ⟨c, hc, hshown⟩ := (Option.any_eq_true _ _).1 hchange
  obtain ⟨v', hv', hown⟩ := (Option.any_eq_true _ _).1 hlast
  obtain ⟨hnone, hown⟩ := of_decide_eq_true hown
  have hstored : keeping.isStored := rfl
  obtain ⟨v, entry, hv, -, hentry, -, -, hiff, -⟩ :=
    settled_entry_iff hstored Signal.defaultTable [] knowing []
      (twoChanges ++ stopping ++ storing 1 ++ storing 2) rfl writable_knowing
      (Office.spares_of_all (by decide +kernel) _) (by decide +kernel) hc (by decide +kernel)
  obtain rfl : v = v' := Option.some.inj (hv.symm.trans hv')
  rw [Option.isNone_iff_eq_none.1 hnone] at hiff
  have hsame := (of_decide_eq_true hshown)
  exact ⟨entry, hentry, (hiff.2 (hown.trans hsame.symm)).trans hsame⟩

/-- After a stop the older change may be stored last, and the newer one is lost. -/
theorem settled_entry_reverted :
    IsSettled "a" (officeAfter (twoChanges ++ stopping ++ storing 2 ++ storing 1)).traffic.log
      ∧ (commitsOf "a" (officeAfter (twoChanges ++ stopping ++ storing 2
          ++ storing 1)).traffic.log).map (·.transition.shown) = [(.busy, noon), (.idle, midnight)]
      ∧ ((officeAfter (twoChanges ++ stopping ++ storing 2 ++ storing 1)).find? "a").map
          Record.shown = some (.idle, midnight) := by decide +kernel

end PaneWatch.Monitor
