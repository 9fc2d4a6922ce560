/-
Which watches there are, and which workers were made for them.

Every watch that begins has a worker made for it, and `hires` reads all workers that were ever
made off the log. The roster of a monitor has the IDs and the numbers of its watches. `Staffed`
is the invariant: of all workers that were made, exactly those on the roster pass the check
whether they are current, they are the ones that the monitor has as its workers, no two have the
same number, and since a session was stopped last at most one worker was made for it (`tenure`).
-/
import PaneWatch.Proofs.Monitor.Ownership

namespace PaneWatch.Monitor

open Time (Stamp)

variable {η : Type}

-- ===================================================== reading the log

/-- A worker, and the call by which it was made or started. -/
structure Hire where
  call : Nat
  id : String
  /-- The number of the watch that it was made for. -/
  number : Nat
  deriving DecidableEq

/-- The ID of a worker's session and the number of its watch. -/
def Hire.entry (h : Hire) : String × Nat := (h.id, h.number)

/-- The worker that a move makes, if it begins a watch. -/
def Move.hire? : Move η → Option Hire
  | ⟨call, _, .register id _, .ok number, _, _⟩ => some ⟨call, id, number⟩
  | _ => none

/-- The worker that a move starts, or tries to. -/
def Move.launch? : Move η → Option Hire
  | ⟨call, _, .launch id number, _, _, _⟩ => some ⟨call, id, number⟩
  | _ => none

/-- Whether a move could not start a worker. -/
def Move.isStranded : Move η → Bool
  | ⟨_, _, .launch _ _, .error _, _, _⟩ => true
  | _ => false

/-- All workers that were made, the first one first. -/
def hires (log : List (Move η)) : List Hire := (log.filterMap Move.hire?).reverse

/-- All workers that were to be started, the first one first. -/
def launches (log : List (Move η)) : List Hire := (log.filterMap Move.launch?).reverse

/-- The workers that were made for a session since it was stopped last. -/
def tenure (id : String) : List (Move η) → List Hire
  | [] => []
  | e :: older =>
    if e.ends id then [] else tenure id older ++ (e.hire?.filter (·.id == id)).toList

/-- A move adds the worker to those that were made, if it makes one. -/
theorem hires_cons (e : Move η) (log : List (Move η)) :
    hires (e :: log) = hires log ++ e.hire?.toList := by
  unfold hires
  rw [List.filterMap_cons]
  cases e.hire? <;> simp

/-- What was made in a log is what was made before and what was made then. -/
theorem hires_append (newer older : List (Move η)) :
    hires (newer ++ older) = hires older ++ hires newer := by
  simp [hires]

/-- A move adds the worker to those that were started, if it starts one. -/
theorem launches_cons (e : Move η) (log : List (Move η)) :
    launches (e :: log) = launches log ++ e.launch?.toList := by
  unfold launches
  rw [List.filterMap_cons]
  cases e.launch? <;> simp

/-- What was started in a log is what was started before and what was started then. -/
theorem launches_append (newer older : List (Move η)) :
    launches (newer ++ older) = launches older ++ launches newer := by
  simp [launches]

/-- As long as a session is not stopped, all workers that are made for it count. -/
theorem tenure_append {id : String} {newer : List (Move η)} (h : ∀ e ∈ newer, e.ends id = false)
    (older : List (Move η)) :
    tenure id (newer ++ older) = tenure id older ++ (hires newer).filter (·.id == id) := by
  induction newer with
  | nil => simp [hires]
  | cons e newer ih =>
      have hends := h e List.mem_cons_self
      rw [List.cons_append, tenure, hends, ih fun e he => h e (List.mem_cons_of_mem _ he),
        hires_cons, List.filter_append]
      cases e.hire? with
      | none => simp
      | some hire => by_cases hid : hire.id == id <;> simp [Option.filter, hid]

-- ===================================================== rosters

/-- The IDs and the numbers of all watches, in the order in which they began. -/
def roster (m : Monitor η) : List (String × Nat) := m.watches.map fun e => (e.1, e.2.1)

variable {m m' : Monitor η} {id : String} {log : List (Move η)}

/-- A session stands in the roster by the number of its watch. -/
theorem lookup_roster (m : Monitor η) (id : String) :
    m.roster.lookup id = (m.watch? id).map (·.1) := by
  unfold roster watch?
  induction m.watches with
  | nil => rfl
  | cons e watches ih =>
      rw [List.map_cons, List.lookup_cons, List.lookup_cons, ih]
      cases id == e.1 <;> rfl

/-- A number is current if it is the one in the roster. -/
theorem isCurrent_eq (m : Monitor η) (id : String) (n : Nat) :
    m.isCurrent id n = (m.roster.lookup id == some n) := by
  rw [lookup_roster, isCurrent, watch?]
  cases m.watches.lookup id <;> simp

/-- A session is watched if it is in the roster. -/
theorem isMonitoring_eq (m : Monitor η) (id : String) :
    m.isMonitoring id = (m.roster.lookup id).isSome := by
  rw [lookup_roster, isMonitoring, watch?, Option.isSome_map]

/-- The sessions are listed as they stand in the roster. -/
theorem list_eq (m : Monitor η) : m.list = m.roster.map (·.1) := by
  unfold list roster
  rw [List.map_map]
  rfl

-- ===================================================== what acts do to the roster

/-- That a watch has begun under an ID, and a worker was made for it. -/
structure Hired (m : Monitor η) (id : String) (m' : Monitor η) : Prop where
  vacant : m.roster.lookup id = none
  roster : m'.roster = m.roster ++ [(id, m.nextNumber)]
  workers : m'.workers = m.workers.filter (·.1 != id) ++ [(id, m.nextNumber)]
  next : m'.nextNumber = m.nextNumber + 1
  shut : m'.isShutDown = m.isShutDown

/-- Registering gives the next number to a new watch, or fails because there is one. -/
theorem register_hired (m : Monitor η) (now : Stamp) (id : String) (pid : Int) :
    (m.register now id pid).1 = .ok m.nextNumber ∧ Hired m id (m.register now id pid).2
      ∨ m.register now id pid = (.error (.alreadyMonitored id), m) ∧ m.isMonitoring id := by
  unfold register refuseWatched
  cases hwatched : m.isMonitoring id with
  | true => exact .inr ⟨rfl, rfl⟩
  | false =>
      refine .inl ⟨rfl, ?_, ?_, rfl, rfl, rfl⟩
      · rw [isMonitoring_eq] at hwatched
        simpa using hwatched
      · simp [roster]

/-- That the watch under an ID has ended, and its worker is none any more. -/
structure Dropped (m : Monitor η) (id : String) (m' : Monitor η) : Prop where
  roster : m'.roster = m.roster.filter (·.1 != id)
  workers : m'.workers = m.workers.filter (·.1 != id)
  next : m'.nextNumber = m.nextNumber
  shut : m'.isShutDown = m.isShutDown

/-- Deregistering drops the watch, or fails because there is none. -/
theorem deregister_dropped (m : Monitor η) (id : String) :
    (m.deregister id).1 = .ok () ∧ Dropped m id (m.deregister id).2
      ∨ m.deregister id = (.error (.unmonitored id), m) := by
  unfold deregister find
  cases m.watches.lookup id with
  | none => exact .inr rfl
  | some e =>
      refine .inl ⟨rfl, ?_, rfl, rfl, rfl⟩
      unfold roster
      rw [List.filter_map]
      rfl

/-- That nothing has changed of the roster, nor of the workers unless they were all stopped. -/
structure SameStaff (m m' : Monitor η) : Prop where
  roster : m'.roster = m.roster
  next : m'.nextNumber = m.nextNumber
  workers : m'.isShutDown = false → m'.workers = m.workers ∧ m.isShutDown = false

theorem SameStaff.refl (m : Monitor η) : SameStaff m m := ⟨rfl, rfl, fun h => ⟨rfl, h⟩⟩

/-- What a watch holds makes no difference to the roster. -/
theorem roster_setWatch (m : Monitor η) (id : String) (w : Watch) :
    (m.setWatch id w).roster = m.roster := by
  unfold setWatch roster
  rw [List.map_map]
  apply List.map_congr_left
  intro e _
  dsimp only [Function.comp]
  split <;> rfl

/-- A commit begins and ends no watch. -/
private theorem commit_sameStaff (m : Monitor η) (now : Stamp) (id : String) (a : Activity)
    (trigger : String) : SameStaff m (m.commit now id a trigger).2 := by
  unfold commit
  cases m.find id with
  | error f => exact SameStaff.refl m
  | ok w =>
      dsimp only
      split
      · exact SameStaff.refl m
      · exact ⟨roster_setWatch m id _, rfl, fun h => ⟨rfl, h⟩⟩

-- ===================================================== the invariant

/-- That the workers on the roster are in order: their watches are the only ones with workers
that are current, and the monitor has these as its workers until it is shut down. -/
structure Staffed (m : Monitor η) (log : List (Move η)) : Prop where
  given : ∀ h ∈ hires log, h.number < m.nextNumber
  numbered : ((hires log).map (·.number)).Nodup
  current : ((hires log).map Hire.entry).filter (fun e => m.roster.lookup e.1 == some e.2)
    = m.roster
  tenure : ∀ id, (tenure id log).map (·.number) = (m.roster.lookup id).toList
  distinct : (m.roster.map (·.1)).Nodup
  workers : m.isShutDown = false → m.workers = m.roster

/-- A new monitor has nobody on its roster. -/
theorem staffed_new (table : List Signal.Row) (hooks : List η) :
    Staffed { table, hooks } ([] : List (Move η)) := by
  constructor <;> simp [hires, tenure, roster]

/-- A move that begins and ends no watch changes nothing. -/
theorem Staffed.same (h : Staffed m log) (hm : SameStaff m m') {e : Move η}
    (hhire : e.hire? = none) (hends : ∀ id, e.ends id = false) : Staffed m' (e :: log) := by
  have hhires : hires (e :: log) = hires log := by
    rw [hires_cons, hhire, Option.toList_none, List.append_nil]
  constructor
  case given =>
    rw [hhires, hm.next]
    exact h.given
  case numbered =>
    rw [hhires]
    exact h.numbered
  case current =>
    rw [hhires, hm.roster]
    exact h.current
  case tenure =>
    intro id
    rw [Monitor.tenure, hends, hhire, hm.roster, ← h.tenure id]
    simp
  case distinct =>
    rw [hm.roster]
    exact h.distinct
  case workers =>
    intro hopen
    obtain ⟨hworkers, hbefore⟩ := hm.workers hopen
    rw [hworkers, hm.roster]
    exact h.workers hbefore

/-- The worker of a watch that begins is the only new one, and passes. -/
theorem Staffed.hired (h : Staffed m log) (hm : Hired m id m') {e : Move η} {call : Nat}
    (hhire : e.hire? = some ⟨call, id, m.nextNumber⟩) (hends : ∀ id, e.ends id = false) :
    Staffed m' (e :: log) := by
  have hhires : hires (e :: log) = hires log ++ [⟨call, id, m.nextNumber⟩] := by
    rw [hires_cons, hhire]
    rfl
  have hlookup (other : String) : m'.roster.lookup other
      = if other = id then some m.nextNumber else m.roster.lookup other := by
    rw [hm.roster, List.lookup_append, List.lookup_cons]
    by_cases hother : other = id
    · simp [hother, hm.vacant]
    · have hne : (other == id) = false := by simpa using hother
      simp [hother, hne]
  constructor
  case given =>
    intro hire hmem
    rw [hhires, List.mem_append, List.mem_singleton] at hmem
    rw [hm.next]
    rcases hmem with hold | rfl
    · exact Nat.lt_succ_of_lt (h.given hire hold)
    · exact Nat.lt_succ_self _
  case numbered =>
    rw [hhires, List.map_append, List.nodup_append]
    refine ⟨h.numbered, by simp, ?_⟩
    rintro number hnumber _ hnew rfl
    obtain ⟨hire, hmem, rfl⟩ := List.mem_map.1 hnumber
    obtain hsame : hire.number = m.nextNumber := by simpa using hnew
    exact Nat.ne_of_lt (h.given hire hmem) hsame
  case current =>
    have hold : ((hires log).map Hire.entry).filter (fun e => m'.roster.lookup e.1 == some e.2)
        = m.roster := by
      rw [← h.current]
      apply List.filter_congr
      intro entry hentry
      obtain ⟨hire, hmem, rfl⟩ := List.mem_map.1 hentry
      rw [hlookup]
      by_cases hid : hire.id = id
      · -- no worker that was made before has the number of the new watch
        have hne : m.nextNumber ≠ hire.number := Nat.ne_of_gt (h.given hire hmem)
        simp [Hire.entry, hid, hm.vacant, hne]
      · simp [Hire.entry, hid]
    rw [hhires, List.map_append, List.filter_append, hold, hm.roster]
    congr 1
    rw [← hm.roster]
    simp [Hire.entry, hlookup]
  case tenure =>
    intro other
    rw [Monitor.tenure, hends, hhire, hlookup]
    have hbefore := h.tenure other
    by_cases hother : other = id
    · subst hother
      rw [hm.vacant] at hbefore
      simp only [Option.toList_none, List.map_eq_nil_iff] at hbefore
      simp [hbefore, Option.filter]
    · simp [hother, Ne.symm hother, hbefore, Option.filter]
  case distinct =>
    rw [hm.roster, List.map_append, List.nodup_append]
    refine ⟨h.distinct, by simp, ?_⟩
    rintro key hkey _ hnew rfl
    rw [List.map_singleton, List.mem_singleton] at hnew
    obtain ⟨entry, hentry, rfl⟩ := List.mem_map.1 hkey
    have hfound := lookup_of_mem h.distinct hentry
    rw [hnew, hm.vacant] at hfound
    cases hfound
  case workers =>
    intro hopen
    rw [hm.shut] at hopen
    rw [hm.workers, hm.roster, h.workers hopen]
    congr 1
    rw [List.filter_eq_self]
    intro entry hentry
    have hne := List.lookup_eq_none_iff.1 hm.vacant entry hentry
    simpa using Ne.symm (by simpa using hne)

/-- The worker of a watch that ends does not pass any more. -/
theorem Staffed.dropped (h : Staffed m log) (hm : Dropped m id m') {e : Move η}
    (hhire : e.hire? = none) (hends : ∀ other, e.ends other = (id == other)) :
    Staffed m' (e :: log) := by
  have hhires : hires (e :: log) = hires log := by
    rw [hires_cons, hhire, Option.toList_none, List.append_nil]
  have hlookup (other : String) : m'.roster.lookup other
      = if other = id then none else m.roster.lookup other := by
    rw [hm.roster]
    by_cases hother : other = id
    · rw [if_pos hother, hother]
      exact lookup_filter_self id m.roster
    · rw [if_neg hother]
      exact lookup_filter_ne hother m.roster
  constructor
  case given =>
    rw [hhires, hm.next]
    exact h.given
  case numbered =>
    rw [hhires]
    exact h.numbered
  case current =>
    rw [hhires]
    calc ((hires log).map Hire.entry).filter (fun e => m'.roster.lookup e.1 == some e.2)
        = (((hires log).map Hire.entry).filter fun e => m.roster.lookup e.1 == some e.2).filter
            (·.1 != id) := by
          rw [List.filter_filter]
          apply List.filter_congr
          intro entry _
          rw [hlookup]
          by_cases hid : entry.1 = id <;> simp [hid]
      _ = m'.roster := by rw [h.current, hm.roster]
  case tenure =>
    intro other
    rw [Monitor.tenure, hends, hlookup, hhire]
    by_cases hother : other = id
    · simp [hother]
    · have hne : (id == other) = false := by simpa using Ne.symm hother
      simp [hother, hne, h.tenure other]
  case distinct =>
    rw [hm.roster]
    exact h.distinct.sublist (List.filter_sublist.map _)
  case workers =>
    intro hopen
    rw [hm.shut] at hopen
    rw [hm.workers, hm.roster, h.workers hopen]

/-- Every move keeps the staff in order. -/
theorem Staffed.move (h : Staffed m log) (call : Nat) (r : Request) (x : Act η) (now : Stamp)
    (world : World) :
    Staffed (x.perform now world m).2 (⟨call, r, x, (x.perform now world m).1, now, m⟩ :: log) := by
  cases x with
  | register id pid =>
      show Staffed (m.register now id pid).2
        (⟨_, _, .register id pid, (m.register now id pid).1, _, _⟩ :: log)
      rcases register_hired m now id pid with ⟨hok, hhired⟩ | ⟨hrefused, -⟩
      · rw [hok]
        exact h.hired hhired rfl fun _ => rfl
      · rw [hrefused]
        exact h.same (SameStaff.refl m) rfl fun _ => rfl
  | deregister id =>
      show Staffed (m.deregister id).2 (⟨_, _, .deregister id, (m.deregister id).1, _, _⟩ :: log)
      rcases deregister_dropped m id with ⟨hok, hdropped⟩ | hrefused
      · rw [hok]
        exact h.dropped hdropped rfl fun _ => rfl
      · rw [hrefused]
        exact h.same (SameStaff.refl m) rfl fun _ => rfl
  | record id a trigger => exact h.same (commit_sameStaff m now id a trigger) rfl fun _ => rfl
  | dismiss =>
      have hsame : SameStaff m m.shutDown.2 := ⟨rfl, rfl, fun hopen => by cases hopen⟩
      exact h.same hsame rfl fun _ => rfl
  | _ => exact h.same (SameStaff.refl m) rfl fun _ => rfl

end PaneWatch.Monitor
