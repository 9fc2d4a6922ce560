/-
When a session is stale, by instants.

The time of the last access is kept as what clocks showed in the local zone, and compared as that.
It may have been given in any other zone, as a timestamp or as ISO text. What is kept stands for the
instant that was given (`lastAccess_of_given`), and a file gives it back (`Shows.lastAccess`); so
what is compared are instants, however they were written.
-/
import PaneWatch.Proofs.Registry.Aging
import PaneWatch.Proofs.Registry.Reload
import PaneWatch.Proofs.Registry.Updating
import PaneWatch.Proofs.Time.Instant
import PaneWatch.Proofs.Time.IsoText

namespace PaneWatch.Registry

open Session (Record)
open Time (HasStamps IsWholeMinutes Moment Spells Stamp localOffset)

-- ===================================================== timestamps that are given

/-- That a value is a timestamp with an offset, as such or as ISO text. -/
inductive IsTimestamp : Value → Stamp → Int → Prop where
  | itself (s : Stamp) (o : Int) : IsTimestamp (.moment ⟨s, some o⟩) s o
  | text {text : String} {s : Stamp} {o : Int} (h : Spells text s o) : IsTimestamp (.text text) s o

variable {v : Value} {s : Stamp} {o : Int}

/-- A timestamp is read as its moment. -/
theorem IsTimestamp.momentOf? (h : IsTimestamp v s o) :
    Change.momentOf? v = some ⟨s, some o⟩ := by
  cases h with
  | itself => rfl
  | text h => exact h.read?

/-- Data entry takes no text with an offset that has seconds. -/
theorem IsTimestamp.check (h : IsTimestamp v s o) (hwhole : IsWholeMinutes o) :
    Check.moment v = .ok ⟨s, some o⟩ := by
  cases h with
  | itself => rfl
  | text h =>
      rw [Record.moment_text, h.ofText hwhole]
      rfl

/-- That the last access of a session was given as a timestamp with an offset, in the data that the
session was made of or by an update that was not refused. -/
inductive Given [Time.Zone] (s : Stamp) (o : Int) : Record → Prop where
  | data {now : Stamp} {entries : List (Value × Value)} {v : Value} {e : Record}
      (hv : Value.lookup? "last_access" entries = some v)
      (hmoment : Check.moment v = .ok ⟨s, some o⟩)
      (he : Record.check now (.map entries) = .ok (.valid e)) : Given s o e
  | update {key : String} {updates : Keyed Value} {d : Desk} {v : Value} {e : Record}
      (hv : updates.find? "last_access" = some v)
      (hmoment : Change.momentOf? v = some ⟨s, some o⟩)
      (haccepted : ∀ f, ((Registry.update key updates.entries).on d).1 = .error f →
        f.kind = .storage)
      (he : ((Registry.update key updates.entries).on d).2.registry.find? key = some e) :
      Given s o e

private theorem lastAccess_of_check [Time.Zone] {now : Stamp} {entries : List (Value × Value)}
    {m : Moment} {e : Record}
    (hv : Value.lookup? "last_access" entries = some v) (hmoment : Check.moment v = .ok m)
    (he : Record.check now (.map entries) = .ok (.valid e)) : m.toLocal? = some e.lastAccess := by
  have hfield := Record.stampField_of_check he
  rw [Record.stampField, hv] at hfield
  dsimp only at hfield
  cases hlocal : m.toLocal? with
  | none =>
      rw [Record.checkStamp_eq_error.2 ⟨rfl, m, hmoment, hlocal⟩] at hfield
      cases hfield
  | some t =>
      rw [Record.checkStamp_of_moment hmoment hlocal] at hfield
      cases hfield
      rfl

private theorem lastAccess_of_update [Time.Zone] {key : String} {updates : Keyed Value} {d : Desk}
    {m : Moment}
    {e : Record} (hv : updates.find? "last_access" = some v)
    (hmoment : Change.momentOf? v = some m)
    (haccepted : ∀ f, ((Registry.update key updates.entries).on d).1 = .error f →
      f.kind = .storage)
    (he : ((Registry.update key updates.entries).on d).2.registry.find? key = some e) :
    m.toLocal? = some e.lastAccess := by
  rcases Operation.on_update_cases key updates.entries d with
    ⟨f, hread, hon⟩ | ⟨changes, hread, ⟨-, hon⟩ | ⟨old, new, -, rfl, hend⟩⟩
  · obtain ⟨⟨key', v'⟩, -, hbad⟩ := exists_of_mapM_eq_error hread
    rw [hon] at haccepted
    exact absurd (haccepted f rfl) (Change.kind_read hbad)
  · rw [hon] at haccepted
    cases haccepted _ rfl
  · rcases hend with ⟨-, hon⟩ | ⟨-, hsaves⟩
    · rw [hon] at haccepted
      cases haccepted _ rfl
    · rw [hsaves.registry] at he
      have hnew : some (changes.foldl Change.apply old) = some e :=
        (lookup_insert_self key _ _).symm.trans he
      cases hnew
      have haccess := (applied_foldl updates.distinct hread old).lastAccess
      rw [Sets, show updates.entries.lookup "last_access" = some v from hv] at haccess
      obtain ⟨m', hm', hlocal⟩ := haccess
      rw [hmoment] at hm'
      cases hm'
      exact hlocal

/-- What is kept is the local time of what was given. -/
theorem lastAccess_of_given [Time.Zone] {e : Record} (h : Given s o e) :
    (⟨s, some o⟩ : Moment).toZone? localOffset = some e.lastAccess := by
  cases h with
  | data hv hmoment he => exact lastAccess_of_check hv hmoment he
  | update hv hmoment haccepted he => exact lastAccess_of_update hv hmoment haccepted he

-- ===================================================== saving and reloading

/-- Sessions with the same members were last used at the same times. -/
theorem lastAccess_of_members {entries entries' : List (String × Record)}
    {members : List (String × Json)} (h : entries.mapM memberOf = .ok members)
    (h' : entries'.mapM memberOf = .ok members) (key : String) :
    (entries'.lookup key).map (·.lastAccess) = (entries.lookup key).map (·.lastAccess) := by
  induction entries generalizing entries' members with
  | nil =>
      cases h
      cases entries' with
      | nil => rfl
      | cons e' entries' =>
          obtain ⟨j, others, -, -, hmembers⟩ := mapM_memberOf_cons h'
          cases hmembers
  | cons e entries ih =>
      obtain ⟨j, others, hj, hothers, rfl⟩ := mapM_memberOf_cons h
      cases entries' with
      | nil => cases h'
      | cons e' entries' =>
          obtain ⟨j', others', hj', hothers', hmembers⟩ := mapM_memberOf_cons h'
          obtain ⟨hmember, rfl⟩ := List.cons.inj hmembers
          obtain ⟨hkey, rfl⟩ := Prod.mk.inj hmember
          rw [List.lookup_cons, List.lookup_cons, hkey]
          split
          · exact congrArg some (Record.lastAccess_of_toJson hj hj')
          · exact ih hothers hothers'

/-- Who shows the same sessions shows the same last accesses. -/
theorem Shows.lastAccess {r r' : Registry} (h : r.Shows r') (key : String) :
    (r'.find? key).map (·.lastAccess) = (r.find? key).map (·.lastAccess) := by
  obtain ⟨-, members, hmembers, hmembers'⟩ := h
  exact lastAccess_of_members hmembers hmembers' key

-- ===================================================== stale sessions

/-- What was last used at an instant is stale exactly if that comes before the instant of the
cutoff. -/
theorem mem_candidates_iff_instant {zone : Int} {r : Registry} {key : String} {t limit now : Stamp}
    {age : Int} (hzone : (⟨s, some o⟩ : Moment).toZone? zone = some t)
    (hkept : (r.find? key).map (·.lastAccess) = some t) (hlimit : now.add? (-age) = some limit) :
    key ∈ r.candidates (cutoff now age) ↔ s.instant o < limit.instant zone := by
  obtain ⟨e, he, rfl⟩ := Option.map_eq_some_iff.1 hkept
  rw [mem_candidates, he, Option.any_some, cutoff, hlimit, Option.getD_some, isStale,
    Stamp.before_iff_instant, (Moment.toZone?_eq_some_iff.1 hzone).2]

-- ===================================================== the whole

/-- Whatever the local zone is: timestamps of any offsets that have a UTC time and a local time
become local times that compare as their instants do. It makes no difference whether they come as
such or as ISO text, in the data of a session or in an update: the local time is what is kept, and a
file gives it back. So a session is stale exactly if the instant at which it was last used comes
before that of the cutoff, for every age for which the calendar reaches back to that. -/
theorem staleness_by_instant [Time.Zone] :
    (∀ s s' o o', HasStamps localOffset (s.instant o) → HasStamps localOffset (s'.instant o') →
        ∃ t t', (⟨s, some o⟩ : Moment).toZone? localOffset = some t
            ∧ (⟨s', some o'⟩ : Moment).toZone? localOffset = some t'
            ∧ (t.before t' ↔ s.instant o < s'.instant o')
            ∧ (t = t' ↔ s.instant o = s'.instant o')
            ∧ (t'.before t ↔ s'.instant o' < s.instant o))
      ∧ (∀ v s o, IsTimestamp v s o → Change.momentOf? v = some ⟨s, some o⟩
          ∧ (IsWholeMinutes o ∨ v = .moment ⟨s, some o⟩ → Check.moment v = .ok ⟨s, some o⟩))
      ∧ (∀ v s o t, (⟨s, some o⟩ : Moment).toZone? localOffset = some t →
          (Check.moment v = .ok ⟨s, some o⟩ → Record.checkStamp v = .ok (.valid t))
            ∧ (Change.momentOf? v = some ⟨s, some o⟩ →
              Change.read "last_access" v = .ok (.lastAccess t)))
      ∧ (∀ s o e, Given s o e →
          (⟨s, some o⟩ : Moment).toZone? localOffset = some e.lastAccess)
      ∧ (∀ (r : Registry) (bytes : List UInt8) (now : Stamp), r.encode = .ok bytes →
          r.ReadsBack → ∃ sessions, decode now bytes = .ok (.sessions sessions)
            ∧ ∀ key, (sessions.find? key).map (·.lastAccess) = (r.find? key).map (·.lastAccess))
      ∧ ∀ (s : Stamp) (o : Int) (t : Stamp) (r : Registry) (key : String)
          (now limit : Stamp) (age : Int), (⟨s, some o⟩ : Moment).toZone? localOffset = some t →
          (r.find? key).map (·.lastAccess) = some t → now.add? (-age) = some limit →
            (key ∈ r.candidates (cutoff now age) ↔ s.instant o < limit.instant localOffset) := by
  refine ⟨?_, ?_, ?_, fun _ _ _ => lastAccess_of_given, ?_, ?_⟩
  · intro s s' o o' h h'
    obtain ⟨t, ht⟩ := Moment.exists_toZone?_iff.2 h
    obtain ⟨t', ht'⟩ := Moment.exists_toZone?_iff.2 h'
    have hinstant := (Moment.toZone?_eq_some_iff.1 ht).2
    have hinstant' := (Moment.toZone?_eq_some_iff.1 ht').2
    refine ⟨t, t', ht, ht', ?_, ?_, ?_⟩
    · rw [Stamp.before_iff_instant, hinstant, hinstant']
    · rw [← Stamp.instant_inj, hinstant, hinstant']
    · rw [Stamp.before_iff_instant, hinstant, hinstant']
  · intro v s o h
    refine ⟨h.momentOf?, ?_⟩
    rintro (hwhole | rfl)
    · exact h.check hwhole
    · rfl
  · intro v s o t hlocal
    constructor
    · intro hmoment
      exact Record.checkStamp_of_moment hmoment hlocal
    · intro hmoment
      exact Change.read_of_asks (.access ⟨_, hmoment, hlocal⟩)
  · intro r bytes now hencode hback
    obtain ⟨sessions, hdecode, hshows⟩ := decode_of_encode now hencode hback
    exact ⟨sessions, hdecode, hshows.lastAccess⟩
  · intro s o t r key now limit age hzone hkept hlimit
    exact mem_candidates_iff_instant hzone hkept hlimit

/-- A session that was last used at midnight fourteen hours ahead of UTC. -/
def eastEntries : List (Value × Value) :=
  [(.text "id", .text "a"), (.text "last_access", .text "2024-06-15T00:00:00+14:00")]

/-- A registry of one session under the key `a`. -/
def registryOf (e : Record) : Registry := emptyDesk.registry.insert "a" e

/-- Midnight fourteen hours ahead of UTC comes before midnight of the same date twelve hours behind
it. A session that was last used then is stale at noon if ten hours are too long. And a session that
was written to a file was last used then as it was before. -/
theorem staleness_by_instant_midnight :
    let s : Stamp := .midnight ⟨2024, 6, 15⟩
    let east : Int := 14 * Time.hour
    let west : Int := -12 * Time.hour
    let noon : Stamp := ⟨⟨2024, 6, 15⟩, 12, 0, 0, 0⟩
    (HasStamps localOffset (s.instant east) ∧ HasStamps localOffset (s.instant west)
        ∧ IsTimestamp (.text "2024-06-15T00:00:00+14:00") s east ∧ IsWholeMinutes east)
      ∧ (∃ t t', (⟨s, some east⟩ : Moment).toZone? localOffset = some t
        ∧ (⟨s, some west⟩ : Moment).toZone? localOffset = some t' ∧ t.before t')
      ∧ (∃ e, Record.check noon (.map eastEntries) = .ok (.valid e)
        ∧ "a" ∈ (registryOf e).candidates (cutoff noon (10 * Time.hour)))
      ∧ ∃ bytes sessions, caughtUp.2.registry.encode = .ok bytes
        ∧ decode noon bytes = .ok (.sessions sessions)
        ∧ (sessions.find? "s").map (·.lastAccess) = some sampleSession.lastAccess := by
  intro s east west noon
  obtain ⟨hzones, hread, -, hkept, hreload, hstale⟩ := staleness_by_instant
  have heast : HasStamps localOffset (s.instant east) := ⟨by decide +kernel, by decide +kernel⟩
  have hwest : HasStamps localOffset (s.instant west) := ⟨by decide +kernel, by decide +kernel⟩
  have htext : IsTimestamp (.text "2024-06-15T00:00:00+14:00") s east := by
    have h := IsTimestamp.text (.offset s (show east.natAbs < Time.day by decide))
    rwa [show s.toText ++ Moment.offsetText east = "2024-06-15T00:00:00+14:00" by
      decide +kernel] at h
  have hwhole : IsWholeMinutes east := by decide
  refine ⟨⟨heast, hwest, htext, hwhole⟩, ?_, ?_, ?_⟩
  · obtain ⟨t, t', ht, ht', hbefore, -⟩ := hzones s s east west heast hwest
    exact ⟨t, t', ht, ht', hbefore.2 (by decide)⟩
  · obtain ⟨-, hmoment⟩ := hread _ s east htext
    obtain ⟨e, he⟩ : ∃ e, Record.check noon (.map eastEntries) = .ok (.valid e) := ⟨_, rfl⟩
    have hgiven : Given s east e := .data rfl (hmoment (.inl hwhole)) he
    have hkey : ((registryOf e).find? "a").map (·.lastAccess) = some e.lastAccess := rfl
    obtain ⟨limit, hlimit⟩ : ∃ limit, noon.add? (-(10 * Time.hour)) = some limit :=
      Stamp.exists_add? (by decide +kernel)
    refine ⟨e, he, (hstale s east _ _ "a" noon limit _ (hkept s east e hgiven) hkey
      hlimit).2 ?_⟩
    rw [Stamp.instant, Stamp.instant, Stamp.micros_of_add? hlimit]
    decide +kernel
  · obtain ⟨bytes, hbytes, -⟩ := Operation.run_wrote saveAfterFault_wrote
    obtain ⟨sessions, hdecode, hsame⟩ := hreload _ bytes noon hbytes readsBack_caughtUp
    refine ⟨bytes, sessions, hbytes, hdecode, (hsame "s").trans ?_⟩
    rfl

end PaneWatch.Registry
