/-
What a request for a clean-up does.

The endpoint does one of three things: with an age it runs the clean-up, with a reason it refuses
and leaves everything as it is, and with an accident it fails. Which of them it does depends on the
body and the usual age alone. While panes are asked about anything may happen to the registry, as
everywhere.

For an object this is as promised unless the age is an integer too large for a number
(`cleanUp_object_iff`). What is no object is refused unless it counts as no body
(`cleanUp_nonObject_iff`).
-/
import PaneWatch.Http.Api
import PaneWatch.Proofs.Http.Age
import PaneWatch.Proofs.Json.Integer
import PaneWatch.Proofs.Monitor.Room
import PaneWatch.Proofs.Registry.Sweeping
import PaneWatch.Proofs.Settings.Bounds

namespace PaneWatch

namespace Registry

open Time (Stamp Span)

/-- That a clean-up has succeeded: so many sessions as it says are gone, and what is left has been
written if any are. -/
structure Cleaned (before after : Desk) (removed : Nat) : Prop where
  size : after.registry.size + removed = before.registry.size
  written : removed = 0 ∧ after = before
    ∨ (after.registry.write before.machine.disk).1 = .ok ()

/-- A sweep succeeds, or what is left cannot be written. -/
theorem sweep_ends (limit : Stamp) (gone : List String) (d : Desk) :
    (∃ removed, ((sweep limit gone).on d).1 = .ok removed
        ∧ Cleaned d ((sweep limit gone).on d).2 removed)
      ∨ ∃ f, ((sweep limit gone).on d).1 = .error f
        ∧ (((sweep limit gone).on d).2.registry.write d.machine.disk).1 = .error f := by
  rcases sweep_cases limit gone d with ⟨-, hdone⟩ | ⟨-, hsaves, houtcome⟩
  · rw [hdone]
    exact .inl ⟨0, rfl, rfl, .inl ⟨rfl, rfl⟩⟩
  · rw [hsaves.registry]
    rw [← hsaves.registry] at houtcome
    cases hwrite : ((d.registry.removeStale limit gone).1.write d.machine.disk).1 with
    | error f =>
        rw [hsaves.registry, hwrite] at houtcome
        exact .inr ⟨f, houtcome, rfl⟩
    | ok u =>
        rw [hsaves.registry, hwrite] at houtcome
        refine .inl ⟨_, houtcome, ?_, .inr ?_⟩
        · rw [hsaves.registry]
          exact size_filter_not _ _
        · rw [hsaves.registry, hwrite]

variable (ask : String → StateM Desk (Except Failure Bool)) (age : Span) (d : Desk)

/-- The desk that a clean-up finds when its last question is answered. -/
def asked : Desk := (survey ask (d.registry.candidates (cutoff d.machine.now age.micros)) d).2

/-- That a clean-up is over with an answer that does not count, and what got through with it. -/
structure Interrupted (f : Failure) (after : Desk) : Prop where
  answer : ∃ e ∈ (survey ask (d.registry.candidates (cutoff d.machine.now age.micros)) d).1,
    Reach.isGone e.2 = .error f
  kept : after = asked ask age d

/-- A clean-up succeeds, or what is left cannot be written, or an answer does not count. -/
theorem cleanUp_ends :
    (∃ removed, ((reachAmid ask).cleanUp age d).1 = .ok removed
        ∧ Cleaned (asked ask age d) ((reachAmid ask).cleanUp age d).2 removed)
      ∨ (∃ f, ((reachAmid ask).cleanUp age d).1 = .error f
        ∧ (((reachAmid ask).cleanUp age d).2.registry.write (asked ask age d).machine.disk).1
          = .error f)
      ∨ ∃ f, ((reachAmid ask).cleanUp age d).1 = .error f
        ∧ Interrupted ask age d f ((reachAmid ask).cleanUp age d).2 := by
  rcases cleanUp_amid ask age d with ⟨e, he, -, f, hf, hdone⟩ | ⟨-, hdone⟩
  · rw [hdone]
    exact .inr (.inr ⟨f, rfl, ⟨e, he, hf⟩, rfl⟩)
  · rw [hdone]
    rcases sweep_ends _ _ _ with hcleaned | hunwritten
    · exact .inl hcleaned
    · exact .inr (.inl hunwritten)

/-- What gets through is no failure of the storage. -/
theorem Interrupted.kind {f : Failure} {after : Desk} (h : Interrupted ask age d f after) :
    f.kind ≠ .storage := by
  obtain ⟨e, -, hgone⟩ := h.answer
  intro hkind
  have hforeign := isOwn_of_isGone hgone
  rw [hkind] at hforeign
  cases hforeign

end Registry

namespace Http

open Registry (Desk reachAmid)
open Time (Span)

-- ===================================================== requests

/-- That a request asks for a clean-up. -/
structure AsksCleanUp (r : Request) : Prop where
  method : r.method = "POST"
  path : r.target.path = "/api/sessions/cleanup"

variable {η : Type} (mon : Monitor.Reach (StateM Desk) η)
  (ask : String → StateM Desk (Except Failure Bool)) (settings : Option Settings)

/-- The endpoints over a registry on a desk, where anything may happen until a question about
panes is answered. -/
def deskApi : Api (StateM Desk) η := ⟨mon, reachAmid ask, settings⟩

/-- What replying to a request comes to. -/
def replied (r : Request) (d : Desk) : Reply × Desk := ((deskApi mon ask settings).reply r).run d

/-- The hours after which a session is stale unless a request says otherwise. -/
def usualHours : Int := (settings.getD {}).tmux.cleanupAgeHours

/-- That a clean-up of some age has been run, and the reply tells how many sessions it has removed,
or why what is left could not be written, or that an answer about panes did not count. -/
structure Ran (age : Span) (d : Desk) (done : Reply × Desk) : Prop where
  left : done.2 = ((reachAmid ask).cleanUp age d).2
  told : (∃ removed : Nat, done.1 = .data 200 [("removed", .int removed)]
      ∧ Registry.Cleaned (Registry.asked ask age d) done.2 removed)
    ∨ (∃ f, done.1 = .refusal 500 f.message ∧ f.kind = .storage
      ∧ (done.2.registry.write (Registry.asked ask age d).machine.disk).1 = .error f)
    ∨ ∃ f, done.1 = .ofFailure f ∧ Registry.Interrupted ask age d f done.2

/-- That a request is refused, and nothing has changed. -/
def Refused (d : Desk) (done : Reply × Desk) : Prop := done.1.status = 400 ∧ done.2 = d

variable {mon ask settings} {r : Request} {age : Span} {d : Desk} {done : Reply × Desk}

/-- A reply that tells of a clean-up is no refusal. -/
private theorem Ran.not_refused (h : Ran ask age d done) : ¬Refused d done := by
  intro hrefused
  obtain ⟨hstatus, -⟩ := hrefused
  rcases h.told with ⟨removed, hreply, -⟩ | ⟨f, hreply, -⟩ | ⟨f, hreply, -⟩
  · rw [hreply] at hstatus
    cases hstatus
  · rw [hreply] at hstatus
    cases hstatus
  · rw [hreply, Reply.ofFailure] at hstatus
    split at hstatus
    · cases hstatus
    · cases hstatus

/-- The reply is what the handler gives, or the one to a failure that it does not answer for. -/
theorem replied_eq (h : AsksCleanUp r) (d : Desk) :
    replied mon ask settings r d
      = match ((deskApi mon ask settings).cleanUp r.json?).run d with
        | (.ok reply, d') => (reply, d')
        | (.error f, d') => (.ofFailure f, d') := by
  have hroute : Route.find r.method r.target.path = .to .cleanUp := by
    rw [h.method, h.path]
    decide +kernel
  have hhead : (r.method == "HEAD") = false := by
    rw [h.method]
    decide
  have hserve : ((deskApi mon ask settings).serve r .cleanUp).run d
      = match ((deskApi mon ask settings).cleanUp r.json?).run d with
        | (.ok reply, d') => (reply, d')
        | (.error f, d') => (.ofFailure f, d') := by
    unfold Api.serve Api.handle
    rw [Monitor.run_bind]
    rcases ((deskApi mon ask settings).cleanUp r.json?).run d with ⟨f | reply, d'⟩ <;> rfl
  unfold replied Api.reply
  rw [hroute]
  dsimp only
  rw [Monitor.run_bind, hserve, hhead]
  rcases ((deskApi mon ask settings).cleanUp r.json?).run d with ⟨f | reply, d'⟩ <;> rfl

/-- What the handler does, by the age that the body gives. -/
theorem run_cleanUp (body : Option Json) (d : Desk) :
    ((deskApi mon ask settings).cleanUp body).run d
      = match Age.ofBody (usualHours settings) body with
        | .refused reason => (.ok (.refusal 400 reason), d)
        | .accident what => (.error (.accident what), d)
        | .span age => match (reachAmid ask).cleanUp age d with
          | (.ok removed, d') => (.ok (.data 200 [("removed", .int removed)]), d')
          | (.error f, d') =>
            (if f.kind == .storage then .ok (.refusal 500 f.message) else .error f, d') := by
  have husual : (deskApi mon ask settings).usualHours = usualHours settings := rfl
  unfold Api.cleanUp
  rw [husual]
  cases Age.ofBody (usualHours settings) body with
  | refused reason => rfl
  | accident what => rfl
  | span age =>
      have hreach : ((deskApi mon ask settings).registry.cleanUp age).run d
          = (reachAmid ask).cleanUp age d := rfl
      dsimp only
      rw [Monitor.run_bind, hreach]
      rcases (reachAmid ask).cleanUp age d with ⟨f | removed, d'⟩
      · dsimp only
        split <;> rfl
      · rfl

-- ===================================================== by the age

variable (mon ask settings)

/-- A body that is refused is replied to with 400 and the reason, and nothing is done. -/
private theorem replied_of_refused {reason : String} (h : AsksCleanUp r)
    (hage : Age.ofBody (usualHours settings) r.json? = .refused reason) (d : Desk) :
    replied mon ask settings r d = (.refusal 400 reason, d) := by
  rw [replied_eq h, run_cleanUp, hage]

/-- A body that makes the handler fail is replied to with a bare 500, and nothing is done. -/
private theorem replied_of_accident {what : Accident} (h : AsksCleanUp r)
    (hage : Age.ofBody (usualHours settings) r.json? = .accident what) (d : Desk) :
    replied mon ask settings r d = (.bare 500, d) := by
  rw [replied_eq h, run_cleanUp, hage]
  rfl

/-- A body with an age makes a clean-up run with this age. -/
private theorem ran_of_span (h : AsksCleanUp r)
    (hage : Age.ofBody (usualHours settings) r.json? = .span age) (d : Desk) :
    Ran ask age d (replied mon ask settings r d) := by
  have hends := Registry.cleanUp_ends ask age d
  rw [replied_eq h, run_cleanUp, hage]
  dsimp only
  cases hclean : (reachAmid ask).cleanUp age d with
  | mk outcome left =>
      rw [hclean] at hends
      obtain ⟨removed, hok, hcleaned⟩ | ⟨f, hf, hwrite⟩ | ⟨f, hf, hinterrupted⟩ := hends
      · cases hok
        exact ⟨by rw [hclean], .inl ⟨removed, rfl, hcleaned⟩⟩
      · cases hf
        have hkind := Registry.kind_of_write hwrite
        dsimp only
        rw [hkind]
        exact ⟨by rw [hclean]; rfl, .inr (.inl ⟨f, rfl, hkind, hwrite⟩)⟩
      · cases hf
        have hkind : (f.kind == .storage) = false := beq_eq_false_iff_ne.2 hinterrupted.kind
        dsimp only
        rw [hkind]
        exact ⟨by rw [hclean]; rfl, .inr (.inr ⟨f, rfl, hinterrupted⟩)⟩

-- ===================================================== what is promised

/-- What a clean-up promises about a value for the age: it runs if the value is an age, and else
refuses the request and leaves everything as it is. -/
def Promised (ask : String → StateM Desk (Except Failure Bool)) (v : Json) (d : Desk)
    (done : Reply × Desk) : Prop :=
  (∃ age, IsAge v age ∧ Ran ask age d done) ∨ (∀ age, ¬IsAge v age) ∧ Refused d done

variable {v : Json}

/-- The promise is kept unless the value is an integer too large for a number. -/
theorem promised_iff (h : AsksCleanUp r)
    (hage : Age.ofBody (usualHours settings) r.json? = Age.ofJson v) (d : Desk) :
    (Promised ask v d (replied mon ask settings r d) ↔ ¬IsHuge v)
      ∧ (IsHuge v → replied mon ask settings r d = (.bare 500, d)) := by
  rcases Age.ofJson_cases v with
    ⟨age, hnot, hisAge, hspan⟩ | ⟨hhuge, hnone, haccident⟩ | ⟨reason, hnot, hnone, hrefused⟩
  · have hran := ran_of_span mon ask settings h (hage.trans hspan) d
    exact ⟨iff_of_true (.inl ⟨age, hisAge, hran⟩) hnot, fun hhuge => absurd hhuge hnot⟩
  · have hdone := replied_of_accident mon ask settings h (hage.trans haccident) d
    refine ⟨iff_of_false ?_ (not_not.2 hhuge), fun _ => hdone⟩
    intro hpromised
    rw [hdone] at hpromised
    obtain ⟨age, hisAge, -⟩ | ⟨-, hstatus, -⟩ := hpromised
    · exact hnone age hisAge
    · cases hstatus
  · have hdone := replied_of_refused mon ask settings h (hage.trans hrefused) d
    refine ⟨iff_of_true (.inr ⟨hnone, ?_⟩) hnot, fun hhuge => absurd hhuge hnot⟩
    rw [hdone]
    exact ⟨rfl, rfl⟩

-- ===================================================== the usual age

/-- The usual hours are an age if the settings are within their bounds. -/
theorem isAge_usualHours (h : (settings.getD {}).tmux.IsBounded) :
    IsAge (.int (usualHours settings)) (Span.ofWholeHours (usualHours settings)) := by
  have hbounds := h.cleanupAgeHours
  refine Age.isAge_int_iff.2 ⟨?_, rfl⟩
  unfold usualHours
  omega

/-- What says nothing about the age asks for the usual one. -/
theorem ofBody_of_no_data {usual : Int} {body : Option Json} (h : ∀ v, body = some v → v = .null) :
    Age.ofBody usual body = Age.ofJson (.int usual) := by
  cases body with
  | none => rfl
  | some v =>
      rw [h v rfl]
      rfl

/-- A body that brings no data makes it run with the usual age. -/
private theorem ran_of_no_data (h : AsksCleanUp r) (hage : IsAge (.int (usualHours settings)) age)
    (hbody : ∀ v, r.json? = some v → v = .null) (d : Desk) :
    Ran ask age d (replied mon ask settings r d) :=
  ran_of_span mon ask settings h ((ofBody_of_no_data hbody).trans (Age.ofJson_of_isAge hage)) d

-- ===================================================== bodies with an object

/-- The value that the members of an object give for the age, the usual hours if they give none. -/
def givenHours (settings : Option Settings) (members : List (String × Json)) : Json :=
  (members.lookup "max_age_hours").getD (.int (usualHours settings))

/-- The bytes of an object that gives an integer for the age. -/
def bodyOfInteger (negative : Bool) (ds : List Char) : List UInt8 :=
  (String.ofList (Json.Reader.integerText "max_age_hours" negative ds)).toUTF8.toList

/-- A body of one integer is read as data unless the integer has too many digits. -/
private theorem json?_of_integer {negative : Bool} {ds : List Char} (hds : Json.Reader.IsNumeral ds)
    (hbody : r.body = bodyOfInteger negative ds) :
    r.json? = if r.isJson ∧ ds.length ≤ Number.maxIntDigits
      then some (.object [("max_age_hours", .int (Json.Reader.integer negative ds))])
      else none := by
  have hkey : ∀ c ∈ "max_age_hours".toList, Json.Reader.IsPlain c ∧ c.toNat < 0x80 := by
    unfold Json.Reader.IsPlain
    exact List.forall_iff_forall_mem.1 (by decide)
  have hread := Json.ofBytes?_integer hkey hds negative
  rw [Request.json?, hbody, bodyOfInteger, hread]
  by_cases hjson : r.isJson <;> simp [hjson]

/-- A clean-up that a request with an object asks for keeps its promise exactly if the value for the
age is not an integer too large for a number. With such an integer the handler fails, and nothing
has changed. An object with an integer that has too many digits is not read as one, and
what is not read as data gets the usual age. -/
theorem cleanUp_object_iff (h : AsksCleanUp r) (d : Desk) :
    (∀ members, r.json? = some (.object members) →
        (Promised ask (givenHours settings members) d (replied mon ask settings r d)
            ↔ ¬IsHuge (givenHours settings members))
          ∧ (IsHuge (givenHours settings members) →
            replied mon ask settings r d = (.bare 500, d)))
      ∧ (∀ negative ds, Json.Reader.IsNumeral ds → r.body = bodyOfInteger negative ds →
        Number.maxIntDigits < ds.length → r.json? = none)
      ∧ (r.json? = none → ∀ age, IsAge (.int (usualHours settings)) age →
        Ran ask age d (replied mon ask settings r d)) := by
  refine ⟨fun members hbody => ?_, fun negative ds hds hbody hmany => ?_,
    fun hnone age hage => ?_⟩
  · refine promised_iff mon ask settings h ?_ d
    rw [hbody]
    rfl
  · rw [json?_of_integer hds hbody, if_neg fun hfew => Nat.not_lt.2 hfew.2 hmany]
  · exact ran_of_no_data mon ask settings h hage (by simp [hnone]) d

/-- A monitor that watches nothing and only takes notes. -/
def idleMonitor : Monitor.Reach (StateM Desk) Empty where
  look f := return f {}
  register _ _ := return .error .noBackend
  deregister _ := return .error .noBackend
  record _ _ _ := return .ok none
  dismiss := return []
  resolvePid _ := return .error .noBackend
  capture _ := return .error .noBackend
  probe _ := return .error .noBackend
  launch _ _ := return .ok ()
  store _ _ _ := return .ok ()
  isStored := false
  alone act := act
  call hook := nomatch hook
  hookName hook := nomatch hook
  note level message := modify fun d => { d with machine := d.machine.logged level message }

/-- A session that was last used long ago. -/
def staleDesk : Desk where
  registry := Registry.emptyDesk.registry.insert "s"
    { Registry.sampleSession with lastAccess := Time.Stamp.midnight ⟨1970, 1, 1⟩ }
  machine := Registry.emptyDesk.machine

/-- All panes are gone. -/
def noPanes (_ : String) : StateM Desk (Except Failure Bool) := return .ok false

/-- A request for a clean-up whose body is said to be JSON. -/
def cleanUpWith (body : List UInt8) : Request :=
  ⟨"POST", ⟨"/api/sessions/cleanup", []⟩, "application/json", body⟩

/-- Such a request asks for a clean-up, whatever its body. -/
private theorem asksCleanUp_cleanUpWith (body : List UInt8) :
    AsksCleanUp (cleanUpWith body) := ⟨rfl, rfl⟩

private theorem isNumeral_replicate (n : Nat) :
    Json.Reader.IsNumeral (List.replicate (n + 1) '9') :=
  ⟨fun d hd => by rw [List.eq_of_mem_replicate hd]; decide, by simp, by simp [List.replicate_succ]⟩

/-- One hour is an age, and the stale session is removed. An integer too large for a number is
none: the handler fails. One with too many digits is not read, and the usual age removes the
session. -/
theorem cleanUp_object_staleDesk :
    let hours := cleanUpWith (bodyOfInteger false ['9'])
    let many := cleanUpWith (bodyOfInteger false (List.replicate (Number.maxIntDigits + 1) '9'))
    (AsksCleanUp hours ∧ hours.json? = some (.object [("max_age_hours", .int 9)])
        ∧ ¬IsHuge (.int 9)
        ∧ Promised noPanes (.int 9) staleDesk (replied idleMonitor noPanes none hours staleDesk))
      ∧ AsksCleanUp many ∧ many.json? = none
      ∧ IsAge (.int 24) (Span.ofWholeHours 24)
      ∧ Ran noPanes (Span.ofWholeHours 24) staleDesk
        (replied idleMonitor noPanes none many staleDesk) := by
  intro hours many
  have hread : hours.json? = some (.object [("max_age_hours", .int 9)]) :=
    (json?_of_integer (isNumeral_replicate 0) rfl).trans (if_pos (by decide +kernel))
  have hsmall : ¬IsHuge (.int 9) := by
    rw [Age.isHuge_int_iff]
    decide +kernel
  have hday : IsAge (.int 24) (Span.ofWholeHours 24) := Age.isAge_int_iff.2 ⟨by decide, rfl⟩
  have hasks : AsksCleanUp hours ∧ AsksCleanUp many :=
    ⟨asksCleanUp_cleanUpWith _, asksCleanUp_cleanUpWith _⟩
  have hhours := cleanUp_object_iff idleMonitor noPanes none hasks.1 staleDesk
  have hmany := cleanUp_object_iff idleMonitor noPanes none hasks.2 staleDesk
  have hnone : many.json? = none := hmany.2.1 false _ (isNumeral_replicate _) rfl (by simp)
  exact ⟨⟨hasks.1, hread, hsmall, (hhours.1 _ hread).1.2 hsmall⟩,
    hasks.2, hnone, hday, hmany.2.2 hnone _ hday⟩

/-- The promise is broken by an integer too large for a number: the reply is a bare 500. -/
theorem hugeAge_fails :
    let huge := cleanUpWith (bodyOfInteger false (List.replicate 309 '9'))
    huge.json? = some (.object [("max_age_hours", .int (10 ^ 309 - 1))])
      ∧ (∀ age, ¬IsAge (.int (10 ^ 309 - 1)) age)
      ∧ replied idleMonitor noPanes none huge staleDesk
        = (.bare 500, staleDesk)
      ∧ ¬Refused staleDesk (replied idleMonitor noPanes none huge staleDesk) := by
  intro huge
  have hinteger : Json.Reader.integer false (List.replicate 309 '9') = 10 ^ 309 - 1 := by
    decide +kernel
  have hread : huge.json? = some (.object [("max_age_hours", .int (10 ^ 309 - 1))]) := by
    rw [json?_of_integer (isNumeral_replicate 308) rfl, if_pos (by decide +kernel), hinteger]
  have hdone : replied idleMonitor noPanes none huge staleDesk
      = (.bare 500, staleDesk) := by
    have hage : Age.ofBody (usualHours none) huge.json? = Age.ofJson (.int (10 ^ 309 - 1)) := by
      rw [hread]
      rfl
    exact (promised_iff idleMonitor noPanes none (asksCleanUp_cleanUpWith _) hage staleDesk).2
      ⟨_, rfl, by decide +kernel⟩
  refine ⟨hread, fun age hage => ?_, hdone, fun hrefused => ?_⟩
  · have hfew := (Age.isAge_int_iff.1 hage).1.2
    exact absurd hfew (by decide +kernel)
  · rw [hdone] at hrefused
    exact absurd hrefused.1 (by decide)

-- ===================================================== bodies without an object

/-- That a body is data, and more than a bare null. -/
def BringsData (r : Request) : Prop := r.isJson ∧ ∃ v, Json.ofBytes? r.body = some v ∧ v ≠ .null

/-- A request brings data if its body is read as anything but null. -/
private theorem bringsData_iff : BringsData r ↔ ∃ v, r.json? = some v ∧ v ≠ .null := by
  unfold BringsData Request.json?
  by_cases hjson : r.isJson <;> simp [hjson]

/-- Data that is neither an object nor a null gives no age. -/
theorem ofBody_of_nonObject (usual : Int) (hnull : v ≠ .null)
    (hno : ∀ members, v ≠ .object members) :
    Age.ofBody usual (some v) = .refused "Request body must be a JSON object" := by
  cases v with
  | null => exact absurd rfl hnull
  | object members => exact absurd rfl (hno members)
  | int n | real x | bool b | text s | list es => rfl

/-- A body that is no object is refused exactly if it is other data and said to be so. What cannot
be read, what is not said to be JSON and a bare null count as no body, and the clean-up runs with
the usual age. -/
theorem cleanUp_nonObject_iff (h : AsksCleanUp r) (hage : IsAge (.int (usualHours settings)) age)
    (hno : ∀ members, Json.ofBytes? r.body ≠ some (.object members)) (d : Desk) :
    (Refused d (replied mon ask settings r d) ↔ BringsData r)
      ∧ (¬BringsData r → Ran ask age d (replied mon ask settings r d)) := by
  have hran : ¬BringsData r → Ran ask age d (replied mon ask settings r d) := by
    intro hdata
    simp only [bringsData_iff, not_exists, not_and, not_not] at hdata
    exact ran_of_no_data mon ask settings h hage hdata d
  refine ⟨⟨fun hrefused => ?_, fun hdata => ?_⟩, hran⟩
  · by_contra hdata
    exact (hran hdata).not_refused hrefused
  · obtain ⟨hjson, v, hv, hnull⟩ := hdata
    have hread : r.json? = some v := by rw [Request.json?, if_pos hjson, hv]
    have hreason := ofBody_of_nonObject (usualHours settings) hnull fun members hobject =>
      hno members (hobject ▸ hv)
    rw [← hread] at hreason
    rw [replied_of_refused mon ask settings h hreason]
    exact ⟨rfl, rfl⟩

/-- A list is refused and the stale session stays. -/
theorem cleanUp_nonObject_staleDesk :
    let list := cleanUpWith [0x5b, 0x31, 0x5d]
    let torn := cleanUpWith (bodyOfInteger false ['9']).dropLast
    (AsksCleanUp list ∧ BringsData list
        ∧ Refused staleDesk (replied idleMonitor noPanes none list staleDesk))
      ∧ AsksCleanUp torn ∧ ¬BringsData torn
      ∧ IsAge (.int 24) (Span.ofWholeHours 24)
      ∧ Ran noPanes (Span.ofWholeHours 24) staleDesk
        (replied idleMonitor noPanes none torn staleDesk) := by
  intro list torn
  have hlist : Json.ofBytes? list.body = some (.list [.int 1]) := rfl
  have htorn : Json.ofBytes? torn.body = none := Option.isNone_iff_eq_none.1 (by decide +kernel)
  have hdata : BringsData list := ⟨by decide +kernel, _, hlist, by simp⟩
  have hnodata : ¬BringsData torn := by simp [BringsData, htorn]
  have hday : IsAge (.int 24) (Span.ofWholeHours 24) :=
    isAge_usualHours none TmuxSettings.isBounded_default
  have hasks : AsksCleanUp list ∧ AsksCleanUp torn :=
    ⟨asksCleanUp_cleanUpWith _, asksCleanUp_cleanUpWith _⟩
  have hrefused := cleanUp_nonObject_iff idleMonitor noPanes none hasks.1 hday (by simp [hlist])
    staleDesk
  have hran := cleanUp_nonObject_iff idleMonitor noPanes none hasks.2 hday (by simp [htorn])
    staleDesk
  exact ⟨⟨hasks.1, hdata, hrefused.1.2 hdata⟩, hasks.2, hnodata, hday, hran.2 hnodata⟩

/-- A torn object is not refused: the session is removed. -/
theorem tornObject_cleans_up :
    let torn := cleanUpWith (bodyOfInteger false ['9']).dropLast
    torn.body ≠ [] ∧ Json.ofBytes? torn.body = none
      ∧ (replied idleMonitor noPanes none torn staleDesk).1.status = 200
      ∧ staleDesk.registry.size = 1
      ∧ (replied idleMonitor noPanes none torn staleDesk).2.registry.size = 0 := by
  intro torn
  exact ⟨by decide +kernel, Option.isNone_iff_eq_none.1 (by decide +kernel), by decide +kernel, rfl,
    by decide +kernel⟩

end Http

end PaneWatch
