/-
Where the paths of single sessions lead.

A path is cut at its slashes (`pieces_eq_splitOn`), so an ID that is not empty and has no slash
is one piece of it, whatever else it contains, and the piece behind it says what is asked of
the session.
-/
import PaneWatch.Http.Api

namespace PaneWatch.Http

-- ===================================================== pieces

private theorem pieces_eq_splitOn (c : Char) (cs : List Char) : pieces c cs = cs.splitOn c := by
  induction cs with
  | nil => rfl
  | cons d cs ih =>
      -- both cut from the right, and what is cut is never nothing
      unfold pieces at ih ⊢
      rw [List.foldr_cons, ih, List.splitOn_eq_splitOnP, List.splitOn_eq_splitOnP,
        List.splitOnP_cons_eq_if_modifyHead]
      cases hpieces : cs.splitOnP (· == c) with
      | nil => exact absurd hpieces (List.splitOnP_ne_nil _ _)
      | cons first rest => rfl

/-- What is put together with a mark between the pieces is cut into them. -/
theorem pieces_intercalate {c : Char} {parts : List (List Char)} (hparts : ∀ part ∈ parts, c ∉ part)
    (hne : parts ≠ []) : pieces c ([c].intercalate parts) = parts := by
  rw [pieces_eq_splitOn]
  exact List.splitOn_intercalate c hparts hne

-- ===================================================== sessions

/-- That a text is one piece of a path. -/
def IsSegment (text : String) : Prop := text ≠ "" ∧ '/' ∉ text.toList

instance (text : String) : Decidable (IsSegment text) := inferInstanceAs (Decidable (_ ∧ _))

/-- The path at which something is asked of a session. -/
def sessionPath (id action : String) : String := "/api/sessions/" ++ id ++ "/" ++ action

private theorem endpointsAt_sessionPath {id action : String} (hid : IsSegment id)
    (haction : IsSegment action) :
    Route.endpointsAt ((sessionPath id action).toList.drop 1) = Route.atSession id [action] := by
  have hpath : (sessionPath id action).toList.drop 1
      = ['/'].intercalate ["api".toList, "sessions".toList, id.toList, action.toList] := by
    -- the equation of the definition is avoided: to make it takes seconds
    unfold sessionPath
    simp [List.intercalate]
  have hpieces : pieces '/' ((sessionPath id action).toList.drop 1)
      = ["api".toList, "sessions".toList, id.toList, action.toList] := by
    rw [hpath]
    refine pieces_intercalate ?_ (by simp)
    simp [hid.2, haction.2]
  have hempty : id.isEmpty = false := by simpa using hid.1
  rw [Route.endpointsAt, hpieces]
  simp [Route.endpoints, hempty]

/-- A request for something that a session has leads to what answers it. -/
theorem find_sessionPath {id action asked : String} {e : Endpoint} (hid : IsSegment id)
    (haction : IsSegment action)
    (hpick : Route.pick? asked (Route.atSession id [action]) = some (.to e)) :
    Route.find asked (sessionPath id action) = .to e := by
  unfold Route.find
  dsimp only
  rw [endpointsAt_sessionPath hid haction, hpick]

end PaneWatch.Http
