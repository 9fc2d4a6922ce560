/-
The old, flat layout of the settings.

Four fields of the section for panes once stood at the top level. Migration
moves each of them into the section, unless the section has the field
already; then the old one is dropped. A section that is no mapping is left
for the checks to refuse, and so are the old fields.
-/
import PaneWatch.Value

namespace PaneWatch.Settings.Legacy

/-- The entries of a mapping. -/
abbrev Entries := List (Value × Value)

/-- The fields that have moved. -/
def movedFields : List String :=
  ["monitor_interval", "state_file", "auto_cleanup", "cleanup_age_hours"]

/-- What happened to an old field that was there. -/
inductive Note where
  /-- It was dropped, because the section has the field. -/
  | ignored (field : String)
  /-- It was moved into the section. -/
  | moved (field : String)
  deriving DecidableEq, Repr

/-- The message about an old field. -/
def Note.message : Note → String
  | ignored field => "Ignoring legacy config field " ++ field ++ ", tmux." ++ field ++ " is set"
  | moved field => "Migrating legacy config field " ++ field ++ " to tmux." ++ field

/-- The top level and the section while fields are moved, and what has happened. -/
structure Move where
  top : Entries
  inner : Entries
  notes : List Note := []

/-- Moves one field. -/
def Move.field (m : Move) (label : String) : Move :=
  match Value.lookup? label m.top with
  | none => m
  | some v =>
    let top := Value.remove label m.top
    match Value.lookup? label m.inner with
    | some _ => ⟨top, m.inner, m.notes ++ [.ignored label]⟩
    | none => ⟨top, Value.insert (.text label) v m.inner, m.notes ++ [.moved label]⟩

/-- The section that a value stands for, where no value and every empty one stand for
an empty section; none if it is something else. -/
def sectionOf : Option Value → Option Entries
  | none => some []
  | some v =>
    match v with
    | .map es => some es
    | v => if v.isPresent then none else some []

/-- Migrates the top level. -/
def migrate (top : Entries) : Entries × List Note :=
  match sectionOf (Value.lookup? "tmux" top) with
  | none => (top, [])
  | some inner =>
    let m := movedFields.foldl Move.field ⟨top, inner, []⟩
    if m.inner.isEmpty then (m.top, m.notes)
    else (Value.insert (.text "tmux") (.map m.inner) m.top, m.notes)

end PaneWatch.Settings.Legacy
