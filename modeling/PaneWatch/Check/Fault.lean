/-
What is wrong with data, and where.

Checking a record does not stop at the first fault: the faults of all its
fields are reported, in the order of the fields. `Checked` is the outcome of
such a check, and combining two outcomes keeps the faults of both.
-/

namespace PaneWatch

/-- What is wrong with a value. -/
inductive Cause where
  /-- There is no value, and there has to be one. -/
  | missing
  | notText
  /-- Bytes for a text that are no UTF-8. -/
  | notUtf8
  | otherPattern
  | notInteger
  | noInteger
  /-- More digits than an integer may have. -/
  | hugeInteger
  | notWhole
  | notFinite
  | notNumber
  | noNumber
  | notFlag
  | noFlag
  | tooLow
  | belowLeast
  | aboveMost
  | noChoice
  | notMapping
  | notRecord
  | notMoment
  /-- Text or a number that counts to no moment of the calendar. -/
  | noMoment
  /-- Text that is no date. -/
  | noDate
  deriving DecidableEq, Repr

/-- The word that reports a cause. -/
def Cause.word : Cause → String
  | missing => "missing"
  | notText => "string_type"
  | notUtf8 => "string_unicode"
  | otherPattern => "string_pattern_mismatch"
  | notInteger => "int_type"
  | noInteger => "int_parsing"
  | hugeInteger => "int_parsing_size"
  | notWhole => "int_from_float"
  | notFinite => "finite_number"
  | notNumber => "float_type"
  | noNumber => "float_parsing"
  | notFlag => "bool_type"
  | noFlag => "bool_parsing"
  | tooLow => "greater_than"
  | belowLeast => "greater_than_equal"
  | aboveMost => "less_than_equal"
  | noChoice => "enum"
  | notMapping => "dict_type"
  | notRecord => "model_type"
  | notMoment => "datetime_type"
  | noMoment => "datetime_parsing"
  | noDate => "datetime_from_date_parsing"

/-- A fault at a place, given by the names of the fields that lead there. -/
structure Fault where
  place : List String
  cause : Cause
  deriving DecidableEq, Repr

/-- What a check came to: a value, or all faults in order. -/
inductive Checked (α : Type) where
  | valid (value : α)
  | invalid (faults : List Fault)

namespace Checked

/-- All faults of an outcome. -/
def faults {α : Type} : Checked α → List Fault
  | valid _ => []
  | invalid fs => fs

/-- The value of an outcome, if it has one. -/
def value? {α : Type} : Checked α → Option α
  | valid a => some a
  | invalid _ => none

/-- Applies the value of one outcome to that of another; the faults of both are kept. -/
def apply {α β : Type} (f : Checked (α → β)) (x : Checked α) : Checked β :=
  match f, x with
  | valid g, valid a => valid (g a)
  | f, x => invalid (f.faults ++ x.faults)

instance : Applicative Checked where
  pure := valid
  seq f x := apply f (x ())

/-- The outcome of checking a single value. -/
def ofExcept {α : Type} : Except Cause α → Checked α
  | .ok a => valid a
  | .error c => invalid [⟨[], c⟩]

/-- The outcome seen from around a field. -/
def under {α : Type} (label : String) : Checked α → Checked α
  | valid a => valid a
  | invalid fs => invalid (fs.map fun f => { f with place := label :: f.place })

end Checked

end PaneWatch
