/-
Accidents: failures that no operation announces and no handler expects.

They come from text that has the shape of a value but spells none, and from
moments and numbers beyond their range. An accident ends the operation in
which it happens, whatever it was doing, so each stays a case of its own
instead of being folded into the failures an operation answers for.
-/

namespace PaneWatch

/-- What went wrong where nothing was expected to. -/
inductive Accident where
  /-- A text in the shape of a date or a number that spells none. -/
  | noSuchValue
  /-- A moment or a number beyond what can be counted. -/
  | outOfRange
  /-- A word given as a truth value that is none. -/
  | unknownWord
  /-- No text at all given as a number. -/
  | emptyNumber
  /-- A text given as a moment that has not the shape of one. -/
  | shapelessMoment
  /-- Bytes that are no UTF-8 text where text is read. -/
  | undecodable
  /-- A collection inside itself where its plain tree is shown. -/
  | circular
  /-- An object that is no data where a plain tree is shown. -/
  | foreign
  /-- A path that starts in a home folder that nobody has. -/
  | noHome
  /-- Settings that are asked for after they were dropped. -/
  | noSettings
  deriving DecidableEq, Repr

end PaneWatch
