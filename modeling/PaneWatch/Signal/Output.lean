/-
What the output of a pane says about its process.

A table of patterns is held against the last lines of the output. Of the
patterns that occur the one with the greatest confidence tells the activity,
and of several the first. Only confidences above zero count.
-/
import PaneWatch.Activity
import PaneWatch.Failure
import PaneWatch.Number.Double
import PaneWatch.Pattern
import PaneWatch.Pattern.Reader

namespace PaneWatch.Signal

open Number (Double)

/-- A row of the table. -/
structure Row where
  /-- Whether the pattern of the row occurs in a text. -/
  occursIn : String → Bool
  activity : Activity
  /-- A fixed weight, and no measure of how well the pattern fits. -/
  confidence : Double

/-- Reads a row. -/
def Row.read (pattern activity : String) (confidence : Double) : Except Failure Row := do
  let some a := Activity.ofName? activity | throw (.accident .noSuchValue)
  return ⟨(← Pattern.ofText pattern).occursIn, a, confidence⟩

/-- The pattern of a text that stands for itself. -/
def words (s : String) : Pattern :=
  .sequence (s.toList.map fun c => .char ⟨[.one c], false, false⟩)

/-- A number of hundredths. -/
def hundredths (n : Nat) : Double := Double.ofRatio false n 100

/-- The pattern of a question, which has to go on behind the words. -/
def question (s : String) : Pattern :=
  .sequence [words s, .repeated 1 none false (.char ⟨[.named false .blank], false, false⟩)]

/-- The table that is used unless another one is given. -/
def defaultTable : List Row :=
  [⟨(words "claude>").occursIn, .idle, hundredths 90⟩,
   ⟨(words "Processing...").occursIn, .busy, hundredths 80⟩,
   ⟨(words "Waiting for input").occursIn, .waiting, hundredths 90⟩,
   ⟨(words "Error:").occursIn, .error, hundredths 95⟩,
   ⟨(words "Exception:").occursIn, .error, hundredths 95⟩,
   ⟨(words "Failed:").occursIn, .error, hundredths 90⟩,
   ⟨(words "Loading...").occursIn, .busy, hundredths 70⟩,
   ⟨(words "Generating").occursIn, .busy, hundredths 80⟩,
   ⟨(words "Analyzing").occursIn, .busy, hundredths 80⟩,
   ⟨(words "(esc to interrupt)").occursIn, .busy, hundredths 85⟩,
   ⟨(words "[y/n]").occursIn, .waiting, hundredths 85⟩,
   ⟨(question "Do you want to").occursIn, .waiting, hundredths 85⟩]

/-- The number of lines that count. -/
def window : Nat := 20

/-- The last elements of a list, so many at most. -/
def lastOf {α : Type} (n : Nat) (xs : List α) : List α := xs.drop (xs.length - n)

/-- The last lines of an output. -/
def recent (output : String) : String :=
  "\n".intercalate (lastOf window (output.splitOn "\n"))

/-- The best row so far, and whether another one is better. -/
def better (text : String) (best : Activity × Double) (row : Row) : Activity × Double :=
  if best.2.lt row.confidence && row.occursIn text then (row.activity, row.confidence)
  else best

/-- The activity that a table reads from an output; unknown if no pattern occurs. -/
def ofOutput (table : List Row) (output : String) : Activity :=
  (table.foldl (better (recent output)) (.unknown, Double.zero false)).1

end PaneWatch.Signal
