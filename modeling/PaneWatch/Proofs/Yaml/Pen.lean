/-
What a pen has written it never takes back.

Every way to write is made of the few that put characters behind those that are
there, so each `Precedes` the pen after it. For the text of a mapping this says that
the colon behind its first key is still there in the end.
-/
import PaneWatch.Yaml.Printer

namespace PaneWatch.Yaml.Pen

/-- That a pen has written all that another one had, and maybe more. -/
def Precedes (p q : Pen) : Prop := p.written <:+ q.written

variable {p q : Pen}

theorem Precedes.refl (p : Pen) : p.Precedes p := List.suffix_refl p.written

/-- What has been written stays written. -/
theorem Precedes.trans {r : Pen} (h : p.Precedes q) (h' : q.Precedes r) : p.Precedes r :=
  List.IsSuffix.trans h h'

-- ===================================================== single moves

/-- Writing text takes nothing back. -/
private theorem precedes_put (p : Pen) (cs : List Char) : p.Precedes (p.put cs) :=
  List.suffix_append cs.reverse p.written

private theorem precedes_newLine (p : Pen) : p.Precedes p.newLine := List.suffix_cons '\n' p.written

/-- Nor does an indentation. -/
private theorem precedes_indent (p : Pen) (column : Nat) : p.Precedes (p.indent column) := by
  have hblanks (q : Pen) : q.Precedes (if q.column < column then
      { q.put (List.replicate (column - q.column) ' ') with afterBlank := true } else q) := by
    split
    · exact q.precedes_put _
    · exact .refl q
  unfold indent
  dsimp only
  split
  · exact hblanks p
  · exact p.precedes_newLine.trans (hblanks p.newLine)

private theorem precedes_inText (p : Pen) : p.Precedes p.inText := List.suffix_refl p.written

private theorem precedes_space (p : Pen) : p.Precedes p.space := by
  unfold space
  split
  · exact .refl p
  · exact p.precedes_put [' ']

/-- Nor does a mark. -/
private theorem precedes_mark (p : Pen) (cs : List Char) : p.Precedes (p.mark cs) :=
  p.precedes_space.trans (p.space.precedes_put cs)

private theorem precedes_fold (p : Pen) (folds : Bool) (column count : Nat) :
    p.Precedes (p.fold folds column count) := by
  unfold fold
  split
  · exact p.precedes_indent column
  · exact p.precedes_put _

-- ===================================================== scalars

/-- Nor does text without quotes. -/
private theorem precedes_plainFrom (folds : Bool) (column blanks : Nat) (p : Pen) (cs : List Char) :
    p.Precedes (plainFrom folds column blanks p cs) := by
  induction cs generalizing blanks p with
  | nil => exact p.precedes_put _
  | cons c cs ih =>
      unfold plainFrom
      split
      · exact ih _ p
      · dsimp only
        split
        · exact (p.precedes_put [c]).trans (ih 0 _)
        · exact (p.precedes_fold folds column blanks).trans
            ((precedes_inText _).trans ((precedes_put _ [c]).trans (ih 0 _)))

/-- Nor do the blanks that have waited for what comes next. -/
private theorem precedes_release (p : Pen) (folds : Bool) (column : Nat) (waiting : Waiting) :
    p.Precedes (p.release folds column waiting) := by
  have hlines (units : List Unit) (p : Pen) :
      p.Precedes (units.foldl (fun p _ => p.newLine) p) := by
    induction units generalizing p with
    | nil => exact .refl p
    | cons u units ih => exact p.precedes_newLine.trans (ih p.newLine)
  cases waiting with
  | nothing => exact .refl p
  | blanks count => exact p.precedes_fold folds column count
  | breaks count => exact (hlines _ p).trans (precedes_indent _ column)

/-- Nor does text between single quotes. -/
private theorem precedes_singleFrom (folds : Bool) (column : Nat) (atStart : Bool)
    (waiting : Waiting)
    (p : Pen) (cs : List Char) : p.Precedes (singleFrom folds column atStart waiting p cs) := by
  induction cs generalizing atStart waiting p with
  | nil => exact p.precedes_release false column waiting
  | cons c cs ih =>
      unfold singleFrom
      split
      · split
        · exact ih atStart _ p
        · exact (p.precedes_release folds column waiting).trans (ih atStart _ _)
      · split
        · split
          · exact ih false _ p
          · exact (p.precedes_release _ column waiting).trans (ih false _ _)
        · exact (p.precedes_release _ column waiting).trans
            ((precedes_put _ _).trans (ih false _ _))

private theorem precedes_breakQuoted (p : Pen) (column : Nat) (next : Char) :
    p.Precedes (p.breakQuoted column next) := by
  have hline : p.Precedes ((p.put [backslash]).indent column).inText :=
    (p.precedes_put _).trans (precedes_indent _ column)
  unfold breakQuoted
  dsimp only
  split
  · exact hline.trans (precedes_put _ _)
  · exact hline

/-- Nor does text between double quotes. -/
private theorem precedes_doubleFrom (folds : Bool) (column : Nat) (atStart : Bool) (run : List Char)
    (p : Pen) (cs : List Char) : p.Precedes (doubleFrom folds column atStart run p cs) := by
  induction cs generalizing atStart run p with
  | nil => exact p.precedes_put run.reverse
  | cons c cs ih =>
      have hescape : p.Precedes ((p.put run.reverse).put (escape c)) :=
        (p.precedes_put _).trans (precedes_put _ _)
      unfold doubleFrom
      dsimp only
      split
      · split
        · exact hescape.trans ((precedes_breakQuoted _ column _).trans (ih false _ _))
        · exact hescape.trans (ih false _ _)
      · split
        · exact (p.precedes_put _).trans ((precedes_breakQuoted _ column c).trans (ih false _ _))
        · exact ih false _ p

/-- So no scalar takes anything back, in whichever style it is written. -/
private theorem precedes_scalar (p : Pen) (style : Style) (folds : Bool) (column : Nat)
    (cs : List Char) :
    p.Precedes (p.scalar style folds column cs) := by
  cases style with
  | plain =>
      unfold scalar
      dsimp only
      split
      · exact .refl p
      · exact p.precedes_space.trans (precedes_plainFrom folds column 0 p.space.inText cs)
  | single =>
      exact (p.precedes_mark [singleQuote]).trans
        ((precedes_singleFrom folds column true .nothing (p.mark [singleQuote]).inText cs).trans
          (precedes_put _ [singleQuote]))
  | double =>
      exact (p.precedes_mark [doubleQuote]).trans
        ((precedes_doubleFrom folds column true [] (p.mark [doubleQuote]).inText cs).trans
          (precedes_put _ [doubleQuote]))

-- ===================================================== collections

/-- A key is written with a colon behind it. -/
theorem precedes_key (p : Pen) (column : Nat) (k : String) :
    p.Precedes (p.key column k) ∧ ':' ∈ (p.key column k).written := by
  unfold key
  dsimp only
  split
  · exact ⟨(p.precedes_indent column).trans ((precedes_scalar _ _ false _ _).trans
      (precedes_put _ [':'])), by simp [put]⟩
  · exact ⟨(p.precedes_indent column).trans ((precedes_mark _ _).trans
      ((precedes_scalar _ _ true _ _).trans ((precedes_indent _ column).trans
        (precedes_mark _ [':'])))), by simp [mark, put]⟩

mutual

/-- Nor does a tree. -/
private theorem precedes_tree (column : Nat) (underKey : Bool) (j : Json) (p : Pen) :
    p.Precedes (tree column underKey j p) := by
  cases j with
  | null => exact precedes_scalar ..
  | bool b => exact precedes_scalar ..
  | int n => exact precedes_scalar ..
  | real x => exact precedes_scalar ..
  | text s => exact precedes_scalar ..
  | list es =>
      cases es with
      | nil => exact precedes_mark ..
      | cons e es => exact precedes_items ..
  | object ms =>
      cases ms with
      | nil => exact precedes_mark ..
      | cons m ms => exact precedes_entries ..

/-- Nor do the elements of a list. -/
private theorem precedes_items (column : Nat) (es : List Json) (p : Pen) :
    p.Precedes (items column es p) := by
  cases es with
  | nil => exact .refl p
  | cons e es =>
      exact (p.precedes_indent column).trans ((precedes_mark _ _).trans
        ((precedes_tree column false e _).trans (precedes_items column es _)))

/-- Nor do the members of an object. -/
private theorem precedes_entries (column : Nat) (ms : List (String × Json)) (p : Pen) :
    p.Precedes (entries column ms p) := by
  cases ms with
  | nil => exact .refl p
  | cons m ms =>
      exact (p.precedes_key column m.1).1.trans
        ((precedes_tree column true m.2 _).trans (precedes_entries column ms _))

end

end Pen

/-- The text of a mapping has a mark in it, so it is not blank. -/
theorem mark_mem_print (members : List (String × Json)) :
    ∃ c ∈ [':', '\x7b'], c ∈ (print members).toList := by
  cases members with
  | nil => exact ⟨'\x7b', by decide, by decide⟩
  | cons m ms =>
      have hcolon : ':' ∈ (Pen.entries 0 (m :: ms) {}).written :=
        ((Pen.precedes_tree 0 true m.2 _).trans (Pen.precedes_entries 0 ms _)).subset
          (Pen.precedes_key {} 0 m.1).2
      refine ⟨':', by decide, ?_⟩
      simp [print, Pen.text, Pen.newLine, hcolon]

end PaneWatch.Yaml
