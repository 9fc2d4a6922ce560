/-
Patterns of text, and whether one occurs in a text.

A pattern is run on a set of places at once. `Places` says for every place
before, between and behind the characters of a text whether it is in the set,
and `Pattern.reach` gives the places at which a match can end that starts in
the set. A pattern occurs in a text exactly if some place can be reached from
all places.

For an atomic pattern it counts in which order the ways to match are tried. Its
matches go through `Pattern.ends`, which gives the ends of the matches from one
place in that order.
-/
import PaneWatch.Text.Blank
import PaneWatch.Text.Case
import PaneWatch.Text.Digit
import PaneWatch.Text.Word

namespace PaneWatch

namespace Pattern

/-- A set of characters with a name. -/
inductive CharClass where
  | digit
  | blank
  | word
  deriving DecidableEq, Repr

/-- Whether a character is in the set. -/
def CharClass.contains : CharClass → Char → Bool
  | digit, c => Text.isDecimal c
  | blank, c => Text.isBlank c
  | word, c => Text.isWord c

/-- A part of what a character may be. -/
inductive Item where
  | one (c : Char)
  | range (first last : Char)
  | named (isNegated : Bool) (set : CharClass)
  deriving DecidableEq, Repr

/-- What a character may be. -/
structure CharTest where
  items : List Item
  isNegated : Bool := false
  /-- Whether the case of letters is ignored. -/
  ignoresCase : Bool := false
  deriving DecidableEq, Repr

/-- The characters that are the same letter when case is ignored. -/
def variants (c : Char) : List Char := (Text.twins (Text.lower c)).flatMap Text.raises

/-- Whether a character is what an item says. -/
def Item.admits (ignoresCase : Bool) (c : Char) : Item → Bool
  | one d => if ignoresCase then Text.sameLetter d c else d == c
  | range first last =>
    let inside (d : Char) : Bool := first ≤ d && d ≤ last
    if ignoresCase then (variants c).any inside else inside c
  | named isNegated set => set.contains (if ignoresCase then Text.lower c else c) != isNegated

/-- Whether a character passes a test. -/
def CharTest.admits (t : CharTest) (c : Char) : Bool :=
  t.items.any (·.admits t.ignoresCase c) != t.isNegated

/-- What a place may have to be. -/
inductive Anchor where
  | textStart
  | textEnd
  | lineStart
  | lineEnd
  /-- The end of the text, or the place before a line feed that ends it. -/
  | lastLineEnd
  /-- The start or the end of a word. -/
  | wordEdge
  /-- Any other place, unless the text is empty. -/
  | noWordEdge
  deriving DecidableEq, Repr

/-- A place: the character before it, and the characters after it. -/
structure Place where
  before : Option Char
  after : List Char

/-- The place behind the next character, if that passes a test. -/
def Place.step? (p : Place) (t : CharTest) : Option Place :=
  match p.after with
  | [] => none
  | c :: rest => if t.admits c then some ⟨some c, rest⟩ else none

/-- Whether a place is what an anchor says. -/
def Anchor.holds (p : Place) : Anchor → Bool
  | textStart => p.before.isNone
  | textEnd => p.after.isEmpty
  | lineStart => p.before.all (· == '\n')
  | lineEnd => p.after.head?.all (· == '\n')
  | lastLineEnd => p.after.isEmpty || p.after == ['\n']
  | wordEdge => p.before.any Text.isWord != p.after.head?.any Text.isWord
  | noWordEdge =>
    (p.before.isSome || !p.after.isEmpty)
      && p.before.any Text.isWord == p.after.head?.any Text.isWord

end Pattern

/-- A pattern. -/
inductive Pattern where
  | char (test : Pattern.CharTest)
  | at_ (anchor : Pattern.Anchor)
  | sequence (parts : List Pattern)
  | choice (ways : List Pattern)
  /-- At least so many times, and at most so many if there is a bound. As many times as can be
  are tried first, or as few if the repetition is lazy. -/
  | repeated (least : Nat) (most : Option Nat) (isLazy : Bool) (body : Pattern)
  /-- Only the match that is found first. -/
  | atomic (body : Pattern)

namespace Pattern

/-- How often a repetition can go on behind its least count and yet reach another place each
time. -/
def spare (least : Nat) (most : Option Nat) (size : Nat) : Nat :=
  (most.map (· - least)).elim size fun n => min n size

-- ===================================================== one place at a time

/-- The places with none twice. They are of one text, so they are told apart by what is left of
it. -/
def distinct (ps : List Place) : List Place :=
  ps.foldr (fun p rest => p :: rest.filter fun q => q.after.length != p.after.length) []

/-- The places that so many steps lead to. -/
def walk (f : Place → List Place) : Nat → Place → List Place
  | 0, p => [p]
  | n + 1, p => distinct ((f p).flatMap (walk f n))

/-- The places that at most so many steps lead to. A step that leads nowhere else is the last. -/
def wander (f : Place → List Place) (isLazy : Bool) : Nat → Place → List Place
  | 0, p => [p]
  | n + 1, p =>
    let further := (f p).flatMap fun q =>
      if q.after.length = p.after.length then [q] else wander f isLazy n q
    distinct (if isLazy then p :: further else further ++ [p])

mutual

/-- The places at which a match can end that starts at a place, in the order in which they are
found. -/
def ends (p : Pattern) (here : Place) : List Place :=
  match p with
  | .char t => (here.step? t).toList
  | .at_ a => if a.holds here then [here] else []
  | .sequence ps => endsInRow ps here
  | .choice ps => distinct (endsOfAny ps here)
  | .repeated least most isLazy body =>
    let size := here.after.length + 1
    distinct ((walk (ends body) (min least size) here).flatMap
      (wander (ends body) isLazy (spare least most size)))
  | .atomic body => (ends body here).take 1

/-- The places at which matches of patterns in a row can end. -/
def endsInRow : List Pattern → Place → List Place
  | [], here => [here]
  | p :: rest, here => distinct ((ends p here).flatMap (endsInRow rest))

/-- The places at which a match of one of some patterns can end. -/
def endsOfAny : List Pattern → Place → List Place
  | [], _ => []
  | p :: rest, here => ends p here ++ endsOfAny rest here

end

-- ===================================================== all places at once

/-- For every place of a text, whether it is in a set. -/
abbrev Places := List Bool

/-- The places in one set or the other. -/
def union (a b : Places) : Places := List.zipWith (· || ·) a b

/-- The places behind the characters that pass a test and stand at a place of the set. -/
def stepOver (t : CharTest) (text : List Char) (s : Places) : Places :=
  false :: List.zipWith (fun c here => here && t.admits c) text s

/-- The places of the set that are what an anchor says. -/
def keepAt (a : Anchor) (before : Option Char) (text : List Char) : Places → Places
  | [] => []
  | here :: rest =>
    (here && a.holds ⟨before, text⟩) ::
      match text with
      | [] => rest
      | c :: text => keepAt a (some c) text rest

/-- Does something so many times, but stops when it changes nothing any more. -/
def iterate (f : Places → Places) : Nat → Places → Places
  | 0, s => s
  | n + 1, s => let s' := f s; if s' == s then s else iterate f n s'

/-- Adds what can be reached in at most so many steps. -/
def extend (f : Places → Places) : Nat → Places → Places :=
  iterate fun s => union s (f s)

/-- The set of some places of a text, by how many places follow them. -/
def placesOf (size : Nat) (ps : List Place) : Places :=
  (List.range size).reverse.map fun left => ps.any (·.after.length == left)

/-- The places that a function finds from the places of a set, one after the other. -/
def gather (f : Place → List Place) (before : Option Char) (text : List Char) :
    Places → List Place
  | [] => []
  | here :: rest =>
    (if here then f ⟨before, text⟩ else []) ++
      match text with
      | [] => []
      | c :: text => gather f (some c) text rest

mutual

/-- The places at which a match can end that starts at a place of the set. -/
def reach (text : List Char) (p : Pattern) (s : Places) : Places :=
  match p with
  | .char t => stepOver t text s
  | .at_ a => keepAt a none text s
  | .sequence ps => reachSequence text ps s
  | .choice ps => reachChoice text ps s
  | .repeated least most _ body =>
    extend (reach text body) (spare least most (text.length + 1))
      (iterate (reach text body) least s)
  | .atomic body => placesOf s.length (gather (fun here => (ends body here).take 1) none text s)

/-- The places at which matches of patterns in a row can end. -/
def reachSequence (text : List Char) : List Pattern → Places → Places
  | [], s => s
  | p :: rest, s => reachSequence text rest (reach text p s)

/-- The places at which a match of one of some patterns can end. -/
def reachChoice (text : List Char) : List Pattern → Places → Places
  | [], s => s.map fun _ => false
  | [p], s => reach text p s
  | p :: rest, s => union (reach text p s) (reachChoice text rest s)

end

/-- Whether the pattern occurs in a text. -/
def occursIn (p : Pattern) (text : String) : Bool :=
  let cs := text.toList
  (p.reach cs (List.replicate (cs.length + 1) true)).any id

end Pattern

end PaneWatch
