import ObjectQuery.Character.Trait

/-!
# Patterns

A pattern is a regular expression over characters with assertions about the place between two
characters. `Pattern.ends` gives the places where a match that began at one of some places can end;
a text matches when a match can begin and end anywhere in it. Which of several matches comes first
is of no concern to that, so a lazy repetition matches what a greedy one does.
-/

namespace ObjectQuery

/-- Which characters a part of a pattern speaks of: all, or those of ASCII alone. -/
inductive Pattern.Alphabet where
  | unicode
  | ascii
deriving DecidableEq, Inhabited

/-- What may be asserted of the place between two characters. -/
inductive Pattern.Assertion where
  | textStart
  | textEnd
  | lineStart (crlf : Bool)
  | lineEnd (crlf : Bool)
  | boundary (a : Pattern.Alphabet)
  | notBoundary (a : Pattern.Alphabet)
  | wordStart (a : Pattern.Alphabet)
  | wordEnd (a : Pattern.Alphabet)
  | wordStartHalf (a : Pattern.Alphabet)
  | wordEndHalf (a : Pattern.Alphabet)
deriving DecidableEq, Inhabited

/-- A regular expression. -/
inductive Pattern where
  /-- The empty text. -/
  | empty
  /-- A text of at least one character. -/
  | literal (text : List Char)
  /-- One character of a set. -/
  | set (a : Pattern.Alphabet) (s : CharSet)
  | assertion (a : Pattern.Assertion)
  /-- At least `least` and at most `most` repetitions. -/
  | loop (body : Pattern) (least : Nat) (most : Option Nat) (greedy : Bool)
  /-- A group that remembers what it matched. -/
  | group (body : Pattern)
  | seq (parts : List Pattern)
  | alt (branches : List Pattern)
deriving Inhabited

namespace Pattern

/-- The characters of words. -/
def Alphabet.word : Alphabet → CharSet
  | unicode => Character.Trait.word
  | ascii => .ofText "30-39 41-5a 5f 61-7a"

/-- Whether a character, which may be missing, belongs to a word. -/
def Alphabet.isWord (a : Alphabet) (c : Option Char) : Bool := c.any a.word.contains

/-- Whether an assertion holds between two characters, either of which may be missing. -/
def Assertion.holds (before after : Option Char) : Assertion → Bool
  | textStart => before.isNone
  | textEnd => after.isNone
  | lineStart false => before.all (· == '\n')
  | lineStart true => before.all (fun b => b == '\n' || (b == '\r' && after != some '\n'))
  | lineEnd false => after.all (· == '\n')
  | lineEnd true => after.all (fun a => a == '\r' || (a == '\n' && before != some '\r'))
  | boundary a => a.isWord before != a.isWord after
  | notBoundary a => a.isWord before == a.isWord after
  | wordStart a => !a.isWord before && a.isWord after
  | wordEnd a => a.isWord before && !a.isWord after
  | wordStartHalf a => !a.isWord before
  | wordEndHalf a => !a.isWord after

/-- The character before a place. -/
def before (text : Array Char) (i : Nat) : Option Char :=
  if i = 0 then none else text[i - 1]?

/-- Where a text ends that begins at a place of another. -/
def endOf? (text : Array Char) (i : Nat) : List Char → Option Nat
  | [] => some i
  | c :: cs => if text[i]? = some c then endOf? text (i + 1) cs else none

/-- Adds the places that are not there yet. -/
def merge (places more : List Nat) : List Nat :=
  places ++ (more.filter (fun i => !places.contains i)).eraseDups

/-- Applies a step at most `n` times and collects every place on the way. -/
def closure (step : List Nat → List Nat) : Nat → List Nat → List Nat → List Nat
  | 0, seen, _ => seen
  | n + 1, seen, fresh =>
    match fresh with
    | [] => seen
    | fresh =>
      let next := ((step fresh).filter (fun i => !seen.contains i)).eraseDups
      closure step n (seen ++ next) next

/-- Applies a step exactly `n` times. -/
def iterate (step : List Nat → List Nat) : Nat → List Nat → List Nat
  | 0, places => places
  | n + 1, places =>
    match places with
    | [] => []
    | places => iterate step n (step places)

mutual

/-- The places where matches that begin at the given places can end. -/
def ends (text : Array Char) : Pattern → List Nat → List Nat
  | empty, places => places
  | literal cs, places => places.filterMap fun i => endOf? text i cs
  | set _ s, places =>
    places.filterMap fun i => if text[i]?.any s.contains then some (i + 1) else none
  | assertion a, places => places.filter fun i => a.holds (before text i) text[i]?
  | loop body least most _, places =>
    let step := ends text body
    let start := iterate step least places
    let rounds := match most with
      | some most => most - least
      | none => text.size + 1
    closure step (min rounds (text.size + 1)) start start
  | group body, places => ends text body places
  | seq parts, places => seqEnds text parts places
  | alt branches, places => altEnds text branches places

/-- The places where matches of a sequence can end. -/
def seqEnds (text : Array Char) : List Pattern → List Nat → List Nat
  | [], places => places
  | p :: ps, places => seqEnds text ps (ends text p places)

/-- The places where matches of one of some alternatives can end. -/
def altEnds (text : Array Char) : List Pattern → List Nat → List Nat
  | [], _ => []
  | p :: ps, places => merge (ends text p places) (altEnds text ps places)

end

/-- Whether a match begins and ends anywhere in a text. -/
def isMatch (p : Pattern) (text : String) : Bool :=
  let cs := text.toList.toArray
  !(ends cs p (List.range (cs.size + 1))).isEmpty

end Pattern

end ObjectQuery
