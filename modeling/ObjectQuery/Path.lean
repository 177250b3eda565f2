import ObjectQuery.Error
import ObjectQuery.Numeral.Unsigned
import ObjectQuery.Text.Split

/-!
# Paths

A path names a place inside an object: segments between dots, where an index may also stand in
brackets. `a[2].b` and `a.2.b` are the same path; `Path.render` writes the second form.
-/

namespace ObjectQuery

/-- One step of a path. -/
inductive Segment where
  | field (name : String)
  | index (position : Nat)
deriving DecidableEq, Inhabited

/-- A segment as it stands between dots. -/
def Segment.text : Segment → String
  | field name => name
  | index position => toString position

namespace Path

/-- Reads the index that stands between brackets. -/
def readIndex? (cs : List Char) : Option Nat :=
  Numeral.readUnsigned? (String.ofList cs) Numeral.bound64

/-- Reads indices in brackets; `inside` holds what has been read of an open one, in reverse. -/
def readBrackets : List Char → Option (List Char) → Option (List Segment)
  | [], none => some []
  | [], some _ => none
  | c :: cs, none => if c = '[' then readBrackets cs (some []) else none
  | c :: cs, some inside =>
    if c = ']' then
      match readIndex? inside.reverse with
      | some i => (readBrackets cs none).map (Segment.index i :: ·)
      | none => none
    else readBrackets cs (some (c :: inside))

/-- Reads a name between dots: digits are an index. -/
def readName (name : List Char) : Option Segment :=
  if name.all Char.isDigit then (Numeral.readDigits? name Numeral.bound64).map .index
  else some (.field (String.ofList name))

/--
Reads one part between dots: a name, then indices in brackets. The name may be missing where a part
has stood before and brackets follow.
-/
def readPart (first : Bool) (part : List Char) : Option (List Segment) :=
  let name := part.takeWhile (· ≠ '[')
  let brackets := part.dropWhile (· ≠ '[')
  if name.isEmpty then
    if brackets.isEmpty || first then none else readBrackets brackets none
  else
    match readName name with
    | some s => (readBrackets brackets none).map (s :: ·)
    | none => none

/-- Reads the parts from left to right. -/
def readParts (first : Bool) : List (List Char) → Option (List Segment)
  | [] => some []
  | part :: parts =>
    match readPart first part with
    | some segments => (readParts false parts).map (segments ++ ·)
    | none => none

/-- The segments of a path. -/
def parse (path : String) : Result (List Segment) :=
  match readParts true (Text.splitChars '.' path.toList) with
  | some segments => .ok segments
  | none => .error (.path (.malformed path))

/-- The segments between dots. -/
def render (segments : List Segment) : String :=
  ".".intercalate (segments.map Segment.text)

end Path

end ObjectQuery
