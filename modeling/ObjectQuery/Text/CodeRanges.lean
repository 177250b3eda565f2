/-!
# Sets of code points

A set of code points is a list of closed ranges in increasing order. The standard's properties are
long lists, so a table is written as text, one range after the other in hexadecimal, and read by
`CodeRanges.ofText`.
-/

namespace ObjectQuery.Text

/-- Closed ranges of code points, in increasing order. -/
abbrev CodeRanges := List (Nat × Nat)

namespace CodeRanges

/-- The value of a lower-case hexadecimal digit; any other character counts as zero. -/
def hexDigit (c : Char) : Nat :=
  if c.isDigit then c.toNat - '0'.toNat
  else if 'a' ≤ c ∧ c ≤ 'f' then c.toNat - 'a'.toNat + 10
  else 0

/-- Reads ranges such as `41-5a` and single points such as `aa`, separated by blanks. -/
def read (cs : List Char) (first : Option Nat) (n : Nat) : CodeRanges :=
  match cs with
  | [] => [(first.getD n, n)]
  | c :: rest =>
    if c = ' ' then (first.getD n, n) :: read rest none 0
    else if c = '-' then read rest (some n) 0
    else read rest first (n * 16 + hexDigit c)

/-- The ranges a table's text denotes. -/
def ofText (text : String) : CodeRanges := read text.toList none 0

/-- The ranges of a table written on several lines. -/
def ofLines (lines : List String) : CodeRanges := lines.flatMap ofText

/-- Whether a code point lies in one of the ranges. -/
def contains (ranges : CodeRanges) (n : Nat) : Bool :=
  ranges.any (fun r => r.1 ≤ n && n ≤ r.2)

end CodeRanges

end ObjectQuery.Text
