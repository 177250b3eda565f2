import ObjectQuery.Text.CodeRanges
import ObjectQuery.Text.Split

/-!
# Sets of characters

A set of characters is a list of closed ranges of code points in increasing order. A union keeps as
few ranges as it can; the other operations keep the ranges that they cut. Surrogates are no
characters: a range may reach across them, but none begins or ends among them.
-/

namespace ObjectQuery

open Text

/-- A set of characters. -/
structure CharSet where
  ranges : CodeRanges
deriving DecidableEq, Inhabited

namespace CharSet

/-- The set that a table's text denotes. -/
def ofText (text : String) : CharSet := ⟨.ofText text⟩

/-- The set of a table written on several lines. -/
def ofLines (lines : List String) : CharSet := ⟨.ofLines lines⟩

def empty : CharSet := ⟨[]⟩

/-- The greatest code point. -/
def last : Nat := 0x10ffff

def any : CharSet := ⟨[(0, last)]⟩

def ascii : CharSet := ⟨[(0, 127)]⟩

def range (first last : Nat) : CharSet := ⟨[(first, last)]⟩

def single (c : Char) : CharSet := range c.toNat c.toNat

/-- Membership of a code point. -/
def holds (s : CharSet) (n : Nat) : Bool := s.ranges.contains n

/-- Membership. -/
def contains (s : CharSet) (c : Char) : Bool := s.holds c.toNat

/-- The only character of a set. -/
def single? (s : CharSet) : Option Char :=
  match s.ranges with
  | [r] => if r.1 = r.2 then some (Char.ofNat r.1) else none
  | _ => none

def isEmpty (s : CharSet) : Bool := s.ranges.isEmpty

def isAscii (s : CharSet) : Bool := s.ranges.all (fun r => r.2 ≤ 127)

/-- The set of a name in a table, which gives every set its names separated by blanks. -/
def named? (table : List (String × CharSet)) (name : String) : Option CharSet :=
  (table.find? (fun e => (split ' ' e.1).contains name)).map (·.2)

/-! ## Unions -/

/-- Adds a range to ranges in decreasing order, none of which begins after it. -/
def joinRange (ranges : CodeRanges) (s : Nat × Nat) : CodeRanges :=
  match ranges with
  | [] => [s]
  | r :: rest => if s.1 ≤ r.2 + 1 then (r.1, max r.2 s.2) :: rest else s :: r :: rest

/-- The set of any ranges: sorted, and those that touch joined. -/
def ofRanges (ranges : CodeRanges) : CharSet :=
  let sorted := ranges.mergeSort (fun r s => r.1 < s.1 || (r.1 == s.1 && r.2 ≤ s.2))
  ⟨(sorted.foldl joinRange []).reverse⟩

/-- The set of some code points. -/
def ofPoints (points : List Nat) : CharSet := ofRanges (points.map (fun n => (n, n)))

instance : Union CharSet := ⟨fun s t => ofRanges (s.ranges ++ t.ranges)⟩

/-! ## Intersections and complements -/

/-- The parts that two lists of ranges share. -/
def common : CodeRanges → CodeRanges → CodeRanges
  | [], _ => []
  | _, [] => []
  | r :: rs, s :: ss =>
    let rest := if r.2 < s.2 then common rs (s :: ss) else common (r :: rs) ss
    if max r.1 s.1 ≤ min r.2 s.2 then (max r.1 s.1, min r.2 s.2) :: rest else rest
termination_by rs ss => rs.length + ss.length

instance : Inter CharSet := ⟨fun s t => ⟨common s.ranges t.ranges⟩⟩

/-- The code point after one, surrogates left out. -/
def next (n : Nat) : Nat := if n = 0xd7ff then 0xe000 else n + 1

/-- The code point before one, surrogates left out. -/
def previous (n : Nat) : Nat := if n = 0xe000 then 0xd7ff else n - 1

theorem previous_lt {n : Nat} (h : 0 < n) : previous n < n := by
  unfold previous
  split <;> omega

/-- What lies after a range and between the ranges that follow it. -/
def gapsAfter (r : Nat × Nat) : CodeRanges → CodeRanges
  | [] => if r.2 < last then [(next r.2, last)] else []
  | s :: rest => (next r.2, previous s.1) :: gapsAfter s rest

/--
What lies before, between and after ranges. Two ranges that meet where the surrogates are have a gap
that ends before it begins.
-/
def gaps : CodeRanges → CodeRanges
  | [] => [(0, last)]
  | r :: rest => (if 0 < r.1 then [(0, previous r.1)] else []) ++ gapsAfter r rest

/--
The complement of a set. A gap that ends before it begins counts from its end to its beginning, so
two ranges that meet where the surrogates are leave their neighbouring ends in the complement.
-/
def compl (s : CharSet) : CharSet := ⟨(gaps s.ranges).map (fun g => (min g.1 g.2, max g.1 g.2))⟩

instance : SDiff CharSet := ⟨fun s t => ⟨common s.ranges (gaps t.ranges)⟩⟩

/-- What is in one of two sets and not in the other. -/
def symmDiff (s t : CharSet) : CharSet := (s ∪ t) \ (s ∩ t)

end CharSet

end ObjectQuery
