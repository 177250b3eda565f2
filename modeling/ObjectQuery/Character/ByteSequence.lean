import ObjectQuery.Character.CharSet

/-!
# Sets of characters as bytes

The UTF-8 bytes of the characters of a set are those of some sequences of byte ranges: a sequence
stands for the texts that take one byte of each of its ranges. `CharSet.byteSequences` lists them in
increasing order; they are disjoint, and a range of characters is cut no more often than it needs.
-/

namespace ObjectQuery.Character

/-- A closed range of bytes. -/
structure ByteRange where
  first : Nat
  last : Nat
deriving DecidableEq, Inhabited

/-- The bytes of a character with a code point. -/
def bytesOf (n : Nat) : List Nat :=
  if n < 0x80 then [n]
  else if n < 0x800 then [0xc0 + n / 0x40, 0x80 + n % 0x40]
  else if n < 0x10000 then [0xe0 + n / 0x1000, 0x80 + n / 0x40 % 0x40, 0x80 + n % 0x40]
  else [0xf0 + n / 0x40000, 0x80 + n / 0x1000 % 0x40, 0x80 + n / 0x40 % 0x40, 0x80 + n % 0x40]

/--
Where a range is cut that reaches into several blocks of a size and fills its first or its last one
in part.
-/
def blockCut? (first last : Nat) : List Nat → Option Nat
  | [] => none
  | size :: sizes =>
    if first / size = last / size then blockCut? first last sizes
    else if first % size ≠ 0 then some ((first / size + 1) * size)
    else if last % size ≠ size - 1 then some (last / size * size)
    else blockCut? first last sizes

/--
The code point at which the second part of a range begins, if it is no single sequence: surrogates
are left out, the characters have one length, and each byte runs through all its values before the
byte in front of it changes.
-/
def cut? (first last : Nat) : Option Nat :=
  if first < 0xe000 ∧ 0xd7ff < last then some 0xe000
  else
    match [0x80, 0x800, 0x10000].find? (fun n => first < n && n ≤ last) with
    | some n => some n
    | none => if last < 0x80 then none else blockCut? first last [0x40, 0x1000, 0x40000]

/-- The byte sequences of a range of characters. -/
def byteSequences (first last : Nat) : List (List ByteRange) :=
  match cut? first last with
  | some n =>
    if _h : first < n ∧ n ≤ last then
      byteSequences first (CharSet.previous n) ++ byteSequences n last
    else []
  | none => [List.zipWith ByteRange.mk (bytesOf first) (bytesOf last)]
termination_by last - first
decreasing_by
  · have before := @CharSet.previous_lt n (by omega)
    omega
  · omega

end Character

/-- The byte sequences of a set of characters. -/
def CharSet.byteSequences (s : CharSet) : List (List Character.ByteRange) :=
  s.ranges.flatMap fun r => Character.byteSequences r.1 r.2

end ObjectQuery
