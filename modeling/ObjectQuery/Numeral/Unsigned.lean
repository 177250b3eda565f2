/-!
# Unsigned numerals

An optional plus sign and at least one ASCII digit; the value must stay below a bound, which is
where a counter of a fixed width ends.
-/

namespace ObjectQuery.Numeral

/-- The value of a list of decimal digits, most significant first. -/
def ofDigits (ds : List Char) : Nat :=
  ds.foldl (fun n c => n * 10 + (c.toNat - '0'.toNat)) 0

/-- Reads digits without a sign. -/
def readDigits? (cs : List Char) (bound : Nat) : Option Nat :=
  if cs.isEmpty || cs.any (fun c => !c.isDigit) then none
  else
    let n := ofDigits cs
    if n < bound then some n else none

/-- Reads a numeral that may open with a plus sign. -/
def readUnsigned? (text : String) (bound : Nat) : Option Nat :=
  match text.toList with
  | '+' :: rest => readDigits? rest bound
  | cs => readDigits? cs bound

/-- Values of thirty-two bits. -/
def bound32 : Nat := Nat.pow 2 32

/-- Values of sixty-four bits. -/
def bound64 : Nat := Nat.pow 2 64

end ObjectQuery.Numeral
