import ObjectQuery.Numeral.Shortest
import ObjectQuery.Numeral.Unsigned

/-!
# Decimals

A decimal is an integer coefficient of at most ninety-six bits over a power of ten of at most
twenty-eight. Trailing zeros are kept, so `1.50` and `1.5` are equal in value and differ in text;
there is no negative zero.

Reading rounds: fraction digits beyond the twenty-eighth, or beyond what the coefficient holds, are
dropped after rounding half up on the first of them. What then follows is not looked at.
-/

namespace ObjectQuery.Numeral

/-- `coefficient / 10 ^ scale`. -/
structure Decimal where
  coefficient : Int
  scale : Nat
deriving DecidableEq, Inhabited

namespace Decimal

/-- Coefficients stay below this bound. -/
def bound : Nat := Nat.pow 2 96

/-- The greatest scale. -/
def maxScale : Nat := 28

/-- The order of values, whatever their scales. -/
def order (a b : Decimal) : Ordering :=
  compare (a.coefficient * Int.pow 10 b.scale) (b.coefficient * Int.pow 10 a.scale)

/-- A magnitude with a sign. -/
def ofMagnitude (negative : Bool) (magnitude scale : Nat) : Decimal :=
  ⟨if negative then -(magnitude : Int) else magnitude, scale⟩

/-- The digits of the coefficient with a point before the last `scale` of them. -/
def render (d : Decimal) : String :=
  let ds := Nat.toDigits 10 d.coefficient.natAbs
  let ds := List.replicate (d.scale + 1 - ds.length) '0' ++ ds
  let whole := ds.take (ds.length - d.scale)
  let fraction := ds.drop (ds.length - d.scale)
  let body := if d.scale = 0 then whole else whole ++ '.' :: fraction
  String.ofList (if d.coefficient < 0 then '-' :: body else body)

/-- Divides by a power of ten, rounding half up on the first digit lost. -/
def roundedDown (magnitude places : Nat) : Nat :=
  if places = 0 then magnitude
  else magnitude / Nat.pow 10 places + (if 5 ≤ magnitude / Nat.pow 10 (places - 1) % 10 then 1 else 0)

/--
Ends the reading of a fraction at a character it has no room for: a digit rounds the magnitude, a
separator or a second point ends it as it is.
-/
def cutOff (magnitude scale : Nat) (c : Char) : Option (Nat × Nat) :=
  if c.isDigit then
    if '5' ≤ c then
      if magnitude + 1 < bound then some (magnitude + 1, scale)
      else if scale = 0 then none
      else some ((magnitude + 5) / 10, scale - 1)
    else some (magnitude, scale)
  else if c = '_' ∨ c = '.' then some (magnitude, scale)
  else none

/--
Reads the digits of a magnitude: `point` tells that the point has been read, `started` that a digit
has. Separators may follow a first digit.
-/
def readMagnitude (cs : List Char) (point started : Bool) (magnitude scale : Nat) :
    Option (Nat × Nat) :=
  match cs with
  | [] => if started then some (magnitude, scale) else none
  | c :: rest =>
    if started && point && maxScale ≤ scale then cutOff magnitude scale c
    else if c.isDigit then
      let next := magnitude * 10 + (c.toNat - '0'.toNat)
      if next < bound then readMagnitude rest point true next (if point then scale + 1 else 0)
      else if point then cutOff magnitude scale c
      else none
    else if c = '.' ∧ !point then readMagnitude rest true started magnitude scale
    else if c = '_' ∧ started then readMagnitude rest point true magnitude scale
    else none

/-- Reads a decimal without exponent. -/
def readPlain? (cs : List Char) : Option Decimal :=
  match cs with
  | '-' :: rest => (readMagnitude rest false false 0 0).map (fun (m, s) => ofMagnitude true m s)
  | '+' :: rest => (readMagnitude rest false false 0 0).map (fun (m, s) => ofMagnitude false m s)
  | cs => (readMagnitude cs false false 0 0).map (fun (m, s) => ofMagnitude false m s)

/-- Moves the point left, rounding where the scale would exceed its bound. -/
def shiftDown? (d : Decimal) (n : Nat) : Option Decimal :=
  if maxScale < n then none
  else if maxScale < d.scale + n then
    let kept := maxScale - n
    some (ofMagnitude (d.coefficient < 0) (roundedDown d.coefficient.natAbs (d.scale - kept)) maxScale)
  else some ⟨d.coefficient, d.scale + n⟩

/-- Moves the point right; a whole result has no fraction left. -/
def shiftUp? (d : Decimal) (n : Nat) : Option Decimal :=
  if n ≤ d.scale then some ⟨d.coefficient, d.scale - n⟩
  else if maxScale < n then none
  else
    let c := d.coefficient * Int.pow 10 (n - d.scale)
    if c.natAbs < bound then some ⟨c, 0⟩ else none

/-- Reads a decimal with an exponent part. -/
def readScientific? (cs : List Char) : Option Decimal :=
  let isMark := fun c => c = 'e' || c = 'E'
  match cs.dropWhile (fun c => !isMark c) with
  | [] => none
  | _ :: power =>
    (readPlain? (cs.takeWhile (fun c => !isMark c))).bind fun base =>
      match power with
      | '-' :: rest => (readUnsigned? (String.ofList rest) bound32).bind base.shiftDown?
      | rest => (readUnsigned? (String.ofList rest) bound32).bind base.shiftUp?

/-- Reads a decimal. -/
def ofText? (text : String) : Option Decimal :=
  (readPlain? text.toList).or (readScientific? text.toList)

/-! ## From a double

The value `mantissa * 2 ^ exponent` is brought to a power of ten by exchanging factors of two and
five while they fit ninety-six bits, and is then cut to the digits a double carries.
-/

/-- Exchanges negative powers of two for powers of ten. -/
def absorbHalves : Nat → Nat → Int → Nat × Int
  | 0, m, e10 => (m, e10)
  | fuel + 1, m, e10 =>
    if m % 2 = 0 then absorbHalves fuel (m / 2) (e10 + 1)
    else if m * 5 < bound then absorbHalves fuel (m * 5) e10
    else absorbHalves fuel (m / 2) (e10 + 1)

/-- Exchanges positive powers of two for powers of ten. -/
def absorbDoubles : Nat → Nat → Int → Nat × Int
  | 0, m, e10 => (m, e10)
  | fuel + 1, m, e10 =>
    if m < Nat.pow 2 95 then absorbDoubles fuel (m * 2) (e10 - 1)
    else absorbDoubles fuel (m / 5) e10

/-- Brings the scale under its bound; what vanishes is zero. -/
def absorbTens : Nat → Nat → Int → Nat × Int
  | 0, m, e10 => (m, e10)
  | fuel + 1, m, e10 =>
    if e10 < -(maxScale : Int) then
      let q := m / 10
      if q = 0 then (0, 0)
      else absorbTens fuel (if 5 ≤ m % 10 then q + 1 else q) (e10 + 1)
    else (m, e10)

/-- Cuts the digits beyond those a double guarantees. -/
def cutExcess : Nat → Nat → Int → Nat × Int
  | 0, m, e10 => (m, e10)
  | fuel + 1, m, e10 =>
    if e10 < 0 ∧ Nat.pow 2 52 ≤ m then cutExcess fuel (roundedDown m 1) (e10 + 1) else (m, e10)

/-- Drops trailing zeros of the fraction. -/
def dropZeros : Nat → Nat → Int → Nat × Int
  | 0, m, e10 => (m, e10)
  | fuel + 1, m, e10 =>
    if e10 < 0 ∧ m % 10 = 0 then dropZeros fuel (m / 10) (e10 + 1) else (m, e10)

/-- The decimal nearest to a double at a double's own precision, if it is in range. -/
def ofFloat? (x : Float) : Option Decimal :=
  let d := Dyadic.ofFloat x
  if !x.isFinite then none
  else if d.mantissa = 0 then some ⟨0, 0⟩
  else
    let (m, e10) :=
      if d.exponent < 0 then absorbHalves d.exponent.natAbs d.mantissa d.exponent
      else absorbDoubles d.exponent.natAbs d.mantissa d.exponent
    let whole := m * Nat.pow 10 e10.toNat
    if bound ≤ whole then none
    else
      let (m, e10) := absorbTens e10.natAbs whole (min e10 0)
      let (m, e10) := cutExcess 30 m e10
      let (m, e10) := dropZeros 30 m e10
      some (ofMagnitude (isNegative x) m e10.natAbs)

/-- The double nearest to a decimal. -/
def toFloat (d : Decimal) : Float :=
  let x := Float.ofScientific d.coefficient.natAbs true d.scale
  if d.coefficient < 0 then -x else x

end Decimal

end ObjectQuery.Numeral
