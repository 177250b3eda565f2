/-!
# Shortest decimal text of a double

A finite double stands for the interval of reals that round to it. Its shortest text uses the
fewest decimal digits that fall into that interval and, among those, the digits closest to the
double. The search is in exact natural-number arithmetic: no step rounds.

How the digits are laid out (where positional notation ends, how an exponent is signed) is a
decision of the format that prints them, so it is a `FloatLayout` value and not part of the search.
-/

namespace ObjectQuery.Numeral

/-- The magnitude of a finite double as `mantissa * 2 ^ exponent`. -/
structure Dyadic where
  mantissa : Nat
  exponent : Int
deriving DecidableEq, Inhabited

/-- Reads mantissa and exponent off the bits; the sign bit is ignored. -/
def Dyadic.ofFloat (x : Float) : Dyadic :=
  let bits := x.toBits.toNat % Nat.pow 2 63
  let biased : Nat := bits / Nat.pow 2 52
  let fraction := bits % Nat.pow 2 52
  if biased = 0 then ⟨fraction, -1074⟩ else ⟨Nat.pow 2 52 + fraction, (biased : Int) - 1075⟩

/-- The sign bit, which also tells `-0.0` from `0.0`. -/
def isNegative (x : Float) : Bool :=
  decide (Nat.pow 2 63 ≤ x.toBits.toNat)

/-- An integer that orders finite doubles as their values do; both zeros have key zero. -/
def orderKey (x : Float) : Int :=
  let magnitude : Int := (x.toBits.toNat % Nat.pow 2 63 : Nat)
  if isNegative x then -magnitude else magnitude

/-- The order of two doubles, which not-a-number has with nothing. -/
def compareFloat (x y : Float) : Option Ordering :=
  if x.isNaN || y.isNaN then none else some (compare (orderKey x) (orderKey y))

/-- Decimal digits as one number, with the power of ten of the last digit. -/
structure Digits where
  value : Nat
  exponent : Int
deriving DecidableEq, Inhabited

/-- The number of decimal digits; zero has one. -/
def digitCount (n : Nat) : Nat :=
  (Nat.toDigits 10 n).length

/-- Drops trailing zeros, at most `fuel` of them. -/
def Digits.strip : Nat → Digits → Digits
  | 0, d => d
  | fuel + 1, d =>
    if d.value ≠ 0 ∧ d.value % 10 = 0 then Digits.strip fuel ⟨d.value / 10, d.exponent + 1⟩ else d

/--
The interval of reals that round to a double, over the common unit `num / den`: the double itself
is `4 * mantissa` units, and its ends are `low` and `high` units, included when `closed`.
-/
structure Interval where
  mid : Nat
  low : Nat
  high : Nat
  num : Nat
  den : Nat
  closed : Bool

/-- Below a power of two the neighbour is only half as far away. -/
def Dyadic.interval (d : Dyadic) : Interval :=
  let isPower := decide (d.mantissa = Nat.pow 2 52 ∧ d.exponent > -1074)
  let low := if isPower then 4 * d.mantissa - 1 else 4 * d.mantissa - 2
  let shift := d.exponent - 2
  { mid := 4 * d.mantissa
    low := low
    high := 4 * d.mantissa + 2
    num := Nat.pow 2 shift.toNat
    den := Nat.pow 2 (-shift).toNat
    closed := d.mantissa % 2 = 0 }

/-- Whether `c * 10 ^ s` lies in the interval. -/
def Interval.holds (i : Interval) (s : Int) (c : Nat) : Bool :=
  let up := i.num * Nat.pow 10 (-s).toNat
  let point := c * (i.den * Nat.pow 10 s.toNat)
  if i.closed then decide (i.low * up ≤ point ∧ point ≤ i.high * up)
  else decide (i.low * up < point ∧ point < i.high * up)

/--
The multiple of `10 ^ s` in the interval nearest to its double, if there is one. Only the two
multiples around the double can be nearest; a tie goes to the even one.
-/
def Interval.nearest? (i : Interval) (s : Int) : Option Nat :=
  let up := i.mid * (i.num * Nat.pow 10 (-s).toNat)
  let down := i.den * Nat.pow 10 s.toNat
  let c := up / down
  match i.holds s c && decide (0 < c), i.holds s (c + 1) with
  | true, true =>
    let below := up - c * down
    let above := (c + 1) * down - up
    if below < above then some c
    else if above < below then some (c + 1)
    else if c % 2 = 0 then some c else some (c + 1)
  | true, false => some c
  | false, true => some (c + 1)
  | false, false => none

/-- A power of ten that is at least that of the leading digit. -/
def Interval.leading (i : Interval) : Int :=
  let up := i.mid * i.num
  if up = 0 then 0
  else if i.den ≤ up then (digitCount (up / i.den) : Int) - 1
  else 1 - (digitCount (i.den / up) : Int)

/-- Searches coarser grids before finer ones. -/
def Interval.search (i : Interval) : Nat → Int → Digits
  | 0, s => ⟨i.mid * (i.num * Nat.pow 10 (-s).toNat) / (i.den * Nat.pow 10 s.toNat), s⟩
  | fuel + 1, s =>
    match i.nearest? s with
    | some c => ⟨c, s⟩
    | none => i.search fuel (s - 1)

/-- The shortest digits of a magnitude; seventeen always suffice for a double. -/
def Dyadic.shortest (d : Dyadic) : Digits :=
  let i := d.interval
  (i.search 18 i.leading).strip 400

/-- How a format writes the digits of a double. -/
structure FloatLayout where
  /-- The least power of ten of a leading digit that is written positionally. -/
  lowest : Int
  /-- The greatest power of ten of a leading digit that is written positionally. -/
  highest : Int
  /-- Whether a positive exponent is written with its sign. -/
  plus : Bool

/-- JSON text: positional from `0.00001` up to sixteen integer digits, exponents signed. -/
def FloatLayout.json : FloatLayout := ⟨-5, 15, true⟩

/-- Inspection text: positional from `0.0001`, exponents without a plus sign. -/
def FloatLayout.inspect : FloatLayout := ⟨-4, 15, false⟩

/-- Writes digits in a layout; a positional text always has a fraction. -/
def FloatLayout.render (layout : FloatLayout) (d : Digits) : String :=
  let ds := Nat.toDigits 10 d.value
  let e := d.exponent + (ds.length : Int) - 1
  if d.value = 0 then "0.0"
  else if layout.lowest ≤ e ∧ e ≤ layout.highest then
    if e < 0 then
      String.ofList ("0.".toList ++ List.replicate (-e - 1).toNat '0' ++ ds)
    else
      let whole := e.toNat + 1
      let front := ds.take whole ++ List.replicate (whole - ds.length) '0'
      let back := ds.drop whole
      String.ofList (front ++ '.' :: (if back.isEmpty then ['0'] else back))
  else
    let back := ds.drop 1
    let fraction := if back.isEmpty then [] else '.' :: back
    let sign := if e < 0 then ['-'] else if layout.plus then ['+'] else []
    String.ofList (ds.take 1 ++ fraction ++ 'e' :: sign ++ Nat.toDigits 10 e.natAbs)

/-- The text of a finite double; callers treat infinities and not-a-number before. -/
def renderFloat (layout : FloatLayout) (x : Float) : String :=
  let body := layout.render (Dyadic.ofFloat x).shortest
  if isNegative x then "-" ++ body else body

end ObjectQuery.Numeral
