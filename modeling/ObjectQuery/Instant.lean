import ObjectQuery.Numeral.Unsigned

/-!
# Instants and their RFC 3339 text

An instant counts seconds from the start of 1970 in universal time, and nanoseconds within the
second. A leap second is the last second of its minute with a billion or more nanoseconds, so
instants are ordered by the pair.

Reading takes a four-digit year without a sign, seconds, and an offset of at most 23:59; the date
may be separated from the time by a blank, letters may be small, and a minus sign may stand for the
hyphen of an offset. Digits after the ninth of a fraction are dropped. Writing is in universal time
with the shortest of three, six or nine digits of a non-zero fraction; a year outside 0..9999 is
written with its sign and is not readable.
-/

namespace ObjectQuery

structure Instant where
  /-- Seconds since 1970-01-01T00:00:00Z. -/
  seconds : Int
  /-- Below a billion, or below two within a leap second. -/
  nanos : Nat
deriving DecidableEq, Inhabited

namespace Instant

/-- Instants are ordered by second, then within the second. -/
def order (a b : Instant) : Ordering :=
  (compare a.seconds b.seconds).then (compare a.nanos b.nanos)

/-! ## The calendar -/

/-- A day of the proleptic Gregorian calendar. -/
structure Date where
  year : Int
  month : Nat
  day : Nat
deriving DecidableEq, Inhabited

def isLeapYear (year : Int) : Bool :=
  year % 4 == 0 && (year % 100 != 0 || year % 400 == 0)

def daysInMonth (year : Int) (month : Nat) : Nat :=
  if month = 2 then (if isLeapYear year then 29 else 28)
  else if month = 4 ∨ month = 6 ∨ month = 9 ∨ month = 11 then 30
  else 31

def Date.valid (d : Date) : Bool :=
  1 ≤ d.month && d.month ≤ 12 && 1 ≤ d.day && d.day ≤ daysInMonth d.year d.month

/--
Days since 1970-01-01. Years are counted from March, so that the leap day ends its year, and
grouped into eras of four hundred years, after which the calendar repeats.
-/
def Date.toDays (d : Date) : Int :=
  let y := if d.month ≤ 2 then d.year - 1 else d.year
  let era := Int.fdiv y 400
  let yearOfEra := (Int.fmod y 400).toNat
  let dayOfYear := (153 * ((d.month + 9) % 12) + 2) / 5 + (d.day - 1)
  let dayOfEra := yearOfEra * 365 + yearOfEra / 4 - yearOfEra / 100 + dayOfYear
  era * 146097 + dayOfEra - 719468

/-- The day that lies a number of days after 1970-01-01. -/
def Date.ofDays (n : Int) : Date :=
  let z := n + 719468
  let era := Int.fdiv z 146097
  let dayOfEra := (Int.fmod z 146097).toNat
  let yearOfEra := (dayOfEra - dayOfEra / 1460 + dayOfEra / 36524 - dayOfEra / 146096) / 365
  let dayOfYear := dayOfEra - (365 * yearOfEra + yearOfEra / 4 - yearOfEra / 100)
  let marchMonth := (5 * dayOfYear + 2) / 153
  let day := dayOfYear - (153 * marchMonth + 2) / 5 + 1
  let month := if marchMonth < 10 then marchMonth + 3 else marchMonth - 9
  let year := era * 400 + yearOfEra + (if month ≤ 2 then 1 else 0)
  ⟨year, month, day⟩

/-! ## Writing -/

/-- A number in at least `width` digits. -/
def padded (width n : Nat) : String :=
  let ds := Nat.toDigits 10 n
  String.ofList (List.replicate (width - ds.length) '0' ++ ds)

/-- Years of four digits stand alone, all others carry their sign. -/
def renderYear (year : Int) : String :=
  if 0 ≤ year ∧ year ≤ 9999 then padded 4 year.toNat
  else (if year < 0 then "-" else "+") ++ padded 4 year.natAbs

/-- The shortest of three, six or nine digits; nothing for a whole second. -/
def renderFraction (nanos : Nat) : String :=
  if nanos = 0 then ""
  else if nanos % 1000000 = 0 then "." ++ padded 3 (nanos / 1000000)
  else if nanos % 1000 = 0 then "." ++ padded 6 (nanos / 1000)
  else "." ++ padded 9 nanos

/-- The date and time in universal time, without an offset. -/
def renderLocal (t : Instant) : String :=
  let date := Date.ofDays (Int.fdiv t.seconds 86400)
  let ofDay := (Int.fmod t.seconds 86400).toNat
  let leap := 1000000000 ≤ t.nanos
  let second := ofDay % 60 + (if leap then 1 else 0)
  let nanos := if leap then t.nanos - 1000000000 else t.nanos
  renderYear date.year ++ "-" ++ padded 2 date.month ++ "-" ++ padded 2 date.day ++ "T" ++
    padded 2 (ofDay / 3600) ++ ":" ++ padded 2 (ofDay / 60 % 60) ++ ":" ++ padded 2 second ++
    renderFraction nanos

/-- RFC 3339 text in universal time. -/
def render (t : Instant) : String := renderLocal t ++ "+00:00"

/-- Inspection text, which marks universal time by its letter. -/
def inspect (t : Instant) : String := renderLocal t ++ "Z"

/-! ## Reading -/

/-- Takes exactly `n` digits as a number. -/
def takeDigits (n : Nat) (cs : List Char) : Option (Nat × List Char) :=
  let ds := cs.take n
  if ds.length = n ∧ ds.all Char.isDigit then some (Numeral.ofDigits ds, cs.drop n) else none

/-- Takes one expected character. -/
def takeChar (c : Char) : List Char → Option (List Char)
  | [] => none
  | x :: rest => if x = c then some rest else none

/-- An optional fraction, as nanoseconds. -/
def takeFraction (cs : List Char) : Option (Nat × List Char) :=
  match cs with
  | '.' :: rest =>
    let ds := rest.takeWhile Char.isDigit
    if ds.isEmpty then none
    else
      let kept := ds.take 9
      some (Numeral.ofDigits kept * Nat.pow 10 (9 - kept.length), rest.drop ds.length)
  | cs => some (0, cs)

/-- An offset in seconds; it must end the text. -/
def readOffset (cs : List Char) : Option Int :=
  match cs with
  | ['Z'] => some 0
  | ['z'] => some 0
  | sign :: rest => do
    let factor ← if sign = '+' then some (1 : Int)
      else if sign = '-' ∨ sign = '\u2212' then some (-1) else none
    let (hours, rest) ← takeDigits 2 rest
    let rest ← takeChar ':' rest
    let (minutes, rest) ← takeDigits 2 rest
    if hours ≤ 23 ∧ minutes ≤ 59 ∧ rest.isEmpty then
      some (factor * (hours * 3600 + minutes * 60 : Nat))
    else none
  | [] => none

/-- Reads RFC 3339 text. -/
def ofText? (text : String) : Option Instant := do
  let (year, cs) ← takeDigits 4 text.toList
  let cs ← takeChar '-' cs
  let (month, cs) ← takeDigits 2 cs
  let cs ← takeChar '-' cs
  let (day, cs) ← takeDigits 2 cs
  let cs ← match cs with
    | c :: rest => if c = 'T' ∨ c = 't' ∨ c = ' ' then some rest else none
    | [] => none
  let (hour, cs) ← takeDigits 2 cs
  let cs ← takeChar ':' cs
  let (minute, cs) ← takeDigits 2 cs
  let cs ← takeChar ':' cs
  let (second, cs) ← takeDigits 2 cs
  let (nanos, cs) ← takeFraction cs
  let offset ← readOffset cs
  let date : Date := ⟨year, month, day⟩
  if date.valid ∧ hour ≤ 23 ∧ minute ≤ 59 ∧ second ≤ 60 then
    let ofDay := hour * 3600 + minute * 60 + (if second = 60 then 59 else second)
    some {
      seconds := date.toDays * 86400 + (ofDay : Int) - offset
      nanos := if second = 60 then nanos + 1000000000 else nanos }
  else none

end Instant

end ObjectQuery
