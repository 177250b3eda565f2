import ObjectQuery.Json.Basic

/-!
# Reading JSON text

A recursive-descent reader over the characters. Its fuel is twice the length of the text:
of two steps in a row at least one consumes a character; `limit` bounds the nesting of containers.

A numeral without fraction and exponent is an integer when it fits sixty-four bits. Every other
numeral is read as the digits that fit sixty-four bits times a power of ten: one multiplication or
division of doubles, so the result can be a neighbour of the nearest double.

A text that is no JSON is refused with the first fault and its place.
-/

namespace ObjectQuery

/-- What is wrong with a text that is no JSON. -/
inductive JsonFault where
  | endInList
  | endInObject
  | endInString
  | endInValue
  | colon
  | listEnd
  | objectEnd
  | word
  | value
  | escape
  | numeral
  | range
  | control
  | key
  | loneSurrogate
  | unpairedSurrogate
  | trailingComma
  | trailing
  | nesting
deriving DecidableEq, Inhabited

def JsonFault.message : JsonFault → String
  | endInList => "EOF while parsing a list"
  | endInObject => "EOF while parsing an object"
  | endInString => "EOF while parsing a string"
  | endInValue => "EOF while parsing a value"
  | colon => "expected `:`"
  | listEnd => "expected `,` or `]`"
  | objectEnd => "expected `,` or `\x7d`"
  | word => "expected ident"
  | value => "expected value"
  | escape => "invalid escape"
  | numeral => "invalid number"
  | range => "number out of range"
  | control => "control character (\\u0000-\\u001F) found while parsing a string"
  | key => "key must be a string"
  | loneSurrogate => "lone leading surrogate in hex escape"
  | unpairedSurrogate => "unexpected end of hex escape"
  | trailingComma => "trailing comma"
  | trailing => "trailing characters"
  | nesting => "recursion limit exceeded"

namespace Json

/-- A fault, and how many bytes of the text are left behind it. -/
structure Stop where
  fault : JsonFault
  left : Nat
deriving Inhabited

/-- What a reader finds, mostly together with the characters behind it, or else its first fault. -/
abbrev Reading := Except Stop

/-- The bytes that characters take. -/
def byteCount (cs : List Char) : Nat := cs.foldl (fun n c => n + c.utf8Size) 0

/-- Stops so many bytes into the characters that are left, or at the end of the text. -/
def stop (fault : JsonFault) (cs : List Char) (bytes : Nat) : Reading α :=
  .error ⟨fault, byteCount cs - bytes⟩

/-- Stops at the first of the characters that are left, of which one byte has been seen. -/
def stopAt (fault : JsonFault) (cs : List Char) : Reading α := stop fault cs 1

/-- Stops where a character is missing, or else does not fit. -/
def stopUnless (missing misfit : JsonFault) (cs : List Char) : Reading α :=
  stopAt (if cs.isEmpty then missing else misfit) cs

/-! ## Numerals -/

/-- What follows the blanks of a text. -/
def skipBlanks (cs : List Char) : List Char :=
  cs.dropWhile (fun c => c = ' ' || c = '\n' || c = '\r' || c = '\t')

/-- The digits that stand first, and what follows. -/
def spanDigits (cs : List Char) : List Char × List Char :=
  cs.span Char.isDigit

/-- Reads a decimal digit's value. -/
def digitValue (c : Char) : Nat := c.toNat - '0'.toNat

/-- The power of ten as a double, exact to rounding. -/
def powerOfTen (n : Nat) : Float := Float.ofScientific 1 false n

/--
`significand * 10 ^ exponent`, by one multiplication or division where the power of ten is itself a
double. A result that overflows is refused.
-/
def scaledFloat (significand : Nat) (exponent : Int) : Option Float :=
  let start := Float.ofNat significand
  let rec go (fuel : Nat) (f : Float) (e : Int) : Option Float :=
    match fuel with
    | 0 => some f
    | fuel + 1 =>
      if e.natAbs ≤ 308 then
        if 0 ≤ e then
          let r := f * powerOfTen e.natAbs
          if r.isInf then none else some r
        else some (f / powerOfTen e.natAbs)
      else if f == 0.0 then some f
      else if 0 ≤ e then none
      else go fuel (f / 1e308) (e + 308)
  go 8 start exponent

/-- Accumulates digits while they fit sixty-four bits, and counts those that no longer do. -/
def readSignificand (digits : List Char) (start : Nat) : Nat × List Char :=
  match digits with
  | [] => (start, [])
  | c :: cs =>
    let next := start * 10 + digitValue c
    if next < Nat.pow 2 64 then readSignificand cs next else (start, c :: cs)

/-- The value of an exponent's digits; none from 2 ^ 31 on. -/
def exponentValue? (ds : List Char) : Option Nat :=
  let n := ds.foldl (fun n c => n * 10 + digitValue c) 0
  if n < Nat.pow 2 31 then some n else none

/-- The digits behind the first at which an exponent becomes too large. -/
def excessDigits : (n : Nat) → List Char → List Char
  | _, [] => []
  | n, c :: cs =>
    let n := n * 10 + digitValue c
    if n < Nat.pow 2 31 then excessDigits n cs else cs

/-- An exponent's sign and digits, which stand behind its letter. -/
def readExponent (cs : List Char) : Reading ((Bool × List Char) × List Char) :=
  let (negative, cs) :=
    match cs with
    | '+' :: r => (false, r)
    | '-' :: r => (true, r)
    | r => (false, r)
  match spanDigits cs with
  | ([], _) => stopUnless .endInValue .numeral cs
  | (ds, rest) => .ok ((negative, ds), rest)

/-- Applies a sign to a double; a negative zero keeps it. -/
def signed (negative : Bool) (x : Float) : Number := .float (if negative then -x else x)

/-- A double from its significand and a power of ten; it stands before `rest`. -/
def readScaled (negative : Bool) (significand : Nat) (exponent : Int) (rest : List Char) :
    Reading (Number × List Char) :=
  match scaledFloat significand exponent with
  | some x => .ok (signed negative x, rest)
  | none => stop .range rest 0

/-- A double from its significand, the power of ten so far, and an optional exponent part. -/
def finishFloat (negative : Bool) (significand : Nat) (exponent : Int) (cs : List Char) :
    Reading (Number × List Char) :=
  match cs with
  | 'e' :: r | 'E' :: r => do
    let ((below, ds), rest) ← readExponent r
    match exponentValue? ds with
    | some e => readScaled negative significand (exponent + if below then -(e : Int) else e) rest
    | none =>
      if significand ≠ 0 ∧ !below then stop .range (excessDigits 0 ds ++ rest) 0
      else return (signed negative 0.0, rest)
  | _ => readScaled negative significand exponent cs

/-- The part of a numeral after its integer digits. -/
def finishNumber (negative : Bool) (significand : Nat) (dropped : List Char) (cs : List Char) :
    Reading (Number × List Char) :=
  match cs with
  | '.' :: r =>
    match spanDigits r with
    | ([], _) => stopUnless .endInValue .numeral r
    | (ds, rest) =>
      let (m, left) := readSignificand ds significand
      finishFloat negative m (dropped.length - ((ds.length - left.length : Nat) : Int)) rest
  | 'e' :: _ | 'E' :: _ => finishFloat negative significand dropped.length cs
  | _ =>
    if !dropped.isEmpty then finishFloat negative significand dropped.length cs
    else if !negative then .ok (.int significand, cs)
    else if significand = 0 ∨ Nat.pow 2 63 < significand then
      .ok (signed true (Float.ofNat significand), cs)
    else .ok (.int (-(significand : Int)), cs)

/-- Reads the numeral behind an optional sign; a leading zero stands alone. -/
def readUnsigned (negative : Bool) (cs : List Char) : Reading (Number × List Char) :=
  match spanDigits cs with
  | ([], _) => stopUnless .endInValue .numeral cs
  | ('0' :: d :: ds, rest) => stopAt .numeral (d :: ds ++ rest)
  | (ds, rest) =>
    let (m, dropped) := readSignificand ds 0
    finishNumber negative m dropped rest

/-- Reads a numeral. -/
def readNumber (cs : List Char) : Reading (Number × List Char) :=
  match cs with
  | '-' :: rest => readUnsigned true rest
  | [] => stopAt .endInValue []
  | c :: rest => if c.isDigit then readUnsigned false (c :: rest) else stopAt .value (c :: rest)

/-! ## Strings -/

/-- The value of a hexadecimal digit. -/
def hexValue? (c : Char) : Option Nat :=
  if c.isDigit then some (c.toNat - '0'.toNat)
  else if 'a' ≤ c ∧ c ≤ 'f' then some (c.toNat - 'a'.toNat + 10)
  else if 'A' ≤ c ∧ c ≤ 'F' then some (c.toNat - 'A'.toNat + 10)
  else none

/-- Four hexadecimal digits as a code unit. -/
def readUnit (cs : List Char) : Reading (Nat × List Char) :=
  match cs.take 4 |>.mapM hexValue? with
  | some [a, b, c, d] => .ok (((a * 16 + b) * 16 + c) * 16 + d, cs.drop 4)
  | _ => if byteCount cs < 4 then stopAt .endInString [] else stop .escape cs 4

/-- Drops the opening of an escape that has to follow a leading surrogate. -/
def expectEscape : List Char → Reading (List Char)
  | '\\' :: 'u' :: rest => .ok rest
  | '\\' :: rest => stopUnless .endInString .unpairedSurrogate rest
  | rest => stopUnless .endInString .unpairedSurrogate rest

/-- The character of a code unit, and of a second one where the first is a leading surrogate. -/
def readCharacter (cs : List Char) : Reading (Char × List Char) := do
  let (u, rest) ← readUnit cs
  if 0xDC00 ≤ u ∧ u < 0xE000 then stop .loneSurrogate rest 0
  else if 0xD800 ≤ u ∧ u < 0xDC00 then
    let (v, rest) ← readUnit (← expectEscape rest)
    if 0xDC00 ≤ v ∧ v < 0xE000 then
      return (Char.ofNat (0x10000 + (u - 0xD800) * 0x400 + (v - 0xDC00)), rest)
    else stop .loneSurrogate rest 0
  else return (Char.ofNat u, rest)

/-- What a letter behind a backslash stands for. -/
def escaped? : Char → Option Char
  | '"' => some '"'
  | '\\' => some '\\'
  | '/' => some '/'
  | 'b' => some '\x08'
  | 'f' => some '\x0c'
  | 'n' => some '\n'
  | 'r' => some '\r'
  | 't' => some '\t'
  | _ => none

/-- The body of a string up to its closing quote. -/
def readString : Nat → List Char → List Char → Reading (String × List Char)
  | 0, _, cs => stopAt .endInString cs
  | fuel + 1, acc, cs =>
    match cs with
    | '"' :: rest => .ok (String.ofList acc.reverse, rest)
    | '\\' :: 'u' :: rest => do
      let (c, rest) ← readCharacter rest
      readString fuel (c :: acc) rest
    | '\\' :: c :: rest =>
      match escaped? c with
      | some e => readString fuel (e :: acc) rest
      | none => stopAt .escape (c :: rest)
    | ['\\'] => stopAt .endInString []
    | c :: rest =>
      if c.toNat < 32 then stopAt .control (c :: rest) else readString fuel (c :: acc) rest
    | [] => stopAt .endInString []

/-! ## Values -/

/-- Drops an expected word. -/
def expectWord : List Char → List Char → Reading (List Char)
  | [], cs => .ok cs
  | _, [] => stopAt .endInValue []
  | w :: ws, c :: cs => if c = w then expectWord ws cs else stopAt .word (c :: cs)

/-- Reads the rest of a word that stands for a value. -/
def readWord (rest : String) (v : Json) (cs : List Char) : Reading (Json × List Char) :=
  (expectWord rest.toList cs).map fun cs => (v, cs)

mutual

/-- Reads one value; `limit` counts the containers that may still be opened. -/
def readValue : Nat → Nat → List Char → Reading (Json × List Char)
  | 0, _, cs => stopAt .endInValue cs
  | fuel + 1, limit, cs =>
    match skipBlanks cs with
    | 'n' :: rest => readWord "ull" .null rest
    | 't' :: rest => readWord "rue" (.bool true) rest
    | 'f' :: rest => readWord "alse" (.bool false) rest
    | '"' :: rest => (readString (fuel + 1) [] rest).map fun (s, r) => (.str s, r)
    | '[' :: rest =>
      match limit with
      | 0 => stopAt .nesting ('[' :: rest)
      | limit + 1 =>
        match skipBlanks rest with
        | ']' :: rest => .ok (.arr [], rest)
        | [] => stopAt .endInList []
        | _ => readItems fuel limit [] rest
    | '\x7b' :: rest =>
      match limit with
      | 0 => stopAt .nesting ('\x7b' :: rest)
      | limit + 1 =>
        match skipBlanks rest with
        | '\x7d' :: rest => .ok (.obj [], rest)
        | [] => stopAt .endInObject []
        | _ => readMembers fuel limit [] rest
    | cs => (readNumber cs).map fun (n, r) => (.num n, r)

/-- Reads the items of a non-empty array up to its bracket. -/
def readItems : Nat → Nat → List Json → List Char → Reading (Json × List Char)
  | 0, _, _, cs => stopAt .endInList cs
  | fuel + 1, limit, acc, cs => do
    let (v, rest) ← readValue fuel limit cs
    match skipBlanks rest with
    | ',' :: rest =>
      match skipBlanks rest with
      | ']' :: rest => stopAt .trailingComma (']' :: rest)
      | _ => readItems fuel limit (v :: acc) rest
    | ']' :: rest => return (.arr (v :: acc).reverse, rest)
    | rest => stopUnless .endInList .listEnd rest

/-- Reads the members of a non-empty object up to its brace. -/
def readMembers : Nat → Nat → List (String × Json) → List Char → Reading (Json × List Char)
  | 0, _, _, cs => stopAt .endInObject cs
  | fuel + 1, limit, acc, cs =>
    match skipBlanks cs with
    | '"' :: rest => do
      let (k, rest) ← readString (fuel + 1) [] rest
      match skipBlanks rest with
      | ':' :: rest => do
        let (v, rest) ← readValue fuel limit rest
        match skipBlanks rest with
        | ',' :: rest =>
          match skipBlanks rest with
          | '\x7d' :: rest => stopAt .trailingComma ('\x7d' :: rest)
          | _ => readMembers fuel limit ((k, v) :: acc) rest
        | '\x7d' :: rest => return (.obj (ofMembers ((k, v) :: acc).reverse), rest)
        | rest => stopUnless .endInObject .objectEnd rest
      | rest => stopUnless .endInObject .colon rest
    | rest => stopUnless .endInValue .key rest

end

/-! ## Texts -/

/-- The deepest nesting that is read. -/
def nestingLimit : Nat := 127

/-- Reads a whole text as one value. -/
def readText (text : String) (limit : Nat) : Reading Json := do
  let cs := text.toList
  let (v, rest) ← readValue (2 * cs.length + 2) limit cs
  match skipBlanks rest with
  | [] => return v
  | rest => stopAt .trailing rest

/-- A fault at a line, counted from one, and after so many bytes of the line. -/
structure Misread where
  fault : JsonFault
  line : Nat
  column : Nat
deriving DecidableEq, Inhabited

def Misread.message (m : Misread) : String :=
  m.fault.message ++ " at line " ++ toString m.line ++ " column " ++ toString m.column

/-- The line and column so many bytes behind a place. -/
def locate : (bytes line column : Nat) → List Char → Nat × Nat
  | _, line, column, [] => (line, column)
  | bytes, line, column, c :: cs =>
    if bytes = 0 then (line, column)
    else if c = '\n' then locate (bytes - 1) (line + 1) 0 cs
    else locate (bytes - c.utf8Size) line (column + min bytes c.utf8Size) cs

/-- The value of a text, or the first fault of one that is no JSON. -/
def parse (text : String) (limit : Nat) : Except Misread Json :=
  match readText text limit with
  | .ok v => .ok v
  | .error s =>
    let (line, column) := locate (text.utf8ByteSize - s.left) 1 0 text.toList
    .error ⟨s.fault, line, column⟩

/-- The value of a text that is JSON. -/
def parse? (text : String) (limit : Nat) : Option Json := (parse text limit).toOption

end Json

end ObjectQuery
