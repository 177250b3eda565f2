import ObjectQuery.Instant
import ObjectQuery.Json.Basic
import ObjectQuery.Json.Printer
import ObjectQuery.Numeral.Decimal
import ObjectQuery.Text.Split

/-!
# What JSON values stand for

Objects are plain JSON. A date and a decimal travel in an envelope, an object with the single member
`$date` or `$decimal`; a reference is an object with an `_id`, or the bare id. A number is also a
decimal, by the text it prints as.
-/

namespace ObjectQuery

open Numeral (Decimal)

namespace Value

def dateTag : String := "$date"

def decimalTag : String := "$decimal"

/-- The text in an envelope with the given tag. -/
def envelope? (tag : String) : Json → Option String
  | .obj [(key, .str text)] => if key = tag then some text else none
  | _ => none

/-- A date in its envelope. -/
def ofInstant (t : Instant) : Json := .obj [(dateTag, .str t.render)]

/-- A decimal in its envelope. -/
def ofDecimal (d : Decimal) : Json := .obj [(decimalTag, .str d.render)]

/-- The instant in a date envelope. -/
def asDate? (v : Json) : Option Instant :=
  (envelope? dateTag v).bind Instant.ofText?

/-- The decimal in an envelope, or that of a number. -/
def asDecimal? : Json → Option Decimal
  | .num n => (Decimal.ofText? n.render).or (Decimal.ofFloat? n.toFloat)
  | v => (envelope? decimalTag v).bind Decimal.ofText?

/-- The double of a number, or the nearest one to a decimal in an envelope. -/
def asDouble? : Json → Option Float
  | .num n => some n.toFloat
  | v => (asDecimal? v).map Decimal.toFloat

/-- Whether a value is an envelope, whatever its text. -/
def isTagged (v : Json) : Bool :=
  (envelope? dateTag v).isSome || (envelope? decimalTag v).isSome

/-- Numbers, and decimal envelopes whatever their text. -/
def isNumeric : Json → Bool
  | .num _ => true
  | v => (envelope? decimalTag v).isSome

/-- The id of a referenced object. -/
def referenceId? : Json → Option String
  | .str id => some id
  | .obj members =>
    if isTagged (.obj members) then none else (Json.member? members "_id").bind Json.asStr?
  | _ => none

/-- Only null and `false` are not truthy. -/
def truthy : Json → Bool
  | .null => false
  | .bool b => b
  | _ => true

/-- The value one segment further: a member of an object, or an item of an array by its position. -/
def step (v : Json) (segment : String) : Json :=
  match v with
  | .obj members => (Json.member? members segment).getD .null
  | .arr items =>
    match Numeral.readUnsigned? segment Numeral.bound64 with
    | some i => items.getD i .null
    | none => .null
  | _ => .null

/-- The value at a dotted path; null where a segment is missing. -/
def getPath (v : Json) (path : String) : Json :=
  (Text.split '.' path).foldl step v

end Value

end ObjectQuery
