import ObjectQuery.Operator
import ObjectQuery.Value.Basic

/-!
# Equality and order of values

Values are compared by what they stand for. Null equals null only and is ordered with nothing. Dates
are ordered by instant, numbers and decimals by value, strings by code point, and false comes before
true; values of different kinds are not ordered. References are equal when their ids are.

Two numbers are compared as doubles, a number and a decimal as decimals.
-/

namespace ObjectQuery.Value

open Numeral (Decimal)

/-- The order of two numeric values. -/
def numericOrder : Json → Json → Option Ordering
  | .num a, .num b => Numeral.compareFloat a.toFloat b.toFloat
  | a, b =>
    match asDecimal? a, asDecimal? b with
    | some x, some y => some (x.order y)
    | _, _ => none

/-- The order of two values of one kind; none for values that are not ordered. -/
def order (a b : Json) : Option Ordering :=
  match asDate? a, asDate? b with
  | some x, some y => some (x.order y)
  | _, _ =>
    if isNumeric a && isNumeric b then numericOrder a b
    else
      match a, b with
      | .str x, .str y => some (compare x y)
      | .bool x, .bool y => some (compare x y)
      | _, _ => none

/--
Decides equality where the kinds alone do: dates by instant, numeric values by their order, and
references by id when one is a bare id. Containers of plain values are left open.
-/
def equalByKind? (a b : Json) : Option Bool :=
  match asDate? a, asDate? b with
  | some x, some y => some (x == y)
  | _, _ =>
    if isNumeric a && isNumeric b then some (numericOrder a b == some .eq)
    else
      match a, b with
      | .null, .null => some true
      | .bool x, .bool y => some (x == y)
      | .str x, .str y => some (x == y)
      | .obj _, .obj _ | .obj _, .str _ | .str _, .obj _ =>
        match referenceId? a, referenceId? b with
        | some x, some y => some (x == y)
        | _, _ => none
      | _, _ => none

mutual

/-- Equality by meaning. -/
def equals : Json → Json → Bool
  | .arr xs, .arr ys => itemsEqual xs ys
  | .obj xs, b =>
    match equalByKind? (.obj xs) b with
    | some decided => decided
    | none =>
      match b with
      | .obj ys => xs.length == ys.length && membersEqual xs ys
      | _ => false
  | a, b => (equalByKind? a b).getD false

def itemsEqual : List Json → List Json → Bool
  | [], [] => true
  | x :: xs, y :: ys => equals x y && itemsEqual xs ys
  | _, _ => false

def membersEqual : List (String × Json) → List (String × Json) → Bool
  | [], _ => true
  | (key, x) :: xs, ys =>
    (match Json.member? ys key with
    | some y => equals x y
    | none => false) && membersEqual xs ys

end

/-- Whether a comparison holds of two values. -/
def compares (op : Comparison) (left right : Json) : Bool :=
  match op with
  | .eq => equals left right
  | .ne => !equals left right
  | op => (order left right).any op.admits

/-- Whether a list holds a value equal to the given one. -/
def holds (list : List Json) (v : Json) : Bool := list.any (equals v)

end ObjectQuery.Value
