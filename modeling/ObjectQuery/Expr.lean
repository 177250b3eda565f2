import ObjectQuery.Error
import ObjectQuery.Value.Compare

/-!
# Expressions

An expression computes a JSON value from an object: keys, constants, arrays, boolean connectives,
comparisons and vector measures. In a request it is an object whose single member is the operator.
-/

namespace ObjectQuery

/-- An expression over an object. -/
inductive Expr where
  | key (path : String)
  | value (v : Json)
  | array (items : List Expr)
  | not (e : Expr)
  | connective (op : Connective) (items : List Expr)
  | comparison (op : Comparison) (left right : Expr)
  | measure (kind : Measure) (left right : List Expr)
deriving Inhabited, BEq

namespace Expr

/-! ## Reading -/

/-- An operator's complaint about its operand. -/
def complaint (name : String) (fault : OperandFault) : Error :=
  .expression (.operator name fault)

/-- Reads the path of a key. -/
def decodeKey (name : String) : Json → Result Expr
  | .str path => if path.isEmpty then .error (complaint name .emptyKey) else .ok (.key path)
  | _ => .error (complaint name .string)

mutual

/-- Reads an expression. -/
def decode : Json → Result Expr
  | .obj [member] => decodeOperator member
  | .obj members => .error (.expression (.operatorCount "expression" members.length))
  | _ => .error (.expression (.notObject "expression"))

/-- Reads an expression from its operator and operand. -/
def decodeOperator : String × Json → Result Expr
  | (name, operand) =>
    if name = "$key" then decodeKey name operand
    else if name = "$value" then .ok (.value operand)
    else if name = "$array" then decodeArray name operand
    else if name = "$not" then (decode operand).map .not
    else if let some op := Connective.ofKey? name then decodeConnective name op operand
    else if let some op := Comparison.ofKey? name then decodeComparison name op operand
    else if let some kind := Measure.ofKey? name then decodeMeasure name kind operand
    else .error (complaint name .unknown)

/-- Reads the items of an array. -/
def decodeArray (name : String) : Json → Result Expr
  | .arr items => (decodeItems items).map .array
  | _ => .error (complaint name .array)

/-- Reads the items of a connective; only a conjunction may have none. -/
def decodeConnective (name : String) (op : Connective) : Json → Result Expr
  | .arr items =>
    if items.isEmpty && op != .and then .error (complaint name .nonEmptyArray)
    else (decodeItems items).map (.connective op)
  | _ => .error (complaint name .array)

/-- Reads the two sides of a comparison. -/
def decodeComparison (name : String) (op : Comparison) : Json → Result Expr
  | .arr [l, r] =>
    match decode l with
    | .ok left => (decode r).map (.comparison op left)
    | .error e => .error e
  | _ => .error (complaint name .twoOperands)

/-- Reads the two vectors of a measure. -/
def decodeMeasure (name : String) (kind : Measure) : Json → Result Expr
  | .arr [l, r] =>
    match decodeVectors [l, r] with
    | .ok [left, right] => .ok (.measure kind left right)
    | .ok _ => .error (complaint name .twoVectors)
    | .error e => .error e
  | _ => .error (complaint name .twoVectors)

def decodeItems : List Json → Result (List Expr)
  | [] => .ok []
  | x :: xs =>
    match decode x with
    | .ok e => (decodeItems xs).map (e :: ·)
    | .error e => .error e

/-- Reads vectors: each a list of expressions, or one expression for the whole of it. -/
def decodeVectors : List Json → Result (List (List Expr))
  | [] => .ok []
  | .arr items :: rest =>
    match decodeItems items with
    | .ok v => (decodeVectors rest).map (v :: ·)
    | .error e => .error e
  | x :: rest =>
    match decode x with
    | .ok e => (decodeVectors rest).map ([e] :: ·)
    | .error e => .error e

end

/-! ## Keys -/

mutual

/-- Every key in the order it is written, with repetitions. -/
def keys : Expr → List String
  | key path => [path]
  | value _ => []
  | array items => itemKeys items
  | not e => keys e
  | connective _ items => itemKeys items
  | comparison _ l r => keys l ++ keys r
  | measure _ l r => itemKeys l ++ itemKeys r

def itemKeys : List Expr → List String
  | [] => []
  | e :: es => keys e ++ itemKeys es

end

/-- The keys an expression reads, each once, in the order of their first occurrence. -/
def keyPaths (e : Expr) : List String := e.keys.eraseDups

mutual

/-- Rewrites every key. -/
def mapKey (f : String → String) : Expr → Expr
  | key path => key (f path)
  | value v => value v
  | array items => array (mapItemKeys f items)
  | not e => not (mapKey f e)
  | connective op items => connective op (mapItemKeys f items)
  | comparison op l r => comparison op (mapKey f l) (mapKey f r)
  | measure kind l r => measure kind (mapItemKeys f l) (mapItemKeys f r)

def mapItemKeys (f : String → String) : List Expr → List Expr
  | [] => []
  | e :: es => mapKey f e :: mapItemKeys f es

end

/-! ## Simplification -/

/-- Puts the items of absorbed connectives in place of them. -/
def splice (op : Connective) (items : List Expr) : List Expr :=
  items.flatMap fun
    | connective child nested => if op.absorbs child then nested else [connective child nested]
    | e => [e]

/-- A connective over items; one of a single item is the item, but for a negated one. -/
def connect (op : Connective) (items : List Expr) : Expr :=
  match op, items with
  | .and, [e] => e
  | .or, [e] => e
  | op, items => connective op items

/-- A negation; two cancel. -/
def negate : Expr → Expr
  | not e => e
  | e => not e

mutual

/-- Flattens connectives and cancels double negations, throughout. -/
def simplify : Expr → Expr
  | key path => key path
  | value v => value v
  | array items => array (simplifyItems items)
  | not e => negate (simplify e)
  | connective op items => connect op (splice op (simplifyItems items))
  | comparison op l r => comparison op (simplify l) (simplify r)
  | measure kind l r => measure kind (simplifyItems l) (simplifyItems r)

def simplifyItems : List Expr → List Expr
  | [] => []
  | e :: es => simplify e :: simplifyItems es

end

/-- Whether an expression yields a truth value whatever the object. -/
def isBoolean : Expr → Bool
  | not _ | connective .. | comparison .. => true
  | value (.bool _) => true
  | _ => false

/-! ## Evaluation -/

/-- The sum of doubles from left to right; of none it is negative zero. -/
def sum (xs : List Float) : Float := xs.foldl (· + ·) (-0.0)

/-- The measure of two vectors of one length; a cosine needs two that are not zero. -/
def measureOf (kind : Measure) (a b : List Float) : Option Float :=
  if a.length ≠ b.length then none
  else
    let dot := sum (List.zipWith (· * ·) a b)
    match kind with
    | .distance => some (sum (List.zipWith (fun x y => (x - y) * (x - y)) a b)).sqrt
    | .innerProduct => some dot
    | .negInnerProduct => some (-dot)
    | .cosineDistance =>
      let na := (sum (a.map fun x => x * x)).sqrt
      let nb := (sum (b.map fun x => x * x)).sqrt
      if na == 0.0 || nb == 0.0 then none else some (1.0 - dot / (na * nb))
    | .rectilinearDistance => some (sum (List.zipWith (fun x y => (x - y).abs) a b))

/-- The doubles of a vector: of the items of a single array, or of the values themselves. -/
def doubles (values : List Json) : Option (List Float) :=
  match values with
  | [.arr items] => items.mapM Value.asDouble?
  | values => values.mapM Value.asDouble?

mutual

/-- The value of an expression on an object. -/
def eval (object : Json) : Expr → Json
  | key path => Value.getPath object path
  | value v => v
  | array items => .arr (evalItems object items)
  | not e => .bool (!Value.truthy (eval object e))
  | connective op items => .bool (op.join ((evalItems object items).map Value.truthy))
  | comparison op l r => .bool (Value.compares op (eval object l) (eval object r))
  | measure kind l r =>
    match doubles (evalItems object l), doubles (evalItems object r) with
    | some a, some b => ((measureOf kind a b).map Json.ofFloat).getD .null
    | _, _ => .null

def evalItems (object : Json) : List Expr → List Json
  | [] => []
  | e :: es => eval object e :: evalItems object es

end

end Expr

end ObjectQuery
