import ObjectQuery.Expr

/-!
# Accumulators

An accumulator reduces rows to one value: their count, an aggregate or percentile of an expression,
or a list of groups with an accumulator each. As in SQL, nulls are skipped and an aggregate of
nothing is null.
-/

namespace ObjectQuery

/-- How a percentile falls between two values. -/
inductive PercentileMode where
  | discrete
  | continuous
deriving DecidableEq, Inhabited

/-- A reduction of rows to a value. -/
inductive Accumulator where
  | count
  | unary (op : Aggregate) (input : Expr)
  | percentile (input : Expr) (p : Float) (mode : PercentileMode)
  | group (key : Expr) (value : Accumulator)
deriving Inhabited

namespace Accumulator

/-! ## Reading -/

/-- Reads the operand of a percentile. -/
def decodePercentile (key : String) (members : List (String × Json)) : Result Accumulator := do
  let some input := Json.member? members "input" | throw (Expr.complaint key .missingInput)
  let some p := ((Json.member? members "p").bind Json.asFloat?).filter (fun p => 0.0 ≤ p && p ≤ 1.0)
    | throw (Expr.complaint key .fraction)
  let mode ← match (Json.member? members "mode").bind Json.asStr? with
    | none => pure PercentileMode.discrete
    | some "discrete" => pure .discrete
    | some "continuous" => pure .continuous
    | some _ => throw (Expr.complaint key .mode)
  return .percentile (← Expr.decode input) p mode

mutual

/-- Reads an accumulator. -/
def decode : Json → Result Accumulator
  | .obj [member] => decodeOperator member
  | .obj members => .error (.expression (.operatorCount "accumulator" members.length))
  | _ => .error (.expression (.notObject "accumulator"))

/-- Reads an accumulator from its operator and operand. -/
def decodeOperator : String × Json → Result Accumulator
  | (key, operand) =>
    if key = "$count" then .ok .count
    else if let some op := Aggregate.ofKey? key then (Expr.decode operand).map (.unary op)
    else
      match operand with
      | .obj members =>
        if key = "$percentile" then decodePercentile key members
        else if key = "$group" then
          match Json.member? members "key", decodeMember "value" members with
          | none, _ => .error (Expr.complaint key .missingKey)
          | some _, none => .error (Expr.complaint key .missingValue)
          | some groupKey, some value =>
            match Expr.decode groupKey with
            | .ok groupKey => value.map (.group groupKey)
            | .error e => .error e
        else .error (Expr.complaint key .unknownAccumulator)
      | _ => .error (Expr.complaint key .object)

/-- Reads the accumulator under a key, if the key is there. -/
def decodeMember (name : String) : List (String × Json) → Option (Result Accumulator)
  | [] => none
  | (key, v) :: rest => if key = name then some (decode v) else decodeMember name rest

end

/-! ## Keys -/

/-- Every key in the order it is written, with repetitions. -/
def keys : Accumulator → List String
  | count => []
  | unary _ input => input.keys
  | percentile input _ _ => input.keys
  | group key value => key.keys ++ value.keys

/-- The keys an accumulator reads, each once, in the order of their first occurrence. -/
def keyPaths (a : Accumulator) : List String := a.keys.eraseDups

/-- Rewrites every key. -/
def mapKey (f : String → String) : Accumulator → Accumulator
  | count => count
  | unary op input => unary op (input.mapKey f)
  | percentile input p mode => percentile (input.mapKey f) p mode
  | group key value => group (key.mapKey f) (value.mapKey f)

/-! ## Evaluation -/

/-- The first value that no later one exceeds, where `wanted` says what exceeding is. -/
def extreme (wanted : Ordering) : List Json → Json
  | [] => .null
  | v :: vs => vs.foldl (fun best v => if Value.order v best == some wanted then v else best) v

/-- Adds one to the count of the first entry equal to a value, or a new entry at the end. -/
def tally (v : Json) : List (Json × Nat) → List (Json × Nat)
  | [] => [(v, 1)]
  | (c, n) :: rest => if Value.equals c v then (c, n + 1) :: rest else (c, n) :: tally v rest

/-- The most frequent value; of several the least, where they are ordered. -/
def mostFrequent (values : List Json) : Json :=
  match values.foldl (fun counts v => tally v counts) [] with
  | [] => .null
  | first :: rest =>
    (rest.foldl (fun best cur =>
      if best.2 < cur.2 || (cur.2 == best.2 && Value.order cur.1 best.1 == some .lt) then cur
      else best) first).1

/-- Sums, means, variances and deviations; a sample needs two values. -/
def numeric (op : Aggregate) (xs : List Float) : Json :=
  let n := Float.ofNat xs.length
  let total := Expr.sum xs
  let mean := total / n
  let squares := Expr.sum (xs.map fun x => (x - mean) * (x - mean))
  if xs.isEmpty then .null
  else
    match op with
    | .sum => Json.ofFloat total
    | .avg => Json.ofFloat mean
    | .varPop => Json.ofFloat (squares / n)
    | .stdDevPop => Json.ofFloat (squares / n).sqrt
    | .varSamp => if xs.length < 2 then .null else Json.ofFloat (squares / (n - 1.0))
    | .stdDevSamp => if xs.length < 2 then .null else Json.ofFloat (squares / (n - 1.0)).sqrt
    | _ => .null

/-- The aggregate of the values that are not null. -/
def aggregate (op : Aggregate) (values : List Json) : Json :=
  match op with
  | .max => extreme .gt values
  | .min => extreme .lt values
  | .most => mostFrequent values
  | op => numeric op (values.filterMap Value.asDouble?)

/-- A non-negative double as a position; what is out of range goes to the nearest end. -/
def position (x : Float) : Nat := x.toUInt64.toNat

/-- The percentile of doubles. -/
def percentileOf (p : Float) (mode : PercentileMode) (xs : List Float) : Json :=
  let sorted := xs.mergeSort (fun a b => Numeral.orderKey a ≤ Numeral.orderKey b)
  let n := sorted.length
  if n = 0 then .null
  else
    match mode with
    | .discrete =>
      let rank := min n (max 1 (position (p * Float.ofNat n).ceil))
      Json.ofFloat (sorted.getD (rank - 1) 0.0)
    | .continuous =>
      let rank := p * Float.ofNat (n - 1)
      let low := position rank.floor
      let high := position rank.ceil
      let fraction := rank - Float.ofNat low
      let a := sorted.getD low 0.0
      let b := sorted.getD high 0.0
      Json.ofFloat (a + (b - a) * fraction)

/-- Puts a row into the first group with an equal key, or into a new group at the end. -/
def insertRow (key row : Json) : List (Json × List Json) → List (Json × List Json)
  | [] => [(key, [row])]
  | (k, rows) :: rest =>
    if Value.equals k key then (k, rows ++ [row]) :: rest else (k, rows) :: insertRow key row rest

/-- The rows by their keys, groups in the order of their first rows. -/
def groups (key : Expr) (rows : List Json) : List (Json × List Json) :=
  rows.foldl (fun acc row => insertRow (key.eval row) row acc) []

/-- The value of an accumulator on rows. -/
def eval (rows : List Json) : Accumulator → Json
  | count => Json.ofNat rows.length
  | unary op input =>
    aggregate op ((rows.map fun row => input.eval row).filter (fun v => !v.isNull))
  | percentile input p mode =>
    percentileOf p mode (rows.filterMap fun row => Value.asDouble? (input.eval row))
  | group key value =>
    .arr ((groups key rows).map fun (k, members) => .obj [("key", k), ("value", value.eval members)])

end Accumulator

end ObjectQuery
