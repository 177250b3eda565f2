import ObjectQuery.Filter
import ObjectQuery.Sql.JsonFragment
import ObjectQuery.Sql.Operand

/-!
# Predicates on operands

`Operand.test` is the SQL of a field test. Every predicate is true or false whatever the row: a test
that could yield null is wrapped so that null counts as false, and a test that makes no sense for
what the operand holds is the constant `false` (`true` for an inequality). So negation means in SQL
what it means in memory.
-/

namespace ObjectQuery

namespace Sql

/-- A predicate, null counting as false. -/
def orFalse (predicate : Sql) : Sql := seq ["COALESCE(", predicate, ", false)"]

end Sql

/-- A list compared as a set with the items of an array. -/
inductive SetRelation where
  | subset
  | superset
  | intersect
deriving DecidableEq, Inhabited

/-- The operator between the array and the list. -/
def SetRelation.sql : SetRelation → String
  | subset => " <@ "
  | superset => " @> "
  | intersect => " && "

namespace Operand

/-- Whether the value is missing; no relation is. -/
def isNull (o : Operand) : Sql :=
  match o.type with
  | .json => .seq ["(", o.sql, " IS NULL OR ", o.sql, " = 'null'::jsonb)"]
  | .tokens _ => "false"
  | _ => .seq [o.sql.parens, " IS NULL"]

/-! ## Comparison with a constant -/

/-- The two sides of a comparison with a constant. -/
structure Sides where
  left : Sql
  constant : Param
  /-- Whether their order means something. -/
  ordered : Bool

/-- Whether a value is a number or claims to be a decimal. -/
def claimsNumber : Json → Bool
  | .num _ => true
  | v => (v.get? Value.decimalTag).isSome

/-- A JSON document beside a constant: taken as what the constant is. -/
def jsonSides? (sql : Sql) (v : Json) : Option Sides :=
  match v with
  | .null => none
  | .bool b => some ⟨sql.jsonWhen "boolean" (.seq ["(", sql, ")::boolean"]), .bool b, true⟩
  | .str s => some ⟨sql.jsonWhen "string" sql.jsonText, .text s, true⟩
  | v =>
    if claimsNumber v then
      (Value.asDecimal? v).map fun d => ⟨sql.jsonNumeric, .decimal d.render, true⟩
    else
      match Value.asDate? v with
      | some t =>
        some ⟨sql.jsonWhen "object"
          (.seq ["((", sql, ") ->> ", .str Value.dateTag, ")::timestamptz"]), .timestamp t, true⟩
      | none => some ⟨sql, .json v, false⟩

/-- The sides of a comparison with a constant that is not null, if they can be compared. -/
def sides? (o : Operand) (v : Json) : Option Sides :=
  match o.type with
  | .scalar kind => (kind.constant? v).map fun p => ⟨o.sql, p, true⟩
  | .json => jsonSides? o.sql v
  | .array element =>
    match v with
    | .arr items =>
      if items.all element.fits then some ⟨o.sql, element.param items, false⟩ else none
    | _ => none
  | .token target => (tokenOf? target v).map fun token => ⟨o.sql, .text token, false⟩
  | .tokens target =>
    match v with
    | .arr items =>
      if items.all fun i => (tokenOf? target i).isSome then
        some ⟨o.sql, tokensParam target items, false⟩
      else none
    | _ => none

/-- An SQL operator between two sides. -/
def Sides.apply (s : Sides) (operator : String) : Sql :=
  Sql.orFalse (.seq [s.left, " ", operator, " ", .param s.constant])

/-- The comparison with a constant. -/
def compareConstant (o : Operand) (op : Comparison) (v : Json) : Sql :=
  if v.isNull then
    match op with
    | .eq => o.isNull
    | .ne => o.isNull.not
    | _ => "false"
  else
    match o.sides? v, op with
    | none, .ne => "true"
    | none, _ => "false"
    | some s, .eq => s.apply "="
    | some s, .ne => (s.apply "=").not
    | some s, op => if s.ordered then s.apply op.sql else "false"

/-- Whether the value equals one of some constants. -/
def equalsOne (o : Operand) (list : List Json) : Sql :=
  Sql.or (list.map (o.compareConstant .eq))

/-! ## Other tests -/

/-- A test of a string, given what follows the string. -/
def testString (o : Operand) (operator : String) (param : String) : Sql :=
  match o.type with
  | .scalar .string => Sql.orFalse (.seq [o.sql, operator, .param (.text param)])
  | .json =>
    Sql.orFalse
      (o.sql.jsonWhen "string" (.seq [o.sql.jsonText, operator, .param (.text param)]))
  | _ => "false"

/-- The set test of a native array; a superset has to hold what cannot be an item, so there is none. -/
def testArray (sql : Sql) (relation : SetRelation) (complete : Bool) (list : Param) : Sql :=
  if relation == .superset && !complete then "false"
  else Sql.orFalse (.seq [sql, relation.sql, .param list])

/-- The set test of a JSON array. -/
def testJsonArray (sql : Sql) (relation : SetRelation) (list : Param) : Sql :=
  let test : Sql :=
    match relation with
    | .intersect =>
      .seq ["EXISTS (", .block (.seq ["SELECT 1 FROM jsonb_array_elements(", sql, ") AS ",
        .binder "_x", "(", .ident "value", ") WHERE ", .param list, " @> jsonb_build_array(",
        .column "_x" "value", ")"]), ")"]
    | relation => .seq [sql, relation.sql, .param list]
  .seq ["CASE WHEN ", sql.jsonIs "array", " THEN ", test, " ELSE false END"]

/-- How the items of an array stand to a list. -/
def testSet (o : Operand) (relation : SetRelation) (list : List Json) : Sql :=
  match o.type with
  | .array element => testArray o.sql relation (list.all element.fits) (element.param list)
  | .tokens target =>
    testArray o.sql relation (list.all fun v => (tokenOf? target v).isSome)
      (tokensParam target list)
  | .json => testJsonArray o.sql relation (.json (.arr list))
  | _ => "false"

/-- The greatest integer that is written into a statement. -/
def maxInteger : Nat := Nat.pow 2 63 - 1

/-- Whether a string or array has a number of characters or items. -/
def testSize (o : Operand) (count : Nat) : Sql :=
  let n : Sql := Sql.int (min count maxInteger)
  match o.type with
  | .scalar .string => Sql.orFalse (.seq ["char_length(", o.sql, ") = ", n])
  | .array _ => Sql.orFalse (.seq ["cardinality(", o.sql, ") = ", n])
  | .tokens _ => .seq ["COALESCE(cardinality(", o.sql, "), 0) = ", n]
  | .json =>
    Sql.orFalse (.seq ["CASE jsonb_typeof(", o.sql, ") WHEN 'array' THEN jsonb_array_length(",
      o.sql, ") = ", n, " WHEN 'string' THEN char_length(", o.sql.jsonText, ") = ", n, " END"])
  | _ => "false"

/-- Whether a value is missing or has no content. -/
def isEmpty (o : Operand) : Sql :=
  match o.type with
  | .scalar .string => .seq ["(", o.sql, " IS NULL OR ", o.sql, " = '')"]
  | .array _ | .tokens _ => .seq ["COALESCE(cardinality(", o.sql, "), 0) = 0"]
  | .json =>
    .seq ["(", o.sql, " IS NULL OR ", o.sql,
      " IN ('null'::jsonb, '\"\"'::jsonb, '[]'::jsonb, '\x7b\x7d'::jsonb))"]
  | _ => .seq [o.sql.parens, " IS NULL"]

/-- The SQL of a test; filters for elements need the elements' scope and are not for this function. -/
def test (o : Operand) : FieldTest → Result Sql
  | .compare op v => .ok (o.compareConstant op v)
  | .oneOf list => .ok (o.equalsOne list)
  | .noneOf list => .ok (o.equalsOne list).not
  | .subset list => .ok (o.testSet .subset list)
  | .superset list => .ok (o.testSet .superset list)
  | .intersect list => .ok (o.testSet .intersect list)
  | .not t =>
    match o.test t with
    | .ok sql => .ok sql.not
    | .error e => .error e
  | .pattern source ignoreCase => .ok (o.testString (if ignoreCase then " ~* " else " ~ ") source)
  | .startsWith text => .ok (o.testString " LIKE " (Sql.Like.opening text))
  | .endsWith text => .ok (o.testString " LIKE " (Sql.Like.ending text))
  | .size count => .ok (o.testSize count)
  | .empty expected => .ok (if expected then o.isEmpty else o.isEmpty.not)
  | .every _ => .error (.expression .elementScope)
  | .any _ => .error (.expression .elementScope)

/-! ## Operands of expressions -/

/-- Whether a value is neither null nor false. -/
def truthy (o : Operand) : Sql :=
  match o.type with
  | .scalar .boolean => Sql.orFalse o.sql
  | .json => Sql.orFalse (.seq [o.sql.parens, " NOT IN ('null'::jsonb, 'false'::jsonb)"])
  | .tokens _ => "true"
  | _ => .seq [o.sql.parens, " IS NOT NULL"]

def isNumericKind (kind : PrimitiveKind) : Bool :=
  kind == .number || kind == .decimal

/-- The sides of a comparison of two operands, and whether their order means something. -/
def compareSides (l r : Operand) : Sql × Sql × Bool :=
  let documents := (Sql.seq ["to_jsonb(", l.sql, ")"], Sql.seq ["to_jsonb(", r.sql, ")"], false)
  match l.type, r.type with
  | .scalar a, .scalar b =>
    if a = b then (l.sql, r.sql, true)
    else if isNumericKind a && isNumericKind b then
      (.seq [l.sql.parens, "::numeric"], .seq [r.sql.parens, "::numeric"], true)
    else documents
  | .json, .json => (l.sql, r.sql, true)
  | .token _, .token _ => (l.sql, r.sql, false)
  | .tokens _, .tokens _ => (l.sql, r.sql, false)
  | .array a, .array b => if a = b then (l.sql, r.sql, false) else documents
  | _, _ => documents

/-- The comparison of two operands; null equals null and is ordered with nothing. -/
def compare (op : Comparison) (l r : Operand) : Sql :=
  let (left, right, ordered) := compareSides l r
  match op with
  | .eq => .seq ["(", left, " IS NOT DISTINCT FROM ", right, ")"]
  | .ne => .seq ["(", left, " IS DISTINCT FROM ", right, ")"]
  | op => if ordered then Sql.orFalse (.seq [left, " ", op.sql, " ", right]) else "false"

end Operand

/-- The operator of a measure. -/
def Measure.operator : Measure → String
  | distance => " <-> "
  | innerProduct => " <#> "
  | negInnerProduct => " <#> "
  | cosineDistance => " <=> "
  | rectilinearDistance => " <+> "

/-- A measure of two vectors; the store's product is negated already. -/
def Measure.sql (m : Measure) (left right : Sql) : Sql :=
  let value := Sql.seq ["(", left, m.operator, right, ")"]
  match m with
  | innerProduct => .seq ["(-", value, ")"]
  | _ => value

/-- A key of a random order; a weight makes its row more likely to come first. -/
def Sql.randomKey : Option Sql → Sql
  | none => "random()"
  | some weight => .seq ["(-ln(1.0 - random()) / NULLIF(", weight, ", 0))"]

end ObjectQuery
