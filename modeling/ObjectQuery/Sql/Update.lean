import ObjectQuery.Sql.Codec
import ObjectQuery.Sql.JsonFragment

/-!
# Updates of a column

An update is an operator with an operand, or a bare value to set. Its SQL computes the new value of
a column from the fragment of its current one. JSON columns are updated as documents, as is a place
inside one; all others natively.
-/

namespace ObjectQuery

/-- An operator with its operand. -/
structure Update where
  op : UpdateOperator
  operand : Json
deriving Inhabited

namespace Update

/-- Reads an update: an object with one operator as its key, or else a value to set. -/
def decode (raw : Json) : Result Update :=
  match raw with
  | .obj [(key, operand)] =>
    if Text.opensWith key "$" && !Value.isTagged raw then
      match UpdateOperator.ofKey? key with
      | some op => .ok ⟨op, operand⟩
      | none => .error (.expression (.unknownUpdate key))
    else .ok ⟨.set, raw⟩
  | _ => .ok ⟨.set, raw⟩

/-- The items an update of an array is given: those of an array, or one value. -/
def itemsOf : Json → List Json
  | .arr items => items
  | v => [v]

def isZero (v : Json) : Bool := (Value.asDouble? v).any (· == 0.0)

/-- A decimal operand. -/
def numericOperand (v : Json) : Result Param :=
  match Value.asDecimal? v with
  | some d => .ok (.decimal d.render)
  | none => .error (.expression (.numericOperand v))

/-! ## Documents -/

/-- The number a document is, else null. -/
def documentNumber (current : Sql) : Sql :=
  current.jsonWhen "number" (.seq ["(", current, ")::numeric"])

/-- Arithmetic on the number a document is; a missing one counts as zero. -/
def documentArithmetic (current : Sql) (operator : String) (v : Json) : Result Sql := do
  let p ← numericOperand v
  return .seq ["to_jsonb(COALESCE(", documentNumber current, ", 0) ", operator, " ", .param p, ")"]

/-- The greater or less of a document's number and a constant. -/
def documentExtreme (current : Sql) (function : String) (v : Json) : Result Sql := do
  let p ← numericOperand v
  return .seq ["to_jsonb(", function, "(", documentNumber current, ", ", .param p, "))"]

/-- Appends those items to a document's array that it does not hold. -/
def documentAdd (array : Sql) (items : List Json) : Sql :=
  .seq ["(", array, " || COALESCE((",
    .block (.seq ["SELECT jsonb_agg(", .column "_a" "value", ") FROM jsonb_array_elements(",
      .param (.json (.arr items.eraseDups)), ") AS ", .binder "_a", "(", .ident "value",
      ") WHERE NOT (", array, " @> jsonb_build_array(", .column "_a" "value", "))"]),
    "), '[]'::jsonb))"]

/-- A document's array without the given items. -/
def documentRemove (array : Sql) (items : List Json) : Sql :=
  .seq ["COALESCE((",
    .block (.seq ["SELECT jsonb_agg(", .column "_r" "value", " ORDER BY ", .column "_r" "i",
      ") FROM jsonb_array_elements(", array, ") WITH ORDINALITY AS ", .binder "_r", "(",
      .ident "value", ", ", .ident "i", ") WHERE NOT (", .param (.json (.arr items)),
      " @> jsonb_build_array(", .column "_r" "value", "))"]),
    "), '[]'::jsonb)"]

/-- The new value of a document. -/
def document (current : Sql) (u : Update) : Result Sql :=
  let array := current.jsonArray
  match u.op with
  | .set => .ok (.param (.json u.operand))
  | .inc => documentArithmetic current "+" u.operand
  | .dec => documentArithmetic current "-" u.operand
  | .mul => documentArithmetic current "*" u.operand
  | .div =>
    if isZero u.operand then .error (.expression .divisionByZero)
    else documentArithmetic current "/" u.operand
  | .max => documentExtreme current "GREATEST" u.operand
  | .min => documentExtreme current "LEAST" u.operand
  | .push => .ok (.seq ["(", array, " || ", .param (.json (.arr (itemsOf u.operand))), ")"])
  | .addToSet => .ok (documentAdd array (itemsOf u.operand))
  | .removeAll => .ok (documentRemove array (itemsOf u.operand))
  | .popFirst => .ok (.seq ["(", array, " - 0)"])
  | .popLast => .ok (.seq ["(", array, " - -1)"])

/-! ## Native columns -/

/-- The operator does not apply to the column. -/
def mismatch (op : UpdateOperator) : Error := .expression (.updateMismatch op)

/-- Arithmetic on a numeric column; a missing number counts as zero. -/
def nativeArithmetic (current : Sql) (ty : FieldType) (u : Update) (operator : String) :
    Result Sql :=
  match ty.kind? with
  | some kind =>
    if kind == .number || kind == .decimal then
      match kind.constant? u.operand with
      | some p => .ok (.seq ["(COALESCE(", current, ", 0) ", operator, " ", .param p, ")"])
      | none => .error (.expression (.numericOperand u.operand))
    else .error (mismatch u.op)
  | none => .error (mismatch u.op)

/-- Moves a date by milliseconds; a missing date counts as the present. -/
def dateArithmetic (current : Sql) (u : Update) (operator : String) : Result Sql :=
  match Value.asDouble? u.operand with
  | some ms =>
    .ok (.seq ["(COALESCE(", current, ", NOW()) ", operator, " (", .param (.float ms),
      " * INTERVAL '1 millisecond'))"])
  | none => .error (.expression .dateIncrement)

/-- Adds to or subtracts from a number or a date. -/
def nativeShift (current : Sql) (ty : FieldType) (u : Update) (operator : String) : Result Sql :=
  if ty.kind? == some .date then dateArithmetic current u operator
  else nativeArithmetic current ty u operator

/-- Kinds with a greater and a less. -/
def isOrdered (ty : FieldType) : Bool :=
  ty.kind?.any fun kind => [.number, .decimal, .date, .string].contains kind

/-- The greater or less of a column and a constant. -/
def nativeExtreme (current : Sql) (ty : FieldType) (u : Update) (function : String) : Result Sql :=
  if isOrdered ty then
    (ty.bind u.operand).map fun p => .seq [function, "(", current, ", ", .param p, ")"]
  else .error (mismatch u.op)

/-- A column of texts or tokens as an array; a missing one is empty. -/
def nativeArray (current : Sql) (ty : FieldType) (op : UpdateOperator) : Result Sql :=
  match ty with
  | .primitive .stringArray _ | .relation _ none =>
    .ok (.seq ["COALESCE(", current, ", '\x7b\x7d'::text[])"])
  | _ => .error (mismatch op)

/-- The text of an item of such a column. -/
def arrayItem? (ty : FieldType) (v : Json) : Option String :=
  match ty with
  | .relation target _ => tokenOf? target v
  | _ => v.asStr?

/-- The parameter of the items of an update of such a column. -/
def arrayItems (ty : FieldType) (operand : Json) (items : List Json) : Result Param :=
  match items.mapM (arrayItem? ty) with
  | some texts => .ok (.textArray texts)
  | none => .error (.dataType (.arrayItems operand))

/-- Appends those items to an array that it does not hold. -/
def nativeAdd (array : Sql) (items : Param) : Sql :=
  .seq ["(", array, " || ARRAY(",
    .block (.seq ["SELECT ", .ident "_a", " FROM unnest(", .param items, ") AS ", .binder "_a",
      " WHERE ", .ident "_a", " <> ALL(", array, ")"]),
    "))"]

/-- An array without the given items. -/
def nativeRemove (array : Sql) (items : Param) : Sql :=
  .seq ["ARRAY(",
    .block (.seq ["SELECT ", .column "_r" "v", " FROM unnest(", array, ") WITH ORDINALITY AS ",
      .binder "_r", "(", .ident "v", ", ", .ident "i", ") WHERE ", .column "_r" "v", " <> ALL(",
      .param items, ") ORDER BY ", .column "_r" "i"]),
    ")"]

/-- The new value of a native column. -/
def native (current : Sql) (ty : FieldType) (u : Update) : Result Sql :=
  match u.op with
  | .set => (ty.bind u.operand).map .param
  | .inc => nativeShift current ty u "+"
  | .dec => nativeShift current ty u "-"
  | .mul => nativeArithmetic current ty u "*"
  | .div =>
    if isZero u.operand then .error (.expression .divisionByZero)
    else nativeArithmetic current ty u "/"
  | .max => nativeExtreme current ty u "GREATEST"
  | .min => nativeExtreme current ty u "LEAST"
  | .push => do
    let array ← nativeArray current ty u.op
    let items ← arrayItems ty u.operand (itemsOf u.operand)
    return .seq ["(", array, " || ", .param items, ")"]
  | .addToSet => do
    let array ← nativeArray current ty u.op
    let items ← arrayItems ty u.operand (itemsOf u.operand).eraseDups
    return nativeAdd array items
  | .removeAll => do
    let array ← nativeArray current ty u.op
    let items ← arrayItems ty u.operand (itemsOf u.operand)
    return nativeRemove array items
  | .popFirst => do
    let array ← nativeArray current ty u.op
    return .seq ["(", array, ")[2:]"]
  | .popLast => do
    let array ← nativeArray current ty u.op
    return .seq ["(", array, ")[:cardinality(", array, ") - 1]"]

/-! ## Any column -/

/-- The new value of a document with a place inside it updated; a missing document is empty. -/
def inside (current : Sql) (path : List String) (u : Update) : Result Sql := do
  let keys := Sql.textArray path
  let base := Sql.seq ["COALESCE(", current, ", '\x7b\x7d'::jsonb)"]
  let value ← document (base.jsonAt path) u
  return .seq ["jsonb_set(", base, ", ", keys, ", COALESCE(", value, ", 'null'::jsonb), true)"]

/-- The new value of a column of a type, or of a place inside an untyped one. -/
def apply (current : Sql) (ty : FieldType) (path : List String) (u : Update) : Result Sql :=
  if path.isEmpty then
    if ty.isJson then document current u else native current ty u
  else if ty.isJson then inside current path u
  else .error (.path .subPathOfColumn)

end Update

end ObjectQuery
