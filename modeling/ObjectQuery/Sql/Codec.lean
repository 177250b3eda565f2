import ObjectQuery.Sql.Operand

/-!
# Values in columns

How a value is bound for a column of a type, and how the document a column is read as becomes a
value again. A reference is stored as the token of its object and read as an object with its `_id`.
-/

namespace ObjectQuery.FieldType

/-- The type of the column of a primitive kind. -/
def kindColumn : PrimitiveKind → String
  | .boolean => "BOOLEAN"
  | .number => "DOUBLE PRECISION"
  | .decimal => "NUMERIC"
  | .string => "TEXT"
  | .stringArray => "TEXT[]"
  | .date => "TIMESTAMPTZ"
  | .object | .array => "JSONB"

/-- The type of the column; shapes and derived relations have none. -/
def columnType? : FieldType → Option String
  | primitive kind _ => some (kindColumn kind)
  | vector .. => some "DOUBLE PRECISION[]"
  | pointer _ => some "TEXT"
  | relation _ none => some "TEXT[]"
  | relation _ (some _) => none
  | shape _ => none

/-- An instant in its envelope, or as bare text. -/
def readDate? : Json → Option Instant
  | .str text => Instant.ofText? text
  | v => Value.asDate? v

/-- The parameter of a value for a column of a primitive kind, where it fits. -/
def bindKind? (kind : PrimitiveKind) (v : Json) : Option Param :=
  match kind, v with
  | .object, .obj _ => some (.json v)
  | .array, .arr _ => some (.json v)
  | .stringArray, .arr items => (items.mapM Json.asStr?).map .textArray
  | .date, v => (readDate? v).map .timestamp
  | kind, v => kind.constant? v

/-- The parameter of a value for a column, where it fits. -/
def bindValue? (ty : FieldType) (v : Json) : Option Param :=
  match ty, v with
  | primitive kind _, v => bindKind? kind v
  | vector dimension _, .arr items =>
    if items.length = dimension then (items.mapM Json.asFloat?).map .floatArray else none
  | pointer target, v => (tokenOf? target v).map .text
  | relation target none, .arr items => (items.mapM (tokenOf? target)).map .textArray
  | _, _ => none

/-- The parameter of a value for a column. -/
def bind (ty : FieldType) (v : Json) : Result Param :=
  if v.isNull then .ok .null
  else if ty.isDerived then .error (.dataType .derivedColumn)
  else
    match bindValue? ty v with
    | some p => .ok p
    | none => .error (.dataType (.mismatch v ty))

/-! ## Reading -/

/-- The object a token or a document refers to. -/
def readReference? : Json → Option Json
  | .str token =>
    let id := ((splitToken? token).map (·.2)).getD token
    some (.obj [("_id", .str id)])
  | .obj members => some (.obj members)
  | _ => none

/-- The value of a document that is not null. -/
def readValue (ty : FieldType) (v : Json) : Result Json :=
  let undecodable := fun v => Error.dataType (.undecodable v ty)
  let reference := fun v =>
    match readReference? v with
    | some r => .ok r
    | none => .error (undecodable v)
  match ty, v with
  | primitive .date _, v =>
    match readDate? v with
    | some t => .ok (Value.ofInstant t)
    | none => .error (undecodable v)
  | primitive .decimal _, v =>
    match (match v with
      | .str text => Numeral.Decimal.ofText? text
      | v => Value.asDecimal? v) with
    | some d => .ok (Value.ofDecimal d)
    | none => .error (undecodable v)
  | pointer _, v => reference v
  | relation _ _, .arr items => (items.mapM reference).map .arr
  | relation _ _, v => .error (undecodable v)
  | _, v => .ok v

/-- The value of the document a column is read as; a missing relation is empty. -/
def read (ty : FieldType) (v : Json) : Result Json :=
  match ty, v with
  | relation _ _, .null => .ok (.arr [])
  | _, .null => .ok .null
  | ty, v => readValue ty v

/-- The document a column is read as; a decimal goes through its text, so no digit is lost. -/
def project (ty : FieldType) (column : Sql) : Sql :=
  match ty with
  | primitive .decimal _ => .seq ["to_jsonb((", column, ")::text)"]
  | _ => .seq ["to_jsonb(", column, ")"]

end ObjectQuery.FieldType
