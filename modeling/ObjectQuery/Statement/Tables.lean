import ObjectQuery.Statement.Write

/-!
# Tables of a schema

The statements that create the tables, columns and indexes of a schema, and that change nothing where
these exist already.
-/

namespace ObjectQuery

/-- A default field as it is declared. -/
def Field.declarations : List (String × String) :=
  [(Field.id, " TEXT PRIMARY KEY"), (Field.version, " DOUBLE PRECISION NOT NULL DEFAULT 0"),
    (Field.createdAt, " TIMESTAMPTZ NOT NULL DEFAULT NOW()"),
    (Field.updatedAt, " TIMESTAMPTZ NOT NULL DEFAULT NOW()"), (Field.expiredAt, " TIMESTAMPTZ"),
    (Field.readers, " TEXT[] NOT NULL DEFAULT '\x7b*\x7d'"),
    (Field.writers, " TEXT[] NOT NULL DEFAULT '\x7b*\x7d'")]

/-- The operator class of a vector index. -/
def VectorMethod.operatorClass : VectorMethod → String
  | cosine => "vector_cosine_ops"
  | l2 => "vector_l2_ops"
  | ip => "vector_ip_ops"

namespace Tables

/-- Creates the table of a class with the default fields. -/
def createTable (className : String) : Sql :=
  .seq ["CREATE TABLE IF NOT EXISTS ", .ident className, " (",
    .join (Field.declarations.map fun (field, type) => .seq [.ident field, .raw type]) ", ", ")"]

/-- The columns of a class beside the default fields. -/
def ownColumns (c : Class) : List (String × FieldType) :=
  (c.fields.filter fun f => !Field.isDefault f.1).flatMap fun (field, ty) => ty.leaves field

/-- Adds a column; a type without column adds none. -/
def addColumn (className column : String) (ty : FieldType) : Option Sql :=
  ty.columnType?.map fun type =>
    .seq ["ALTER TABLE ", .ident className, " ADD COLUMN IF NOT EXISTS ", .ident column, " ",
      .raw type]

/-- A column that can be indexed, with its direction: only minus one is descending. -/
def indexColumn (s : Schema) (className : String) (entry : String × Json) :
    Result (String × Direction) := do
  let (key, direction) := entry
  let column ← s.column className key
  if column.path ≠ .column ∨ column.type.columnType?.isNone then
    throw (.path (.notIndexed className key))
  return (column.name, if direction.asInt64? = some (-1) then .desc else .asc)

/-- The dimension of a vector column. -/
def vectorDimension (s : Schema) (className field : String) : Result Nat :=
  match s.column className field with
  | .ok ⟨_, .vector dimension _, .column⟩ => .ok dimension
  | _ => .error (.path (.notVector className field))

/-- Creates an index. -/
def createIndex (s : Schema) (className : String) : Index → Result Sql
  | .keys entries unique => do
    if entries.isEmpty then throw (.path (.indexWithoutKeys className))
    let columns ← entries.mapM (indexColumn s className)
    let name := className ++ "_" ++ "_".intercalate (columns.map (·.1)) ++ "_idx"
    let head : Sql :=
      if unique then "CREATE UNIQUE INDEX IF NOT EXISTS " else "CREATE INDEX IF NOT EXISTS "
    return .seq [head, .ident name, " ON ", .ident className, " (",
      .join (columns.map fun (column, direction) =>
        .seq [.ident column, " ", .raw direction.sql]) ", ", ")"]
  | .vector field method => do
    let dimension ← vectorDimension s className field
    let operators := method.operatorClass
    return .seq ["CREATE INDEX IF NOT EXISTS ",
      .ident (className ++ "_" ++ field ++ "_" ++ operators ++ "_idx"), " ON ", .ident className,
      " USING hnsw (((", .ident field, ")::vector(", .raw (toString dimension), ")) ",
      .raw operators, ")"]

/-- Creates the table, columns and indexes of a class. -/
def ofClass (s : Schema) (className : String) (c : Class) : Result (List Sql) := do
  let columns := (ownColumns c).filterMap fun (column, ty) => addColumn className column ty
  let indexes ← c.indexes.mapM (createIndex s className)
  return createTable className :: columns ++ indexes

/-- Everything a schema needs in the store. -/
def prepare (s : Schema) : Result (List Sql) := do
  let vectors : List Sql :=
    if s.hasVectors then ["CREATE EXTENSION IF NOT EXISTS vector"] else []
  let tables ← s.classes.mapM fun (className, c) => ofClass s className c
  return vectors ++ tables.flatten

end Tables

end ObjectQuery
