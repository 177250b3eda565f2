import ObjectQuery.Sql.Update
import ObjectQuery.Statement.Read

/-!
# Writing statements

A write names its rows in a first subquery, which locks them, changes them in a second, and returns
what it wrote as a query would. The version and the times of an object are the statement's own.
-/

namespace ObjectQuery

/-- The columns of a class: the leaves of its fields that have a column. -/
def Class.columns (c : Class) : List (String × FieldType) :=
  (c.fields.flatMap fun (field, ty) => ty.leaves field).filter fun leaf =>
    leaf.2.columnType?.isSome

namespace Write

/-! ## Rows of new objects -/

/-- Everyone, in an object's access list. -/
def everyone : Json := .arr [.str "*"]

/-- What a column gets when an object has no value for it. -/
def missingValue (className column : String) (ty : FieldType) : Result Json :=
  if column = Field.id then .error (.dataType (.missingId className))
  else if column = Field.readers ∨ column = Field.writers then .ok everyone
  else .ok (ty.defaultValue?.getD .null)

/-- The value an object has for a column, under its dotted key or inside its members. -/
def givenValue (attributes : List (String × Json)) (column : String) : Json :=
  match Json.member? attributes column with
  | some v => v
  | none => Value.getPath (.obj attributes) column

/-- The value of a column of a new object. -/
def columnValue (className : String) (attributes : List (String × Json))
    (column : String × FieldType) : Result Sql := do
  let (name, ty) := column
  if name = Field.version then return Sql.int 0
  if name = Field.createdAt ∨ name = Field.updatedAt then return "NOW()"
  let v ← match givenValue attributes name with
    | .null => missingValue className name ty
    | v => pure v
  return .param (← ty.bind v)

/-- Refuses a key that is no field, that is derived, or that leads nowhere. -/
def checkKey (s : Schema) (className : String) (c : Class) (key : String) : Result Unit := do
  let head := (Text.head '.' key).1
  match c.field? head with
  | none => throw (.path (.missing className head))
  | some ty =>
    if ty.isDerived then throw (.dataType (.derived className head))
    if key ≠ head then
      let _ ← s.column className key

/-- The columns of a new object with their values. -/
def row (s : Schema) (className : String) (attributes : List (String × Json)) :
    Result (List (String × Sql)) := do
  let c ← s.getClass className
  attributes.forM fun a => checkKey s className c a.1
  c.columns.mapM fun column => return (column.1, ← columnValue className attributes column)

/-- A list of column names. -/
def columnList (row : List (String × Sql)) : Sql :=
  .seq ["(", .join (row.map fun column => .ident column.1) ", ", ")"]

/-- The values of a row. -/
def valueList (row : List (String × Sql)) : Sql := .join (row.map (·.2)) ", "

/-! ## Assignments -/

/-- New values of columns, each column once. -/
abbrev Assignments := List (String × Sql)

/-- Sets the value of a column, in place of one it had. -/
def Assignments.put (sets : Assignments) (column : String) (value : Sql) : Assignments :=
  match sets with
  | [] => [(column, value)]
  | (c, v) :: rest => if c = column then (c, value) :: rest else (c, v) :: put rest column value

/-- Applies an update to what a column has been set to so far. -/
def Assignments.apply (root : Target) (path : List String) (sets : Assignments)
    (target : String × FieldType × Update) : Result Assignments := do
  let (column, ty, u) := target
  let current := (sets.lookup column).getD (root.column column)
  return sets.put column (← u.apply current ty path)

/-- The updates of a shape's leaves: each is set to the member of the value at its place. -/
def shapeUpdates (column : String) (ty : FieldType) (value : Json) :
    List (String × FieldType × Update) :=
  (ty.leaves column).map fun (leaf, leafType) =>
    let inside := String.ofList (leaf.toList.drop (column.length + 1))
    (leaf, leafType, ⟨.set, Value.getPath value inside⟩)

/-- Fields an update may not name. -/
def isFixed (field : String) : Bool :=
  [Field.id, Field.version, Field.createdAt, Field.updatedAt].contains field

/-- Applies one key of an update document. -/
def assignKey (s : Schema) (root : Target) (sets : Assignments) (entry : String × Json) :
    Result Assignments := do
  let (key, raw) := entry
  let head := String.ofList (key.toList.takeWhile fun c => c != '.' && c != '[')
  if isFixed head then throw (.path (.readOnly head))
  let u ← Update.decode raw
  let column ← s.column root.className key
  if column.type.isDerived then throw (.dataType (.derived root.className key))
  match column.path with
  | .column =>
    if column.type.isShape then
      if u.op ≠ .set then throw (.expression (.shapeUpdate key))
      (shapeUpdates column.name column.type u.operand).foldlM (Assignments.apply root []) sets
    else sets.apply root [] (column.name, column.type, u)
  | .json path => sets.apply root path (column.name, column.type, u)
  | _ => throw (.path (.notUpdatable root.className key))

/-- The new values of the columns that an update document names. -/
def assignments (s : Schema) (root : Target) (update : List (String × Json)) : Result Assignments :=
  update.foldlM (assignKey s root) []

/-! ## Subqueries -/

def candidates : String := "_candidates"
def updated : String := "_updated"
def inserted : String := "_inserted"
def deleted : String := "_deleted"

/-- A named subquery. -/
def named (name : String) (body : Sql) : Sql := .seq [.ident name, " AS (", .block body, ")"]

/-- The ids of the objects to change, locked. -/
def candidateRows (s : Schema) (q : Query) : Compile Sql := do
  let ((condition, order), scope) ← inNewScope do
    let condition ← q.condition s
    return (condition, ← q.order s)
  return named candidates (Sql.select (q.root.column Field.id) (scope.clause q.root) condition
    (.seq [order, q.bounds, RowLock.update.sql q.root]))

/-- The condition of being an object to change. -/
def isCandidate (root : Target) : Sql :=
  .seq [root.column Field.id, " = ", .column candidates Field.id]

/-- Changes the candidates; version and time of update always move. -/
def updatedRows (s : Schema) (root : Target) (update : List (String × Json)) : Result Sql := do
  let sets ← assignments s root update
  let own : List Sql := [
    .seq [.ident Field.version, " = ", root.column Field.version, " + 1"],
    .seq [.ident Field.updatedAt, " = NOW()"]]
  let asked : List Sql := sets.map fun (column, value) => .seq [.ident column, " = ", value]
  return named updated (.seq ["UPDATE ", .root root.className, " SET ", .join (own ++ asked) ", ",
    " FROM ", .binder candidates, " WHERE ", isCandidate root, " RETURNING ",
    .star root.className])

/-- What is written into the table of a class. -/
def insertInto (className : String) (row : List (String × Sql)) (rows : Sql) : Sql :=
  named inserted (.seq ["INSERT INTO ", .root className, " ", columnList row, rows,
    " RETURNING *"])

/-- Removes the candidates. -/
def deletedRows (root : Target) : Sql :=
  named deleted (.seq ["DELETE FROM ", .root root.className, " USING ", .binder candidates,
    " WHERE ", isCandidate root, " RETURNING ", .star root.className])

/-- Returns the rows of a named subquery as a query returns objects. -/
def readBack (q : Query) (list : Sql) (scope : Scope) (name : String) : Sql :=
  .seq ["SELECT ", list, " FROM ", scope.sourceClause name q.root]

/-- Named subqueries before a query. -/
def withSubqueries (subqueries : List Sql) (query : Sql) : Sql :=
  .seq ["WITH ", .join subqueries ", ", " ", query]

/-! ## Statements -/

/-- Writes new objects and returns them. -/
def insert (s : Schema) (q : Query) (objects : List (List (String × Json))) : Compile Sql := do
  let rows ← (objects.mapM (row s q.className) : Result _)
  let first :: _ := rows | throw (.dataType .nothingToInsert)
  let (list, scope) ← q.refetch s
  let values := Sql.join (rows.map fun r => .seq ["(", valueList r, ")"]) ", "
  return withSubqueries [insertInto q.className first (.seq [" VALUES ", values])]
    (readBack q list scope inserted)

/-- Changes the objects of a query and returns them. -/
def update (s : Schema) (q : Query) (document : List (String × Json)) : Compile Sql := do
  let candidates ← candidateRows s q
  let changed ← updatedRows s q.root document
  let (list, scope) ← q.refetch s
  return withSubqueries [candidates, changed] (readBack q list scope updated)

/-- The row of a new object, to be written if nothing has been changed. -/
def otherwise (row : List (String × Sql)) : Sql :=
  .seq [" SELECT ", valueList row, " WHERE NOT EXISTS (",
    .block (.seq ["SELECT 1 FROM ", .binder updated]), ")"]

/-- Changes the objects of a query or, if there are none, writes a new one. -/
def upsert (s : Schema) (q : Query) (document object : List (String × Json)) : Compile Sql := do
  let candidates ← candidateRows s q
  let changed ← updatedRows s q.root document
  let row ← row s q.className object
  let (list, scope) ← q.refetch s
  let branch := fun name => Sql.seq ["(", .block (readBack q list scope name), ")"]
  return withSubqueries [candidates, changed, insertInto q.className row (otherwise row)]
    (.seq [branch updated, " UNION ALL ", branch inserted])

/-- Removes the objects of a query and returns them as last seen. -/
def delete (s : Schema) (q : Query) : Compile Sql := do
  let candidates ← candidateRows s q
  let (list, scope) ← q.refetch s
  return withSubqueries [candidates, deletedRows q.root] (readBack q list scope deleted)

end Write

end ObjectQuery
