import ObjectQuery.Access.Gate
import ObjectQuery.Schema.Resolve
import ObjectQuery.Statement.Scope

/-!
# Plans of what to return

The paths a query returns form a tree: the columns of the root class, and below each reference the
columns of the class it leads to. `Plan.ofIncludes` builds it from the flat list of paths. Every node
but the root gets its alias here, and a relation's node takes the query for its members along.
-/

namespace ObjectQuery

/-- How a node is reached from the one above. -/
inductive Reach where
  | root
  | pointer (field : String)
  | relation (field : String) (foreignField : Option String)
deriving DecidableEq, Inhabited

/-- What to return of a class, and of the classes its references lead to. -/
structure Plan where
  target : Target
  reach : Reach
  /-- The columns with their types; a shape's leaf has its dotted path as name. -/
  columns : List (String × FieldType)
  children : List Plan
  /-- The conditions, order, bounds and groups of the node. -/
  query : BaseQuery
deriving Inhabited

/-- The query below a pointer: what is asked for paths that go through it. -/
def BaseQuery.beyond (q : BaseQuery) (field : String) : BaseQuery :=
  { nested := q.nested.filterMap fun (path, nested) =>
      if Text.opensWith path (field ++ ".") then
        some (String.ofList (path.toList.drop (field.length + 1)), nested)
      else none }

/-- The query for the members of a relation. -/
def BaseQuery.member (q : BaseQuery) (field : String) : BaseQuery :=
  (Table.find? q.nested field).getD {}

namespace Plan

/-- A path by its parts between dots; no part stands for the id. -/
abbrev Parts := List String

/-- The first part of a path. -/
def headOf : Parts → String
  | [] => Field.id
  | head :: _ => head

/-- A path in full. -/
def textOf : Parts → String
  | [] => Field.id
  | parts => ".".intercalate parts

/-- Adds a path to those below a reference; references keep the order of their first paths. -/
def addBelow (field : String) (rest : Parts) : List (String × List Parts) → List (String × List Parts)
  | [] => [(field, [rest])]
  | (f, paths) :: groups =>
    if f = field then (f, paths ++ [rest]) :: groups else (f, paths) :: addBelow field rest groups

/-- The column at the end of a path that starts with no reference. -/
def columnAt (s : Schema) (className path : String) : Result (String × FieldType) := do
  let column ← s.column className path
  if column.path ≠ .column ∨ column.type.isShape then
    throw (.path (.notProjectable className path))
  return (column.name, column.type)

/-- What the paths on a class ask for: its columns, and the paths below its references. -/
structure Level where
  columns : List (String × FieldType) := []
  below : List (String × List Parts) := []

/-- Adds a path to what is asked for. -/
def Level.add (s : Schema) (className : String) (c : Class) (level : Level) (path : Parts) :
    Result Level := do
  let ty ← Gate.fieldOf className c (headOf path)
  if ty.isReference then
    return { level with below := addBelow (headOf path) path.tail level.below }
  let column ← columnAt s className (textOf path)
  if level.columns.any (·.1 == column.1) then return level
  return { level with columns := level.columns ++ [column] }

/-- How a field leads to another class, and to which. -/
def reachOf (field : String) : FieldType → Option (Reach × String)
  | .pointer target => some (.pointer field, target)
  | .relation target foreign => some (.relation field foreign, target)
  | _ => none

/-- The query of a node below another. -/
def queryOf (q : BaseQuery) : Reach → BaseQuery
  | .root => q
  | .pointer field => q.beyond field
  | .relation field _ => q.member field

/-- The plan of paths of at most `depth` parts on a class. -/
def ofParts (s : Schema) (depth : Nat) (target : Target) (reach : Reach) (paths : List Parts)
    (query : BaseQuery) : Compile Plan := do
  let c ← s.getClass target.className
  let level ← (paths.foldlM (Level.add s target.className c) {} : Result Level)
  let children ←
    match depth with
    | 0 => pure []
    | depth + 1 =>
      level.below.mapM fun (field, paths) => do
        let some (reach, className) := (c.field? field).bind (reachOf field)
          | throw (.path (.refused (target.className ++ "." ++ field)))
        let child ← freshTarget className
        ofParts s depth child reach paths (queryOf query reach)
  return { target, reach, columns := level.columns, children, query }

/-- The plan of paths on a class. -/
def ofIncludes (s : Schema) (target : Target) (includes : List String) (query : BaseQuery) :
    Compile Plan :=
  let paths := includes.map (Text.split '.')
  ofParts s ((paths.map List.length).foldl max 0) target .root paths query

end Plan

end ObjectQuery
