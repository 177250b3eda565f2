import ObjectQuery.Statement.Projection

/-!
# Reading statements

Statements that return the objects of a query, count them, draw from them, or look for the objects
that refer to others.
-/

namespace ObjectQuery

/-- A lock on the rows that are read; contention fails at once. -/
inductive RowLock where
  | update
  | share
deriving DecidableEq, Inhabited

/-- The clause of a lock. -/
def RowLock.sql (lock : RowLock) (root : Target) : Sql :=
  let mode := match lock with
    | update => " FOR UPDATE OF "
    | share => " FOR SHARE OF "
  .seq [.raw mode, .ident root.label, " NOWAIT"]

/-- Entries as the columns of a result. -/
def Sql.resultList (entries : Entries) : Sql :=
  .join (entries.map fun (key, value) => .seq [value, " AS ", .ident key]) ", "

namespace Query

/-- The root of the statement of a query. -/
def root (q : Query) : Target := .root q.className

/-- The context a query is compiled in. -/
def context (s : Schema) (q : Query) : Context := .of s q.extraFilter

/-- What a query returns. -/
def entries (s : Schema) (q : Query) : InScope Entries := do
  let plan ← Plan.ofIncludes s q.root q.includes q.base
  (q.context s).entries plan

/-- What a query returns, in a FROM clause of its own. -/
def refetch (s : Schema) (q : Query) : Compile (Sql × Scope) := do
  let (entries, scope) ← inNewScope (q.entries s)
  return (Sql.resultList entries, scope)

/-- The condition of being a member of an object's relation; that object has to be visible. -/
def relatedCondition (s : Schema) (q : Query) (r : RelatedBy) : Compile Sql := do
  let parent ← freshTarget r.className
  let contained ← s.contains parent r.key q.root
  let (guard, inner) ← inNewScope ((q.context s).guard parent)
  let named := Sql.seq [parent.column Field.id, " = ", .param (.text r.objectId)]
  return Sql.existsIn (inner.clause parent) ([named, contained] ++ guard.toList)

/-- The condition on the root's rows. -/
def condition (s : Schema) (q : Query) : InScope Sql := do
  let filter ← (q.context s).condition (.table q.root) q.base.filter
  let related ← q.relatedBy.toList.mapM fun r => q.relatedCondition s r
  return Sql.and (filter :: related)

/-- The order of the rows. -/
def order (s : Schema) (q : Query) : InScope Sql := do
  match Context.sortOf? q.base with
  | some sort => return .seq [" ORDER BY ", ← (q.context s).sortKeys q.root q.base sort]
  | none => return .empty

/-- The bounds of the rows. -/
def bounds (q : Query) : Sql := Sql.bounds q.base.limit q.base.skip

end Query

/-! ## References -/

/-- A column that stores tokens of a class: one, or an array of them. -/
structure Referrer where
  className : String
  column : String
  single : Bool
deriving DecidableEq, Inhabited

/-- Whether a column of a type stores tokens of a class, and then if only one. -/
def FieldType.storesTokensOf? (ty : FieldType) (target : String) : Option Bool :=
  match ty with
  | .pointer t => if t = target then some true else none
  | .relation t none => if t = target then some false else none
  | _ => none

/-- The columns that store tokens of a class. -/
def Schema.referrers (s : Schema) (target : String) : List Referrer :=
  s.classes.flatMap fun (className, c) =>
    c.fields.flatMap fun (field, ty) =>
      (ty.leaves field).filterMap fun (column, leaf) =>
        (leaf.storesTokensOf? target).map fun single => { className, column, single }

/-- The column of a referrer, read through a target, with the object it may refer to. -/
def Referrer.holding (r : Referrer) (source object : Target) : Holding :=
  if r.single then .pointer source r.column object else .tokens source r.column object

/-- Whether a referrer's column refers to one of some tokens. -/
def Referrer.refersToOne (r : Referrer) (source : Target) (tokens : List String) : Sql :=
  if r.single then .seq [source.column r.column, " = ANY(", .param (.textArray tokens), ")"]
  else .seq [source.column r.column, " && ", .param (.textArray tokens)]

/-! ## Statements -/

namespace Read

/-- Returns the objects of a query. -/
def find (s : Schema) (q : Query) (lock : Option RowLock) : Compile Sql := do
  let ((entries, condition, order), scope) ← inNewScope do
    let entries ← q.entries s
    let condition ← q.condition s
    return (entries, condition, ← q.order s)
  let lock := lock.toList.map (·.sql q.root)
  return Sql.select (Sql.resultList entries) (scope.clause q.root) condition
    (.seq (order :: q.bounds :: lock))

/-- Counts the objects of a query. -/
def count (s : Schema) (q : Query) : Compile Sql := do
  let (condition, scope) ← inNewScope (q.condition s)
  return Sql.select (.seq ["COUNT(*) AS ", .ident "count"]) (scope.clause q.root) condition .empty

/-- Returns objects of a query in a random order, in which a weight makes a row come earlier. -/
def random (s : Schema) (q : Query) (weight : Option String) : Compile Sql := do
  let ((entries, condition, weight), scope) ← inNewScope do
    let entries ← q.entries s
    let condition ← q.condition s
    let weight ← weight.mapM ((q.context s).operand (.table q.root))
    return (entries, condition, weight)
  return Sql.select (Sql.resultList entries) (scope.clause q.root) condition
    (.seq [" ORDER BY ", Sql.randomKey (weight.map (·.sql)), q.bounds])

/-- Asks for the plan by which objects would be found. -/
def explain (s : Schema) (q : Query) : Compile Sql := do
  return .seq ["EXPLAIN (FORMAT JSON) ", ← find s q none]

/-- The condition that no object refers to a target through a column. -/
def unreferenced (root : Target) (r : Referrer) : Compile Sql := do
  let source ← freshTarget r.className
  return .seq ["NOT ", Sql.existsIn source.table [(r.holding source root).sql]]

/-- Returns the objects of a query to which nothing refers. -/
def nonrefs (s : Schema) (q : Query) : Compile Sql := do
  let ((entries, conditions, order), scope) ← inNewScope do
    let entries ← q.entries s
    let condition ← q.condition s
    let free ← (s.referrers q.className).mapM fun r => unreferenced q.root r
    return (entries, condition :: free, ← q.order s)
  return Sql.select (Sql.resultList entries) (scope.clause q.root) (Sql.and conditions)
    (.seq [order, q.bounds])

/-- The columns that tell which object refers, and through which field. -/
def referrerList (className field id : Sql) : Sql :=
  .seq [className, "::text AS ", .ident "class", ", ", field, "::text AS ", .ident "field", ", ",
    id, " AS ", .ident Field.id]

/-- The objects that refer to one of some tokens through a column. -/
def referring (tokens : List String) (r : Referrer) : Sql :=
  let source := Target.root r.className
  .seq ["(", .block (Sql.select
    (referrerList (.str r.className) (.str r.column) (source.column Field.id)) source.table
    (r.refersToOne source tokens) .empty), ")"]

/-- Returns class, field and id of every object that refers to one of some objects of a class. -/
def refs (s : Schema) (className : String) (ids : List String) : Compile Sql := do
  let _ ← s.getClass className
  let tokens := ids.map (objectToken className)
  match s.referrers className with
  | [] =>
    return .seq ["SELECT ", referrerList "NULL" "NULL" "NULL::text", " WHERE false"]
  | referrers => return .join (referrers.map (referring tokens)) " UNION ALL "

end Read

end ObjectQuery
