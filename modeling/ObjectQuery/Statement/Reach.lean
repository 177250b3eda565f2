import ObjectQuery.Filter
import ObjectQuery.Sql.JsonFragment
import ObjectQuery.Schema.Route
import ObjectQuery.Statement.Membership

/-!
# Reaching values

How a statement reads what a path names. A pointer hop is a left join, shared by all paths of a
query that cross it; a relation is a subquery of its own. Wherever another class is read, the
conditions on its objects are part of the same query, so an object that must not be seen is not
reached either.
-/

namespace ObjectQuery

/-- What a compilation knows: the schema, and the conditions on the objects of a joined class. -/
structure Context where
  schema : Schema
  guard : Target → InScope (Option Sql)

/-- What the keys of a filter refer to. -/
inductive Frame where
  /-- The fields of an object. -/
  | table (t : Target)
  /-- The members of an array's element; `$` is the element itself. -/
  | element (o : Operand)

namespace Context

/-- The join of a pointer's class, kept to the objects that satisfy its conditions. -/
def joinSql (owner : Target) (column : String) (target : Target) (guard : Option Sql)
    (inner : Scope) : Sql :=
  let table : Sql :=
    match guard with
    | none => .table target.className target.label
    | some condition =>
      .seq ["(", .block (Sql.select (.star target.label) (inner.clause target) condition .empty),
        ") AS ", .binder target.label]
  .seq ["LEFT JOIN ", table, " ON ", owner.column column, " = ", target.token]

/--
The class a pointer column leads to, joined unless it has been; `label` is the alias to use, if not a
fresh one.
-/
def pointerJoin (ctx : Context) (owner : Target) (column className : String)
    (label : Option String) : InScope Target := do
  match (← get).label? owner.label column with
  | some label => return ⟨className, label⟩
  | none =>
    let label ← match label with
      | some label => pure label
      | none => freshAlias
    let target : Target := ⟨className, label⟩
    let (guard, inner) ← inNewScope (ctx.guard target)
    let join : Join :=
      { owner := owner.label, column, label, sql := joinSql owner column target guard inner }
    modify (· ++ [join])
    return target

/-- The hops of a route: where it ends, and the end. -/
def locate (ctx : Context) (owner : Target) : Route → InScope (Target × Route)
  | .hop column className next => do
    locate ctx (← ctx.pointerJoin owner column className none) next
  | .refused e => throw e
  | route => return (owner, route)

/-- The members of a relation that are visible: the conditions on `member`. -/
def memberConditions (ctx : Context) (owner : Target) (field : String) (member : Target) :
    InScope (List Sql) := do
  let contained ← ctx.schema.contains owner field member
  let guard ← ctx.guard member
  return contained :: guard.toList

/-- The tokens of the members of a derived relation. -/
def relationTokens (ctx : Context) (owner : Target) (field className : String) : Compile Sql := do
  let member ← freshTarget className
  let (conditions, inner) ← inNewScope (ctx.memberConditions owner field member)
  let order := ctx.schema.memberOrder owner field member
  return .seq ["ARRAY(", .block (Sql.select member.token (inner.clause member)
    (Sql.and conditions) (.seq [" ORDER BY ", order])), ")"]

/-- The tail of a query for one row at a place in an order. -/
def oneRow (order : Sql) (position : Nat) : Sql :=
  .seq [" ORDER BY ", order, " LIMIT 1 OFFSET " ++ toString position]

/-- The value at the end of a route from `owner`. -/
def operandAt (ctx : Context) (owner : Target) : Route → InScope Operand
  | .refused e => throw e
  | .hop column className next => do
    operandAt ctx (← ctx.pointerJoin owner column className none) next
  | .column name ty =>
    match ty with
    | .relation className (some _) => do
      return ⟨← ctx.relationTokens owner name className, .tokens className⟩
    | ty => Operand.ofColumn (owner.column name) ty
  | .json column keys => return ⟨(owner.column column).jsonAt keys, .json⟩
  | .vectorElement column position =>
    return ⟨.seq [(owner.column column).parens, "[" ++ toString (position + 1) ++ "]"],
      .scalar .number⟩
  | .relationElement column className position next => do
    let member ← freshTarget className
    let ((value, conditions), inner) ← inNewScope do
      let value ← operandAt ctx member next
      return (value, ← ctx.memberConditions owner column member)
    let order := ctx.schema.memberOrder owner column member
    let sql := Sql.seq ["(", .block (Sql.select value.sql (inner.clause member)
      (Sql.and conditions) (oneRow order position)), ")"]
    return { value with sql }

/-- The value of a key inside an element of an array. -/
def elementOperand (element : Operand) (path : String) : Result Operand :=
  if path = Filter.selfKey then .ok element
  else
    match element.type with
    | .json => do
      let segments ← Path.parse path
      return ⟨element.sql.jsonAt (segments.map Segment.text), .json⟩
    | _ => .error (.path (.insideScalar path))

/-- The value of a key in a frame. -/
def operand (ctx : Context) (frame : Frame) (path : String) : InScope Operand :=
  match frame with
  | .element element => elementOperand element path
  | .table owner =>
    if path = Filter.selfKey then return ⟨owner.token, .token owner.className⟩
    else ctx.operandAt owner (ctx.schema.route owner.className path)

end Context

end ObjectQuery
