import ObjectQuery.Sql.Codec
import ObjectQuery.Statement.Condition
import ObjectQuery.Statement.Populate

/-!
# What a statement returns

A plan is returned as a flat list of documents under dotted keys. A pointer's columns stand among
those of its owner, a relation is one array with an object for each visible member, and a group is a
subquery over the members under a key that starts with a dollar sign.
-/

namespace ObjectQuery

/-- The bounds of a query. -/
def Sql.bounds (limit skip : Option Nat) : Sql :=
  let limit : List Sql := limit.toList.map fun n => .raw (" LIMIT " ++ toString n)
  let skip : List Sql := (skip.filter (0 < ·)).toList.map fun n => .raw (" OFFSET " ++ toString n)
  .seq (limit ++ skip)

/-- Documents under their keys. -/
abbrev Entries := List (String × Sql)

/-- The most entries that one call builds an object of. -/
def objectChunk : Nat := 50

/-- The call that builds an object of a few entries. -/
def Sql.buildObject (entries : Entries) : Sql :=
  .seq ["jsonb_build_object(",
    .join (entries.map fun (key, value) => .seq [.str key, ", ", value]) ", ", ")"]

/-- Entries so many at a time, in order; `chunk` is the one that is being filled. -/
def chunksFrom (size : Nat) (chunk : Entries) : Entries → List Entries
  | [] => if chunk.isEmpty then [] else [chunk]
  | entry :: rest =>
    if chunk.length < size then chunksFrom size (chunk ++ [entry]) rest
    else chunk :: chunksFrom size [entry] rest

/-- An object of entries. -/
def Sql.object (entries : Entries) : Sql :=
  match entries with
  | [] => "'\x7b\x7d'::jsonb"
  | entries => .join ((chunksFrom objectChunk [] entries).map buildObject) " || "

/-! ## Groups -/

namespace Context

/-- The error of an aggregate over what is no number. -/
def notNumeric : Error := .expression .numericInput

/-- The input of an aggregate; a numeric one takes the number out of a document. -/
def aggregateInput (numeric : Bool) : Term → Result Sql
  | .constant v =>
    if numeric then
      match Value.asDouble? v with
      | some x => .ok (.param (.float x))
      | none => .error notNumeric
    else .ok (.param (.json v))
  | .operand o =>
    match o.type with
    | .json =>
      .ok (if numeric then o.sql.jsonWhen "number" (.seq ["(", o.sql, ")::numeric"])
        else o.sql.jsonText)
    | .scalar kind =>
      if numeric && !Operand.isNumericKind kind then .error notNumeric else .ok o.sql
    | _ => if numeric then .error notNumeric else .ok o.sql

/-- An aggregate function that orders its input. -/
def withinGroup (function : Sql) (input : Sql) : Sql :=
  .seq [function, " WITHIN GROUP (ORDER BY ", input, ")"]

/-- The function of a percentile. -/
def percentileFunction : PercentileMode → String
  | .discrete => "PERCENTILE_DISC("
  | .continuous => "PERCENTILE_CONT("

/-- Compiles the value of an accumulator over the rows of a query. -/
def aggregate (ctx : Context) (frame : Frame) : Accumulator → InScope Sql
  | .count => return "COUNT(*)"
  | .unary op input => do
    let value ← aggregateInput op.isNumeric (← ctx.term frame input)
    match op with
    | .most => return withinGroup "MODE()" value
    | op => return .seq [op.sql, "(", value, ")"]
  | .percentile input p mode => do
    let value ← aggregateInput true (← ctx.term frame input)
    return withinGroup (.seq [percentileFunction mode, .param (.float p), ")"]) value
  | .group .. => throw (.expression .nestedGroup)

/-- The rows of groups, as an array of objects with key and value. -/
def groupRows (label : String) (key value source condition : Sql) : Sql :=
  .seq ["(", .block (.seq [
      "SELECT COALESCE(jsonb_agg(jsonb_build_object('key', ", .column label "key", ", 'value', ",
      .column label "value", ")), '[]'::jsonb) FROM (",
      .block (Sql.select
        (.seq [key, " AS ", .ident "key", ", to_jsonb(", value, ") AS ", .ident "value"])
        source condition " GROUP BY 1"),
      ") AS ", .binder label]),
    ")"]

/-- The filter that is asked for on the members of a relation. -/
def memberFilter (ctx : Context) (frame : Frame) (query : BaseQuery) : InScope (List Sql) := do
  if query.filter.isTruth then return []
  return [← ctx.condition frame query.filter]

/-- Compiles an accumulator over the visible members of a relation. -/
def group (ctx : Context) (owner : Target) (relation : String) (accumulator : Accumulator)
    (query : BaseQuery) : InScope Sql := do
  let (owner, route) ← ctx.locate owner (ctx.schema.route owner.className relation)
  let .column field (.relation className _) := route | throw (.path (.notRelation relation))
  let member ← freshTarget className
  let frame := Frame.table member
  let (rows, inner) ← inNewScope do
    let contained ← ctx.memberConditions owner field member
    let asked ← ctx.memberFilter frame (query.member relation)
    let condition := Sql.and (contained ++ asked)
    match accumulator with
    | .group key value =>
      let key := (← ctx.term frame key).document
      let value ← ctx.aggregate frame value
      let label ← freshAlias
      return fun source => groupRows label key value source condition
    | accumulator =>
      let value ← ctx.aggregate frame accumulator
      return fun source => .seq ["(", .block (Sql.select value source condition .empty), ")"]
  return rows (inner.clause member)

/-! ## Orders -/

/-- The group with a name: the relation's path, a dot, the name. -/
def findGroup? (query : BaseQuery) (name : String) : Option (String × Accumulator) :=
  query.groups.findSome? fun (relation, named) =>
    (List.find? (fun group => relation ++ "." ++ group.1 == name) named).map fun group =>
      (relation, group.2)

/-- Compiles a group as a sort key. -/
def groupKey (ctx : Context) (owner : Target) (name : String) (query : BaseQuery) :
    InScope Sql := do
  match findGroup? query name with
  | some (relation, accumulator) => ctx.group owner relation accumulator query
  | none => throw (.path (.unknownGroup name))

/-- The name of a group in a sort key. -/
def groupName? (path : String) : Option String :=
  if Text.opensWith path "$" then some (String.ofList (path.toList.drop 1)) else none

/-- Compiles a path as a sort key. -/
def pathKey (ctx : Context) (owner : Target) (query : BaseQuery) (path : String) :
    InScope Sql := do
  match groupName? path with
  | some name => ctx.groupKey owner name query
  | none => return (← ctx.operand (.table owner) path).sql

/-- Compiles an expression as a sort key. -/
def exprKey (ctx : Context) (owner : Target) (query : BaseQuery) : Expr → InScope Sql
  | .key path => ctx.pathKey owner query path
  | e => do
    match ← ctx.term (.table owner) e with
    | .operand o => return o.sql
    | .constant v => return .param (.json v)

/-- Compiles a sort: keys with their directions. -/
def sortKeys (ctx : Context) (owner : Target) (query : BaseQuery) : SortSpec → InScope Sql
  | .paths keys => do
    let keys ← keys.mapM fun (path, direction) =>
      return .seq [← ctx.pathKey owner query path, " ", direction.sql]
    return .join keys ", "
  | .expressions keys => do
    let keys ← keys.mapM fun (e, direction) =>
      return .seq [← ctx.exprKey owner query e, " ", direction.sql]
    return .join keys ", "

/-- The sort of a query, unless it has no keys. -/
def sortOf? (query : BaseQuery) : Option SortSpec := query.sort.filter fun s => !s.isEmpty

/-! ## Entries -/

/-- Compiles the groups of a query. -/
def groupEntries (ctx : Context) (owner : Target) (lead : String) (query : BaseQuery) :
    InScope Entries := do
  let entries ← query.groups.mapM fun (relation, named) =>
    named.mapM fun (name, accumulator) => do
      let value ← ctx.group owner relation accumulator query
      let value : Sql :=
        match accumulator with
        | .group .. => value
        | _ => .seq ["to_jsonb(", value, ")"]
      return ("$" ++ lead ++ relation ++ "." ++ name, value)
  return entries.flatten

/-- The columns of a class as documents. -/
def columnEntries (owner : Target) (lead : String) (columns : List (String × FieldType)) :
    Entries :=
  columns.map fun (column, ty) => (lead ++ column, ty.project (owner.column column))

/-- The members of a relation as an array of objects; `entries` compiles those of a member. -/
def relationArray (ctx : Context) (owner : Target) (field : String) (member : Target)
    (query : BaseQuery) (entries : InScope Entries) : InScope Sql := do
  let ((entries, condition, order), inner) ← inNewScope do
    let entries ← entries
    let contained ← ctx.memberConditions owner field member
    let asked ← ctx.memberFilter (.table member) query
    let order ←
      match sortOf? query with
      | some sort => ctx.sortKeys member query sort
      | none => pure (ctx.schema.memberOrder owner field member)
    return (entries, Sql.and (contained ++ asked), order)
  return .seq ["to_jsonb(ARRAY(", .block (Sql.select (Sql.object entries) (inner.clause member)
    condition (.seq [" ORDER BY ", order, Sql.bounds query.limit query.skip])), "))"]

/-- The entries of a node: its columns, what is below it, its groups. -/
def nodeEntries (ctx : Context) (owner : Target) (lead : String)
    (columns : List (String × FieldType)) (query : BaseQuery) (below : InScope Entries) :
    InScope Entries := do
  let below ← below
  let groups ← ctx.groupEntries owner lead query
  return columnEntries owner lead columns ++ below ++ groups

mutual

/-- Compiles the plan of a reference of `owner`; `lead` stands before the keys. -/
def childEntries (ctx : Context) (owner : Target) (lead : String) : Plan → InScope Entries
  | ⟨node, .pointer field, columns, children, query⟩ => do
    let target ← ctx.pointerJoin owner field node.className (some node.label)
    let inside := lead ++ field ++ "."
    ctx.nodeEntries target inside columns query (allEntries ctx target inside children)
  | ⟨node, .relation field _, columns, children, query⟩ => do
    let array ← ctx.relationArray owner field node query
      (ctx.nodeEntries node "" columns query (allEntries ctx node "" children))
    return [(lead ++ field, array)]
  | ⟨_, .root, _, _, _⟩ => return []

def allEntries (ctx : Context) (owner : Target) (lead : String) : List Plan → InScope Entries
  | [] => return []
  | child :: rest => do
    let entries ← childEntries ctx owner lead child
    return entries ++ (← allEntries ctx owner lead rest)

end

/-- Compiles the plan of a root. -/
def entries (ctx : Context) (plan : Plan) : InScope Entries :=
  ctx.nodeEntries plan.target "" plan.columns plan.query
    (ctx.allEntries plan.target "" plan.children)

end Context

end ObjectQuery
