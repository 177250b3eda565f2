import ObjectQuery.Access.Query
import ObjectQuery.Sql.Predicate
import ObjectQuery.Statement.Reach

/-!
# Conditions in SQL

The SQL of expressions and filters. What an expression makes of constants alone is computed here and
not by the store. A filter for the elements of an array becomes a subquery over them, which for a
relation are its visible members.
-/

namespace ObjectQuery

/-- A compiled expression: an operand, or a constant that is still known. -/
inductive Term where
  | operand (o : Operand)
  | constant (v : Json)
deriving Inhabited

namespace Term

/-- A truth value. -/
def boolean (sql : Sql) : Term := .operand ⟨sql, .scalar .boolean⟩

/-- A truth value that is known. -/
def knownTruth (b : Bool) : Sql := if b then "true" else "false"

/-- Whether the value is neither null nor false. -/
def truth : Term → Sql
  | operand o => o.truthy
  | constant v => knownTruth (Value.truthy v)

/-- The value as a document. -/
def document : Term → Sql
  | operand o =>
    match o.type with
    | .json => o.sql
    | _ => .seq ["to_jsonb(", o.sql, ")"]
  | constant v => .param (.json v)

/-- The value of a constant. -/
def constant? : Term → Option Json
  | operand _ => none
  | constant v => some v

/-- An array of values; of constants it is a constant. -/
def array (items : List Term) : Term :=
  match items.mapM constant? with
  | some values => .constant (.arr values)
  | none =>
    .operand ⟨.seq ["jsonb_build_array(", .join (items.map document) ", ", ")"], .json⟩

/-- A comparison of two values. -/
def compare (op : Comparison) : Term → Term → Sql
  | operand l, operand r => Operand.compare op l r
  | operand l, constant v => l.compareConstant op v
  | constant v, operand r => r.compareConstant op.flip v
  | constant l, constant r => knownTruth (Value.compares op l r)

end Term

/-- A connective of conditions. -/
def Connective.sql : Connective → List Sql → Sql
  | and, parts => Sql.and parts
  | or, parts => Sql.or parts
  | nor, parts => (Sql.or parts).not

/-! ## Vectors -/

namespace Vector

/-- A fragment as a vector, of a dimension where it is known. -/
def cast (sql : Sql) (dimension : Option Nat) : Sql :=
  let type : String :=
    match dimension with
    | some d => "::vector(" ++ toString d ++ ")"
    | none => "::vector"
  .seq [sql.parens, type]

/-- The error of what is no vector. -/
def unfit : Error := .expression .distanceOperands

/-- A known vector. -/
def ofDoubles (xs : List Float) : Sql := cast (.param (.floatArray xs)) none

/-- One value as a whole vector; a column's dimension is known. -/
def ofTerm (dimension : Option Nat) : Term → Result Sql
  | .operand ⟨sql, .array .double⟩ => .ok (cast sql dimension)
  | .operand ⟨sql, .json⟩ =>
    .ok (cast (.seq ["ARRAY(", .block (.seq ["SELECT jsonb_array_elements_text(", sql,
      ")::double precision"]), ")"]) none)
  | .constant (.arr values) =>
    match values.mapM Json.asFloat? with
    | some xs => .ok (ofDoubles xs)
    | none => .error unfit
  | .constant (.num n) => .ok (ofDoubles [n.toFloat])
  | _ => .error unfit

/-- One element of a vector. -/
def elementOfTerm : Term → Result Sql
  | .constant (.num n) => .ok (.param (.float n.toFloat))
  | .operand ⟨sql, .scalar kind⟩ =>
    if Operand.isNumericKind kind then .ok (.seq [sql.parens, "::double precision"])
    else .error unfit
  | _ => .error unfit

/-- A vector of elements. -/
def ofElements (elements : List Sql) : Sql :=
  cast (.seq ["ARRAY[", .join elements ", ", "]"]) none

end Vector

/-! ## Expressions -/

namespace Context

/-- The dimension of the vector column a key names. -/
def dimension? (ctx : Context) (frame : Frame) (e : Expr) : Option Nat :=
  match frame, e with
  | .table owner, .key path =>
    match ctx.schema.typeAt owner.className path with
    | .ok (some (.vector dimension _)) => some dimension
    | _ => none
  | _, _ => none

mutual

/-- Compiles an expression. -/
def term (ctx : Context) (frame : Frame) : Expr → InScope Term
  | .key path => return .operand (← ctx.operand frame path)
  | .value v => return .constant v
  | .array items => return .array (← terms ctx frame items)
  | .not e => return .boolean (← term ctx frame e).truth.not
  | .connective op items => return .boolean (op.sql ((← terms ctx frame items).map Term.truth))
  | .comparison op l r => do
    let left ← term ctx frame l
    let right ← term ctx frame r
    return .boolean (Term.compare op left right)
  | .measure m l r => do
    let left ← vector ctx frame l
    let right ← vector ctx frame r
    return .operand ⟨m.sql left right, .scalar .number⟩

def terms (ctx : Context) (frame : Frame) : List Expr → InScope (List Term)
  | [] => return []
  | e :: es => do
    let t ← term ctx frame e
    return t :: (← terms ctx frame es)

/-- Compiles a vector: one expression for the whole of it, or its elements. -/
def vector (ctx : Context) (frame : Frame) : List Expr → InScope Sql
  | [e] => do
    let t ← term ctx frame e
    Vector.ofTerm (ctx.dimension? frame e) t
  | es => return Vector.ofElements (← elements ctx frame es)

def elements (ctx : Context) (frame : Frame) : List Expr → InScope (List Sql)
  | [] => return []
  | e :: es => do
    let t ← term ctx frame e
    let sql ← Vector.elementOfTerm t
    return sql :: (← elements ctx frame es)

end

/-! ## Filters -/

/-- The rows of a source all, or some of them, satisfy a condition. -/
def quantified (every : Bool) (source : Sql) (conditions : List Sql) (condition : Sql) : Sql :=
  if every then .seq ["NOT ", Sql.existsIn source (conditions ++ [condition.not])]
  else Sql.existsIn source (conditions ++ [condition])

/-- The visible members of a relation all, or some of them, satisfy a filter. -/
def overMembers (ctx : Context) (owner : Target) (field className : String) (every : Bool)
    (filter : Frame → InScope Sql) : InScope Sql := do
  let member ← freshTarget className
  let ((condition, conditions), inner) ← inNewScope do
    let condition ← filter (.table member)
    return (condition, ← ctx.memberConditions owner field member)
  return quantified every (inner.clause member) conditions condition

/-- The rows of an array's elements. -/
def unnest (sql : Sql) : Sql := .seq ["unnest(", sql, ")"]

/-- The rows of a document's elements; what is no array has none. -/
def unnestJson (sql : Sql) : Sql :=
  .seq ["jsonb_array_elements(CASE WHEN ", sql.jsonIs "array", " THEN ", sql,
    " ELSE '[]'::jsonb END)"]

/-- What a document has to be for all of its elements to satisfy something. -/
def isListOrNull (sql : Sql) : Sql :=
  .seq ["COALESCE(jsonb_typeof(", sql, ") IN ('array', 'null'), true)"]

/-- The column of the elements' rows. -/
def elementColumn : String := "value"

/-- The rows of an operand's elements and what each of them is. -/
def elementsOf? (o : Operand) : Option (Sql × OperandType) :=
  match o.type with
  | .array .text => some (unnest o.sql, .scalar .string)
  | .array .double => some (unnest o.sql, .scalar .number)
  | .tokens target => some (unnest o.sql, .token target)
  | .json => some (unnestJson o.sql, .json)
  | _ => none

/-- The elements of an array all, or some of them, satisfy a filter. -/
def overElements (o : Operand) (path : String) (every : Bool) (filter : Frame → InScope Sql) :
    InScope Sql := do
  let label ← freshAlias
  let some (rows, type) := elementsOf? o | throw (.expression (.notArray path))
  let source := Sql.seq [rows, " AS ", .binder label, "(", .ident elementColumn, ")"]
  let (condition, _) ← inNewScope (filter (.element ⟨.column label elementColumn, type⟩))
  let test := quantified every source [] condition
  match o.type with
  | .json => return if every then Sql.and [isListOrNull o.sql, test] else test
  | _ => return test

/-- The elements at a path all, or some of them, satisfy a filter. -/
def quantify (ctx : Context) (frame : Frame) (path : String) (every : Bool)
    (filter : Frame → InScope Sql) : InScope Sql := do
  match frame with
  | .table owner =>
    if path = Filter.selfKey then overElements (← ctx.operand frame path) path every filter
    else
      let (owner, route) ← ctx.locate owner (ctx.schema.route owner.className path)
      match route with
      | .column field (.relation className _) => ctx.overMembers owner field className every filter
      | route => overElements (← ctx.operandAt owner route) path every filter
  | .element element => overElements (← elementOperand element path) path every filter

mutual

/-- Compiles the test of a field; a negated filter for elements is negated as a whole. -/
def test (ctx : Context) (frame : Frame) (path : String) : FieldTest → InScope Sql
  | .every f => ctx.quantify frame path true (fun inner => condition ctx inner f)
  | .any f => ctx.quantify frame path false (fun inner => condition ctx inner f)
  | .not t =>
    if t.elementFilter?.isSome then return (← test ctx frame path t).not
    else do (← ctx.operand frame path).test (.not t)
  | t => do (← ctx.operand frame path).test t

/-- Compiles a filter. -/
def condition (ctx : Context) (frame : Frame) : Filter → InScope Sql
  | .connective op items => return op.sql (← conditions ctx frame items)
  | .field path t => test ctx frame path t
  | .expr e => return (← ctx.term frame e).truth

def conditions (ctx : Context) (frame : Frame) : List Filter → InScope (List Sql)
  | [] => return []
  | f :: fs => do
    let sql ← condition ctx frame f
    return sql :: (← conditions ctx frame fs)

end

end Context

/-! ## The conditions on joined classes -/

/--
The conditions on the objects of a class that is joined. They may join further classes, whose
conditions are compiled in turn; `depth` bounds how far that goes. With as many steps as there are
classes only conditions that lead back to their own class are refused.
-/
def guardWithin (schema : Schema) (filters : Option ClassFilter) (depth : Nat) (target : Target) :
    InScope (Option Sql) :=
  match filters with
  | none => return none
  | some filters =>
    let filter := (filters target.className).simplify
    if filter.isTruth then return none
    else
      match depth with
      | 0 => throw .endlessConditions
      | depth + 1 => do
        let ctx : Context := ⟨schema, guardWithin schema (some filters) depth⟩
        return some (← ctx.condition (.table target) filter)

/-- The context of a query with conditions on the classes it joins. -/
def Context.of (schema : Schema) (filters : Option ClassFilter) : Context :=
  ⟨schema, guardWithin schema filters schema.classes.length⟩

end ObjectQuery
