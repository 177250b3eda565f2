import ObjectQuery.Path
import ObjectQuery.Schema.Basic

/-!
# Where a path leads

`Schema.typeAt` follows a path through shapes, pointers and relations to the type at its end.
`Schema.column` finds the stored column a path begins with and what of the path is left there: an
element, a path inside untyped JSON, or a path on the class that a reference leads to.
-/

namespace ObjectQuery

/-- What is left of a path once its column is found. -/
inductive ColumnPath where
  /-- The column itself. -/
  | column
  /-- A place inside an untyped JSON column. -/
  | json (keys : List String)
  | vectorElement (position : Nat)
  /-- One element of a relation, then a path on its class. -/
  | relationElement (position : Nat) (rest : List Segment)
  /-- A path on the class a pointer leads to. -/
  | pointer (rest : List Segment)
deriving DecidableEq, Inhabited

/-- A column and what is left of the path to it; a shape's leaf has its dotted path as name. -/
structure Column where
  name : String
  type : FieldType
  path : ColumnPath
deriving Inhabited

namespace Schema

/-- The refusal of a path by the type walk. -/
def unresolved (className : String) (segments : List Segment) : Error :=
  .path (.refused (className ++ "." ++ Path.render segments))

/-- What comes after one step of the type walk. -/
inductive TypeStep where
  | here (ty : FieldType)
  /-- The path goes on inside untyped JSON. -/
  | untyped
  /-- The path goes on at a class; `skip` tells whether the segment was an index of a relation. -/
  | enter (target : String) (skip : Bool)
  | refuse

/-- One step below a type. -/
def typeStep (ty : FieldType) (segment : Segment) (isLast : Bool) : TypeStep :=
  match ty, segment with
  | .shape fields, .field name =>
    match Table.find? fields name with
    | some ty => .here ty
    | none => .refuse
  | .primitive kind _, _ => if kind.isJson then .untyped else .refuse
  | .vector dimension _, .index i =>
    if i < dimension && isLast then .here (.primitive .number none) else .refuse
  | .relation target _, .index _ => if isLast then .refuse else .enter target true
  | .relation target _, .field _ => .enter target false
  | .pointer target, _ => .enter target false
  | _, _ => .refuse

/-- The field a path on a class starts with. -/
def startField (s : Schema) (className : String) (all : List Segment) (first : Option Segment) :
    Result FieldType :=
  match s.getClass className, first with
  | .error e, _ => .error e
  | .ok c, some (.field name) =>
    match c.field? name with
    | some ty => .ok ty
    | none => .error (unresolved className all)
  | .ok _, _ => .error (unresolved className all)

/--
Follows the segments that are left below a type; `all` are the segments on the class the walk is in,
for the refusal. No type means that the path ends inside untyped JSON.
-/
def walk (s : Schema) : (className : String) → (all : List Segment) → FieldType → List Segment →
    Result (Option FieldType)
  | _, _, ty, [] => .ok (some ty)
  | className, all, ty, segment :: rest =>
    match typeStep ty segment rest.isEmpty with
    | .here ty => walk s className all ty rest
    | .untyped => .ok none
    | .refuse => .error (unresolved className all)
    | .enter target true =>
      match rest with
      | [] => .error (unresolved className all)
      | next :: more =>
        match s.startField target (next :: more) (some next) with
        | .ok ty => walk s target (next :: more) ty more
        | .error e => .error e
    | .enter target false =>
      match s.startField target (segment :: rest) (some segment) with
      | .ok ty => walk s target (segment :: rest) ty rest
      | .error e => .error e

/-- The type at the end of segments on a class. -/
def typeOf (s : Schema) (className : String) (segments : List Segment) : Result (Option FieldType) :=
  match s.startField className segments segments.head? with
  | .ok ty => s.walk className segments ty segments.tail
  | .error e => .error e

/-- The type at the end of a path; none inside untyped JSON. -/
def typeAt (s : Schema) (className path : String) : Result (Option FieldType) := do
  s.typeOf className (← Path.parse path)

/-! ## Columns -/

/-- Follows the segments below a column; `refuse` words the refusal of the whole path. -/
def columnBelow (s : Schema) (refuse : PathReason → Error) (name : String) :
    FieldType → List Segment → Result Column
  | ty, [] => .ok ⟨name, ty, .column⟩
  | ty, segment :: rest =>
    match ty, segment with
    | .shape fields, .field sub =>
      match Table.find? fields sub with
      | some sub_ty => columnBelow s refuse (name ++ "." ++ sub) sub_ty rest
      | none => .error (refuse .unknownShapeField)
    | .vector dimension d, .index i =>
      if dimension ≤ i then .error (refuse .vectorRange)
      else if !rest.isEmpty then .error (refuse .vectorElement)
      else .ok ⟨name, .vector dimension d, .vectorElement i⟩
    | .relation target f, .index i =>
      if rest.isEmpty then .error (refuse .bareRelationElement)
      else (s.typeOf target rest).map fun _ => ⟨name, .relation target f, .relationElement i rest⟩
    | .pointer target, segment =>
      (s.typeOf target (segment :: rest)).map fun _ =>
        ⟨name, .pointer target, .pointer (segment :: rest)⟩
    | ty, segment =>
      if ty.isJson then .ok ⟨name, ty, .json ((segment :: rest).map Segment.text)⟩
      else
        match segment with
        | .index _ => .error (refuse .notIndexable)
        | .field _ => .error (refuse .noSubFields)

/-- The column that segments on a class begin with; `path` is how a refusal names them. -/
def columnOf (s : Schema) (className path : String) (segments : List Segment) : Result Column :=
  match s.getClass className, segments with
  | .error e, _ => .error e
  | .ok c, .field first :: rest =>
    match c.field? first with
    | some ty => s.columnBelow (fun reason => .path (.unresolved className path reason)) first ty rest
    | none => .error (.path (.unresolved className path .unknownField))
  | .ok _, _ => .error (.path (.unresolved className path .noField))

/-- The column a path begins with, and what of the path is left there. -/
def column (s : Schema) (className path : String) : Result Column := do
  s.columnOf className path (← Path.parse path)

end Schema

end ObjectQuery
