import ObjectQuery.Access.Auth
import ObjectQuery.Error
import ObjectQuery.Sql.Basic
import ObjectQuery.Value.Basic

/-!
# Operands

An operand is a fragment together with what it holds. The type decides which tests apply to it and
which constants can stand beside it.
-/

namespace ObjectQuery

/-- What the items of a native array are. -/
inductive ArrayElement where
  | text
  | double
deriving DecidableEq, Inhabited

/-- What a fragment holds, as far as tests of it care. -/
inductive OperandType where
  /-- A native scalar. -/
  | scalar (kind : PrimitiveKind)
  /-- Untyped JSON. -/
  | json
  /-- A native array. -/
  | array (element : ArrayElement)
  /-- The token of one object of a class. -/
  | token (target : String)
  /-- An array of tokens of a class; null stands for none. -/
  | tokens (target : String)
deriving DecidableEq, Inhabited

/-- A fragment with what it holds. -/
structure Operand where
  sql : Sql
  type : OperandType
deriving Inhabited

namespace OperandType

/-- What a column of a primitive kind holds. -/
def ofKind : PrimitiveKind → OperandType
  | .object | .array => json
  | .stringArray => array .text
  | kind => scalar kind

/-- What a column of a type holds; a shape has no column. -/
def ofType? : FieldType → Option OperandType
  | .primitive kind _ => some (ofKind kind)
  | .vector .. => some (array .double)
  | .pointer target => some (token target)
  | .relation target _ => some (tokens target)
  | .shape _ => none

end OperandType

/-- The operand of a column. -/
def Operand.ofColumn (sql : Sql) (ty : FieldType) : Result Operand :=
  match OperandType.ofType? ty with
  | some type => .ok ⟨sql, type⟩
  | none => .error (.path .bareShape)

/-! ## Constants -/

/-- The parameter of a constant beside a scalar; none where their kinds differ. -/
def PrimitiveKind.constant? (kind : PrimitiveKind) (v : Json) : Option Param :=
  match kind with
  | .boolean => v.asBool?.map .bool
  | .number => (Value.asDouble? v).map .float
  | .decimal => (Value.asDecimal? v).map fun d => .decimal d.render
  | .string => v.asStr?.map .text
  | .date => (Value.asDate? v).map .timestamp
  | _ => none

/-- The token of the object of a class that a value refers to. -/
def tokenOf? (target : String) (v : Json) : Option String :=
  (Value.referenceId? v).map (objectToken target)

/-- The array parameter of the constants that fit beside the items of an array. -/
def ArrayElement.param (element : ArrayElement) (list : List Json) : Param :=
  match element with
  | text => .textArray (list.filterMap Json.asStr?)
  | double => .floatArray (list.filterMap Value.asDouble?)

/-- Whether a constant fits beside the items of an array. -/
def ArrayElement.fits (element : ArrayElement) (v : Json) : Bool :=
  match element with
  | text => v.asStr?.isSome
  | double => (Value.asDouble? v).isSome

/-- The array parameter of the tokens of those values that refer to an object. -/
def tokensParam (target : String) (list : List Json) : Param :=
  .textArray (list.filterMap (tokenOf? target))

end ObjectQuery
