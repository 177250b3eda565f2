import ObjectQuery.Text.Inspect

/-!
# Field types

A field holds a primitive, a vector of doubles, a shape of named sub-fields, a pointer to one
object of a class, or a relation to many. Only shapes nest. The members of a shape are kept in the
order of their names.
-/

namespace ObjectQuery

/-- The primitive kinds of a field. -/
inductive PrimitiveKind where
  | boolean
  | number
  | decimal
  | string
  | stringArray
  | date
  | object
  | array
deriving DecidableEq, Inhabited

namespace PrimitiveKind

/-- The word a schema uses for a kind. -/
def tag : PrimitiveKind → String
  | boolean => "boolean"
  | number => "number"
  | decimal => "decimal"
  | string => "string"
  | stringArray => "string[]"
  | date => "date"
  | object => "object"
  | array => "array"

/-- Every kind. -/
def all : List PrimitiveKind :=
  [boolean, number, decimal, string, stringArray, date, object, array]

/-- The kind a word stands for. -/
def ofTag? (word : String) : Option PrimitiveKind :=
  all.find? (fun k => k.tag = word)

/-- Untyped JSON, which can be addressed below its top. -/
def isJson : PrimitiveKind → Bool
  | object | array => true
  | _ => false

/-- The name of a kind in inspection text. -/
def inspect : PrimitiveKind → String
  | boolean => "Boolean"
  | number => "Number"
  | decimal => "Decimal"
  | string => "String"
  | stringArray => "StringArray"
  | date => "Date"
  | object => "Object"
  | array => "Array"

end PrimitiveKind

/-- The type of a field. -/
inductive FieldType where
  | primitive (kind : PrimitiveKind) (default? : Option Json)
  | vector (dimension : Nat) (default? : Option (List Float))
  | shape (fields : List (String × FieldType))
  | pointer (target : String)
  | relation (target : String) (foreignField : Option String)
deriving Inhabited

namespace FieldType

/-- The kind of a primitive type. -/
def kind? : FieldType → Option PrimitiveKind
  | primitive kind _ => some kind
  | _ => none

/-- The class a reference leads to. -/
def target? : FieldType → Option String
  | pointer target => some target
  | relation target _ => some target
  | _ => none

def isPrimitive : FieldType → Bool
  | primitive .. => true
  | _ => false

def isShape : FieldType → Bool
  | shape _ => true
  | _ => false

def isVector : FieldType → Bool
  | vector .. => true
  | _ => false

/-- Pointers and relations lead to another class. -/
def isReference : FieldType → Bool
  | pointer _ => true
  | relation .. => true
  | _ => false

/-- A relation whose members are found through a field of the target class. -/
def isDerived : FieldType → Bool
  | relation _ (some _) => true
  | _ => false

/-- Whether a type is untyped JSON. -/
def isJson (ty : FieldType) : Bool :=
  ty.kind?.any PrimitiveKind.isJson

/-- The default of a primitive or a vector as JSON. -/
def defaultValue? : FieldType → Option Json
  | primitive _ default? => default?
  | vector _ default? => default?.map (fun xs => .arr (xs.map Json.ofFloat))
  | _ => none

/-- The inspection text of the outermost kind. -/
def inspectKind : FieldType → String
  | primitive kind _ => "Primitive(" ++ kind.inspect ++ ")"
  | vector .. => "Vector"
  | shape _ => "Shape"
  | pointer _ => "Pointer"
  | relation .. => "Relation"

mutual

/-- The inspection text of a type, with all its members. -/
def inspect : FieldType → String
  | primitive kind default? =>
    "Primitive \x7b kind: " ++ kind.inspect ++ ", default: " ++
      Text.inspectOption (default?.map Json.inspect) ++ " \x7d"
  | vector dimension default? =>
    "Vector \x7b dimension: " ++ toString dimension ++ ", default: " ++
      Text.inspectOption (default?.map fun xs => Text.inspectList (xs.map Text.inspectFloat)) ++
      " \x7d"
  | shape fields => "Shape \x7b fields: " ++ Text.inspectEntries (inspectFields fields) ++ " \x7d"
  | pointer target => "Pointer \x7b target: " ++ Text.inspect target ++ " \x7d"
  | relation target foreignField =>
    "Relation \x7b target: " ++ Text.inspect target ++ ", foreign_field: " ++
      Text.inspectOption (foreignField.map Text.inspect) ++ " \x7d"

def inspectFields : List (String × FieldType) → List (String × String)
  | [] => []
  | (name, ty) :: rest => (name, inspect ty) :: inspectFields rest

end

mutual

/-- The leaves of a field as dotted paths with their types; a type that is no shape is its own leaf. -/
def leaves (path : String) : FieldType → List (String × FieldType)
  | shape fields => fieldLeaves path fields
  | ty => [(path, ty)]

def fieldLeaves (path : String) : List (String × FieldType) → List (String × FieldType)
  | [] => []
  | (name, ty) :: rest => leaves (path ++ "." ++ name) ty ++ fieldLeaves path rest

end

mutual

/-- Whether a vector occurs in a type. -/
def holdsVector : FieldType → Bool
  | vector .. => true
  | shape fields => anyHoldsVector fields
  | _ => false

def anyHoldsVector : List (String × FieldType) → Bool
  | [] => false
  | (_, ty) :: rest => holdsVector ty || anyHoldsVector rest

end

end FieldType

end ObjectQuery
