import ObjectQuery.Operator
import ObjectQuery.Schema.FieldType

/-!
# Errors

An error is a cause; `Error.message` is the only place that words it. Causes are grouped by what the
caller got wrong: a path, an expression, a type or value, a permission, a document, or the
configuration. What a caller may be shown of an error is its kind's `ErrorKind.publicMessage`, which
never tells which check refused.
-/

namespace ObjectQuery

/-- Why a path cannot be followed from a class. -/
inductive PathReason where
  | noField
  | unknownField
  | unknownShapeField
  | vectorRange
  | vectorElement
  | bareRelationElement
  | notIndexable
  | noSubFields
deriving DecidableEq, Inhabited

/-- What is wrong with a path, a name or a reference. -/
inductive PathFault where
  | malformed (path : String)
  | unresolved (className path : String) (reason : PathReason)
  | unknownClass (name : String)
  | badClassName (name : String)
  | badFieldName (className field : String)
  | reservedField (className field : String)
  | undeclaredSecure (className field : String)
  | foreignMismatch (target foreign className field : String)
  | bareShape
  | subPathOfColumn
  | indexWithoutKeys (className : String)
  | notIndexed (className key : String)
  | notVector (className field : String)
  | insideScalar (path : String)
  | refused (path : String)
  | missing (className field : String)
  | notProjectable (className path : String)
  | notRelation (path : String)
  | notRelationTo (className key target : String)
  | notReference (className field : String)
  | foreignCycle (className field : String)
  | badGroupName (name : String)
  | unknownGroup (name : String)
  | readOnly (field : String)
  | immutableId
  | notUpdatable (className key : String)
  | inResultRow (path : String)
deriving DecidableEq, Inhabited

/-- What is wrong with the operand of an operator. -/
inductive OperandFault where
  | string
  | array
  | nonEmptyArray
  | emptyKey
  | twoOperands
  | twoVectors
  | unknown
  | object
  | missingInput
  | fraction
  | mode
  | missingKey
  | missingValue
  | unknownAccumulator
  | missingSource
  | flags
  | pattern
  | badPattern
  | count
  | boolean
  | booleanExpression
deriving DecidableEq, Inhabited

/-- What is wrong with a filter, an expression, a sort or an update. -/
inductive ExpressionFault where
  | notObject (what : String)
  | operatorCount (what : String) (count : Nat)
  | operator (key : String) (fault : OperandFault)
  | sortOrder (raw : Json)
  | sortEntry
  | sortShape
  | filterShape
  | unknownUpdate (key : String)
  | numericOperand (value : Json)
  | divisionByZero
  | updateMismatch (op : UpdateOperator)
  | dateIncrement
  | elementScope
  | notArray (path : String)
  | distanceOperands
  | nestedGroup
  | numericInput
  | shapeUpdate (key : String)

/-- What is wrong with a type, or with a value for it. -/
inductive TypeFault where
  | zeroDimension (className field : String)
  | arrayItems (value : Json)
  | mismatch (value : Json) (ty : FieldType)
  | undecodable (value : Json) (ty : FieldType)
  | derivedColumn
  | derived (className field : String)
  | missingId (className : String)
  | nothingToInsert
  | notObject (key : String)

/-- Which permission is lacking. -/
inductive Denial where
  | onClass (action : ClassAction) (className : String)
  | secure (className field : String)
  | onField (action : FieldAction) (className field : String)
deriving DecidableEq, Inhabited

/-- Why a document is not of the form it has to have. -/
inductive DocumentFault where
  /-- A part has the wrong kind of value, or is missing. -/
  | shape
  | vectorDimension
  | shapeFields
  | pointerTarget
  | relationTarget
  | unknownType (tag : String)
  | vectorDefault
deriving DecidableEq, Inhabited

/-- What is wrong with the configuration. -/
inductive ConfigFault where
  | notSet (name : String)
  | badValue (name value : String)
  | other (text : String)
deriving DecidableEq, Inhabited

/-- Every error of the library. -/
inductive Error where
  | path (fault : PathFault)
  | expression (fault : ExpressionFault)
  | dataType (fault : TypeFault)
  | denied (denial : Denial)
  | duplicateIdentifier
  | lockNotAvailable
  | recursiveData
  | document (fault : DocumentFault)
  | config (fault : ConfigFault)
  /-- A class's own conditions lead back to themselves, so their SQL has no finite form. -/
  | endlessConditions

instance : Inhabited Error := ⟨.recursiveData⟩

/-- A computation that may fail. -/
abbrev Result := Except Error

/-! ## Wording -/

def PathReason.message : PathReason → String
  | noField => "path must start with a field"
  | unknownField => "unknown field"
  | unknownShapeField => "unknown shape field"
  | vectorRange => "vector index out of range"
  | vectorElement => "vector element has no sub-fields"
  | bareRelationElement => "relation element requires a sub-path"
  | notIndexable => "only vectors and relations can be indexed"
  | noSubFields => "field has no sub-fields"

def PathFault.message : PathFault → String
  | malformed path => "malformed path '" ++ path ++ "'"
  | unresolved className path reason => className ++ "." ++ path ++ ": " ++ reason.message
  | unknownClass name => "unknown class '" ++ name ++ "'"
  | badClassName name => "invalid class name '" ++ name ++ "'"
  | badFieldName className field => "invalid field name '" ++ className ++ "." ++ field ++ "'"
  | reservedField className field => className ++ "." ++ field ++ " is a reserved field"
  | undeclaredSecure className field =>
    "secure field '" ++ className ++ "." ++ field ++ "' is not declared"
  | foreignMismatch target foreign className field =>
    "foreign field '" ++ target ++ "." ++ foreign ++ "' of '" ++ className ++ "." ++ field ++
      "' must reference " ++ className
  | bareShape => "shape fields are addressed through their leaves"
  | subPathOfColumn => "sub-paths need a JSON field"
  | indexWithoutKeys className => className ++ " has an index without keys"
  | notIndexed className key => className ++ "." ++ key ++ " cannot be indexed"
  | notVector className field => className ++ "." ++ field ++ " is not a vector field"
  | insideScalar path => "'" ++ path ++ "' inside a scalar element; use '$'"
  | refused path => path
  | missing className field => className ++ "." ++ field ++ " does not exist"
  | notProjectable className path => className ++ "." ++ path ++ " is not a projectable column"
  | notRelation path => path ++ " is not a relation"
  | notRelationTo className key target =>
    className ++ "." ++ key ++ " is not a relation to " ++ target
  | notReference className field => className ++ "." ++ field ++ " is not a reference"
  | foreignCycle className field =>
    className ++ "." ++ field ++ " resolves through a foreign field cycle"
  | badGroupName name => "invalid group match name '" ++ name ++ "'"
  | unknownGroup name => "unknown group match '" ++ name ++ "'"
  | readOnly field => field ++ " is read-only"
  | immutableId => "_id is immutable"
  | notUpdatable className key => className ++ "." ++ key ++ " cannot be updated in place"
  | inResultRow path => path ++ " in result row"

def OperandFault.message : OperandFault → String
  | string => "expects a string"
  | array => "expects an array"
  | nonEmptyArray => "expects a non-empty array"
  | emptyKey => "empty key"
  | twoOperands => "expects two operands"
  | twoVectors => "expects two vectors"
  | unknown => "unknown operator"
  | object => "expects an object"
  | missingInput => "missing input"
  | fraction => "p must be a number between 0 and 1"
  | mode => "mode must be discrete or continuous"
  | missingKey => "missing key"
  | missingValue => "missing value"
  | unknownAccumulator => "unknown accumulator"
  | missingSource => "missing source"
  | flags => "unsupported flags"
  | pattern => "expects a string or \x7bsource, flags\x7d"
  | badPattern => "regex parse error:"
  | count => "expects a non-negative integer"
  | boolean => "expects a boolean"
  | booleanExpression => "expects a boolean expression"

def ExpressionFault.message : ExpressionFault → String
  | notObject what => what ++ " must be an object"
  | operatorCount what count =>
    what ++ " must have exactly one operator, got " ++ toString count
  | operator key fault => key ++ ": " ++ fault.message
  | sortOrder raw => "sort order must be 1 or -1, got " ++ raw.render
  | sortEntry => "sort entry missing expr"
  | sortShape => "sort must be an object or a list"
  | filterShape => "filter must be an object or a list of objects"
  | unknownUpdate key => "unknown update operator " ++ key
  | numericOperand value => "numeric operand expected, got " ++ value.render
  | divisionByZero => "division by zero"
  | updateMismatch op => "update operator " ++ op.inspect ++ " does not apply to this field"
  | dateIncrement => "date increments are milliseconds"
  | elementScope => "element selectors need an element scope"
  | notArray path => "'" ++ path ++ "' is not an array"
  | distanceOperands => "distance operands must be vectors"
  | nestedGroup => "$group cannot be nested"
  | numericInput => "accumulator needs a numeric input"
  | shapeUpdate key => "shape " ++ key ++ " only supports $set"

def TypeFault.message : TypeFault → String
  | zeroDimension className field => className ++ "." ++ field ++ " has zero vector dimension"
  | arrayItems value => "invalid array items " ++ value.render
  | mismatch value ty => value.render ++ " does not fit " ++ ty.inspect
  | undecodable value ty => "cannot decode " ++ value.render ++ " as " ++ ty.inspect
  | derivedColumn => "relations backed by a foreign field are read-only"
  | derived className field => className ++ "." ++ field ++ " is derived from its foreign field"
  | missingId className => className ++ " objects need an _id"
  | nothingToInsert => "nothing to insert"
  | notObject key => key ++ " is not an object"

def Denial.message : Denial → String
  | onClass action className => action.inspect ++ " on " ++ className
  | secure className field => className ++ "." ++ field ++ " is secure"
  | onField action className field => action.inspect ++ " on " ++ className ++ "." ++ field

def DocumentFault.message : DocumentFault → String
  | shape => "the document does not have the expected form"
  | vectorDimension => "vector type requires a dimension"
  | shapeFields => "shape type requires fields"
  | pointerTarget => "pointer type requires a target"
  | relationTarget => "relation type requires a target"
  | unknownType tag => "unknown data type '" ++ tag ++ "'"
  | vectorDefault => "invalid vector default"

def ConfigFault.message : ConfigFault → String
  | notSet name => name ++ " is not set"
  | badValue name value => name ++ " has an invalid value '" ++ value ++ "'"
  | other text => text

/-! ## Kinds -/

/-- The kinds a caller can tell apart. -/
inductive ErrorKind where
  | path
  | expression
  | dataType
  | permission
  | duplicateIdentifier
  | lockNotAvailable
  | recursiveData
  | document
  | config
  | endlessConditions
deriving DecidableEq, Inhabited

namespace ErrorKind

/-- The full text of an error of a kind; some kinds have nothing to add. -/
def render (kind : ErrorKind) (detail : String) : String :=
  match kind with
  | path => "invalid path: " ++ detail
  | expression => "invalid expression: " ++ detail
  | dataType => "invalid data type: " ++ detail
  | permission => "no permission: " ++ detail
  | duplicateIdentifier => "duplicate identifier"
  | lockNotAvailable => "lock not available"
  | recursiveData => "recursive data detected"
  | document => "json error: " ++ detail
  | config => "config error: " ++ detail
  | endlessConditions => "endless conditions"

/-- What a caller may be shown: a denial looks like any other refusal. -/
def publicMessage : ErrorKind → String
  | permission | path | expression => "request denied"
  | dataType | recursiveData => "invalid request"
  | duplicateIdentifier => "duplicate identifier"
  | lockNotAvailable => "resource busy"
  | document | config | endlessConditions => "internal error"

/-- Whether another identifier may succeed. -/
def isRetryableDuplicate (kind : ErrorKind) : Bool :=
  kind == duplicateIdentifier

end ErrorKind

namespace Error

def kind : Error → ErrorKind
  | path _ => .path
  | expression _ => .expression
  | dataType _ => .dataType
  | denied _ => .permission
  | duplicateIdentifier => .duplicateIdentifier
  | lockNotAvailable => .lockNotAvailable
  | recursiveData => .recursiveData
  | document _ => .document
  | config _ => .config
  | endlessConditions => .endlessConditions

/-- What an error adds to its kind. -/
def detail : Error → String
  | path fault => fault.message
  | expression fault => fault.message
  | dataType fault => fault.message
  | denied denial => denial.message
  | document fault => fault.message
  | config fault => fault.message
  | _ => ""

/-- The full text of an error, for logs and operators. -/
def message (e : Error) : String := e.kind.render e.detail

end Error

end ObjectQuery
