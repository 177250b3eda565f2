import ObjectQuery.Schema.Class

/-!
# Schemas

A schema is a table of classes that has passed validation: names are identifiers, no class declares a
default field, references lead to classes of the schema, and a relation's foreign field refers back.
Every class carries the default fields beside its own.
-/

namespace ObjectQuery

/-! ## Default fields -/

namespace Field

def id : String := "_id"
def version : String := "__v"
def createdAt : String := "_created_at"
def updatedAt : String := "_updated_at"
def expiredAt : String := "_expired_at"
def readers : String := "_rperm"
def writers : String := "_wperm"

/-- The fields every class carries, with their types. -/
def defaults : List (String × FieldType) :=
  [(id, .primitive .string none), (version, .primitive .number none),
    (createdAt, .primitive .date none), (updatedAt, .primitive .date none),
    (expiredAt, .primitive .date none), (readers, .primitive .stringArray none),
    (writers, .primitive .stringArray none)]

/-- The names of the fields every class carries. -/
def defaultNames : List String :=
  [id, version, createdAt, updatedAt, expiredAt, readers, writers]

/-- Whether a name is that of a field every class carries. -/
def isDefault (name : String) : Bool := defaultNames.contains name

end Field

/-- The classes of a store by their names. -/
structure Schema where
  classes : Table Class
deriving Inhabited

namespace Schema

/-- The class with a name. -/
def class? (s : Schema) (name : String) : Option Class := s.classes.find? name

/-- The class with a name; another name is an error. -/
def getClass (s : Schema) (name : String) : Result Class :=
  match s.class? name with
  | some c => .ok c
  | none => .error (.path (.unknownClass name))

/-- Whether any field of any class holds a vector. -/
def hasVectors (s : Schema) : Bool :=
  s.classes.any fun c => FieldType.anyHoldsVector c.2.fields

/-! ## Validation -/

def isNameStart (c : Char) : Bool := c.isAlpha || c == '_'

def isNamePart (c : Char) : Bool := c.isAlphanum || c == '_'

/-- Identifiers: ASCII letters, digits and underscores, no digit first. -/
def isName (name : String) : Bool :=
  match name.toList with
  | [] => false
  | c :: cs => isNameStart c && cs.all isNamePart

/-- Whether a type is a reference to a class. -/
def refersTo (ty : FieldType) (className : String) : Bool :=
  ty.target? == some className

mutual

/-- Checks the type of a field. -/
def checkType (s : Schema) (className field : String) : FieldType → Result Unit
  | .primitive .. => .ok ()
  | .vector dimension _ =>
    if dimension = 0 then .error (.dataType (.zeroDimension className field)) else .ok ()
  | .shape fields => checkFields s className field fields
  | .pointer target => (s.getClass target).map fun _ => ()
  | .relation target foreign =>
    match s.getClass target, foreign with
    | .error e, _ => .error e
    | .ok _, none => .ok ()
    | .ok c, some foreign =>
      if (c.field? foreign).any (refersTo · className) then .ok ()
      else .error (.path (.foreignMismatch target foreign className field))

/-- Checks the fields of a shape. -/
def checkFields (s : Schema) (className field : String) : List (String × FieldType) → Result Unit
  | [] => .ok ()
  | (name, ty) :: rest =>
    if !isName name then .error (.path (.badFieldName className (field ++ "." ++ name)))
    else
      match checkType s className (field ++ "." ++ name) ty with
      | .ok _ => checkFields s className field rest
      | .error e => .error e

end

/-- Checks the fields of a class, then its secure fields. -/
def checkClass (s : Schema) (name : String) (c : Class) : Result Unit := do
  c.fields.forM fun (field, ty) => do
    if !isName field then throw (.path (.badFieldName name field))
    checkType s name field ty
  c.secureFields.forM fun field =>
    if c.fields.binds field then .ok () else .error (.path (.undeclaredSecure name field))

/-- Adds the default fields to a class that does not declare any of them. -/
def withDefaults (name : String) (c : Class) : Result Class := do
  if !isName name then throw (.path (.badClassName name))
  Field.defaultNames.forM fun field =>
    if c.fields.binds field then .error (.path (.reservedField name field)) else .ok ()
  return { c with fields := Field.defaults.foldl (fun t f => t.insert f.1 f.2) c.fields }

/-- The schema of some classes, if they are valid. -/
def ofClasses (classes : Table Class) : Result Schema := do
  let classes ← classes.mapM fun (name, c) => (withDefaults name c).map (name, ·)
  let s : Schema := ⟨classes⟩
  s.classes.forM fun (name, c) => s.checkClass name c
  return s

/-- Reads a schema document: classes by their names. -/
def ofJson (v : Json) : Result Schema := do
  ofClasses (← (Document.table Document.classDefinition v).run)

end Schema

end ObjectQuery
