import ObjectQuery.Access.Auth
import ObjectQuery.Schema.TypeDocument

/-!
# Classes

A class declares fields, who may act on it and on its fields, fields that no caller may see, and
indexes. What has no access list is open to everyone.
-/

namespace ObjectQuery

/-- Access lists for the actions on a class. -/
structure ClassPermissions where
  get : Option Acl := none
  find : Option Acl := none
  count : Option Acl := none
  create : Option Acl := none
  update : Option Acl := none
  delete : Option Acl := none
deriving DecidableEq, Inhabited

/-- The access list of an action, if it has one. -/
def ClassPermissions.acl? (p : ClassPermissions) : ClassAction → Option Acl
  | .get => p.get
  | .find => p.find
  | .count => p.count
  | .create => p.create
  | .update => p.update
  | .delete => p.delete

/-- Access lists that open all objects of a class whatever the objects say. -/
structure ObjectPermissions where
  read : Option Acl := none
  update : Option Acl := none
deriving DecidableEq, Inhabited

/-- Access lists for the actions on a field. -/
structure FieldPermissions where
  read : Option Acl := none
  create : Option Acl := none
  update : Option Acl := none
deriving DecidableEq, Inhabited

/-- The access list of an action, if it has one. -/
def FieldPermissions.acl? (p : FieldPermissions) : FieldAction → Option Acl
  | .read => p.read
  | .create => p.create
  | .update => p.update

/-- How the distance of vectors is measured in an index. -/
inductive VectorMethod where
  | cosine
  | l2
  | ip
deriving DecidableEq, Inhabited

def VectorMethod.tag : VectorMethod → String
  | cosine => "cosine"
  | l2 => "l2"
  | ip => "ip"

def VectorMethod.ofTag? (tag : String) : Option VectorMethod :=
  [cosine, l2, ip].find? (fun m => m.tag = tag)

/-- An index of a class: on a vector field, or on keys with their orders as they are written. -/
inductive Index where
  | vector (field : String) (method : VectorMethod)
  | keys (keys : List (String × Json)) (unique : Bool)
deriving Inhabited

/-- A class of objects. -/
structure Class where
  fields : Table FieldType := []
  permissions : ClassPermissions := {}
  objectPermissions : ObjectPermissions := {}
  fieldPermissions : Table FieldPermissions := []
  secureFields : List String := []
  indexes : List Index := []
deriving Inhabited

namespace Class

def field? (c : Class) (name : String) : Option FieldType := c.fields.find? name

/-- Whether a field is hidden from every caller but a master. -/
def isSecure (c : Class) (field : String) : Bool := c.secureFields.contains field

/-- The access list of an action; without one everyone is granted. -/
def acl (c : Class) (action : ClassAction) : Acl := (c.permissions.acl? action).getD ["*"]

/-- The access list of an action on a field, if it has one. -/
def fieldAcl? (c : Class) (field : String) (action : FieldAction) : Option Acl :=
  (c.fieldPermissions.find? field).bind (·.acl? action)

end Class

/-! ## Reading -/

namespace Document

def acl (v : Json) : Document (Option Acl) := optional (list text) v

def classPermissions : Json → Document ClassPermissions :=
  record ["get", "find", "count", "create", "update", "delete"] {} fun p name v =>
    match name with
    | "get" => (acl v).map fun get => { p with get }
    | "find" => (acl v).map fun find => { p with find }
    | "count" => (acl v).map fun count => { p with count }
    | "create" => (acl v).map fun create => { p with create }
    | "update" => (acl v).map fun update => { p with update }
    | "delete" => (acl v).map fun delete => { p with delete }
    | _ => .ok p

def objectPermissions : Json → Document ObjectPermissions :=
  record ["read", "update"] {} fun p name v =>
    match name with
    | "read" => (acl v).map fun read => { p with read }
    | "update" => (acl v).map fun update => { p with update }
    | _ => .ok p

def fieldPermissions : Json → Document FieldPermissions :=
  record ["read", "create", "update"] {} fun p name v =>
    match name with
    | "read" => (acl v).map fun read => { p with read }
    | "create" => (acl v).map fun create => { p with create }
    | "update" => (acl v).map fun update => { p with update }
    | _ => .ok p

/-- A method by its tag, or as the only key of an object, bound to null. -/
def vectorMethod : Json → Document VectorMethod
  | .str tag => required (VectorMethod.ofTag? tag)
  | .obj [(tag, .null)] => required (VectorMethod.ofTag? tag)
  | _ => .error .shape

/-- An index on a vector; the method may be missing. -/
def vectorIndex (members : List (String × Json)) : Document Index := do
  let field ← (← required (Json.member? members "vector")) |> text
  match Json.member? members "method" with
  | none => return .vector field .cosine
  | some v => return .vector field (← vectorMethod v)

/-- An index on keys; unless it says so it is not unique. -/
def keyIndex (members : List (String × Json)) : Document Index := do
  let keys ← (← required (Json.member? members "keys")) |> object
  match Json.member? members "unique" with
  | none => return .keys keys false
  | some v => return .keys keys (← flag v)

/-- An index of the first kind that fits. -/
def index : Json → Document Index
  | .obj members =>
    match vectorIndex members with
    | .ok i => .ok i
    | .error _ => keyIndex members
  | _ => .error .shape

/-- A class; every member may be missing. -/
def classDefinition : Json → Document Class :=
  record ["fields", "classLevelPermissions", "additionalObjectPermissions",
      "fieldLevelPermissions", "secureFields", "indexes"] {} fun c name v =>
    match name with
    | "fields" => (table FieldType.decode v).map fun fields => { c with fields }
    | "classLevelPermissions" => (classPermissions v).map fun permissions => { c with permissions }
    | "additionalObjectPermissions" =>
      (objectPermissions v).map fun objectPermissions => { c with objectPermissions }
    | "fieldLevelPermissions" =>
      (table fieldPermissions v).map fun fieldPermissions => { c with fieldPermissions }
    | "secureFields" => (list text v).map fun secureFields => { c with secureFields }
    | "indexes" => (list index v).map fun indexes => { c with indexes }
    | _ => .ok c

end Document

/-! ## Writing -/

/-- Access lists under their names, those that are missing left out. -/
def encodeAcls (acls : List (String × Option Acl)) : Json :=
  .obj (acls.filterMap fun (name, acl) => acl.map fun acl => (name, .arr (acl.map Json.str)))

def ClassPermissions.encode (p : ClassPermissions) : Json :=
  encodeAcls [("get", p.get), ("find", p.find), ("count", p.count), ("create", p.create),
    ("update", p.update), ("delete", p.delete)]

def ObjectPermissions.encode (p : ObjectPermissions) : Json :=
  encodeAcls [("read", p.read), ("update", p.update)]

def FieldPermissions.encode (p : FieldPermissions) : Json :=
  encodeAcls [("read", p.read), ("create", p.create), ("update", p.update)]

def Index.encode : Index → Json
  | .vector field method => .obj [("vector", .str field), ("method", .str method.tag)]
  | .keys entries unique => .obj [("keys", .obj entries), ("unique", .bool unique)]

/-- The members of a class's document other than its fields. -/
def Class.encodeRest (c : Class) : List (String × Json) :=
  [("classLevelPermissions", c.permissions.encode),
    ("additionalObjectPermissions", c.objectPermissions.encode),
    ("fieldLevelPermissions", .obj (c.fieldPermissions.map fun (name, p) => (name, p.encode))),
    ("secureFields", .arr (c.secureFields.map Json.str)),
    ("indexes", .arr (c.indexes.map Index.encode))]

end ObjectQuery
