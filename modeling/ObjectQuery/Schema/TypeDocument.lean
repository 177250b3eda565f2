import ObjectQuery.Document

/-!
# Field types as documents

A primitive without default is written as its bare tag; every other type is a record with its tag
under `type`. `FieldType.encode` writes what `FieldType.decode` reads.
-/

namespace ObjectQuery

/-- The record of a type before its tag is looked at. -/
structure TypeRecord where
  tag : Option String := none
  default? : Option Json := none
  dimension : Option Nat := none
  shape : Option (Table FieldType) := none
  target : Option String := none
  foreignField : Option String := none

namespace TypeRecord

/-- The members of a record in their declared order. -/
def names : List String := ["type", "default", "dimension", "shape", "target", "foreignField"]

/-- Stores a member other than the shape's. -/
def set (r : TypeRecord) (name : String) (v : Json) : Document TypeRecord :=
  match name with
  | "type" => (Document.text v).map fun tag => { r with tag := some tag }
  | "default" => (Document.optional .ok v).map fun default? => { r with default? }
  | "dimension" => (Document.optional Document.natural v).map fun dimension => { r with dimension }
  | "shape" => (Document.optional (fun _ => .error .shape) v).map fun shape => { r with shape }
  | "target" => (Document.optional Document.text v).map fun target => { r with target }
  | "foreignField" =>
    (Document.optional Document.text v).map fun foreignField => { r with foreignField }
  | _ => .ok r

/-- The default of a vector. -/
def vectorDefault (v : Json) : Document (List Float) :=
  match Document.list Document.double v with
  | .ok xs => .ok xs
  | .error _ => .error .vectorDefault

/-- The type that a record denotes. -/
def build (r : TypeRecord) : Document FieldType :=
  match r.tag with
  | none => .error .shape
  | some tag =>
    match PrimitiveKind.ofTag? tag with
    | some kind => .ok (.primitive kind r.default?)
    | none =>
      match tag with
      | "vector" =>
        match r.dimension, r.default? with
        | none, _ => .error .vectorDimension
        | some dimension, none => .ok (.vector dimension none)
        | some dimension, some v => (vectorDefault v).map fun xs => .vector dimension (some xs)
      | "shape" =>
        match r.shape with
        | some fields => .ok (.shape fields)
        | none => .error .shapeFields
      | "pointer" =>
        match r.target with
        | some target => .ok (.pointer target)
        | none => .error .pointerTarget
      | "relation" =>
        match r.target with
        | some target => .ok (.relation target r.foreignField)
        | none => .error .relationTarget
      | other => .error (.unknownType other)

end TypeRecord

namespace FieldType

mutual

/-- Reads a type. A fault inside a shape is a fault of the record and has no text of its own. -/
def decode : Json → Document FieldType
  | .str tag => TypeRecord.build { tag := some tag }
  | .obj members =>
    match decodeMembers {} members with
    | some r => r.build
    | none => .error .shape
  | .arr items =>
    match decodeItems {} TypeRecord.names items with
    | some r => r.build
    | none => .error .shape
  | _ => .error .shape

/-- Stores one member. -/
def decodeMember (r : TypeRecord) (name : String) : Json → Option TypeRecord
  | .obj fields =>
    if name = "shape" then (decodeFields fields []).map fun fields => { r with shape := some fields }
    else (r.set name (.obj fields)).toOption
  | v => (r.set name v).toOption

def decodeMembers (r : TypeRecord) : List (String × Json) → Option TypeRecord
  | [] => some r
  | (name, v) :: rest =>
    match decodeMember r name v with
    | some r => decodeMembers r rest
    | none => none

/-- Stores members by their place; there may be fewer than declared, but not more. -/
def decodeItems (r : TypeRecord) : List String → List Json → Option TypeRecord
  | _, [] => some r
  | [], _ :: _ => none
  | name :: names, v :: rest =>
    match decodeMember r name v with
    | some r => decodeItems r names rest
    | none => none

/-- Reads the fields of a shape into a table. -/
def decodeFields : List (String × Json) → Table FieldType → Option (Table FieldType)
  | [], table => some table
  | (name, v) :: rest, table =>
    match decode v with
    | .ok ty => decodeFields rest (table.insert name ty)
    | .error _ => none

end

/-- A member that is written only when it has a value. -/
def optionalMember (name : String) (v : Option Json) : List (String × Json) :=
  v.toList.map (name, ·)

mutual

/-- Writes a type. -/
def encode : FieldType → Json
  | primitive kind none => .str kind.tag
  | primitive kind (some v) => .obj [("type", .str kind.tag), ("default", v)]
  | vector dimension default? =>
    .obj (("type", .str "vector") ::
      optionalMember "default" (default?.map fun xs => .arr (xs.map Json.ofFloat)) ++
        [("dimension", Json.ofNat dimension)])
  | shape fields => .obj [("type", .str "shape"), ("shape", .obj (encodeFields fields))]
  | pointer target => .obj [("type", .str "pointer"), ("target", .str target)]
  | relation target foreignField =>
    .obj ([("type", .str "relation"), ("target", .str target)] ++
      optionalMember "foreignField" (foreignField.map Json.str))

def encodeFields : List (String × FieldType) → List (String × Json)
  | [] => []
  | (name, ty) :: rest => (name, encode ty) :: encodeFields rest

end

end FieldType

end ObjectQuery
