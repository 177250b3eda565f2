import ObjectQuery.Access.Auth
import ObjectQuery.Schema.Basic
import ObjectQuery.Sql.Codec

/-!
# Result rows

A query answers with flat rows: a key is the dotted path of a projected column, its value the
document of that column. `Row.decode` reads every value by the type at the end of its path and puts
it there, so the row becomes an object again. A key with a dollar sign names a group and stands for
itself. A pointer whose target was not found shows up as an object without an id and becomes null.
-/

namespace ObjectQuery.Row

/-- The key of a group, which is no path. -/
def isGroupKey (key : String) : Bool := Text.opensWith key "$"

/-! ## Types by path -/

/-- The refusal of a path of a row. -/
def unknownPath (before path : String) : Error :=
  .path (.inResultRow (before ++ "." ++ path))

/-- The type of the field of a class that a row names. -/
def fieldType (s : Schema) (className name : String) : Result FieldType :=
  match s.getClass className with
  | .error e => .error e
  | .ok c =>
    match c.field? name with
    | some ty => .ok ty
    | none => .error (unknownPath className name)

/-- The type at the end of names below a type, which stands at the name `above`. -/
def typeBelow (s : Schema) (above : String) : FieldType → List String → Result FieldType
  | ty, [] => .ok ty
  | .shape fields, name :: rest =>
    match Table.find? fields name with
    | some ty => typeBelow s name ty rest
    | none => .error (unknownPath above name)
  | .pointer target, name :: rest =>
    match fieldType s target name with
    | .ok ty => typeBelow s name ty rest
    | .error e => .error e
  | _, rest => .error (unknownPath above (".".intercalate rest))

/-- The type at the end of the names of a key on a class. -/
def typeAt (s : Schema) (className : String) (names : List String) : Result FieldType :=
  match names with
  | [] => .error (unknownPath className "")
  | name :: rest =>
    match fieldType s className name with
    | .ok ty => typeBelow s name ty rest
    | .error e => .error e

/-! ## Nesting -/

/-- The members of the object under a key; anything else has none. -/
def membersAt (members : List (String × Json)) (key : String) : List (String × Json) :=
  ((Json.member? members key).bind Json.asMembers?).getD []

/-- Sets the value at the end of names, with an object at each name before the last. -/
def place (members : List (String × Json)) (value : Json) : List String → List (String × Json)
  | [] => members
  | [name] => Json.setMember members name value
  | name :: next :: rest =>
    Json.setMember members name (.obj (place (membersAt members name) value (next :: rest)))

/-! ## Missing targets -/

mutual

/-- A pointer's object without an id is null, here and below. -/
def clear (s : Schema) (ty : FieldType) : Json → Result Json
  | .obj members =>
    match ty with
    | .pointer target =>
      if (Json.member? members Field.id).all Json.isNull then .ok .null
      else
        match s.getClass target with
        | .ok c => (clearMembers s c.field? members).map .obj
        | .error e => .error e
    | .shape fields => (clearMembers s (Table.find? fields) members).map .obj
    | _ => .ok (.obj members)
  | v => .ok v

/-- Clears the members that have a type. -/
def clearMembers (s : Schema) (typeOf : String → Option FieldType) :
    List (String × Json) → Result (List (String × Json))
  | [] => .ok []
  | (name, v) :: rest => do
    let v ← match typeOf name with
      | some ty => clear s ty v
      | none => .ok v
    return (name, v) :: (← clearMembers s typeOf rest)

end

/-- Clears the members of an object of a class. -/
def clearObject (s : Schema) (className : String) (members : List (String × Json)) :
    Result (List (String × Json)) := do
  let c ← s.getClass className
  clearMembers s c.field? members

/-! ## Decoding -/

def isObject (v : Json) : Bool := v.asMembers?.isSome

mutual

/-- The value of a column's document: members of a relation that are rows are decoded as such. -/
def decodeValue (s : Schema) (ty : FieldType) : Json → Result Json
  | .arr items =>
    match ty with
    | .relation target _ =>
      if items.all isObject then (decodeItems s target items).map .arr else ty.read (.arr items)
    | ty => ty.read (.arr items)
  | v => ty.read v

/-- The objects of the rows of a class. -/
def decodeItems (s : Schema) (className : String) : List Json → Result (List Json)
  | [] => .ok []
  | .obj row :: rest => do
    let members ← clearObject s className (← decodeMembers s className [] row)
    return .obj members :: (← decodeItems s className rest)
  | v :: rest => do return v :: (← decodeItems s className rest)

/-- Puts the values of a row where their keys say, after what is there. -/
def decodeMembers (s : Schema) (className : String) (done : List (String × Json)) :
    List (String × Json) → Result (List (String × Json))
  | [] => .ok done
  | (key, v) :: rest => do
    if isGroupKey key then decodeMembers s className (Json.setMember done key v) rest
    else
      let names := Text.split '.' key
      let ty ← typeAt s className names
      let value ← decodeValue s ty v
      decodeMembers s className (place done value names) rest

end

/-- The object of a row of a class. -/
def decode (s : Schema) (className : String) (row : List (String × Json)) : Result Json := do
  return .obj (← clearObject s className (← decodeMembers s className [] row))

end ObjectQuery.Row
