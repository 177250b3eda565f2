import ObjectQuery.Access.DepthGuard
import ObjectQuery.Access.Query
import ObjectQuery.Schema.Resolve

/-!
# The gate: permissions

A gate stands between a caller and a schema. Here it decides which classes and fields the caller may
touch, and which paths it may read: every field a path crosses has to be readable, and every class it
enters has to be open to `find`.
-/

namespace ObjectQuery

/-- Who asks, of which schema, within which limits, and when. -/
structure Gate where
  schema : Schema
  auth : Auth
  /-- Conditions of the host on each class. -/
  extraFilter : Option ClassFilter
  maxDepth : Nat
  now : Instant
deriving Inhabited

namespace Gate

/-- The caller has to be granted an action on a class. -/
def authorizeClass (g : Gate) (name : String) (c : Class) (action : ClassAction) : Result Unit :=
  if g.auth.allows (c.acl action) then .ok () else .error (.denied (.onClass action name))

/-- Whether a field is hidden from the caller. -/
def hides (g : Gate) (c : Class) (field : String) : Bool := c.isSecure field && !g.auth.master

/-- Whether the caller is granted an action on a field, secrecy apart. -/
def grants (g : Gate) (c : Class) (field : String) (action : FieldAction) : Bool :=
  (c.fieldAcl? field action).all g.auth.allows

/-- The caller has to be granted an action on a field that it may see. -/
def authorizeField (g : Gate) (className : String) (c : Class) (field : String)
    (action : FieldAction) : Result Unit :=
  if g.hides c field then .error (.denied (.secure className field))
  else if g.grants c field action then .ok ()
  else .error (.denied (.onField action className field))

/-- Whether the caller may read a field. -/
def readable (g : Gate) (c : Class) (field : String) : Bool :=
  !g.hides c field && g.grants c field .read

/-- The class with a name, which has to be open to an action. -/
def openClass (g : Gate) (name : String) (action : ClassAction) : Result Class := do
  let c ← g.schema.getClass name
  g.authorizeClass name c action
  return c

/-- The field of a class with a name. -/
def fieldOf (className : String) (c : Class) (field : String) : Result FieldType :=
  match c.field? field with
  | some ty => .ok ty
  | none => .error (.path (.missing className field))

/-- The field of a class with a name, which the caller has to be allowed to read. -/
def readField (g : Gate) (className field : String) : Result FieldType := do
  let c ← g.schema.getClass className
  let ty ← fieldOf className c field
  g.authorizeField className c field .read
  return ty

/--
The segments of `path` from a class on. Where a reference has segments left they are on the class it
leads to, an index of a relation passed over; elsewhere the type walk decides.
-/
def authorizeSegments (g : Gate) (path className : String) : List Segment → Result Unit
  | .field field :: rest => do
    let ty ← g.readField className field
    match ty with
    | .pointer target =>
      if rest.isEmpty then return
      let _ ← g.openClass target .find
      authorizeSegments g path target rest
    | .relation target _ =>
      match rest with
      | .index i :: more =>
        if more.isEmpty then
          let _ ← g.schema.typeOf className [.field field, .index i]
        else
          let _ ← g.openClass target .find
          authorizeSegments g path target more
      | more =>
        if more.isEmpty then return
        let _ ← g.openClass target .find
        authorizeSegments g path target more
    | _ =>
      let _ ← g.schema.typeOf className (.field field :: rest)
  | _ => .error (.path (.refused path))

/-- The caller has to be allowed to read a path on a class. -/
def authorizePath (g : Gate) (className path : String) : Result Unit := do
  g.authorizeSegments path className (← Path.parse path)

/-- The class of the members of a relation at a path, which has to be open. -/
def relationTarget (g : Gate) (className path : String) : Result String := do
  g.authorizePath className path
  match ← g.schema.typeAt className path with
  | some (.relation target _) =>
    let _ ← g.openClass target .find
    return target
  | _ => throw (.path (.notRelation (className ++ "." ++ path)))

end Gate

end ObjectQuery
