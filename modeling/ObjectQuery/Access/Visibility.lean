import ObjectQuery.Access.Gate

/-!
# Visible objects

Beside what the client asks for, an object has to be alive, to admit the caller by its own access
list, and to satisfy the host's conditions on its class. The same holds of every object that a query
reaches in another class.
-/

namespace ObjectQuery

/-- The condition of not having expired. -/
def Filter.alive (now : Instant) : Filter :=
  .connective .or [
    .field Field.expiredAt (.compare .eq .null),
    .field Field.expiredAt (.compare .gt (Value.ofInstant now))]

/-- The condition that an object's access list grants one of some tokens. -/
def Filter.grantsOne (field : String) (tokens : List String) : Filter :=
  .field field (.intersect (tokens.map Json.str))

namespace Gate

/-- The field that lists who may act on an object. -/
def listField : QueryAction → String
  | .update | .delete => Field.writers
  | _ => Field.readers

/-- The access list that opens all objects of a class to an action. -/
def openAcl? (c : Class) : QueryAction → Option Acl
  | .update | .delete => c.objectPermissions.update
  | _ => c.objectPermissions.read

/-- Whether the caller may act on the objects of a class whatever their access lists say. -/
def bypasses (g : Gate) (c : Class) (action : QueryAction) : Bool :=
  g.auth.master || (openAcl? c action).any g.auth.allows

/-- The conditions of the host on a class. -/
def hostConditions (g : Gate) (className : String) : List Filter :=
  g.extraFilter.toList.map (· className)

/-- The condition that an object admits the caller, unless the class opens all of them. -/
def listConditions (g : Gate) (c : Class) (action : QueryAction) : List Filter :=
  if g.bypasses c action then [] else [Filter.grantsOne (listField action) g.auth.tokens]

/-- Whether the caller may read all objects of the class with a name. -/
def readsAll (g : Gate) (className : String) : Bool :=
  g.auth.master || (g.schema.class? className).any fun c => g.bypasses c .find

/-- The conditions on the objects of a class that a query reaches. -/
def visible (g : Gate) : ClassFilter := fun className =>
  let list :=
    if g.readsAll className then [] else [Filter.grantsOne Field.readers g.auth.tokens]
  Filter.all (g.hostConditions className ++ list ++ [Filter.alive g.now])

end Gate

end ObjectQuery
