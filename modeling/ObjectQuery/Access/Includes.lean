import ObjectQuery.Access.Gate

/-!
# Included paths

A client lists the paths it wants back. `*` stands for the fields of a class that are no references
and that the caller may read; a reference leads on to the paths of its class. The expansion is a
list of leaves without repetitions, and it holds the default fields of the class itself and of each
class it enters.
-/

namespace ObjectQuery.Gate

/-- The leaves of the readable fields of a class that are neither references nor default fields. -/
def wildcard (g : Gate) (c : Class) : List String :=
  (c.fields.filter fun (name, ty) =>
      !ty.isReference && !Field.isDefault name && g.readable c name).flatMap
    fun (name, ty) => (ty.leaves name).map (·.1)

/-- The leaves below a place inside a shape, or below the shape itself. -/
def shapeLeaves (g : Gate) (className head : String) (ty : FieldType) (rest : List String) :
    Result (List String) :=
  if rest.isEmpty then return (ty.leaves head).map (·.1)
  else do
    let full := ".".intercalate (head :: rest)
    return ((← g.schema.column className full).type.leaves full).map (·.1)

/--
The leaves of a path that is given by its parts between dots; no part stands for the wildcard.
`start` is what stands before the path in the result.
-/
def expandParts (g : Gate) (className start : String) : List String → Result (List String)
  | [] => do
    let c ← g.schema.getClass className
    return (g.wildcard c).map (start ++ ·)
  | head :: rest => do
    let c ← g.schema.getClass className
    if head = "*" then
      if rest.isEmpty then return (g.wildcard c).map (start ++ ·)
      throw (.path (.refused (start ++ ".".intercalate (head :: rest))))
    let ty ← fieldOf className c head
    g.authorizeField className c head .read
    match ty with
    | .pointer target | .relation target _ =>
      let _ ← g.openClass target .find
      let inside := start ++ head ++ "."
      return Field.defaultNames.map (inside ++ ·) ++ (← expandParts g target inside rest)
    | .shape fields =>
      return (← g.shapeLeaves className head (.shape fields) rest).map (start ++ ·)
    | _ =>
      if rest.isEmpty then return [start ++ head]
      throw (.path (.notProjectable className (".".intercalate (head :: rest))))

/-- The leaves of a path. -/
def expandPath (g : Gate) (className path : String) : Result (List String) :=
  g.expandParts className "" (Text.split '.' path)

/-- The leaves of some paths after the default fields, each once; of no path, those of `*`. -/
def expandIncludes (g : Gate) (className : String) (includes : List String) :
    Result (List String) := do
  let paths := if includes.isEmpty then ["*"] else includes
  let leaves ← paths.mapM (g.expandPath className)
  return (Field.defaultNames ++ leaves.flatten).eraseDups

end ObjectQuery.Gate
