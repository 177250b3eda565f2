import ObjectQuery.Access.Gate

/-!
# Attributes of a mutation

The keys of an object to write are checked against the schema and the caller's permissions. A key is
a field or a path into one; version and times are the store's own, an id never changes, and a derived
relation is written through the other side.
-/

namespace ObjectQuery.Gate

/-- The field a key starts with: what stands before the first dot or bracket. -/
def keyHead (key : String) : String :=
  String.ofList (key.toList.takeWhile fun c => c != '.' && c != '[')

/-- Fields that only the store writes. -/
def isReadOnly (field : String) : Bool :=
  [Field.version, Field.createdAt, Field.updatedAt].contains field

/-- Checks one attribute. -/
def checkAttribute (g : Gate) (className : String) (c : Class) (action : FieldAction)
    (entry : String × Json) : Result Unit := do
  let (key, value) := entry
  DepthGuard.check value g.maxDepth
  let head := keyHead key
  let ty ← fieldOf className c head
  if isReadOnly head then throw (.path (.readOnly head))
  if head = Field.id ∧ action ≠ .create then throw (.path .immutableId)
  if ty.isDerived then throw (.dataType (.derived className head))
  g.authorizeField className c head action
  if key ≠ head then
    let _ ← g.schema.column className key

/-- Checks the attributes of an object to write. -/
def checkAttributes (g : Gate) (className : String) (attributes : List (String × Json))
    (action : FieldAction) : Result Unit := do
  let c ← g.schema.getClass className
  attributes.forM (g.checkAttribute className c action)

end ObjectQuery.Gate
