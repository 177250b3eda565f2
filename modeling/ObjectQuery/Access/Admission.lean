import ObjectQuery.Access.Includes
import ObjectQuery.Access.Visibility

/-!
# Admission of queries

`Gate.accept` reads a request and checks it: no part nests too deep, the class is open to the action,
every path in a filter, a sort, an accumulator or the result may be read, relations are relations
and lead to classes open to `find`. What it returns holds the conditions of visibility beside the
client's filter.
-/

namespace ObjectQuery.Gate

/-- Reads a filter; a missing one accepts everything. -/
def readFilter (g : Gate) : Option Json → Result Filter
  | none => return .truth
  | some raw => do
    DepthGuard.check raw g.maxDepth
    return (← Filter.decode false raw).simplify

/-- The caller has to be allowed to read paths on a class. -/
def authorizePaths (g : Gate) (className : String) (paths : List String) : Result Unit :=
  paths.forM (g.authorizePath className)

/-- Reads a filter whose paths the caller may read. -/
def acceptFilter (g : Gate) (className : String) (raw : Option Json) : Result Filter := do
  let filter ← g.readFilter raw
  g.authorizePaths className filter.keyPaths
  return filter

/-! ## Groups -/

/-- Names of groups are not empty, have no dot and do not start with a dollar sign. -/
def isGroupName (name : String) : Bool :=
  !name.isEmpty && !name.toList.contains '.' && !Text.opensWith name "$"

/-- Reads the accumulator of a group over the objects of a class. -/
def acceptGroup (g : Gate) (target : String) (group : String × Json) :
    Result (String × Accumulator) := do
  let (name, raw) := group
  if !isGroupName name then throw (.path (.badGroupName name))
  DepthGuard.check raw g.maxDepth
  let accumulator ← Accumulator.decode raw
  g.authorizePaths target accumulator.keyPaths
  return (name, accumulator)

/-- Reads the groups over a relation. -/
def acceptGroups (g : Gate) (className : String) (groups : String × Table Json) :
    Result (String × Table Accumulator) := do
  let (relation, groups) := groups
  let target ← g.relationTarget className relation
  return (relation, ← groups.mapM (g.acceptGroup target))

/-- Whether a name is that of a group: the relation's path, a dot, the name. -/
def isGroupOf (groups : Table (Table Accumulator)) (name : String) : Bool :=
  groups.any fun (relation, named) => named.any fun group => relation ++ "." ++ group.1 == name

/-! ## Orders -/

/-- The caller has to be allowed to read a sort key, or the key names a group. -/
def authorizeSortKey (g : Gate) (className : String) (groups : Table (Table Accumulator))
    (path : String) : Result Unit :=
  if Text.opensWith path "$" then
    let name := String.ofList (path.toList.drop 1)
    if isGroupOf groups name then .ok () else .error (.path (.unknownGroup name))
  else g.authorizePath className path

/-- Reads a sort whose keys the caller may read. -/
def acceptSort (g : Gate) (className : String) (groups : Table (Table Accumulator)) :
    Option Json → Result (Option SortSpec)
  | none => return none
  | some raw => do
    DepthGuard.check raw g.maxDepth
    let sort ← SortSpec.decode raw
    sort.keyPaths.forM (g.authorizeSortKey className groups)
    return some sort

/-! ## Queries -/

mutual

/-- Reads the parts of a request that also hold for relations. -/
def acceptBase (g : Gate) (className : String) : FindOptions → Result BaseQuery
  | ⟨filter, sort, _, nested, groups, limit, skip, _⟩ => do
    let filter ← g.acceptFilter className filter
    let groups ← groups.mapM (g.acceptGroups className)
    let sort ← g.acceptSort className groups sort
    let nested ← acceptNested g className nested
    return { filter, sort, skip, limit, nested, groups }

/-- Reads requests for relations. -/
def acceptNested (g : Gate) (className : String) :
    List (String × FindOptions) → Result (Table BaseQuery)
  | [] => return []
  | (relation, options) :: rest => do
    let target ← g.relationTarget className relation
    let base ← acceptBase g target options
    return (relation, base) :: (← acceptNested g className rest)

end

/-- The permission an action needs; a filter that targets one object is a `get`. -/
def neededAction (filter : Filter) : QueryAction → ClassAction
  | .find => if filter.targetId?.isSome then .get else .find
  | .count => .count
  | .create => .create
  | .update => .update
  | .delete => .delete

/-- The relation has to exist, to lead to the class, and to be readable. -/
def checkRelatedBy (g : Gate) (className : String) (r : RelatedBy) : Result RelatedBy := do
  let parent ← g.openClass r.className .get
  match parent.field? r.key with
  | some (.relation target _) =>
    if target ≠ className then throw (.path (.notRelationTo r.className r.key className))
  | _ => throw (.path (.notRelationTo r.className r.key className))
  g.authorizeField r.className parent r.key .read
  return r

/-- Reads and checks a request. -/
def accept (g : Gate) (className : String) (options : FindOptions) (action : QueryAction) :
    Result Query := do
  let c ← g.schema.getClass className
  let filter ← g.readFilter options.filter
  g.authorizeClass className c (neededAction filter action)
  let base ← g.acceptBase className options
  let includes ← g.expandIncludes className options.includes
  g.authorizePaths className includes
  let relatedBy ← options.relatedBy.mapM (g.checkRelatedBy className)
  let filter := Filter.all (base.filter :: g.hostConditions className ++ g.listConditions c action ++
    [Filter.alive g.now])
  return { className, base := { base with filter }, includes, extraFilter := some g.visible,
           relatedBy }

end ObjectQuery.Gate
