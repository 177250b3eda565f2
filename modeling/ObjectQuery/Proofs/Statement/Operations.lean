import ObjectQuery.Proofs.Statement.Acyclic
import ObjectQuery.Proofs.Statement.Shelter

/-!
# Statements end where all guards do

What a statement returns may ask for the guard of any class. So where all guards end, the plan of what to
return ends, and with it every group, order and entry, whatever is asked for. Every statement for the
objects of a query asks for no more than that; references to objects and the tables of a schema are
compiled without any guard.
-/

namespace ObjectQuery

open InScope (Ends)

/-! ## Plans -/

namespace Plan

variable {s : Schema}

/-- Choosing the column that a leaf is read from ends. -/
theorem columnAt_ends {className path : String} : (columnAt s className path).Ends := by
  unfold columnAt
  exact Schema.column_ends.bind fun column _ => .refuse nofun .pure

/-- Taking one more path into a level ends. -/
theorem level_add_ends {className : String} {c : Class} {level : Level} {path : Parts} :
    (level.add s className c path).Ends := by
  unfold Level.add Gate.fieldOf
  refine .bind (by split <;> simp) fun ty _ => ?_
  split
  next => exact .pure
  next =>
    refine columnAt_ends.bind fun column _ => ?_
    split <;> exact .pure

/-- A plan ends, by induction on how long its paths are. -/
theorem ofParts_ends {depth : Nat} {target : Target} {reach : Reach} {paths : List Parts}
    {query : BaseQuery} : Compile.Ends (ofParts s depth target reach paths query) := by
  induction depth generalizing target reach paths query with
  | zero =>
    unfold ofParts
    refine .bind (.lift Schema.getClass_ends) fun c => ?_
    refine .bind (.lift (.foldlM (fun _ _ => level_add_ends) _ _)) fun level => ?_
    exact .bind .pure fun _ => .pure
  | succ depth ih =>
    unfold ofParts
    refine .bind (.lift Schema.getClass_ends) fun c => ?_
    refine .bind (.lift (.foldlM (fun _ _ => level_add_ends) _ _)) fun level => ?_
    refine .bind (.mapM ?_ _) fun _ => .pure
    rintro ⟨field, paths⟩
    dsimp only
    split
    next => exact .freshTarget fun label => ih
    next => exact .throw nofun

/-- The plan for some includes ends. -/
theorem ofIncludes_ends {target : Target} {includes : List String} {query : BaseQuery} :
    Compile.Ends (ofIncludes s target includes query) :=
  ofParts_ends

end Plan

namespace Context

/-- All guards of a context end. -/
def AllEnd (ctx : Context) : Prop := ∀ t, Ends (ctx.guard t)

namespace AllEnd

variable {ctx : Context}

/-! ## Conditions -/

/-- Where all guards end, those of some classes do. -/
theorem guards (h : ctx.AllEnd) {classes : List String} : ctx.GuardsEnd classes :=
  fun _ _ _ => h _

/-- An operand asks for the guards of the classes that its path crosses. -/
theorem operand (h : ctx.AllEnd) {frame : Frame} {path : String} :
    Ends (ctx.operand frame path) :=
  operand_ends h.guards

/-- A term asks for the guards of its operands. -/
theorem term (h : ctx.AllEnd) {frame : Frame} (e : Expr) : Ends (ctx.term frame e) :=
  term_ends e fun _ _ => h.operand

/-- A condition asks for the guards of its operands and of the members it quantifies over. -/
theorem condition (h : ctx.AllEnd) {frame : Frame} (f : Filter) : Ends (ctx.condition frame f) :=
  condition_ends f h.guards

/-- The conditions on members are their guard and what makes them members. -/
theorem memberConditions (h : ctx.AllEnd) {owner member : Target} {field : String} :
    Ends (ctx.memberConditions owner field member) :=
  memberConditions_ends (h member)

/-- The condition that a request sets on members is a filter like any other. -/
theorem memberFilter (h : ctx.AllEnd) {frame : Frame} {query : BaseQuery} :
    Ends (ctx.memberFilter frame query) := by
  unfold Context.memberFilter
  split
  next => exact .pure
  next => exact .bind (h.condition _) fun _ => .pure

/-! ## Groups -/

/-- An aggregate asks for the guards of its input. -/
theorem aggregate (h : ctx.AllEnd) {frame : Frame} (a : Accumulator) :
    Ends (ctx.aggregate frame a) := by
  unfold Context.aggregate
  split
  next => exact .pure
  next =>
    refine .bind (h.term _) fun _ => .bind (.lift aggregateInput_ends) fun _ => ?_
    split <;> exact .pure
  next => exact .bind (h.term _) fun _ => .bind (.lift aggregateInput_ends) fun _ => .pure
  next => exact .throw nofun

/-- A group is a subquery over the members of a relation, with their conditions. -/
theorem group (h : ctx.AllEnd) {owner : Target} {relation : String} {accumulator : Accumulator}
    {query : BaseQuery} : Ends (ctx.group owner relation accumulator query) := by
  unfold Context.group
  refine .bind (locate_ends _ Schema.route_ends h.guards) ?_
  rintro ⟨owner, route⟩
  dsimp only
  split
  next field className foreign =>
    refine .freshTarget fun label => .bind (.inNewScope ?_) fun _ => .pure
    refine .bind h.memberConditions fun contained => .bind h.memberFilter fun asked => ?_
    split
    next =>
      refine .bind (h.term _) fun _ => .bind (h.aggregate _) fun _ => ?_
      exact .bind .freshAlias fun _ => .pure
    next => exact .bind (h.aggregate _) fun _ => .pure
  next => exact .throw nofun

/-! ## Orders -/

/-- An order by a path asks for the guards of the classes on the path, or for those of a group. -/
theorem pathKey (h : ctx.AllEnd) {owner : Target} {query : BaseQuery} {path : String} :
    Ends (ctx.pathKey owner query path) := by
  unfold Context.pathKey
  split
  next =>
    unfold groupKey
    split
    next => exact h.group
    next => exact .throw (by simp)
  next => exact .bind h.operand fun _ => .pure

/-- An order by an expression asks for the guards of its operands, or for those of a group. -/
theorem exprKey (h : ctx.AllEnd) {owner : Target} {query : BaseQuery} (e : Expr) :
    Ends (ctx.exprKey owner query e) := by
  unfold Context.exprKey
  split
  next => exact h.pathKey
  next =>
    refine .bind (h.term _) fun t => ?_
    split <;> exact .pure

/-- An order by several keys ends with each of them. -/
theorem sortKeys (h : ctx.AllEnd) {owner : Target} {query : BaseQuery} (sort : SortSpec) :
    Ends (ctx.sortKeys owner query sort) := by
  unfold Context.sortKeys
  split
  next =>
    refine .bind (.mapM (fun _ => ?_) _) fun _ => .pure
    exact .bind h.pathKey fun _ => .pure
  next =>
    refine .bind (.mapM (fun _ => ?_) _) fun _ => .pure
    exact .bind (h.exprKey _) fun _ => .pure

/-! ## Entries -/

/-- Each group of an object ends. -/
theorem groupEntries (h : ctx.AllEnd) {owner : Target} {lead : String} {query : BaseQuery} :
    Ends (ctx.groupEntries owner lead query) := by
  unfold Context.groupEntries
  refine .bind (.mapM (fun _ => .mapM (fun _ => ?_) _) _) fun _ => .pure
  exact .bind h.group fun _ => .pure

/-- The entries of an object end with those below it, whatever they are. -/
theorem nodeEntries (h : ctx.AllEnd) {owner : Target} {lead : String}
    {columns : List (String × FieldType)} {query : BaseQuery} {below : InScope Entries}
    (hbelow : Ends below) : Ends (ctx.nodeEntries owner lead columns query below) := by
  unfold Context.nodeEntries
  exact .bind hbelow fun _ => .bind h.groupEntries fun _ => .pure

/-- An array of members ends with the entries of a member. -/
theorem relationArray (h : ctx.AllEnd) {owner member : Target} {field : String}
    {query : BaseQuery} {entries : InScope Entries} (hentries : Ends entries) :
    Ends (ctx.relationArray owner field member query entries) := by
  unfold Context.relationArray
  refine .bind (.inNewScope ?_) fun _ => .pure
  refine .bind hentries fun _ => .bind h.memberConditions fun _ => ?_
  refine .bind h.memberFilter fun _ => ?_
  split
  next => exact .bind (h.sortKeys _) fun _ => .pure
  next => exact .bind .pure fun _ => .pure

mutual

/-- The entries below a pointer or relation end, by induction on the plan. -/
theorem childEntries (h : ctx.AllEnd) {owner : Target} {lead : String} : ∀ plan : Plan,
    Ends (ctx.childEntries owner lead plan)
  | ⟨node, .pointer field, columns, children, query⟩ => by
    unfold Context.childEntries
    refine .bind (pointerJoin_ends fun _ => h _) fun _ => ?_
    exact h.nodeEntries (allEntries h children)
  | ⟨node, .relation field _, columns, children, query⟩ => by
    unfold Context.childEntries
    exact .bind (h.relationArray (h.nodeEntries (allEntries h children))) fun _ => .pure
  | ⟨_, .root, _, _, _⟩ => by
    unfold Context.childEntries
    exact .pure

/-- The entries below some pointers and relations end, one after another. -/
theorem allEntries (h : ctx.AllEnd) {owner : Target} {lead : String} : ∀ plans : List Plan,
    Ends (ctx.allEntries owner lead plans)
  | [] => by
    unfold Context.allEntries
    exact .pure
  | child :: rest => by
    unfold Context.allEntries
    exact .bind (childEntries h child) fun _ => .bind (allEntries h rest) fun _ => .pure

end

/-- What is compiled for a plan ends. -/
theorem entries (h : ctx.AllEnd) {plan : Plan} : Ends (ctx.entries plan) :=
  h.nodeEntries (h.allEntries _)

end AllEnd

end Context

/-! ## Queries -/

namespace Query

variable {s : Schema} {q : Query}

/-- What is returned of an object ends. -/
theorem entries_ends (h : (q.context s).AllEnd) : Ends (q.entries s) := by
  unfold entries
  exact .bind (.liftCompile Plan.ofIncludes_ends) fun _ => h.entries

/-- Reading a changed object back ends. -/
theorem refetch_ends (h : (q.context s).AllEnd) : Compile.Ends (q.refetch s) := by
  unfold refetch
  exact .bind (.inNewScope (entries_ends h)) fun _ => .pure

/-- The condition on objects related to another one ends. -/
theorem relatedCondition_ends (h : (q.context s).AllEnd) {r : RelatedBy} :
    Compile.Ends (q.relatedCondition s r) := by
  unfold relatedCondition
  refine .freshTarget fun label => .bind (.lift Schema.contains_ends) fun _ => ?_
  exact .bind (.inNewScope (h _)) fun _ => .pure

/-- The condition of a query ends. -/
theorem condition_ends (h : (q.context s).AllEnd) : Ends (q.condition s) := by
  unfold condition
  refine .bind (h.condition _) fun _ => ?_
  exact .bind (.mapM (fun _ => .liftCompile (relatedCondition_ends h)) _) fun _ => .pure

/-- The order of a query ends. -/
theorem order_ends (h : (q.context s).AllEnd) : Ends (q.order s) := by
  unfold order
  split
  next => exact .bind (h.sortKeys _) fun _ => .pure
  next => exact .pure

end Query

/-! ## Reading -/

namespace Read

variable {s : Schema} {q : Query}

/-- A find asks for the condition, the order and the entries of its query. -/
theorem find_ends (h : (q.context s).AllEnd) {lock : Option RowLock} :
    Compile.Ends (find s q lock) := by
  unfold find
  refine .bind (.inNewScope ?_) fun _ => .pure
  refine .bind (q.entries_ends h) fun _ => .bind (q.condition_ends h) fun _ => ?_
  exact .bind (q.order_ends h) fun _ => .pure

/-- A count asks for the condition of its query alone. -/
theorem count_ends (h : (q.context s).AllEnd) : Compile.Ends (count s q) := by
  unfold count
  exact .bind (.inNewScope (q.condition_ends h)) fun _ => .pure

/-- A random choice asks for the condition, the entries and the weight. -/
theorem random_ends (h : (q.context s).AllEnd) {weight : Option String} :
    Compile.Ends (random s q weight) := by
  unfold random
  refine .bind (.inNewScope ?_) fun _ => .pure
  refine .bind (q.entries_ends h) fun _ => .bind (q.condition_ends h) fun _ => ?_
  exact .bind (.optionMapM (fun _ => h.operand) _) fun _ => .pure

/-- An explanation ends with the find that it explains. -/
theorem explain_ends (h : (q.context s).AllEnd) : Compile.Ends (explain s q) := by
  unfold explain
  exact .bind (find_ends h) fun _ => .pure

/-- A search for objects that nothing refers to asks for the condition of its query alone. -/
theorem nonrefs_ends (h : (q.context s).AllEnd) : Compile.Ends (nonrefs s q) := by
  have hfree {r : Referrer} : Compile.Ends (unreferenced q.root r) := by
    unfold unreferenced
    exact .freshTarget fun _ => .pure
  unfold nonrefs
  refine .bind (.inNewScope ?_) fun _ => .pure
  refine .bind (q.entries_ends h) fun _ => .bind (q.condition_ends h) fun _ => ?_
  refine .bind (.mapM (fun _ => .liftCompile hfree) _) fun _ => ?_
  exact .bind (q.order_ends h) fun _ => .pure

/-- A search for references reads columns and has no conditions. -/
theorem refs_ends {className : String} {ids : List String} :
    Compile.Ends (refs s className ids) := by
  unfold refs
  refine .bind (.lift Schema.getClass_ends) fun _ => ?_
  dsimp only
  split <;> exact .pure

end Read

/-! ## Writing -/

namespace Write

variable {s : Schema} {q : Query} {className : String}

/-- The value of a column in a new row ends. -/
theorem columnValue_ends {attributes : List (String × Json)} {column : String × FieldType} :
    (columnValue className attributes column).Ends := by
  have hmissing {column : String} {ty : FieldType} : (missingValue className column ty).Ends := by
    unfold missingValue
    split
    next => simp
    next => split <;> exact .ok
  unfold columnValue
  dsimp only
  split
  next => exact .pure
  next =>
    split
    next => exact .pure
    next =>
      split
      next => exact hmissing.bind fun _ _ => FieldType.bind_ends.bind fun _ _ => .pure
      next => exact Result.Ends.pure.bind fun _ _ => FieldType.bind_ends.bind fun _ _ => .pure

/-- The check of a key of a new object ends. -/
theorem checkKey_ends {c : Class} {key : String} : (checkKey s className c key).Ends := by
  unfold checkKey
  dsimp only
  split
  next => simp
  next =>
    refine .refuse nofun ?_
    split
    next => exact Schema.column_ends.bind fun _ _ => .pure
    next => exact .pure

/-- The row of a new object ends. -/
theorem row_ends {attributes : List (String × Json)} : (row s className attributes).Ends := by
  unfold row
  refine Schema.getClass_ends.bind fun c _ => ?_
  refine .bind (.forM (fun _ => checkKey_ends) _) fun _ _ => ?_
  exact .mapM (fun _ => columnValue_ends.bind fun _ _ => .pure) _

/-- An update of one column ends. -/
theorem apply_ends {root : Target} {path : List String} {sets : Assignments}
    {target : String × FieldType × Update} : (sets.apply root path target).Ends := by
  unfold Assignments.apply
  exact Update.apply_ends.bind fun _ _ => .pure

/-- What one key of an update assigns ends. -/
theorem assignKey_ends {root : Target} {sets : Assignments} {entry : String × Json} :
    (assignKey s root sets entry).Ends := by
  unfold assignKey
  refine .refuse nofun ?_
  refine Update.decode_ends.bind fun u _ => Schema.column_ends.bind fun column _ => ?_
  refine .refuse nofun ?_
  split
  next =>
    split
    next => exact .refuse nofun (.foldlM (fun _ _ => apply_ends) _ _)
    next => exact apply_ends
  next => exact apply_ends
  next => simp

/-- The rows of an update end. -/
theorem updatedRows_ends {root : Target} {document : List (String × Json)} :
    (updatedRows s root document).Ends := by
  unfold updatedRows assignments
  exact .bind (.foldlM (fun _ _ => assignKey_ends) _ _) fun _ _ => .pure

/-- The choice of the rows to change asks for the condition of the query alone. -/
theorem candidateRows_ends (h : (q.context s).AllEnd) : Compile.Ends (candidateRows s q) := by
  unfold candidateRows
  refine .bind (.inNewScope ?_) fun _ => .pure
  exact .bind (q.condition_ends h) fun _ => .bind (q.order_ends h) fun _ => .pure

/-- An insertion asks for what it returns of the new objects. -/
theorem insert_ends (h : (q.context s).AllEnd) {objects : List (List (String × Json))} :
    Compile.Ends (insert s q objects) := by
  unfold insert
  refine .bind (.lift (.mapM (fun _ => row_ends) _)) fun rows => ?_
  split
  next => exact .bind (q.refetch_ends h) fun _ => .pure
  next => exact .throw nofun

/-- An update asks for the choice of its rows and for what it returns of them. -/
theorem update_ends (h : (q.context s).AllEnd) {document : List (String × Json)} :
    Compile.Ends (update s q document) := by
  unfold update
  refine .bind (candidateRows_ends h) fun _ => .bind (.lift updatedRows_ends) fun _ => ?_
  exact .bind (q.refetch_ends h) fun _ => .pure

/-- An upsert ends as its update and its insertion do. -/
theorem upsert_ends (h : (q.context s).AllEnd) {document object : List (String × Json)} :
    Compile.Ends (upsert s q document object) := by
  unfold upsert
  refine .bind (candidateRows_ends h) fun _ => .bind (.lift updatedRows_ends) fun _ => ?_
  exact .bind (.lift row_ends) fun _ => .bind (q.refetch_ends h) fun _ => .pure

/-- A deletion asks for the choice of its rows and for what it returns of them. -/
theorem delete_ends (h : (q.context s).AllEnd) : Compile.Ends (delete s q) := by
  unfold delete
  exact .bind (candidateRows_ends h) fun _ => .bind (q.refetch_ends h) fun _ => .pure

end Write

/-- Whatever is done with the objects of a query, its statement ends where all guards do. -/
theorem Operation.compile_ends {s : Schema} {q : Query} (h : (q.context s).AllEnd)
    (op : Operation) : Compile.Ends (op.compile s q) := by
  cases op with
  | find lock => exact Read.find_ends h
  | count => exact Read.count_ends h
  | random weight => exact Read.random_ends h
  | explain => exact Read.explain_ends h
  | insert objects => exact Write.insert_ends h
  | update document => exact Write.update_ends h
  | upsert document object => exact Write.upsert_ends h
  | delete => exact Write.delete_ends h

/-! ## Tables -/

namespace Tables

variable {s : Schema} {className : String}

/-- The creation of an index ends. -/
theorem createIndex_ends (index : Index) : (createIndex s className index).Ends := by
  have hcolumn {entry : String × Json} : (indexColumn s className entry).Ends := by
    unfold indexColumn
    exact Schema.column_ends.bind fun column _ => .refuse nofun .pure
  have hdimension {field : String} : (vectorDimension s className field).Ends := by
    unfold vectorDimension
    split <;> simp
  cases index with
  | keys entries unique =>
    unfold createIndex
    exact .refuse nofun (.bind (.mapM (fun _ => hcolumn) _) fun _ _ => .pure)
  | vector field method =>
    unfold createIndex
    exact hdimension.bind fun _ _ => .pure

/-- The creation of all tables ends. -/
theorem prepare_ends : (prepare s).Ends := by
  have hclass {name : String} {c : Class} : (ofClass s name c).Ends := by
    unfold ofClass
    exact .bind (.mapM (fun _ => createIndex_ends _) _) fun _ _ => .pure
  unfold prepare
  exact .bind (.mapM (fun _ => hclass) _) fun _ _ => .pure

end Tables

end ObjectQuery
