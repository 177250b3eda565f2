import ObjectQuery.Proofs.Statement.Condition
import ObjectQuery.Statement.Compiler

/-!
# Hidden objects stay hidden

In every statement for the objects of a query, a table other than the root's is read by a query that
has the guard of its class among its conditions, unless the class has no conditions. The root is the
one table that a body reads first: the statement itself, or each named subquery of a write. The
query that returns what was written reads such a subquery in its place.
-/

namespace ObjectQuery

open Sql InScope Compile

/-- A body that reads the root first and beside it only tables of classes without conditions. -/
structure RootBody (s : Schema) (filters : ClassFilter) (root : Target) (body : Sql) : Prop where
  tables : ∃ rest, body.tables = root :: rest ∧
    ∀ t ∈ rest, (filters t.className).simplify.isTruth
  dutiful : Dutiful (Shelters s filters) body

/-- A named subquery with such a body. -/
def IsRootSubquery (s : Schema) (filters : ClassFilter) (root : Target) (sub : Sql) : Prop :=
  ∃ name body, sub = Write.named name body ∧ RootBody s filters root body

/-- A statement in which only the root is read without its guard. -/
inductive Sheltered (s : Schema) (filters : ClassFilter) (root : Target) : Sql → Prop where
  | reading {body : Sql} (h : RootBody s filters root body) : Sheltered s filters root body
  | writing {subqueries : List Sql} {query : Sql}
    (hsubqueries : ∀ sub ∈ subqueries, IsRootSubquery s filters root sub)
    (hquery : DutifulBody (Shelters s filters) query) :
    Sheltered s filters root (Write.withSubqueries subqueries query)

variable {s : Schema} {filters : ClassFilter} {q : Query} {scope : Scope}

/-! ## Parts of a statement -/

/-- A query is compiled in a context that keeps the conditions it carries. -/
theorem Query.keeps_context (hq : q.extraFilter = some filters) :
    (q.context s).Keeps s filters := by
  unfold context
  rw [hq]
  exact Context.keeps_of

/-- What a query returns reads no table but behind its guard. -/
theorem Query.upholds_entries (hq : q.extraFilter = some filters) :
    Upholds (Scope.Guarded s filters) (q.entries s) (Entries.Closed (Shelters s filters)) :=
  .bind (.liftCompile .any) fun plan _ => Context.upholds_entries (keeps_context hq) plan

/-- The object that the rows are related to has to be visible. -/
theorem Query.yields_relatedCondition (hq : q.extraFilter = some filters) {r : RelatedBy} :
    Yields (q.relatedCondition s r) (Predicate (Shelters s filters)) := by
  unfold relatedCondition
  refine .bind .any fun parent _ => ?_
  refine .bind (.lift (Q := Predicate (Shelters s filters)) fun _ h =>
    Context.predicate_contains h) fun contained hcontained => ?_
  refine .bind (.inNewScope Scope.guarded_nil (keeps_context hq parent)) ?_
  rintro ⟨guard, inner⟩ ⟨hinner, hguard⟩
  have hnamed : Predicate (Shelters s filters)
      (.seq [parent.column Field.id, " = ", .param (.text r.objectId)]) := ⟨by simp, rfl⟩
  have hconditions := guarding_toList (List.forall_mem_cons.mpr
    ⟨hnamed, List.forall_mem_singleton.mpr hcontained⟩) hguard
  exact .pure (predicate_existsIn
    (closed_block.mpr (hconditions.dutifulBody hinner closed_raw closed_empty)))

/-- The condition of a query reads no table but behind its guard. -/
theorem Query.upholds_condition (hq : q.extraFilter = some filters) :
    Upholds (Scope.Guarded s filters) (q.condition s) (Closed (Shelters s filters)) := by
  unfold condition
  refine .bind (Context.upholds_condition (keeps_context hq) Frame.closed_table _)
    fun filter hfilter => ?_
  refine .bind (.mapM fun r _ => .liftCompile (yields_relatedCondition hq))
    fun related hrelated => ?_
  refine .pure (closed_and (List.forall_mem_cons.mpr ⟨hfilter.closed, fun c hc => ?_⟩))
  exact (hrelated c hc).closed

/-- The order of a query reads no table but behind its guard. -/
theorem Query.upholds_order (hq : q.extraFilter = some filters) :
    Upholds (Scope.Guarded s filters) (q.order s) (Closed (Shelters s filters)) := by
  unfold order
  split
  next =>
    exact .bind (Context.upholds_sortKeys (keeps_context hq)) fun keys hkeys =>
      .pure (by simp [hkeys])
  next => exact .pure closed_empty

/-- The columns of a result are closed if what is returned in them is. -/
theorem Sql.resultList_closed {K : Closedness} {entries : Entries} (h : entries.Closed K) :
    Closed K (resultList entries) := by
  simpa [resultList, Entries.Closed] using h

/-- A lock names the root and reads nothing. -/
theorem RowLock.sql_closed {K : Closedness} {lock : RowLock} {root : Target} :
    Closed K (lock.sql root) := by
  simp [RowLock.sql]

/-- What is read back of changed objects is sheltered, and so are the pointers that it joins. -/
theorem Query.yields_refetch (hq : q.extraFilter = some filters) :
    Yields (q.refetch s) fun r => Closed (Shelters s filters) r.1 ∧ r.2.Guarded s filters := by
  unfold refetch
  refine .bind (.inNewScope Scope.guarded_nil (upholds_entries hq)) ?_
  rintro ⟨entries, scope⟩ ⟨hscope, hentries⟩
  exact .pure ⟨resultList_closed hentries, hscope⟩

/-! ## Reading -/

/-- The rows of the root, beside guarded joins. -/
theorem rootBody_select {root : Target} {list condition tail : Sql}
    (hscope : scope.Guarded s filters) (hlist : Closed (Shelters s filters) list)
    (hcondition : Closed (Shelters s filters) condition)
    (htail : Closed (Shelters s filters) tail) :
    RootBody s filters root (select list (scope.clause root) condition tail) where
  tables := by
    refine ⟨scope.flatMap fun j => j.sql.tables, ?_, hscope.isTruth⟩
    rw [tables_select hlist hcondition htail, Scope.clause, Scope.tables_joined,
      Target.tables_table]
    rfl
  dutiful := dutiful_select hlist (hscope.dutiful_joined Target.dutiful_table) hcondition htail

/-- A find reads other tables than the root's only behind their guards. -/
theorem Read.yields_find (hq : q.extraFilter = some filters) {lock : Option RowLock} :
    Yields (find s q lock) (RootBody s filters q.root) := by
  unfold find
  refine .bind (.inNewScope (I := Scope.Guarded s filters)
    (Q := fun r : Entries × Sql × Sql => r.1.Closed (Shelters s filters) ∧
      Closed (Shelters s filters) r.2.1 ∧ Closed (Shelters s filters) r.2.2)
    Scope.guarded_nil ?_) ?_
  · refine .bind (Query.upholds_entries hq) fun entries hentries => ?_
    refine .bind (Query.upholds_condition hq) fun condition hcondition => ?_
    refine .bind (Query.upholds_order hq) fun order horder => ?_
    exact .pure ⟨hentries, hcondition, horder⟩
  · rintro ⟨⟨entries, condition, order⟩, scope⟩ ⟨hscope, hentries, hcondition, horder⟩
    refine .pure (rootBody_select hscope (resultList_closed hentries) hcondition ?_)
    cases lock <;> simp [horder, Query.bounds, bounds_closed, RowLock.sql_closed]

/-- A count reads other tables than the root's only behind their guards. -/
theorem Read.yields_count (hq : q.extraFilter = some filters) :
    Yields (count s q) (RootBody s filters q.root) := by
  unfold count
  refine .bind (.inNewScope Scope.guarded_nil (Query.upholds_condition hq)) ?_
  rintro ⟨condition, scope⟩ ⟨hscope, hcondition⟩
  exact .pure (rootBody_select hscope (by simp) hcondition closed_empty)

/-- A random choice reads other tables than the root's only behind their guards, for its weight too. -/
theorem Read.yields_random (hq : q.extraFilter = some filters) {weight : Option String} :
    Yields (random s q weight) (RootBody s filters q.root) := by
  unfold random
  refine .bind (.inNewScope (I := Scope.Guarded s filters)
    (Q := fun r : Entries × Sql × Option Operand => r.1.Closed (Shelters s filters) ∧
      Closed (Shelters s filters) r.2.1 ∧ ∀ o ∈ r.2.2, Closed (Shelters s filters) o.sql)
    Scope.guarded_nil ?_) ?_
  · refine .bind (Query.upholds_entries hq) fun entries hentries => ?_
    refine .bind (Query.upholds_condition hq) fun condition hcondition => ?_
    cases weight with
    | none => exact .pure ⟨hentries, hcondition, nofun⟩
    | some path =>
      refine .bind (R := fun w : Option Operand => ∀ o ∈ w, Closed (Shelters s filters) o.sql) ?_
        fun w hw => .pure ⟨hentries, hcondition, hw⟩
      refine .bind (Context.upholds_operand (Query.keeps_context hq) Frame.closed_table)
        fun o ho => .pure ?_
      intro o' ho'
      obtain rfl := Option.mem_some.mp ho'
      exact ho
  · rintro ⟨⟨entries, condition, weight⟩, scope⟩ ⟨hscope, hentries, hcondition, hweight⟩
    have hkey : Closed (Shelters s filters) (randomKey (weight.map (·.sql))) := by
      refine randomKey_closed fun w hw => ?_
      obtain ⟨o, ho, rfl⟩ := Option.map_eq_some_iff.mp hw
      exact hweight o ho
    exact .pure (rootBody_select hscope (resultList_closed hentries) hcondition
      (by simp [hkey, Query.bounds, bounds_closed]))

/-- An explanation reads what the find that it explains reads. -/
theorem Read.yields_explain (hq : q.extraFilter = some filters) :
    Yields (explain s q) (RootBody s filters q.root) := by
  unfold explain
  refine .bind (yields_find hq) fun body hbody => .pure ⟨?_, by simpa using hbody.dutiful⟩
  simpa [Sql.tables, allTables] using hbody.tables

/-! ## Writing -/

namespace Write

section Values

variable {K : Closedness}

/-- The value of a column in a new row is bound, so it reads nothing. -/
theorem columnValue_closed {className : String} {attributes : List (String × Json)}
    {column : String × FieldType} {sql : Sql}
    (h : columnValue className attributes column = .ok sql) : Closed K sql := by
  unfold columnValue at h
  dsimp only at h
  split at h
  next => cases h; exact closed_raw
  next =>
    split at h
    next => cases h; exact closed_raw
    next =>
      split at h
      all_goals
        obtain ⟨v, -, h⟩ := Result.bind_eq_ok.mp h
        obtain ⟨p, -, h⟩ := Result.bind_eq_ok.mp h
        cases h
        exact closed_param

/-- The values of a new row read nothing. -/
theorem valueList_closed {className : String} {attributes : List (String × Json)}
    {row : List (String × Sql)} (h : Write.row s className attributes = .ok row) :
    Closed K (valueList row) := by
  obtain ⟨c, -, h⟩ := Result.bind_eq_ok.mp h
  obtain ⟨-, -, h⟩ := Result.bind_eq_ok.mp h
  refine closed_join_map.mpr fun column hcolumn => ?_
  obtain ⟨leaf, -, hleaf⟩ := Result.exists_of_mapM_eq_ok h column hcolumn
  obtain ⟨sql, hsql, hpair⟩ := Result.bind_eq_ok.mp hleaf
  cases hpair
  exact columnValue_closed hsql

/-- A row that stands in for one that was not updated reads the named query alone. -/
theorem otherwise_closed [K.Lax] {row : List (String × Sql)} (h : Closed K (valueList row)) :
    Closed K (otherwise row) := by
  simp [otherwise, h]

/-- The names of columns read nothing. -/
theorem columnList_closed {row : List (String × Sql)} : Closed K (columnList row) := by
  simp [columnList]

/-! ## Assigned columns -/

/-- An update document may name a column: the whole of it, each leaf of it, or a place inside. -/
def Assignable (s : Schema) (className column : String) : Prop :=
  ∃ key found, s.column className key = .ok found ∧ found.type.isDerived = false ∧
    (found.path = .column ∧ found.type.isShape = false ∧ column = found.name ∨
      found.path = .column ∧ found.type.isShape = true ∧
        (∃ ty, (column, ty) ∈ found.type.leaves found.name) ∨
      (∃ path, found.path = .json path) ∧ column = found.name)

/-- Columns that may be named, with new values that are closed. -/
def Assignments.Closed (K : Closedness) (s : Schema) (root : Target) (sets : Assignments) : Prop :=
  ∀ set ∈ sets, Assignable s root.className set.1 ∧ Sql.Closed K set.2

variable {root : Target} {sets sets' : Assignments}

/-- Assigning a closed value to a column that may be assigned keeps assignments closed. -/
theorem Assignments.put_closed {column : String} {value : Sql} (hsets : sets.Closed K s root)
    (hcolumn : Assignable s root.className column) (hvalue : Sql.Closed K value) :
    (sets.put column value).Closed K s root := by
  induction sets with
  | nil => exact List.forall_mem_singleton.mpr ⟨hcolumn, hvalue⟩
  | cons set rest ih =>
    obtain ⟨hset, hrest⟩ := List.forall_mem_cons.mp hsets
    unfold put
    split
    next => exact List.forall_mem_cons.mpr ⟨⟨hset.1, hvalue⟩, hrest⟩
    next => exact List.forall_mem_cons.mpr ⟨hset, ih hrest⟩

/-- An update starts from what the column has been set to, or else from the column. -/
theorem Assignments.apply_closed {path : List String} {target : String × FieldType × Update}
    (hread : ∀ column, Assignable s root.className column → Sql.Closed K (root.column column))
    (hsets : sets.Closed K s root) (hcolumn : Assignable s root.className target.1)
    (h : sets.apply root path target = .ok sets') : sets'.Closed K s root := by
  obtain ⟨value, hvalue, h⟩ := Result.bind_eq_ok.mp h
  cases h
  refine put_closed hsets hcolumn (Update.apply_closed ?_ hvalue)
  cases hcurrent : sets.lookup target.1 with
  | none => exact hread _ hcolumn
  | some current =>
    obtain ⟨before, after, rfl, -⟩ := List.lookup_eq_some_iff.mp hcurrent
    exact (hsets _ (List.mem_append_right _ List.mem_cons_self)).2

/-- One key of an update assigns closed values to columns that may be assigned. -/
theorem assignKey_closed {entry : String × Json}
    (hread : ∀ column, Assignable s root.className column → Sql.Closed K (root.column column))
    (hsets : sets.Closed K s root) (h : assignKey s root sets entry = .ok sets') :
    sets'.Closed K s root := by
  obtain ⟨key, raw⟩ := entry
  unfold assignKey at h
  dsimp only at h
  split at h
  next => cases h
  next =>
    obtain ⟨u, -, h⟩ := Result.bind_eq_ok.mp h
    obtain ⟨found, hfound, h⟩ := Result.bind_eq_ok.mp h
    split at h
    next => cases h
    next hderived =>
      have hderived := Bool.eq_false_iff.mpr hderived
      split at h
      next hwhole =>
        split at h
        next hshape =>
          split at h
          next => cases h
          next =>
            refine Result.foldlM_invariant_of_mem (P := (Assignments.Closed K s root ·)) ?_ hsets h
            intro target htarget sets sets' hsets h
            obtain ⟨leaf, hleaf, rfl⟩ := List.mem_map.mp htarget
            exact Assignments.apply_closed hread hsets ⟨key, found, hfound, hderived,
              .inr (.inl ⟨hwhole, hshape, leaf.2, hleaf⟩)⟩ h
        next hshape =>
          exact Assignments.apply_closed hread hsets ⟨key, found, hfound, hderived,
            .inl ⟨hwhole, Bool.eq_false_iff.mpr hshape, rfl⟩⟩ h
      next path hinside =>
        exact Assignments.apply_closed hread hsets ⟨key, found, hfound, hderived,
          .inr (.inr ⟨⟨path, hinside⟩, rfl⟩)⟩ h
      next => cases h

/-- All keys of an update assign closed values, by induction on the document. -/
theorem assignments_closed {document : List (String × Json)}
    (hread : ∀ column, Assignable s root.className column → Sql.Closed K (root.column column))
    (h : assignments s root document = .ok sets) : sets.Closed K s root :=
  Result.foldlM_invariant (fun _ _ _ hsets h => assignKey_closed hread hsets h)
    (List.forall_mem_nil _) h

end Values

/-! ## Named subqueries -/

/-- The choice of the rows to change reads the root first, and other tables behind their guards. -/
theorem yields_candidateRows (hq : q.extraFilter = some filters) :
    Yields (candidateRows s q) (IsRootSubquery s filters q.root) := by
  unfold candidateRows
  refine .bind (.inNewScope (I := Scope.Guarded s filters)
    (Q := fun r : Sql × Sql => Closed (Shelters s filters) r.1 ∧ Closed (Shelters s filters) r.2)
    Scope.guarded_nil ?_) ?_
  · refine .bind (Query.upholds_condition hq) fun condition hcondition => ?_
    refine .bind (Query.upholds_order hq) fun order horder => ?_
    exact .pure ⟨hcondition, horder⟩
  · rintro ⟨⟨condition, order⟩, scope⟩ ⟨hscope, hcondition, horder⟩
    refine .pure ⟨_, _, rfl, rootBody_select hscope Target.closed_column hcondition ?_⟩
    simp [horder, Query.bounds, bounds_closed, RowLock.sql_closed]

/-- A body that names the root's table after a word and is closed from there on. -/
theorem rootBody_seq {text className : String} {rest : List Sql}
    (h : ∀ p ∈ rest, Closed (Shelters s filters) p) :
    RootBody s filters (.root className) (.seq (raw text :: .root className :: rest)) where
  tables := by
    have hrest : allTables rest = [] := (closed_seq.mpr h).tables
    exact ⟨[], by simp [Sql.tables, allTables, hrest], nofun⟩
  dutiful := by
    have hrest : ∀ p ∈ rest, Dutiful (Shelters s filters) p := fun p hp => (h p hp).dutiful
    simpa using hrest

/-- Whether a row has been chosen is asked of the named query. -/
theorem isCandidate_closed {G : Sql → Target → Prop} {root : Target} :
    Closed G (isCandidate root) := by
  simp [isCandidate]

/-- Rows are updated where they have been chosen, and read the root alone. -/
theorem isRootSubquery_updatedRows {document : List (String × Json)} {changed : Sql}
    (h : updatedRows s q.root document = .ok changed) :
    IsRootSubquery s filters q.root changed := by
  obtain ⟨sets, hsets, h⟩ := Result.bind_eq_ok.mp h
  have hclosed := assignments_closed (K := Shelters s filters) (fun _ _ => closed_column) hsets
  cases h
  refine ⟨_, _, rfl, rootBody_seq ?_⟩
  have hasked : ∀ set ∈ sets, Closed (Shelters s filters) (.seq [.ident set.1, " = ", set.2]) :=
    fun set hset => by simp [(hclosed set hset).2]
  refine List.forall_mem_cons.mpr ⟨closed_raw, List.forall_mem_cons.mpr
    ⟨closed_join.mpr ?_, by simp [isCandidate_closed]⟩⟩
  exact List.forall_mem_append.mpr ⟨by simp, List.forall_mem_map.mpr hasked⟩

/-- A new row reads nothing, as it is inserted from closed values. -/
theorem isRootSubquery_insertInto {row : List (String × Sql)} {rows : Sql}
    (h : Closed (Shelters s filters) rows) :
    IsRootSubquery s filters q.root (insertInto q.className row rows) :=
  ⟨_, _, rfl, rootBody_seq (by simp [columnList_closed, h])⟩

/-- Rows are deleted where they have been chosen, and read the root alone. -/
theorem isRootSubquery_deletedRows : IsRootSubquery s filters q.root (deletedRows q.root) :=
  ⟨_, _, rfl, rootBody_seq (by simp [isCandidate_closed])⟩

/-- What was written is read through a subquery in place of the root, beside guarded joins. -/
theorem dutifulBody_readBack {list : Sql} {name : String}
    (hlist : Closed (Shelters s filters) list) (hscope : scope.Guarded s filters) :
    DutifulBody (Shelters s filters) (readBack q list scope name) := by
  have hsource : Dutiful (Shelters s filters) (scope.sourceClause name q.root) :=
    hscope.dutiful_joined dutiful_source
  constructor
  · intro t ht
    refine .inl (hscope.isTruth t ?_)
    simpa [readBack, Scope.sourceClause, Sql.tables, allTables, Scope.tables_joined, hlist.tables]
      using ht
  · simp [readBack, hlist.dutiful, hsource]

/-! ## Statements -/

/-- An insertion is sheltered: it reads back what it has inserted, and nothing else of the root. -/
theorem yields_insert (hq : q.extraFilter = some filters)
    {objects : List (List (String × Json))} :
    Yields (insert s q objects) (Sheltered s filters q.root) := by
  unfold insert
  refine .bind (.lift (Q := fun rows => ∀ row ∈ rows, Closed (Shelters s filters) (valueList row))
    fun rows hrows row hrow => ?_) fun rows hrows => ?_
  · obtain ⟨object, -, hobject⟩ := Result.exists_of_mapM_eq_ok hrows row hrow
    exact valueList_closed hobject
  · split
    next first rest =>
      refine .bind (Query.yields_refetch hq) ?_
      rintro ⟨list, scope⟩ ⟨hlist, hscope⟩
      refine .pure (.writing ?_ (dutifulBody_readBack hlist hscope))
      refine List.forall_mem_singleton.mpr (isRootSubquery_insertInto ?_)
      simpa [closed_join] using hrows
    next => exact .throw

/-- An update is sheltered: its rows are chosen, changed and read back. -/
theorem yields_update (hq : q.extraFilter = some filters) {document : List (String × Json)} :
    Yields (update s q document) (Sheltered s filters q.root) := by
  unfold update
  refine .bind (yields_candidateRows hq) fun candidates hcandidates => ?_
  refine .bind (.lift (Q := IsRootSubquery s filters q.root)
    fun changed h => isRootSubquery_updatedRows h) fun changed hchanged => ?_
  refine .bind (Query.yields_refetch hq) ?_
  rintro ⟨list, scope⟩ ⟨hlist, hscope⟩
  refine .pure (.writing ?_ (dutifulBody_readBack hlist hscope))
  exact List.forall_mem_cons.mpr ⟨hcandidates, List.forall_mem_singleton.mpr hchanged⟩

/-- An upsert is sheltered, whether it updates or inserts. -/
theorem yields_upsert (hq : q.extraFilter = some filters)
    {document object : List (String × Json)} :
    Yields (upsert s q document object) (Sheltered s filters q.root) := by
  unfold upsert
  refine .bind (yields_candidateRows hq) fun candidates hcandidates => ?_
  refine .bind (.lift (Q := IsRootSubquery s filters q.root)
    fun changed h => isRootSubquery_updatedRows h) fun changed hchanged => ?_
  refine .bind (.lift (Q := fun row => Closed (Shelters s filters) (valueList row))
    fun row h => valueList_closed h) fun row hrow => ?_
  refine .bind (Query.yields_refetch hq) ?_
  rintro ⟨list, scope⟩ ⟨hlist, hscope⟩
  have hbranch : ∀ name, Closed (Shelters s filters) (.block (readBack q list scope name)) :=
    fun name => closed_block.mpr (dutifulBody_readBack hlist hscope)
  refine .pure (.writing ?_ (Closed.dutifulBody (by simp [hbranch])))
  refine List.forall_mem_cons.mpr ⟨hcandidates, List.forall_mem_cons.mpr ⟨hchanged, ?_⟩⟩
  exact List.forall_mem_singleton.mpr (isRootSubquery_insertInto (otherwise_closed hrow))

/-- A deletion is sheltered: its rows are chosen, deleted and read back. -/
theorem yields_delete (hq : q.extraFilter = some filters) :
    Yields (delete s q) (Sheltered s filters q.root) := by
  unfold delete
  refine .bind (yields_candidateRows hq) fun candidates hcandidates => ?_
  refine .bind (Query.yields_refetch hq) ?_
  rintro ⟨list, scope⟩ ⟨hlist, hscope⟩
  refine .pure (.writing ?_ (dutifulBody_readBack hlist hscope))
  exact List.forall_mem_cons.mpr
    ⟨hcandidates, List.forall_mem_singleton.mpr isRootSubquery_deletedRows⟩

end Write

/--
Whatever is done with the objects of a query: where the table of another class is read, its guard is
among the conditions, at every depth of joins and subqueries.
-/
theorem Operation.compile_sheltered (op : Operation) {n n' : Nat} {sql : Sql}
    (hq : q.extraFilter = some filters) (hrun : Runs (op.compile s q) n sql n') :
    Sheltered s filters q.root sql := by
  cases op with
  | find lock => exact .reading (Read.yields_find hq hrun)
  | count => exact .reading (Read.yields_count hq hrun)
  | random weight => exact .reading (Read.yields_random hq hrun)
  | explain => exact .reading (Read.yields_explain hq hrun)
  | insert objects => exact Write.yields_insert hq hrun
  | update document => exact Write.yields_update hq hrun
  | upsert document object => exact Write.yields_upsert hq hrun
  | delete => exact Write.yields_delete hq hrun

/-- Notes that belong to users. -/
def writtenNotes : Json :=
  .obj [
    ("Note", .obj [("fields", .obj [
      ("author", .obj [("type", .str "pointer"), ("target", .str "User")])])]),
    ("User", .obj [("fields", .obj [("active", .str "boolean"), ("name", .str "string")])])]

/-- The notes and their authors as a schema. -/
def notesAndUsers : Schema where
  classes := [
    ("Note", {
      fields := Field.defaults.foldl (fun t f => t.insert f.1 f.2) [("author", .pointer "User")] }),
    ("User", {
      fields := Field.defaults.foldl (fun t f => t.insert f.1 f.2)
        [("active", .primitive .boolean none), ("name", .primitive .string none)] })]

/-- Users that are not active are hidden. -/
def activeUsers : ClassFilter := fun className =>
  if className = "User" then .field "active" (.compare .eq (.bool true)) else .truth

/-- The notes of an author with one name. -/
def notesByName : Query where
  className := "Note"
  base := { filter := .field "author.name" (.compare .eq (.str "Ann")) }
  includes := []
  extraFilter := some activeUsers
  relatedBy := none

/-- To count the notes of an author the table of users is read, and only through its guard. -/
theorem Operation.compile_sheltered_of_notesByName :
    ∃ sql n', Schema.ofJson writtenNotes = .ok notesAndUsers ∧
      Runs (Operation.count.compile notesAndUsers notesByName) 0 sql n' ∧
      sql.references.map Prod.snd = [⟨"User", "_p1"⟩] ∧
      Sheltered notesAndUsers activeUsers notesByName.root sql := by
  obtain ⟨sql, n', hrun, hreferences⟩ := exists_runs_of_any
    (x := Operation.count.compile notesAndUsers notesByName) (n := 0)
    (p := fun sql => sql.references.map Prod.snd = [⟨"User", "_p1"⟩]) (by decide +kernel)
  exact ⟨sql, n', by rfl, hrun, of_decide_eq_true hreferences, compile_sheltered .count rfl hrun⟩

end ObjectQuery
