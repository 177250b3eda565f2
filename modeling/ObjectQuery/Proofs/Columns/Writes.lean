import ObjectQuery.Proofs.Columns.Reads

/-!
# What a statement assigns

An update sets columns that its document may name, an insertion lists the columns of its class. In the
named subqueries of a statement these are read off again, so that what is assigned is a matter of the
statement alone. Together with what is read: a statement touches only columns that the tables were
prepared with, and derived relations inside shapes, which have none.
-/

namespace ObjectQuery

open Sql

/-! ## Assigned columns -/

namespace Sql

/-- The column that an item of a SET list assigns. -/
def setColumn? : Sql → Option String
  | seq (ident name :: _) => some name
  | _ => none

/-- The column that an item of a column list names. -/
def listedColumn? : Sql → Option String
  | ident name => some name
  | _ => none

/-- The columns that an update sets or an insertion lists, with the class whose table it changes. -/
def assignedIn : Sql → List (String × String)
  | seq (raw "UPDATE " :: root className :: raw " SET " :: join items _ :: _) =>
    (items.filterMap setColumn?).map (className, ·)
  | seq (raw "INSERT INTO " :: root className :: raw " " :: seq [_, join columns _, _] :: _) =>
    (columns.filterMap listedColumn?).map (className, ·)
  | _ => []

/-- The columns that a named subquery assigns. -/
def assignedBy : Sql → List (String × String)
  | seq [_, _, block body, _] => assignedIn body
  | _ => []

/-- The columns that a statement assigns in its named subqueries. -/
def assigned : Sql → List (String × String)
  | seq [raw "WITH ", join subqueries _, _, _] => subqueries.flatMap assignedBy
  | _ => []

/-- A query assigns nothing. -/
theorem assigned_select {list source condition tail : Sql} :
    (select list source condition tail).assigned = [] := by
  simp [select, assigned]

theorem assigned_withSubqueries {subqueries : List Sql} {query : Sql} :
    (Write.withSubqueries subqueries query).assigned = subqueries.flatMap assignedBy := rfl

theorem assignedBy_named {name : String} {body : Sql} :
    (Write.named name body).assignedBy = body.assignedIn := rfl

end Sql

variable {s : Schema} {A B : Aliases s} {q : Query}

/-- The columns that an update document may name are provided. -/
theorem Schema.Complete.provides_of_assignable (hs : s.Complete) {className column : String}
    (h : Write.Assignable s className column) : s.Provides className column := by
  obtain ⟨key, found, hfound, hderived, hcases⟩ := h
  obtain ⟨htype, hinside⟩ := hs.accepted.typeIn?_of_column hfound
  rcases hcases with ⟨-, hshape, rfl⟩ | ⟨-, hshape, ty, hleaf⟩ | ⟨⟨path, hpath⟩, rfl⟩
  · exact .inl (hs.creates htype (FieldType.columnType?_isSome.mpr ⟨hshape, hderived⟩))
  · exact hs.provides_of_leaf htype hshape hleaf
  · exact .inl (hs.creates htype (hinside.columnType? (by simp [hpath]) (by simp [hpath])))

namespace Write

/-- The columns of a new row are created. -/
theorem creates_of_row (hs : s.Complete) {className : String} {attributes : List (String × Json)}
    {row : List (String × Sql)} (h : Write.row s className attributes = .ok row) :
    ∀ column ∈ row.map (·.1), s.Creates className column := by
  obtain ⟨c, hc, -, hcells⟩ := row_eq_ok.mp h
  rw [names_of_cells hcells]
  refine List.forall_mem_map.mpr ?_
  rintro ⟨column, ty⟩ hcolumn
  obtain ⟨hbelow, hty⟩ := (hs.accepted.mem_columns_iff hc).mp hcolumn
  exact hs.creates (Schema.typeIn?_eq_some.mpr ⟨c, hc, hbelow⟩) hty

/-- The version and the time of update are created. -/
theorem creates_of_updated (hs : s.Complete) {className : String}
    (hc : (s.class? className).isSome = true) :
    s.Creates className Field.version ∧ s.Creates className Field.updatedAt := by
  obtain ⟨c, hc⟩ := Option.isSome_iff_exists.mp hc
  have hdefault : ∀ f ∈ Field.defaults, s.typeIn? className f.1 = some f.2 := fun f hf =>
    hs.accepted.typeIn?_of_field? (Schema.field?_eq_some.mpr ⟨c, hc, hs.defaults className c hc f hf⟩)
  exact ⟨hs.creates (hdefault (Field.version, .primitive .number none) (by simp [Field.defaults])) rfl,
    hs.creates (hdefault (Field.updatedAt, .primitive .date none) (by simp [Field.defaults])) rfl⟩

/-- An insertion assigns the columns of its first row. -/
theorem assignedBy_insertInto {className : String} {row : List (String × Sql)} {rows : Sql} :
    (insertInto className row rows).assignedBy = row.map fun column => (className, column.1) := by
  have hlisted : row.filterMap (fun column => (ident column.1).listedColumn?) = row.map (·.1) :=
    congrFun List.filterMap_eq_map row
  simp [insertInto, assignedBy_named, columnList, assignedIn, hlisted]

/-- An update assigns the columns that its document names, after the version and the time. -/
theorem assignedBy_updatedRows {root : Target} {document : List (String × Json)} {changed : Sql}
    {sets : Assignments} (hsets : assignments s root document = .ok sets)
    (h : updatedRows s root document = .ok changed) :
    changed.assignedBy =
      ([Field.version, Field.updatedAt] ++ sets.map (·.1)).map (root.className, ·) := by
  have hset : sets.filterMap (setColumn? ∘ fun set => seq [ident set.1, " = ", set.2]) =
      sets.map (·.1) := congrFun List.filterMap_eq_map sets
  rw [updatedRows, hsets] at h
  cases h
  simp [assignedBy_named, assignedIn, hset, setColumn?]

/-- A named subquery is closed, and assigns columns of the root's class. -/
structure Sound (A : Aliases s) (q : Query) (sub : Sql) : Prop where
  closed : Closed A.closedness sub
  assigned : ∀ a ∈ sub.assignedBy, a.1 = q.className ∧ s.Provides a.1 a.2

/-- More aliases leave a subquery sound. -/
theorem Sound.mono {sub : Sql} (h : A ≤ B) (hsub : Sound A q sub) : Sound B q sub :=
  ⟨Aliases.closed_mono h hsub.closed, hsub.assigned⟩

/-- The test for a candidate reads the id of the root and of the candidates. -/
theorem closed_isCandidate (hs : s.Complete) (hq : q.Resolved A) :
    Closed A.closedness (isCandidate q.root) := by
  have hid := hq.root.closed_id hs
  have hcandidate : Closed A.closedness (.column candidates Field.id) :=
    List.forall_mem_singleton.mpr (.inl List.mem_cons_self)
  simp [isCandidate, hid, hcandidate]

/-- The subquery of candidates is a query of the root and assigns nothing. -/
theorem resolves_candidateRows (hs : s.Complete) (hq : q.Resolved A) :
    Compile.Resolves A (candidateRows s q) fun B sub => Sound B q sub := by
  unfold candidateRows
  refine .bind (.inNewScope (Q := fun B (r : Sql × Sql) =>
    Closed B.closedness r.1 ∧ Closed B.closedness r.2) ?_) ?_
  · refine .bind (Query.resolves_condition hs hq) fun B hAB condition hcondition => ?_
    refine .bind (Query.resolves_order hs (hq.mono hAB)) fun C hBC order horder => ?_
    exact .pure ⟨Aliases.closed_mono hBC hcondition, horder⟩
  · rintro B hAB ⟨⟨condition, order⟩, scope⟩ ⟨hscope, hcondition, horder⟩
    have hroot := hq.root.mono hAB
    have hrows := closed_select.mpr ⟨hroot.closed_id hs, hscope.closed_clause hroot, hcondition,
      show Closed B.closedness (.seq [order, q.bounds, RowLock.update.sql q.root]) by
        simp [horder, Query.bounds, bounds_closed, RowLock.sql_closed]⟩
    exact .pure ⟨by simp [named, hrows], by simp [assignedBy_named, select, assignedIn]⟩

/-- The subquery of an update assigns columns that its document may name. -/
theorem sound_updatedRows (hs : s.Complete) (hq : q.Resolved A) {document : List (String × Json)}
    {changed : Sql} (h : updatedRows s q.root document = .ok changed) : Sound A q changed := by
  obtain ⟨sets, hsets, hpure⟩ := Result.bind_eq_ok.mp h
  have hclosed := assignments_closed (K := A.closedness)
    (fun column hcolumn => hq.root.closed_column (hs.provides_of_assignable hcolumn)) hsets
  obtain ⟨hversion, htime⟩ := creates_of_updated hs (A.known _ _ hq.root)
  constructor
  · have hroot : Closed A.closedness (.root q.className) := List.forall_mem_singleton.mpr hq.root
    have hcurrent := hq.root.closed_column (.inl hversion)
    have hasked : ∀ set ∈ sets, Closed A.closedness (.seq [.ident set.1, " = ", set.2]) :=
      fun set hset => by simp [(hclosed set hset).2]
    have hitems : Closed A.closedness (.join ([
        .seq [.ident Field.version, " = ", q.root.column Field.version, " + 1"],
        .seq [.ident Field.updatedAt, " = NOW()"]] ++
          sets.map fun set => .seq [.ident set.1, " = ", set.2]) ", ") :=
      closed_join.mpr (List.forall_mem_append.mpr
        ⟨by simp [hcurrent], List.forall_mem_map.mpr hasked⟩)
    cases hpure
    simpa [named, closed_isCandidate hs hq] using ⟨hroot, hitems⟩
  · rw [assignedBy_updatedRows hsets h]
    refine List.forall_mem_map.mpr (List.forall_mem_append.mpr ⟨?_, List.forall_mem_map.mpr ?_⟩)
    · exact List.forall_mem_cons.mpr
        ⟨⟨rfl, .inl hversion⟩, List.forall_mem_singleton.mpr ⟨rfl, .inl htime⟩⟩
    · exact fun set hset => ⟨rfl, hs.provides_of_assignable (hclosed set hset).1⟩

/-- The subquery of an insertion assigns the columns of a new row. -/
theorem sound_insertInto (hs : s.Complete) (hq : q.Resolved A) {attributes : List (String × Json)}
    {row : List (String × Sql)} {rows : Sql} (hrow : Write.row s q.className attributes = .ok row)
    (h : Closed A.closedness rows) : Sound A q (insertInto q.className row rows) := by
  have hroot : Closed A.closedness (.root q.className) := List.forall_mem_singleton.mpr hq.root
  constructor
  · simp [insertInto, named, hroot, columnList_closed, h]
  · rw [assignedBy_insertInto]
    exact List.forall_mem_map.mpr fun column hcolumn =>
      ⟨rfl, .inl (creates_of_row hs hrow _ (List.mem_map_of_mem hcolumn))⟩

/-- The subquery of a deletion assigns nothing. -/
theorem sound_deletedRows (hs : s.Complete) (hq : q.Resolved A) : Sound A q (deletedRows q.root) := by
  have hroot : Closed A.closedness (.root q.root.className) :=
    List.forall_mem_singleton.mpr hq.root
  constructor
  · simp [deletedRows, named, hroot, closed_isCandidate hs hq]
  · simp [deletedRows, assignedBy_named, assignedIn]

/-- What is read back is closed when its list and its joins are. -/
theorem closed_readBack {list : Sql} {scope : Scope} {name : String}
    (hlist : Closed A.closedness list) (hscope : scope.Resolved A) :
    Closed A.closedness (readBack q list scope name) := by
  have hsource : Closed A.closedness (.source name q.root.label) := List.forall_mem_nil _
  simp [readBack, hlist, Scope.sourceClause, hscope.closed_joined hsource]

end Write

/-! ## Statements -/

/-- A statement is closed, and assigns columns of the root's class that are provided. -/
structure Sql.Touches (sql : Sql) (A : Aliases s) (q : Query) : Prop where
  closed : Closed A.closedness sql
  assigned : ∀ a ∈ sql.assigned, a.1 = q.className ∧ s.Provides a.1 a.2

namespace Write

/-- A statement touches what its sound subqueries assign and its closed query reads. -/
theorem touches_withSubqueries {subqueries : List Sql} {query : Sql}
    (hsubqueries : ∀ sub ∈ subqueries, Sound A q sub) (hquery : Closed A.closedness query) :
    (withSubqueries subqueries query).Touches A q where
  closed := by
    have hall : Closed A.closedness (.join subqueries ", ") :=
      closed_join.mpr fun sub hsub => (hsubqueries sub hsub).closed
    simp [withSubqueries, hall, hquery]
  assigned := by
    rw [assigned_withSubqueries]
    exact List.forall_mem_flatMap.mpr fun sub hsub => (hsubqueries sub hsub).assigned

/-- An insertion touches columns that exist. -/
theorem resolves_insert (hs : s.Complete) (hq : q.Resolved A)
    {objects : List (List (String × Json))} :
    Compile.Resolves A (insert s q objects) fun B sql => sql.Touches B q := by
  unfold insert
  refine .bind (.lift (Q := fun _ rows => ∀ row ∈ rows, ∃ object,
    Write.row s q.className object = .ok row) fun rows hrows row hrow => ?_) fun B hAB rows hrows => ?_
  · obtain ⟨object, -, hobject⟩ := Result.exists_of_mapM_eq_ok hrows row hrow
    exact ⟨object, hobject⟩
  · split
    next first rest =>
      refine .bind (Query.resolves_refetch hs (hq.mono hAB)) ?_
      rintro C hBC ⟨list, scope⟩ ⟨hlist, hscope⟩
      obtain ⟨object, hfirst⟩ := hrows first List.mem_cons_self
      have hvalues : ∀ row ∈ first :: rest, Closed C.closedness (valueList row) := fun row hrow => by
        obtain ⟨object, hobject⟩ := hrows row hrow
        exact valueList_closed hobject
      refine .pure (touches_withSubqueries (List.forall_mem_singleton.mpr
        (sound_insertInto hs (hq.mono (hAB.trans hBC)) hfirst ?_)) (closed_readBack hlist hscope))
      simpa [closed_join] using hvalues
    next => exact .throw

/-- An update touches columns that exist. -/
theorem resolves_update (hs : s.Complete) (hq : q.Resolved A) {document : List (String × Json)} :
    Compile.Resolves A (update s q document) fun B sql => sql.Touches B q := by
  unfold update
  refine .bind (resolves_candidateRows hs hq) fun B hAB candidates hcandidates => ?_
  refine .bind (.lift (Q := fun B changed => Sound B q changed) fun changed h =>
    sound_updatedRows hs (hq.mono hAB) h) fun C hBC changed hchanged => ?_
  refine .bind (Query.resolves_refetch hs (hq.mono (hAB.trans hBC))) ?_
  rintro D hCD ⟨list, scope⟩ ⟨hlist, hscope⟩
  exact .pure (touches_withSubqueries (List.forall_mem_cons.mpr ⟨hcandidates.mono (hBC.trans hCD),
    List.forall_mem_singleton.mpr (hchanged.mono hCD)⟩) (closed_readBack hlist hscope))

/-- An upsert touches columns that exist, in its update as in its insertion. -/
theorem resolves_upsert (hs : s.Complete) (hq : q.Resolved A)
    {document object : List (String × Json)} :
    Compile.Resolves A (upsert s q document object) fun B sql => sql.Touches B q := by
  unfold upsert
  refine .bind (resolves_candidateRows hs hq) fun B hAB candidates hcandidates => ?_
  refine .bind (.lift (Q := fun B changed => Sound B q changed) fun changed h =>
    sound_updatedRows hs (hq.mono hAB) h) fun C hBC changed hchanged => ?_
  refine .bind (.lift (Q := fun _ row => Write.row s q.className object = .ok row)
    fun row h => h) fun D hCD row hrow => ?_
  have hAD := hAB.trans (hBC.trans hCD)
  refine .bind (Query.resolves_refetch hs (hq.mono hAD)) ?_
  rintro E hDE ⟨list, scope⟩ ⟨hlist, hscope⟩
  have hinserted := sound_insertInto hs (hq.mono (hAD.trans hDE)) hrow
    (otherwise_closed (valueList_closed hrow))
  refine .pure (touches_withSubqueries (List.forall_mem_cons.mpr
    ⟨hcandidates.mono (hBC.trans (hCD.trans hDE)), List.forall_mem_cons.mpr
      ⟨hchanged.mono (hCD.trans hDE), List.forall_mem_singleton.mpr hinserted⟩⟩) ?_)
  have hbranch : ∀ name, Closed E.closedness (readBack q list scope name) :=
    fun name => closed_readBack hlist hscope
  simp [hbranch]

/-- A deletion touches columns that exist. -/
theorem resolves_delete (hs : s.Complete) (hq : q.Resolved A) :
    Compile.Resolves A (delete s q) fun B sql => sql.Touches B q := by
  unfold delete
  refine .bind (resolves_candidateRows hs hq) fun B hAB candidates hcandidates => ?_
  refine .bind (Query.resolves_refetch hs (hq.mono hAB)) ?_
  rintro C hBC ⟨list, scope⟩ ⟨hlist, hscope⟩
  exact .pure (touches_withSubqueries (List.forall_mem_cons.mpr ⟨hcandidates.mono hBC,
    List.forall_mem_singleton.mpr (sound_deletedRows hs (hq.mono (hAB.trans hBC)))⟩)
    (closed_readBack hlist hscope))

end Write

/-- A statement that assigns nothing touches what it reads. -/
theorem Compile.Resolves.touches {x : Compile Sql}
    (hx : Compile.Resolves A x fun B sql => Closed B.closedness sql)
    (hreads : Compile.Yields x fun sql => sql.assigned = []) :
    Compile.Resolves A x fun B sql => sql.Touches B q := by
  intro n sql n' hA hrun
  obtain ⟨B, hAB, hB, hclosed⟩ := hx hA hrun
  exact ⟨B, hAB, hB, hclosed, by simp [hreads hrun]⟩

/-- Every operation touches columns that exist: one case for each kind of statement. -/
theorem Operation.resolves_compile (hs : s.Complete) (hq : q.Resolved A) (op : Operation) :
    Compile.Resolves A (op.compile s q) fun B sql => sql.Touches B q := by
  cases op with
  | find lock =>
    refine (Read.resolves_find hs hq).touches ?_
    exact .bind .any fun _ _ => .pure assigned_select
  | count =>
    refine (Read.resolves_count hs hq).touches ?_
    exact .bind .any fun _ _ => .pure assigned_select
  | random weight =>
    refine (Read.resolves_random hs hq).touches ?_
    exact .bind .any fun _ _ => .pure assigned_select
  | explain =>
    refine (Read.resolves_explain hs hq).touches ?_
    exact .bind .any fun _ _ => .pure rfl
  | insert objects => exact Write.resolves_insert hs hq
  | update document => exact Write.resolves_update hs hq
  | upsert document object => exact Write.resolves_upsert hs hq
  | delete => exact Write.resolves_delete hs hq

/-- The query for dangling references touches columns that exist. -/
theorem Read.touches_nonrefs (hs : s.Complete) (hq : q.Resolved A) :
    Compile.Resolves A (Read.nonrefs s q) fun B sql => sql.Touches B q := by
  refine (Read.resolves_nonrefs hs hq).touches ?_
  exact .bind .any fun _ _ => .pure assigned_select

end ObjectQuery
