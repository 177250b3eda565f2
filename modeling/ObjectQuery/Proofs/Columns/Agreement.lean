import ObjectQuery.Proofs.Columns.Created

/-!
# One list of columns

The columns of a class are enumerated in four ways: as the leaves of its fields, by the path walk, by
the statements that prepare a store, and by the rows of new objects. In an accepted schema they agree,
and each column is listed once.
-/

namespace ObjectQuery

open ObjectQuery.Path (dotted)

/-! ## Each leaf once -/

namespace FieldType

theorem fieldLeaves_eq_flatMap (path : String) (fields : List (String × FieldType)) :
    fieldLeaves path fields = fields.flatMap fun m => m.2.leaves (path ++ "." ++ m.1) := by
  induction fields with
  | nil => rfl
  | cons m rest ih => rw [fieldLeaves, ih, List.flatMap_cons]

/-- Leaves of members with different names are told apart by the name behind the common front. -/
theorem nodup_flatMap_leaves (front : List String) (start : String → String) {s : Schema}
    {fields : Table FieldType} (hordered : fields.Ordered)
    (hfields : ∀ m ∈ fields, Schema.isName m.1 = true ∧ s.WellTyped m.2)
    (hstart : ∀ m ∈ fields, Text.split '.' (start m.1) = front ++ [m.1])
    (hmembers : ∀ m ∈ fields, ((m.2.leaves (start m.1)).map (·.1)).Nodup) :
    ((fields.flatMap fun m => m.2.leaves (start m.1)).map (·.1)).Nodup := by
  have hsplit : ∀ m ∈ fields, ∀ name ∈ (m.2.leaves (start m.1)).map (·.1),
      ∃ rest, Text.split '.' name = front ++ m.1 :: rest := by
    intro m hm name hname
    obtain ⟨leaf, hleaf, rfl⟩ := List.mem_map.mp hname
    obtain ⟨rest, hbelow, -, hdotted⟩ := (mem_leaves_iff (hfields m hm).2).mp hleaf
    have hrest := (wellTyped_below (hfields m hm).2 hbelow).1
    refine ⟨rest, ?_⟩
    rw [hdotted, Path.split_dotted _ hrest, hstart m hm, List.append_assoc, List.singleton_append]
  rw [List.map_flatMap]
  refine List.nodup_flatMap.mpr ⟨hmembers, hordered.imp_of_mem fun {a b} ha hb hlt => ?_⟩
  intro name hname hother
  obtain ⟨rest, hrest⟩ := hsplit a ha name hname
  obtain ⟨more, hmore⟩ := hsplit b hb name hother
  obtain ⟨hsame, -⟩ := List.cons.inj (List.append_cancel_left (hrest.symm.trans hmore))
  exact hlt.ne hsame

theorem nodup_leaves {s : Schema} {ty : FieldType} (hty : s.WellTyped ty) (path : String) :
    ((ty.leaves path).map (·.1)).Nodup := by
  induction ty using nested_induction generalizing path with
  | primitive | vector | pointer | relation => exact List.nodup_singleton path
  | shape fields ih =>
    obtain ⟨hordered, hmembers⟩ := hty
    have hmembers := Schema.membersWellTyped_iff.mp hmembers
    rw [leaves, fieldLeaves_eq_flatMap]
    refine nodup_flatMap_leaves (Text.split '.' path) (fun name => path ++ "." ++ name) hordered
      hmembers (fun m hm => ?_) fun m hm => ih m hm (hmembers m hm).2 _
    rw [Text.split_append, Path.split_name (hmembers m hm).1]

end FieldType

namespace Schema

variable {s : Schema} {className : String} {c : Class}

/-- The fields of a class are named by identifiers in order, and their types hold up. -/
theorem Accepted.members (hs : s.Accepted) (hc : s.class? className = some c) :
    Table.Ordered c.fields ∧ ∀ f ∈ c.fields, isName f.1 = true ∧ s.WellTyped f.2 :=
  ⟨(hs.fields className c (Table.mem_of_find?_eq_some hc)).1,
    fun _ hf => hs.wellTyped hc ((hs.field?_iff hc).mpr hf)⟩

theorem Accepted.nodup_columns (hs : s.Accepted) (hc : s.class? className = some c) :
    (c.columns.map (·.1)).Nodup := by
  obtain ⟨hordered, hfields⟩ := hs.members hc
  have hleaves : (c.leaves.map (·.1)).Nodup :=
    FieldType.nodup_flatMap_leaves [] id hordered hfields
      (fun f hf => Path.split_name (hfields f hf).1)
      fun f hf => FieldType.nodup_leaves (hfields f hf).2 f.1
  exact hleaves.sublist (List.filter_sublist.map _)

/-- The columns of a class are what the path walk takes for whole columns and has a column. -/
theorem Accepted.mem_columns_iff_column (hs : s.Accepted) (hc : s.class? className = some c)
    {path : String} {ty : FieldType} :
    (path, ty) ∈ c.columns ↔
      s.column className path = .ok ⟨path, ty, .column⟩ ∧ ty.columnType?.isSome = true := by
  rw [hs.mem_columns_iff hc, hs.column_eq_column hc, and_iff_left rfl]

end Schema

/-! ## Columns of statements -/

/-- In a table in order only the entry of a name counts for it. -/
theorem Table.Ordered.flatMap_eq {α β : Type} {table : Table α} (h : table.Ordered) {name : String}
    {value : α} (hmem : (name, value) ∈ table) (f : α → List β) :
    (table.flatMap fun entry => if entry.1 = name then f entry.2 else []) = f value := by
  unfold Table.Ordered at h
  induction table with
  | nil => cases hmem
  | cons first rest ih =>
    obtain ⟨hfirst, hrest⟩ := List.pairwise_cons.mp h
    rw [List.flatMap_cons]
    rcases List.mem_cons.mp hmem with rfl | hmem
    · have hnone : (rest.flatMap fun entry => if entry.1 = name then f entry.2 else []) = [] :=
        List.flatMap_eq_nil_iff.mpr fun entry hentry => if_neg (hfirst entry hentry).ne'
      rw [hnone, if_pos rfl, List.append_nil]
    · rw [if_neg (hfirst _ hmem).ne, ih hrest hmem, List.nil_append]

namespace Tables

/-- The column that a declaration is for. -/
def declared? : Sql → Option String
  | .seq (.ident column :: _) => some column
  | _ => none

/-- The columns that a statement gives the table of a class, in order. -/
def created (className : String) : Sql → List String
  | .seq (.raw "CREATE TABLE IF NOT EXISTS " :: .ident table :: _ :: .join columns _ :: _) =>
    if table = className then columns.filterMap declared? else []
  | .seq (.raw "ALTER TABLE " :: .ident table :: .raw " ADD COLUMN IF NOT EXISTS " ::
      .ident column :: _) =>
    if table = className then [column] else []
  | _ => []

/-- A class's own leaves with a column, in the order in which their columns are added. -/
def addedColumns (c : Class) : List String :=
  ((ownColumns c).filter fun leaf => leaf.2.columnType?.isSome).map (·.1)

variable {s : Schema} {className other : String} {c : Class}

theorem created_createTable :
    created className (createTable other) =
      if other = className then Field.declarations.map (·.1) else [] := by
  rfl

theorem created_addColumns (columns : List (String × FieldType)) :
    (columns.filterMap fun (column, ty) => addColumn other column ty).flatMap (created className) =
      if other = className then
        (columns.filter fun leaf => leaf.2.columnType?.isSome).map (·.1) else [] := by
  induction columns with
  | nil => simp
  | cons leaf rest ih =>
    obtain ⟨column, ty⟩ := leaf
    cases htype : ty.columnType? with
    | none =>
      have hnone : addColumn other column ty = none := by rw [addColumn, htype]; rfl
      simp only [List.filterMap_cons, hnone, ih]
      rw [List.filter_cons_of_neg (by simp [htype])]
    | some type =>
      have hsome : addColumn other column ty = some (.seq ["ALTER TABLE ", .ident other,
          " ADD COLUMN IF NOT EXISTS ", .ident column, " ", .raw type]) := by
        rw [addColumn, htype]
        rfl
      simp only [List.filterMap_cons, hsome, List.flatMap_cons, ih, created]
      rw [List.filter_cons_of_pos (by simp [htype])]
      split <;> rfl

/-- An index gives no table a column. -/
theorem created_createIndex {index : Index} {sql : Sql} (h : createIndex s other index = .ok sql) :
    created className sql = [] := by
  cases index with
  | keys entries unique =>
    obtain ⟨-, h⟩ := Result.refuse_eq_ok.mp h
    obtain ⟨columns, -, h⟩ := Result.bind_eq_ok.mp h
    cases h
    cases unique <;> rfl
  | vector field method =>
    obtain ⟨dimension, -, h⟩ := Result.bind_eq_ok.mp h
    cases h
    rfl

theorem created_ofClass {statements : List Sql} (h : ofClass s other c = .ok statements) :
    statements.flatMap (created className) =
      if other = className then Field.declarations.map (·.1) ++ addedColumns c else [] := by
  obtain ⟨indexes, hindexes, h⟩ := Result.bind_eq_ok.mp h
  obtain rfl := Result.pure_eq_ok.mp h
  have hnone : indexes.flatMap (created className) = [] := by
    refine List.flatMap_eq_nil_iff.mpr fun sql hsql => ?_
    obtain ⟨index, -, hindex⟩ := Result.exists_of_mapM_eq_ok hindexes sql hsql
    exact created_createIndex hindex
  rw [List.cons_append, List.flatMap_cons, List.flatMap_append, hnone, List.append_nil,
    created_createTable, created_addColumns, addedColumns]
  split <;> rfl

theorem created_tables {classes : Table Class} {tables : List (List Sql)}
    (h : List.Forall₂ (fun entry own => ofClass s entry.1 entry.2 = .ok own) classes tables) :
    tables.flatten.flatMap (created className) = classes.flatMap fun entry =>
      if entry.1 = className then Field.declarations.map (·.1) ++ addedColumns entry.2 else [] := by
  induction h with
  | nil => rfl
  | cons hown _ ih =>
    rw [List.flatten_cons, List.flatMap_append, created_ofClass hown, ih, List.flatMap_cons]

theorem created_prepare (hs : s.classes.Ordered) (hc : s.class? className = some c)
    {statements : List Sql} (h : prepare s = .ok statements) :
    statements.flatMap (created className) = Field.declarations.map (·.1) ++ addedColumns c := by
  obtain ⟨tables, htables, h⟩ := Result.bind_eq_ok.mp h
  obtain rfl := Result.pure_eq_ok.mp h
  have hvectors : (if s.hasVectors then ["CREATE EXTENSION IF NOT EXISTS vector"] else
      [] : List Sql).flatMap (created className) = [] := by
    split <;> rfl
  rw [List.flatMap_append, hvectors, List.nil_append,
    created_tables (Result.mapM_eq_ok.mp htables)]
  exact hs.flatMap_eq (Table.mem_of_find?_eq_some hc)
    fun c => Field.declarations.map (·.1) ++ addedColumns c

/-- A default field of a class is declared as a column of its own. -/
theorem mem_defaults (hs : s.Complete) (hc : s.class? className = some c)
    {f : String × FieldType} (hf : f ∈ c.fields) (hdefault : Field.isDefault f.1 = true) :
    f ∈ Field.defaults := by
  have hnames : f.1 ∈ Field.defaults.map (·.1) := by
    simpa [Field.isDefault, Field.defaultNames, Field.defaults] using hdefault
  obtain ⟨g, hg, hname⟩ := List.mem_map.mp hnames
  have htype := (hs.accepted.field?_iff hc).mpr hf
  rw [← hname, hs.defaults className c hc g hg, Option.some.injEq] at htype
  rwa [← Prod.ext hname htype]

/-- The declared columns are the default fields of a class, the added ones its other columns. -/
theorem perm_columns (hs : s.Complete) (hc : s.class? className = some c) :
    (Field.declarations.map (·.1) ++ addedColumns c).Perm (c.columns.map (·.1)) := by
  obtain ⟨hordered, -⟩ := hs.accepted.members hc
  let hasColumn : String × FieldType → Bool := fun leaf => leaf.2.columnType?.isSome
  let own : List (String × FieldType) := c.fields.filter fun f => Field.isDefault f.1
  have hplain : ∀ f ∈ Field.defaults, (f.2.leaves f.1).filter hasColumn = [f] := by
    simp [Field.defaults, FieldType.leaves, hasColumn, FieldType.columnType?]
  have hself : (own.flatMap fun f => f.2.leaves f.1).filter hasColumn = own := by
    have hsingle : ∀ f ∈ own, (f.2.leaves f.1).filter hasColumn = [f] := fun f hf =>
      hplain f (mem_defaults hs hc (List.mem_filter.mp hf).1 (List.mem_filter.mp hf).2)
    rw [List.filter_flatMap, List.flatMap_congr hsingle, List.flatMap_singleton']
  have hnames : (Field.declarations.map (·.1)).Perm (own.map (·.1)) := by
    have hown : (own.map (·.1)).Nodup :=
      List.pairwise_map.mpr ((hordered.imp fun hlt => hlt.ne).sublist List.filter_sublist)
    refine (List.perm_ext_iff_of_nodup (by decide) hown).mpr fun name => ⟨fun hname => ?_, fun h => ?_⟩
    · have hdefault : name ∈ Field.defaults.map (·.1) := hname
      obtain ⟨f, hf, rfl⟩ := List.mem_map.mp hdefault
      have hfield := (hs.accepted.field?_iff hc).mp (hs.defaults className c hc f hf)
      refine List.mem_map.mpr ⟨f, List.mem_filter.mpr ⟨hfield, ?_⟩, rfl⟩
      exact List.contains_iff_mem.mpr hname
    · obtain ⟨f, hf, rfl⟩ := List.mem_map.mp h
      exact List.contains_iff_mem.mp (List.mem_filter.mp hf).2
  have hfields := List.filter_append_perm (fun f : String × FieldType => Field.isDefault f.1)
    c.fields
  have hleaves := ((hfields.flatMap_right fun f => f.2.leaves f.1).filter hasColumn).map (·.1)
  rw [List.flatMap_append, List.filter_append, List.map_append, hself] at hleaves
  exact (hnames.append_right _).trans hleaves

end Tables

/-! ## Columns of new rows -/

namespace Write

variable {s : Schema} {q : Query} {n n' : Nat} {sql : Sql}

/-- The cells of a row are those of the columns of the class, in their order. -/
def IsRowOf (className : String) (c : Class) (object : List (String × Json))
    (row : List (String × Sql)) : Prop :=
  List.Forall₂ (IsCell className object) c.columns row

theorem isRowOf_of_row {className : String} {c : Class} {object : List (String × Json)}
    {row : List (String × Sql)} (hc : s.class? className = some c)
    (h : Write.row s className object = .ok row) : IsRowOf className c object row := by
  obtain ⟨_, hc', -, hcells⟩ := row_eq_ok.mp h
  obtain rfl := Option.some.inj (hc.symm.trans hc')
  exact hcells

/-- An insertion names the columns of its first row and writes a row for each object. -/
theorem insert_rows {c : Class} (hc : s.class? q.className = some c)
    {objects : List (List (String × Json))} (h : Compile.Runs (insert s q objects) n sql n') :
    ∃ first rest query,
      sql = withSubqueries [insertInto q.className first (.seq [" VALUES ",
        .join ((first :: rest).map fun row => .seq ["(", valueList row, ")"]) ", "])] query ∧
      List.Forall₂ (IsRowOf q.className c) objects (first :: rest) := by
  unfold insert at h
  obtain ⟨rows, _, hread, h⟩ := Compile.runs_bind.mp h
  obtain ⟨hrows, rfl⟩ := Compile.runs_lift.mp hread
  cases rows with
  | nil => exact (Compile.not_runs_throw h).elim
  | cons first rest =>
    obtain ⟨⟨list, scope⟩, _, -, h⟩ := Compile.runs_bind.mp h
    obtain ⟨rfl, -⟩ := Compile.runs_pure.mp h
    refine ⟨first, rest, readBack q list scope inserted, rfl, ?_⟩
    exact (Result.mapM_eq_ok.mp hrows).imp fun _ _ => isRowOf_of_row hc

/-- An upsert names the columns of the one row that it may write. -/
theorem upsert_row {c : Class} (hc : s.class? q.className = some c)
    {document object : List (String × Json)}
    (h : Compile.Runs (upsert s q document object) n sql n') :
    ∃ candidates changed row query,
      sql = withSubqueries [candidates, changed, insertInto q.className row (otherwise row)] query ∧
      IsRowOf q.className c object row := by
  unfold upsert at h
  obtain ⟨candidates, _, -, h⟩ := Compile.runs_bind.mp h
  obtain ⟨changed, _, -, h⟩ := Compile.runs_bind.mp h
  obtain ⟨row, _, hrow, h⟩ := Compile.runs_bind.mp h
  obtain ⟨⟨list, scope⟩, _, -, h⟩ := Compile.runs_bind.mp h
  obtain ⟨rfl, -⟩ := Compile.runs_pure.mp h
  exact ⟨candidates, changed, row, _, rfl, isRowOf_of_row hc (Compile.runs_lift.mp hrow).1⟩

end Write

namespace Schema

/-- The ways in which the columns of a class are enumerated agree, and list each of them once. -/
structure ColumnsAgree (s : Schema) (className : String) (c : Class) : Prop where
  once : (c.columns.map (·.1)).Nodup
  /-- The leaves of the fields whose type has a column. -/
  leaves : c.columns = c.leaves.filter fun leaf => leaf.2.columnType?.isSome
  /-- The paths that the path walk takes for whole columns, if their type has one. -/
  walked : ∀ path ty, (path, ty) ∈ c.columns ↔
    s.column className path = .ok ⟨path, ty, .column⟩ ∧ ty.columnType?.isSome = true
  /-- The columns that the statements which prepare the store give to the table of the class. -/
  prepared : ∀ statements, Tables.prepare s = .ok statements →
    (statements.flatMap (Tables.created className)).Perm (c.columns.map (·.1))
  /-- The columns that an insertion names, each row with one value for each in that order. -/
  inserted : ∀ q objects n sql n', q.className = className →
    Compile.Runs (Write.insert s q objects) n sql n' →
      ∃ first rest query,
        sql = Write.withSubqueries [Write.insertInto className first (.seq [" VALUES ",
          .join ((first :: rest).map fun row => .seq ["(", Write.valueList row, ")"]) ", "])]
          query ∧
        first.map (·.1) = c.columns.map (·.1) ∧
        List.Forall₂ (Write.IsRowOf className c) objects (first :: rest)
  /-- The columns that an upsert names for the row it may write, with the values of that row. -/
  upserted : ∀ q document object n sql n', q.className = className →
    Compile.Runs (Write.upsert s q document object) n sql n' →
      ∃ candidates changed row query,
        sql = Write.withSubqueries
          [candidates, changed, Write.insertInto className row (Write.otherwise row)] query ∧
        row.map (·.1) = c.columns.map (·.1) ∧ Write.IsRowOf className c object row

variable {s : Schema} {className : String} {c : Class}

/--
In an accepted schema the leaves of a class that have a column, the paths that are whole columns, the
columns of its table and the columns that an insertion or an upsert writes are the same, and each is
listed once.
-/
theorem columnsAgree {document : Json} (hs : ofJson document = .ok s)
    (hc : s.class? className = some c) : s.ColumnsAgree className c := by
  have hs := complete_of_ofJson hs
  refine ⟨hs.accepted.nodup_columns hc, rfl, fun path ty => hs.accepted.mem_columns_iff_column hc,
    fun statements hprepare => ?_, ?_, ?_⟩
  · rw [Tables.created_prepare hs.accepted.ordered hc hprepare]
    exact Tables.perm_columns hs hc
  · rintro q objects n sql n' rfl hrun
    obtain ⟨first, rest, query, rfl, hrows⟩ := Write.insert_rows hc hrun
    obtain ⟨_, _, hfirst, -, -⟩ := List.forall₂_cons_right_iff.mp hrows
    exact ⟨first, rest, query, rfl, Write.names_of_cells hfirst, hrows⟩
  · rintro q document object n sql n' rfl hrun
    obtain ⟨candidates, changed, row, query, rfl, hrow⟩ := Write.upsert_row hc hrun
    exact ⟨candidates, changed, row, query, rfl, Write.names_of_cells hrow, hrow⟩

/-- The label of a place inside an address is a column of the notes that are prepared. -/
theorem columnsAgree_of_placedNotes :
    ∃ c statements, ofJson Write.placedNotes = .ok Write.placedSchema ∧
      Write.placedSchema.class? "Note" = some c ∧
      Tables.prepare Write.placedSchema = .ok statements ∧
      "address.place.label" ∈ statements.flatMap (Tables.created "Note") ∧
      (∃ sql n', Compile.Runs
        (Write.insert Write.placedSchema Write.placedQuery [Write.placedNote]) 0 sql n') ∧
      Write.placedSchema.ColumnsAgree "Note" c := by
  have hschema : ofJson Write.placedNotes = .ok Write.placedSchema := by rfl
  obtain ⟨sql, n', hrun, -⟩ := Compile.exists_runs_of_any
    (x := Write.insert Write.placedSchema Write.placedQuery [Write.placedNote]) (n := 0)
    (p := fun _ => true) (by decide +kernel)
  have hagree : Write.placedSchema.ColumnsAgree "Note" _ := columnsAgree hschema rfl
  refine ⟨_, _, hschema, rfl, rfl, ?_, ⟨sql, n', hrun⟩, hagree⟩
  exact (hagree.prepared _ rfl).mem_iff.mpr (by decide +kernel)

end Schema

end ObjectQuery
