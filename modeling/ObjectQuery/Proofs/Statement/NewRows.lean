import ObjectQuery.Proofs.Access.Attributes
import ObjectQuery.Proofs.Json
import ObjectQuery.Proofs.Schema.Leaves
import ObjectQuery.Proofs.Statement.Runs
import ObjectQuery.Statement.Write

/-!
# What an insertion keeps of an object

The keys of a new object are checked one by one, but the values of its row are asked for by the
columns of the class: under the name of the column first, then inside the object. So a value is
stored if its key is a column, or the field of a shape whose leaves are columns. Every other key may
pass the checks and is asked for by no column.
-/

namespace ObjectQuery

open ObjectQuery.Path (dotted)

/-! ## Columns of a class -/

theorem FieldType.columnType?_isSome {ty : FieldType} :
    ty.columnType?.isSome = true ↔ ty.isShape = false ∧ ty.isDerived = false := by
  cases ty with
  | relation target foreign => cases foreign <;> simp [columnType?, isShape, isDerived]
  | _ => simp [columnType?, isShape, isDerived]

namespace Schema.Accepted

variable {s : Schema} {className name : String} {c : Class} {ty : FieldType}

/-- The columns of a class are what its paths lead to through shapes and has a column. -/
theorem mem_columns_iff (h : s.Accepted) (hc : s.class? className = some c) :
    (name, ty) ∈ c.columns ↔
      c.below? (Text.split '.' name) = some ty ∧ ty.columnType?.isSome = true := by
  have hcolumns : c.columns = c.leaves.filter fun leaf => leaf.2.columnType?.isSome := rfl
  rw [hcolumns, List.mem_filter, h.mem_leaves_iff hc, and_assoc]
  have hleaf := @FieldType.columnType?_isSome ty
  exact and_congr_right fun _ => ⟨And.right, fun h => ⟨(hleaf.mp h).1, h⟩⟩

end Schema.Accepted

namespace Write

variable {s : Schema} {className key : String} {c : Class} {attributes : List (String × Json)}
  {row : List (String × Sql)} {value : Json}

/-! ## Rows by their columns -/

/-- A column with its value in a row. -/
def IsCell (className : String) (attributes : List (String × Json)) (column : String × FieldType)
    (cell : String × Sql) : Prop :=
  cell.1 = column.1 ∧ columnValue className attributes column = .ok cell.2

theorem row_eq_ok :
    Write.row s className attributes = .ok row ↔
      ∃ c, s.class? className = some c ∧ (∀ a ∈ attributes, checkKey s className c a.1 = .ok ()) ∧
        List.Forall₂ (IsCell className attributes) c.columns row := by
  have hcell : ∀ {column : String × FieldType} {cell : String × Sql},
      (return (column.1, ← columnValue className attributes column) : Result (String × Sql)) =
        .ok cell ↔ IsCell className attributes column cell := by
    rintro column ⟨name, sql⟩
    simp only [Result.bind_eq_ok, Result.pure_eq_ok, Prod.mk.injEq, IsCell]
    grind
  simp only [Write.row, Result.bind_eq_ok, Schema.getClass_eq_ok, Result.mapM_eq_ok, hcell]
  constructor
  · rintro ⟨c, hc, _, hkeys, hcells⟩
    exact ⟨c, hc, Result.forM_eq_ok.mp hkeys, hcells⟩
  · rintro ⟨c, hc, hkeys, hcells⟩
    exact ⟨c, hc, (), Result.forM_eq_ok.mpr hkeys, hcells⟩

variable {columns : List (String × FieldType)}

theorem names_of_cells (h : List.Forall₂ (IsCell className attributes) columns row) :
    row.map (·.1) = columns.map (·.1) := by
  induction h with
  | nil => rfl
  | cons hcell _ ih => rw [List.map_cons, List.map_cons, hcell.1, ih]

/-- Every column has its cell. -/
theorem exists_cell (h : List.Forall₂ (IsCell className attributes) columns row)
    {column : String × FieldType} (hcolumn : column ∈ columns) :
    ∃ sql, columnValue className attributes column = .ok sql ∧ (column.1, sql) ∈ row := by
  induction h with
  | nil => cases hcolumn
  | cons hcell _ ih =>
    rcases List.mem_cons.mp hcolumn with rfl | hcolumn
    · exact ⟨_, hcell.2, hcell.1 ▸ List.mem_cons_self⟩
    · obtain ⟨sql, hvalue, hmem⟩ := ih hcolumn
      exact ⟨sql, hvalue, List.mem_cons_of_mem _ hmem⟩

theorem cells_congr {others : List (String × Json)}
    (hasked : ∀ column ∈ columns,
      columnValue className others column = columnValue className attributes column)
    (h : List.Forall₂ (IsCell className attributes) columns row) :
    List.Forall₂ (IsCell className others) columns row := by
  induction h with
  | nil => exact .nil
  | cons hcell _ ih =>
    obtain ⟨hfirst, hrest⟩ := List.forall_mem_cons.mp hasked
    exact .cons ⟨hcell.1, hfirst.trans hcell.2⟩ (ih hrest)

/-! ## Values of columns -/

/-- Only what a column asks for counts. -/
theorem columnValue_congr {others : List (String × Json)} {column : String × FieldType}
    (h : givenValue attributes column.1 = givenValue others column.1) :
    columnValue className attributes column = columnValue className others column := by
  obtain ⟨name, ty⟩ := column
  unfold columnValue
  dsimp only
  rw [h]

/-- The value a column gets for the one that is given. -/
def fillIn (className name : String) (ty : FieldType) : Json → Result Json
  | .null => missingValue className name ty
  | v => .ok v

theorem fillIn_of_ne_null {name : String} {ty : FieldType} (h : value ≠ .null) :
    fillIn className name ty value = .ok value := by
  cases value with
  | null => exact absurd rfl h
  | _ => rfl

/-- What a column that is no field of every class gets where an object says nothing. -/
def orDefault (ty : FieldType) : Json → Json
  | .null => ty.defaultValue?.getD .null
  | v => v

theorem fillIn_of_own {name : String} {ty : FieldType} (h : Field.isDefault name = false) :
    fillIn className name ty value = .ok (orDefault ty value) := by
  simp only [Field.isDefault, Field.defaultNames, List.contains_cons, List.contains_nil,
    Bool.or_eq_false_iff, beq_eq_false_iff_ne] at h
  cases value with
  | null => simp [fillIn, missingValue, orDefault, h]
  | _ => rfl

/-- What the store does not write itself is the parameter of a value. -/
theorem columnValue_eq_ok {name : String} {ty : FieldType} {sql : Sql}
    (hstored : Gate.isReadOnly name = false) :
    columnValue className attributes (name, ty) = .ok sql ↔
      ∃ v p, fillIn className name ty (givenValue attributes name) = .ok v ∧
        ty.bind v = .ok p ∧ sql = .param p := by
  simp only [Gate.isReadOnly, List.contains_cons, List.contains_nil, Bool.or_eq_false_iff,
    beq_eq_false_iff_ne] at hstored
  obtain ⟨hversion, hcreated, hupdated, -⟩ := hstored
  unfold columnValue
  dsimp only
  rw [if_neg hversion, if_neg (not_or.mpr ⟨hcreated, hupdated⟩)]
  cases givenValue attributes name <;>
    simp only [fillIn, Result.bind_eq_ok, Result.pure_eq_ok] <;> grind

/-! ## Values that are asked for -/

/-- A key of its own is asked for first. -/
theorem givenValue_of_key (hkeys : (attributes.map (·.1)).Nodup) (h : (key, value) ∈ attributes) :
    givenValue attributes key = value := by
  rw [givenValue, Json.member?_of_mem hkeys h]

/-- Below a key the value is asked for by the rest of the names. -/
theorem givenValue_below (hkeys : (attributes.map (·.1)).Nodup) (h : (key, value) ∈ attributes)
    {rest : String} (hkey : Text.split '.' key = [key])
    (hown : Json.member? attributes (key ++ "." ++ rest) = none) :
    givenValue attributes (key ++ "." ++ rest) = Value.getPath value rest := by
  rw [givenValue, hown]
  dsimp only
  rw [Value.getPath, Text.split_append, hkey, List.singleton_append, List.foldl_cons, Value.getPath]
  congr 1
  rw [Value.step, Json.member?_of_mem hkeys h]
  rfl

/-- A key that is neither the name that is asked for nor the field it starts with is not missed. -/
theorem givenValue_eraseMember {name first : String} {rest : List String} (hname : name ≠ key)
    (hsplit : Text.split '.' name = first :: rest) (hfirst : first ≠ key) :
    givenValue (Json.eraseMember attributes key) name = givenValue attributes name := by
  simp only [givenValue, Json.member?_eraseMember hname, Value.getPath, hsplit, List.foldl_cons,
    Value.step, Json.member?_eraseMember hfirst]

/-! ## What a row keeps -/

/-- What the row of a new object keeps of the value of a key, by the column the key resolves to. -/
structure Keeps (s : Schema) (className : String) (c : Class) (attributes : List (String × Json))
    (row : List (String × Sql)) (key : String) (value : Json) (column : Column) : Prop where
  /-- A field or a dotted leaf of a shape that has a column is bound to the value. -/
  whole : column.path = .column → column.type.columnType?.isSome = true →
    ∃ p, column.type.bind value = .ok p ∧ (key, .param p) ∈ row
  /-- A field that is a shape is bound leaf by leaf, but for leaves that have keys of their own. -/
  spread : (c.field? key).isSome = true → column.type.isShape = true →
    ∀ rest leaf, (key ++ "." ++ rest, leaf) ∈ column.type.leaves key →
      leaf.columnType?.isSome = true → Json.member? attributes (key ++ "." ++ rest) = none →
        ∃ p, leaf.bind (orDefault leaf (Value.getPath value rest)) = .ok p ∧
          (key ++ "." ++ rest, .param p) ∈ row
  /-- A place in untyped JSON, an element, a path on another class, a derived relation and a shape
  inside a shape are lost: without the key the row is the same. -/
  lost : column.path ≠ .column ∨ column.type.isDerived = true ∨
      (c.field? key = none ∧ column.type.isShape = true) →
    Write.row s className (Json.eraseMember attributes key) = .ok row

/-- A field of a class resolves to its whole column. -/
theorem column_of_field (hs : s.Accepted) (hc : s.class? className = some c) {ty : FieldType}
    (hf : c.field? key = some ty) : s.column className key = .ok ⟨key, ty, .column⟩ := by
  refine (hs.column_eq_column hc).mpr ⟨?_, rfl⟩
  rw [Path.split_name (hs.wellTyped hc hf).1]
  exact Class.below?_eq_some.mpr ⟨key, [], ty, rfl, hf, FieldType.below?_nil ty⟩

/-- No default field lies inside another field. -/
theorem not_isDefault_below (hs : s.Accepted) (hc : s.class? className = some c) {ty : FieldType}
    (hf : c.field? key = some ty) (rest : String) :
    Field.isDefault (key ++ "." ++ rest) = false := by
  have hnames : ∀ name ∈ Field.defaultNames, Text.split '.' name = [name] := by decide
  rw [Field.isDefault, List.contains_eq_mem, decide_eq_false_iff_not]
  intro hmem
  have hsplit := hnames _ hmem
  rw [Text.split_append, Path.split_name (hs.wellTyped hc hf).1] at hsplit
  have hempty : Text.split '.' rest = [] := (List.cons.inj hsplit).2
  exact Text.split_ne_nil _ _ hempty

theorem isReadOnly_iff {name : String} :
    Gate.isReadOnly name = true ↔ name ∈ [Field.version, Field.createdAt, Field.updatedAt] := by
  rw [Gate.isReadOnly, List.contains_eq_mem, decide_eq_true_iff]

/-- What the store writes itself are fields of every class. -/
theorem not_isReadOnly_of_own {name : String} (h : Field.isDefault name = false) :
    Gate.isReadOnly name = false := by
  have hdefault : ∀ field ∈ [Field.version, Field.createdAt, Field.updatedAt],
      Field.isDefault field = true := by decide
  refine Bool.eq_false_iff.mpr fun hread => ?_
  rw [hdefault name (isReadOnly_iff.mp hread)] at h
  cases h

/-- A key that starts with a field the store does not write is no field that it writes. -/
theorem not_isReadOnly_of_head (h : Gate.isReadOnly (Gate.keyHead key) = false) :
    Gate.isReadOnly key = false := by
  have hself : ∀ field ∈ [Field.version, Field.createdAt, Field.updatedAt],
      Gate.keyHead field = field := by decide
  refine Bool.eq_false_iff.mpr fun hread => ?_
  rw [hself key (isReadOnly_iff.mp hread), hread] at h
  cases h

section

variable (hs : s.Accepted) (hc : s.class? className = some c)
  (hkeys : (attributes.map (·.1)).Nodup) (hmem : (key, value) ∈ attributes)
  (hcells : List.Forall₂ (IsCell className attributes) c.columns row)

include hs hc hkeys hmem hcells

theorem keeps_whole (hvalue : value ≠ .null) (hstored : Gate.isReadOnly key = false)
    {column : Column} (hcolumn : s.column className key = .ok column)
    (hpath : column.path = .column) (htype : column.type.columnType?.isSome = true) :
    ∃ p, column.type.bind value = .ok p ∧ (key, .param p) ∈ row := by
  obtain ⟨name, ty, path⟩ := column
  obtain rfl : path = .column := hpath
  have hbelow := ((hs.column_eq_column hc).mp hcolumn).1
  obtain ⟨sql, hsql, hcell⟩ := exists_cell hcells ((hs.mem_columns_iff hc).mpr ⟨hbelow, htype⟩)
  obtain ⟨v, p, hfill, hbind, rfl⟩ := (columnValue_eq_ok hstored).mp hsql
  rw [givenValue_of_key hkeys hmem, fillIn_of_ne_null hvalue, Except.ok.injEq] at hfill
  exact ⟨p, hfill ▸ hbind, hcell⟩

theorem keeps_leaf {ty leaf : FieldType} (hf : c.field? key = some ty) {rest : String}
    (hleaf : (key ++ "." ++ rest, leaf) ∈ ty.leaves key) (htype : leaf.columnType?.isSome = true)
    (hown : Json.member? attributes (key ++ "." ++ rest) = none) :
    ∃ p, leaf.bind (orDefault leaf (Value.getPath value rest)) = .ok p ∧
      (key ++ "." ++ rest, .param p) ∈ row := by
  have hcolumn : (key ++ "." ++ rest, leaf) ∈ c.columns := by
    refine List.mem_filter.mpr ⟨List.mem_flatMap.mpr ⟨(key, ty), ?_, hleaf⟩, htype⟩
    exact (hs.field?_iff hc).mp hf
  have hdefault := not_isDefault_below hs hc hf rest
  obtain ⟨sql, hsql, hcell⟩ := exists_cell hcells hcolumn
  obtain ⟨v, p, hfill, hbind, rfl⟩ :=
    (columnValue_eq_ok (not_isReadOnly_of_own hdefault)).mp hsql
  have hsplit : Text.split '.' key = [key] := Path.split_name (hs.wellTyped hc hf).1
  rw [fillIn_of_own hdefault, Except.ok.injEq, givenValue_below hkeys hmem hsplit hown] at hfill
  exact ⟨p, hfill ▸ hbind, hcell⟩

end

/-- What no column asks for may as well be left out. -/
theorem row_eraseMember (hs : s.Accepted) (hc : s.class? className = some c)
    (hrow : Write.row s className attributes = .ok row) {column : Column}
    (hcolumn : s.column className key = .ok column)
    (hlost : column.path ≠ .column ∨ column.type.isDerived = true ∨
      (c.field? key = none ∧ column.type.isShape = true)) :
    Write.row s className (Json.eraseMember attributes key) = .ok row := by
  obtain ⟨_, hc', hchecked, hcells⟩ := row_eq_ok.mp hrow
  obtain rfl := Option.some.inj (hc.symm.trans hc')
  refine row_eq_ok.mpr ⟨c, hc, fun a ha => hchecked a (List.mem_filter.mp ha).1, ?_⟩
  -- A column is not called like the key, and starts with it only if the key is a shape's field.
  have hasked : ∀ column ∈ c.columns,
      columnValue className (Json.eraseMember attributes key) column =
        columnValue className attributes column := by
    rintro ⟨name, ty⟩ hmem
    obtain ⟨hbelow, htype⟩ := (hs.mem_columns_iff hc).mp hmem
    obtain ⟨hshape, hderived⟩ := FieldType.columnType?_isSome.mp htype
    obtain ⟨first, rest, fieldType, hsplit, hf, hrest⟩ := Class.below?_eq_some.mp hbelow
    refine columnValue_congr (givenValue_eraseMember ?_ hsplit ?_)
    · rintro rfl
      have hwhole := (hs.column_eq_column hc).mpr ⟨hbelow, rfl⟩
      cases Except.ok.inj (hcolumn.symm.trans hwhole)
      simp [hshape, hderived] at hlost
    · rintro rfl
      cases Except.ok.inj (hcolumn.symm.trans (column_of_field hs hc hf))
      rcases hlost with hpath | hlost | ⟨hnone, -⟩
      · exact hpath rfl
      · have hself : fieldType.isShape = false := by
          cases fieldType <;> first | rfl | cases hlost
        obtain ⟨-, rfl⟩ := FieldType.below?_of_not_shape hself hrest
        rw [hderived] at hlost
        cases hlost
      · rw [hf] at hnone
        cases hnone
  exact cells_congr hasked hcells

/-- What becomes of each attribute that is not null, if the object is admitted. -/
theorem row_keeps {g : Gate} (hs : g.schema.Accepted)
    (hchecked : g.checkAttributes className attributes .create = .ok ())
    (hkeys : (attributes.map (·.1)).Nodup)
    (hrow : Write.row g.schema className attributes = .ok row)
    (hc : g.schema.class? className = some c) (hmem : (key, value) ∈ attributes)
    (hvalue : value ≠ .null) :
    ∃ column, g.schema.column className key = .ok column ∧
      Keeps g.schema className c attributes row key value column := by
  obtain ⟨c', hc', hattributes⟩ := Gate.checkAttributes_eq_ok.mp hchecked
  obtain rfl := Option.some.inj (hc.symm.trans hc')
  obtain ⟨-, hwritable, -⟩ := Gate.checkAttribute_eq_ok.mp (hattributes _ hmem)
  obtain ⟨_, hc', -, hcells⟩ := row_eq_ok.mp hrow
  obtain rfl := Option.some.inj (hc.symm.trans hc')
  obtain ⟨column, hcolumn⟩ : ∃ column, g.schema.column className key = .ok column := by
    rcases hwritable.resolves with hhead | hresolved
    · obtain ⟨ty, hf, -⟩ := hwritable.field
      rw [← hhead] at hf
      exact ⟨_, column_of_field hs hc hf⟩
    · exact hresolved
  refine ⟨column, hcolumn, ?_, ?_, row_eraseMember hs hc hrow hcolumn⟩
  · exact keeps_whole hs hc hkeys hmem hcells hvalue (not_isReadOnly_of_head hwritable.stored)
      hcolumn
  · intro hfield hshape rest leaf hleaf htype hown
    obtain ⟨ty, hf⟩ := Option.isSome_iff_exists.mp hfield
    cases Except.ok.inj (hcolumn.symm.trans (column_of_field hs hc hf))
    exact keeps_leaf hs hc hkeys hmem hcells hf hleaf htype hown

/-! ## Insertions -/

/--
An insertion writes a row for each of its objects, one cell for each column of the class; and each
attribute that is not null is kept in the row or, if it leads to no column, lost.
-/
theorem insert_keeps {document : Json} {g : Gate} (hs : Schema.ofJson document = .ok g.schema)
    {q : Query} {objects : List (List (String × Json))}
    (hchecked : ∀ object ∈ objects, g.checkAttributes q.className object .create = .ok ())
    (hkeys : ∀ object ∈ objects, (object.map (·.1)).Nodup) {n n' : Nat} {sql : Sql}
    (hrun : Compile.Runs (insert g.schema q objects) n sql n') :
    ∃ c first rest query, g.schema.class? q.className = some c ∧
      sql = withSubqueries [insertInto q.className first (.seq [" VALUES ",
        .join ((first :: rest).map fun row => .seq ["(", valueList row, ")"]) ", "])] query ∧
      List.Forall₂ (fun object row => row.map (·.1) = c.columns.map (·.1) ∧
        ∀ key value, (key, value) ∈ object → value ≠ .null →
          ∃ column, g.schema.column q.className key = .ok column ∧
            Keeps g.schema q.className c object row key value column) objects (first :: rest) := by
  have hs := Schema.accepted_of_ofJson hs
  unfold insert at hrun
  obtain ⟨rows, _, hread, hrun⟩ := Compile.runs_bind.mp hrun
  obtain ⟨hrows, rfl⟩ := Compile.runs_lift.mp hread
  cases rows with
  | nil => exact (Compile.not_runs_throw hrun).elim
  | cons first rest =>
    obtain ⟨⟨list, scope⟩, _, -, hrun⟩ := Compile.runs_bind.mp hrun
    obtain ⟨rfl, -⟩ := Compile.runs_pure.mp hrun
    obtain ⟨object, -, hobject⟩ := Result.exists_of_mapM_eq_ok hrows first List.mem_cons_self
    obtain ⟨c, hc, -⟩ := row_eq_ok.mp hobject
    refine ⟨c, first, rest, readBack q list scope inserted, hc, rfl, ?_⟩
    have hpairs := (List.forall₂_and_left _ _).mpr
      ⟨fun object hmem => hmem, Result.mapM_eq_ok.mp hrows⟩
    refine hpairs.imp fun object row ⟨hmem, hrow⟩ => ⟨?_, fun key value hkey hvalue => ?_⟩
    · obtain ⟨_, hc', -, hcells⟩ := row_eq_ok.mp hrow
      obtain rfl := Option.some.inj (hc.symm.trans hc')
      exact names_of_cells hcells
    · exact row_keeps hs (hchecked object hmem) (hkeys object hmem) hrow hc hkey hvalue

/-- Notes have an address with a place, and data that nothing is known of. -/
def placedNotes : Json :=
  .obj [("Note", .obj [("fields", .obj [
    ("address", .obj [("type", .str "shape"), ("shape", .obj [
      ("city", .str "string"),
      ("place", .obj [("type", .str "shape"), ("shape", .obj [("label", .str "string")])])])]),
    ("data", .str "object")])])]

/-- The notes as a schema. -/
def placedSchema : Schema where
  classes := [("Note", {
    fields := Field.defaults.foldl (fun t f => t.insert f.1 f.2)
      [("address", .shape [("city", .primitive .string none),
        ("place", .shape [("label", .primitive .string none)])]),
      ("data", .primitive .object none)] })]

/-- Everyone's access to the notes. -/
def placedGate : Gate where
  schema := placedSchema
  auth := Auth.anonymous
  extraFilter := none
  maxDepth := 8
  now := ⟨0, 0⟩

/-- All notes. -/
def placedQuery : Query where
  className := "Note"
  base := {}
  includes := ["_id"]
  extraFilter := none
  relatedBy := none

/-- A note whose city stands in its address, and whose place has a key of its own. -/
def placedNote : List (String × Json) :=
  [("_id", .str "n1"), ("address", .obj [("city", .str "Rome")]),
    ("address.place", .obj [("label", .str "home")]), ("data.size", .str "small")]

/-- The note is inserted: its city is stored, its place is not. -/
theorem insert_keeps_of_placedNote :
    ∃ sql n' row, Schema.ofJson placedNotes = .ok placedGate.schema ∧
      placedGate.checkAttributes "Note" placedNote .create = .ok () ∧
      (placedNote.map (·.1)).Nodup ∧
      Compile.Runs (insert placedGate.schema placedQuery [placedNote]) 0 sql n' ∧
      (∃ p, FieldType.bind (.primitive .string none) (.str "Rome") = .ok p ∧
        ("address.city", .param p) ∈ row) ∧
      Write.row placedGate.schema "Note" (Json.eraseMember placedNote "address.place") =
        .ok row := by
  have hschema : Schema.ofJson placedNotes = .ok placedGate.schema := by rfl
  have hchecked : placedGate.checkAttributes "Note" placedNote .create = .ok () := by rfl
  have hkeys : (placedNote.map (·.1)).Nodup := by decide
  obtain ⟨sql, n', hrun, -⟩ := Compile.exists_runs_of_any
    (x := insert placedGate.schema placedQuery [placedNote]) (n := 0) (p := fun _ => true)
    (by decide +kernel)
  obtain ⟨c, row, rest, -, hc, -, hrows⟩ := insert_keeps hschema
    (List.forall_mem_singleton.mpr hchecked) (List.forall_mem_singleton.mpr hkeys) hrun
  obtain rfl : _ = c := Option.some.inj hc
  obtain ⟨⟨-, hkeeps⟩, -⟩ := List.forall₂_cons.mp hrows
  obtain ⟨address, haddress, hspread⟩ := hkeeps "address" (.obj [("city", .str "Rome")])
    (List.mem_cons_of_mem _ List.mem_cons_self) nofun
  obtain rfl : _ = address := Except.ok.inj haddress
  obtain ⟨place, hplace, hlost⟩ := hkeeps "address.place" (.obj [("label", .str "home")])
    (List.mem_cons_of_mem _ (List.mem_cons_of_mem _ List.mem_cons_self)) nofun
  obtain rfl : _ = place := Except.ok.inj hplace
  have hcity := hspread.spread rfl rfl "city" (.primitive .string none) List.mem_cons_self rfl rfl
  exact ⟨sql, n', row, hschema, hchecked, hkeys, hrun, hcity, hlost.lost (.inr (.inr ⟨rfl, rfl⟩))⟩

/-- A shape inside a shape and a place in untyped JSON are admitted, and no column gets them. -/
theorem insert_drops_inner_shape :
    Schema.ofJson placedNotes = .ok placedGate.schema ∧
      placedGate.checkAttributes "Note" placedNote .create = .ok () ∧
      (∃ sql n', Compile.Runs (insert placedGate.schema placedQuery [placedNote]) 0 sql n') ∧
      ∃ row, Write.row placedGate.schema "Note" placedNote = .ok row ∧
        row.lookup "address.place.label" = some (.param .null) ∧
        row.lookup "data" = some (.param .null) := by
  obtain ⟨sql, n', hrun, -⟩ := Compile.exists_runs_of_any
    (x := insert placedGate.schema placedQuery [placedNote]) (n := 0) (p := fun _ => true)
    (by decide +kernel)
  exact ⟨by rfl, by rfl, ⟨sql, n', hrun⟩, _, by rfl, by rfl, by rfl⟩

end Write

end ObjectQuery
