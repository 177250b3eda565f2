import ObjectQuery.Proofs.Statement.NewRows
import ObjectQuery.Proofs.Statement.Plan
import ObjectQuery.Statement.Tables

/-!
# Created columns

The statements that prepare a store create, for each class, a table with the default fields and a column
for each leaf that has one. What is left without a column are shapes and derived relations. A derived
relation is found through the class it leads to; as a member of a shape it is a leaf all the same, and
that is where a statement can name a column that nothing creates.
-/

namespace ObjectQuery

open ObjectQuery.Path (dotted)

namespace Tables

/-- A statement gives the table of a class a column: it creates the table with it, or adds it. -/
inductive Creates (className column : String) : Sql → Prop where
  | table (h : column ∈ Field.declarations.map (·.1)) :
    Creates className column (createTable className)
  | added {ty : FieldType} {sql : Sql} (h : addColumn className column ty = some sql) :
    Creates className column sql

/-- The statements that create the table of a class and its columns. -/
def columnStatements (className : String) (c : Class) : List Sql :=
  createTable className ::
    (ownColumns c).filterMap fun (column, ty) => addColumn className column ty

/-- How the statements begin that give a table columns. -/
def columnWords : List String := ["CREATE TABLE IF NOT EXISTS ", "ALTER TABLE "]

theorem addColumn_begins {className column : String} {ty : FieldType} {sql : Sql}
    (h : addColumn className column ty = some sql) :
    ∃ rest, sql = .seq (.raw "ALTER TABLE " :: .ident className :: rest) := by
  obtain ⟨type, -, rfl⟩ := Option.map_eq_some_iff.mp h
  exact ⟨_, rfl⟩

theorem Creates.begins {className column : String} {sql : Sql} (h : Creates className column sql) :
    ∃ word rest, word ∈ columnWords ∧ sql = .seq (.raw word :: .ident className :: rest) := by
  cases h with
  | table => exact ⟨_, _, List.mem_cons_self, rfl⟩
  | added h =>
    obtain ⟨rest, rfl⟩ := addColumn_begins h
    exact ⟨_, _, List.mem_cons_of_mem _ List.mem_cons_self, rfl⟩

theorem begins_of_mem {className : String} {c : Class} {sql : Sql}
    (h : sql ∈ columnStatements className c) :
    ∃ word rest, sql = .seq (.raw word :: .ident className :: rest) := by
  rcases List.mem_cons.mp h with rfl | h
  · exact ⟨_, _, rfl⟩
  · obtain ⟨column, -, hadded⟩ := List.mem_filterMap.mp h
    obtain ⟨rest, rfl⟩ := addColumn_begins hadded
    exact ⟨_, _, rfl⟩

/-- The statements that prepare a store: for vectors, and for the columns and indexes of each class. -/
theorem mem_prepare {s : Schema} {statements : List Sql} {sql : Sql}
    (h : prepare s = .ok statements) :
    sql ∈ statements ↔ (s.hasVectors = true ∧ sql = "CREATE EXTENSION IF NOT EXISTS vector") ∨
      ∃ m ∈ s.classes, sql ∈ columnStatements m.1 m.2 ∨
        ∃ index ∈ m.2.indexes, createIndex s m.1 index = .ok sql := by
  obtain ⟨tables, htables, hstatements⟩ := Result.bind_eq_ok.mp h
  obtain rfl := Result.pure_eq_ok.mp hstatements
  have hclass : ∀ {m : String × Class} {own : List Sql}, ofClass s m.1 m.2 = .ok own →
      (sql ∈ own ↔ sql ∈ columnStatements m.1 m.2 ∨
        ∃ index ∈ m.2.indexes, createIndex s m.1 index = .ok sql) := by
    intro m own hown
    obtain ⟨indexes, hindexes, hall⟩ := Result.bind_eq_ok.mp hown
    obtain rfl := Result.pure_eq_ok.mp hall
    refine List.mem_append.trans (or_congr_right ⟨Result.exists_of_mapM_eq_ok hindexes sql, ?_⟩)
    rintro ⟨index, hindex, hsql⟩
    obtain ⟨other, hother, hsame⟩ :=
      Result.exists_right_of_forall₂ (Result.mapM_eq_ok.mp hindexes) index hindex
    cases hsql.symm.trans hsame
    exact hother
  rw [List.mem_append, List.mem_flatten]
  refine or_congr ?_ ?_
  · cases s.hasVectors <;> simp
  · constructor
    · rintro ⟨own, hown, hsql⟩
      obtain ⟨m, hm, hof⟩ := Result.exists_of_mapM_eq_ok htables own hown
      exact ⟨m, hm, (hclass hof).mp hsql⟩
    · rintro ⟨m, hm, hsql⟩
      obtain ⟨own, hown, hof⟩ :=
        Result.exists_right_of_forall₂ (Result.mapM_eq_ok.mp htables) m hm
      exact ⟨own, hown, (hclass hof).mpr hsql⟩

end Tables

namespace Schema

/-- A schema is accepted, and every class has the default fields with their types. -/
structure Complete (s : Schema) : Prop where
  accepted : s.Accepted
  defaults : ∀ className c, s.class? className = some c →
    ∀ f ∈ Field.defaults, c.field? f.1 = some f.2

/-- The type that a dotted name leads to in a class. -/
def typeIn? (s : Schema) (className column : String) : Option FieldType :=
  (s.class? className).bind (·.below? (Text.split '.' column))

/-- A column of a class that the statements for it create. -/
def Creates (s : Schema) (className column : String) : Prop :=
  ∃ c, s.class? className = some c ∧
    ∃ sql ∈ Tables.columnStatements className c, Tables.Creates className column sql

/-- A derived relation among the leaves of a shape. -/
def DerivedLeaf (s : Schema) (className column : String) : Prop :=
  ∃ c field fields target foreign, s.class? className = some c ∧
    c.field? field = some (.shape fields) ∧
    (column, .relation target (some foreign)) ∈ (FieldType.shape fields).leaves field

/-- A column that a statement may name: one that is created, or a derived relation in a shape. -/
def Provides (s : Schema) (className column : String) : Prop :=
  s.Creates className column ∨ s.DerivedLeaf className column

variable {s : Schema} {className column : String} {c : Class} {ty : FieldType}

theorem complete_of_ofJson {document : Json} (h : ofJson document = .ok s) : s.Complete :=
  ⟨accepted_of_ofJson h, fun _ _ hc => field?_default_of_ofJson h hc⟩

/-- What creates a column is among the statements that prepare the store. -/
theorem Creates.mem_prepare (h : s.Creates className column) {statements : List Sql}
    (hprepare : Tables.prepare s = .ok statements) :
    ∃ sql ∈ statements, Tables.Creates className column sql := by
  obtain ⟨c, hc, sql, hsql, hcreates⟩ := h
  exact ⟨sql, (Tables.mem_prepare hprepare).mpr
    (.inr ⟨(className, c), Table.mem_of_find?_eq_some hc, .inl hsql⟩), hcreates⟩

/-- An index gives no table a column. -/
theorem not_creates_of_createIndex {other : String} {index : Index} {sql : Sql}
    (h : Tables.createIndex s other index = .ok sql) : ¬ Tables.Creates className column sql := by
  have hhead : ∃ head rest, sql = .seq (.raw head :: rest) ∧ head ∉ Tables.columnWords := by
    cases index with
    | keys entries unique =>
      obtain ⟨-, h⟩ := Result.refuse_eq_ok.mp h
      obtain ⟨columns, -, h⟩ := Result.bind_eq_ok.mp h
      cases h
      cases unique <;> exact ⟨_, _, rfl, by decide⟩
    | vector field method =>
      obtain ⟨dimension, -, h⟩ := Result.bind_eq_ok.mp h
      cases h
      exact ⟨_, _, rfl, by decide⟩
  obtain ⟨head, rest, rfl, hother⟩ := hhead
  intro hcreates
  obtain ⟨word, _, hword, hsame⟩ := hcreates.begins
  cases hsame
  exact hother hword

/-- What gives a table a column among the statements that prepare the store is one for its class. -/
theorem creates_of_mem_prepare (hs : s.Accepted) {statements : List Sql} {sql : Sql}
    (hprepare : Tables.prepare s = .ok statements) (hsql : sql ∈ statements)
    (h : Tables.Creates className column sql) : s.Creates className column := by
  obtain ⟨word, rest, -, hbegins⟩ := h.begins
  rcases (Tables.mem_prepare hprepare).mp hsql with ⟨-, rfl⟩ | ⟨⟨other, c⟩, hc, hsql | hindex⟩
  · cases hbegins
  · obtain ⟨_, _, hother⟩ := Tables.begins_of_mem hsql
    obtain rfl : other = className := by
      rw [hother] at hbegins
      cases hbegins
      rfl
    exact ⟨c, hs.ordered.find?_eq_some_iff.mpr hc, sql, hsql, h⟩
  · obtain ⟨index, -, hindex⟩ := hindex
    exact (not_creates_of_createIndex hindex h).elim

theorem typeIn?_eq_some :
    s.typeIn? className column = some ty ↔
      ∃ c, s.class? className = some c ∧ c.below? (Text.split '.' column) = some ty :=
  Option.bind_eq_some_iff

theorem field?_eq_some :
    s.field? className column = some ty ↔
      ∃ c, s.class? className = some c ∧ c.field? column = some ty :=
  Option.bind_eq_some_iff

namespace Accepted

/-- The type of a field is that which its name leads to. -/
theorem typeIn?_of_field? (hs : s.Accepted) (h : s.field? className column = some ty) :
    s.typeIn? className column = some ty := by
  obtain ⟨c, hc, hf⟩ := field?_eq_some.mp h
  rw [typeIn?, hc, Option.bind_some, Path.split_name (hs.wellTyped hc hf).1]
  exact Class.below?_eq_some.mpr ⟨column, [], ty, rfl, hf, FieldType.below?_nil ty⟩

/-- A name leads to a type in its first field, which it is unless the field is a shape. -/
theorem exists_field (hs : s.Accepted) (hc : s.class? className = some c)
    (h : c.below? (Text.split '.' column) = some ty) :
    ∃ field rest fieldType, column = dotted field rest ∧ c.field? field = some fieldType ∧
      fieldType.below? rest = some ty ∧ (rest ≠ [] → fieldType.isShape = true) := by
  obtain ⟨field, rest, fieldType, hsplit, hf, hbelow⟩ := Class.below?_eq_some.mp h
  have hname := Text.split_injective (hsplit.trans (hs.split_dotted hc hf hbelow).symm)
  refine ⟨field, rest, fieldType, hname, hf, hbelow, fun hrest => ?_⟩
  by_contra hshape
  exact hrest (FieldType.below?_of_not_shape (Bool.eq_false_iff.mpr hshape) hbelow).1

end Accepted

namespace Complete

/-- What has a column is created. -/
theorem creates (hs : s.Complete) (h : s.typeIn? className column = some ty)
    (hty : ty.columnType?.isSome = true) : s.Creates className column := by
  obtain ⟨c, hc, hbelow⟩ := typeIn?_eq_some.mp h
  obtain ⟨field, rest, fieldType, rfl, hf, hleaf, hshape⟩ := hs.accepted.exists_field hc hbelow
  refine ⟨c, hc, ?_⟩
  by_cases hdefault : Field.isDefault field = true
  · have hmem : field ∈ Field.defaults.map (·.1) := by
      simpa [Field.isDefault, Field.defaultNames, Field.defaults] using hdefault
    obtain ⟨f, hfield, rfl⟩ := List.mem_map.mp hmem
    obtain rfl := Option.some.inj (hf.symm.trans (hs.defaults className c hc f hfield))
    have hprimitive : ∀ f ∈ Field.defaults, f.2.isShape = false := by decide
    obtain rfl : rest = [] := by
      by_contra hrest
      rw [hprimitive f hfield] at hshape
      cases hshape hrest
    exact ⟨_, List.mem_cons_self, .table hmem⟩
  · obtain ⟨type, hcolumn⟩ := Option.isSome_iff_exists.mp hty
    have hown : (dotted field rest, ty) ∈ Tables.ownColumns c := by
      refine List.mem_flatMap.mpr ⟨(field, fieldType), List.mem_filter.mpr
        ⟨(hs.accepted.field?_iff hc).mp hf, by simpa using hdefault⟩, ?_⟩
      exact (FieldType.mem_leaves_iff (hs.accepted.wellTyped hc hf).2).mpr
        ⟨rest, hleaf, (FieldType.columnType?_isSome.mp hty).1, rfl⟩
    obtain ⟨sql, hsql⟩ : ∃ sql, Tables.addColumn className (dotted field rest) ty = some sql := by
      rw [Tables.addColumn, hcolumn]
      exact ⟨_, rfl⟩
    exact ⟨sql, List.mem_cons_of_mem _ (List.mem_filterMap.mpr ⟨_, hown, hsql⟩), .added hsql⟩

/-- The id of a class is created. -/
theorem creates_id (hs : s.Complete)
    (hc : (s.class? className).isSome = true) : s.Creates className Field.id := by
  obtain ⟨c, hc⟩ := Option.isSome_iff_exists.mp hc
  have hid := hs.defaults className c hc (Field.id, .primitive .string none) List.mem_cons_self
  exact hs.creates (hs.accepted.typeIn?_of_field? (field?_eq_some.mpr ⟨c, hc, hid⟩)) rfl

/-- A leaf that is no field of its own is provided, and so is one that is not derived. -/
theorem provides (hs : s.Complete) (h : s.typeIn? className column = some ty)
    (hshape : ty.isShape = false)
    (hinner : ty.isDerived = true → s.field? className column = none) :
    s.Provides className column := by
  by_cases hderived : ty.isDerived = true
  · obtain ⟨target, foreign, rfl⟩ : ∃ target foreign, ty = .relation target (some foreign) := by
      cases ty with
      | relation target foreign =>
        cases foreign with
        | some foreign => exact ⟨target, foreign, rfl⟩
        | none => cases hderived
      | _ => cases hderived
    obtain ⟨c, hc, hbelow⟩ := typeIn?_eq_some.mp h
    obtain ⟨field, rest, fieldType, rfl, hf, hleaf, hfield⟩ := hs.accepted.exists_field hc hbelow
    have hrest : rest ≠ [] := by
      rintro rfl
      have hfield := field?_eq_some.mpr ⟨c, hc, hf⟩
      exact absurd (hfield.symm.trans (hinner rfl)) (Option.some_ne_none _)
    obtain ⟨fields, rfl⟩ : ∃ fields, fieldType = .shape fields := by
      cases fieldType with
      | shape fields => exact ⟨fields, rfl⟩
      | _ => cases hfield hrest
    exact .inr ⟨c, field, fields, target, foreign, hc, hf,
      (FieldType.mem_leaves_iff (hs.accepted.wellTyped hc hf).2).mpr ⟨rest, hleaf, hshape, rfl⟩⟩
  · exact .inl (hs.creates h
      (FieldType.columnType?_isSome.mpr ⟨hshape, Bool.eq_false_iff.mpr hderived⟩))

/-- No statement creates a column for a derived relation among the leaves of a shape. -/
theorem not_creates (hs : s.Complete) (h : s.DerivedLeaf className column) :
    ¬ s.Creates className column := by
  obtain ⟨c, field, fields, target, foreign, hc, hf, hleaf⟩ := h
  obtain ⟨names, hbelow, -, rfl⟩ :=
    (FieldType.mem_leaves_iff (hs.accepted.wellTyped hc hf).2).mp hleaf
  have hsplit := hs.accepted.split_dotted hc hf hbelow
  rintro ⟨c', hc', sql, hsql, hcreates⟩
  obtain rfl := Option.some.inj (hc.symm.trans hc')
  cases hcreates with
  | table hdefault =>
    have hnames : ∀ name ∈ Field.declarations.map (·.1), isName name = true := by decide
    rw [Path.split_name (hnames _ hdefault)] at hsplit
    obtain ⟨-, rfl⟩ := List.cons.inj hsplit
    cases hbelow
  | @added ty sql hadded =>
    obtain ⟨type, htype, rfl⟩ := Option.map_eq_some_iff.mp hadded
    rcases List.mem_cons.mp hsql with htable | hsql
    · simp [Tables.createTable] at htable
    obtain ⟨⟨column, other⟩, hown, hsame⟩ := List.mem_filterMap.mp hsql
    obtain ⟨type', htype', hsame⟩ := Option.map_eq_some_iff.mp hsame
    obtain ⟨rfl, -⟩ : column = dotted field names ∧ type' = type := by simpa using hsame
    obtain ⟨f, hfield, hmem⟩ := List.mem_flatMap.mp hown
    have hall := (hs.accepted.mem_leaves_iff hc).mp
      (List.mem_flatMap.mpr ⟨f, List.mem_of_mem_filter hfield, hmem⟩)
    rw [hsplit, Class.below?, hf, Option.bind_some, hbelow] at hall
    obtain rfl := Option.some.inj hall.1
    cases htype'

/-- The leaves of a shape are provided. -/
theorem provides_of_leaf (hs : s.Complete) {name : String} {leaf : FieldType}
    (h : s.typeIn? className name = some ty) (hshape : ty.isShape = true)
    (hleaf : (column, leaf) ∈ ty.leaves name) : s.Provides className column := by
  obtain ⟨c, hc, hbelow⟩ := typeIn?_eq_some.mp h
  obtain ⟨field, rest, fieldType, rfl, hf, hrest, -⟩ := hs.accepted.exists_field hc hbelow
  obtain ⟨names, hnames, hplain, rfl⟩ :=
    (FieldType.mem_leaves_iff (hs.accepted.wellTyped_below hc hbelow).2).mp hleaf
  have hall : fieldType.below? (rest ++ names) = some leaf := by
    rw [FieldType.below?_append, hrest, Option.bind_some, hnames]
  rw [← Path.dotted_append]
  have hsplit := hs.accepted.split_dotted hc hf hall
  have htype : s.typeIn? className (dotted field (rest ++ names)) = some leaf := by
    rw [typeIn?, hc, Option.bind_some, hsplit]
    exact Class.below?_eq_some.mpr ⟨field, _, fieldType, rfl, hf, hall⟩
  refine hs.provides htype hplain fun _ => Option.eq_none_iff_forall_ne_some.mpr fun other hother => ?_
  obtain ⟨c', hc', hf'⟩ := field?_eq_some.mp hother
  obtain rfl := Option.some.inj (hc.symm.trans hc')
  rw [Path.split_name (hs.accepted.wellTyped hc hf').1] at hsplit
  obtain rfl : names = [] := (List.append_eq_nil_iff.mp (List.cons.inj hsplit).2.symm).2
  obtain rfl : ty = leaf := by simpa using hnames
  rw [hshape] at hplain
  cases hplain

/-- The columns that a plan lists are provided. -/
theorem provides_of_isColumn (hs : s.Complete)
    (hc : s.class? className = some c) (h : Plan.IsColumn c (column, ty)) :
    s.Provides className column := by
  obtain ⟨field, rest, fieldType, hsplit, hf, hreference, hbelow, hshape⟩ := h
  have htype : s.typeIn? className column = some ty := by
    rw [typeIn?, hc, Option.bind_some, hsplit]
    exact Class.below?_eq_some.mpr ⟨field, rest, fieldType, rfl, hf, hbelow⟩
  refine hs.provides htype hshape fun hderived => Option.eq_none_iff_forall_ne_some.mpr ?_
  intro other hother
  obtain ⟨c', hc', hf'⟩ := field?_eq_some.mp hother
  obtain rfl := Option.some.inj (hc.symm.trans hc')
  rw [Path.split_name (hs.accepted.wellTyped hc hf').1] at hsplit
  obtain ⟨rfl, rfl⟩ := List.cons.inj hsplit
  obtain rfl : fieldType = ty := by simpa using hbelow
  have hrefers : fieldType.isReference = true := by
    cases fieldType with
    | relation => rfl
    | _ => cases hderived
  exact Bool.eq_false_iff.mp hreference hrefers

end Complete

end Schema

end ObjectQuery
