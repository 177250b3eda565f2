import ObjectQuery.Proofs.Path.Rendering
import ObjectQuery.Proofs.Schema.Leaves
import ObjectQuery.Proofs.Schema.Passage

/-!
# The two walks along a path

The type walk follows a path to its end, through any number of classes. The search for the column stops
in the first class and leaves the rest to whoever reads the column. The two agree: what the column and
the rest of the path lead to is what the type walk finds. They part in one place only, where the first
reference on a path is a relation without an index: the type walk goes on in the related class, and
there is no column.
-/

namespace ObjectQuery

open ObjectQuery.Path (dotted)

/-- What of a path is left for the class that its column refers to. -/
def ColumnPath.rest? : ColumnPath → Option (List Segment)
  | .relationElement _ rest => some rest
  | .pointer rest => some rest
  | _ => none

namespace Schema

variable {s : Schema} {className path name : String} {ty : FieldType} {segments : List Segment}
  {column : Column} {t : Option FieldType}

/--
The type at the end of a path that begins with a column: the column's own, none inside untyped JSON, a
number for an element of a vector, and behind a reference the type of the rest on the class referred to.
-/
def ColumnLeadsTo (s : Schema) (column : Column) (t : Option FieldType) : Prop :=
  match column.path with
  | .column => t = some column.type
  | .json _ => t = none
  | .vectorElement _ => t = some (.primitive .number none)
  | .relationElement _ rest =>
    ∃ target foreign, column.type = .relation target foreign ∧ s.typeOf target rest = .ok t
  | .pointer rest => ∃ target, column.type = .pointer target ∧ s.typeOf target rest = .ok t

/--
The first reference that segments meet on a class is a relation, perhaps inside shapes, and a field
follows it.
-/
def MeetsRelation (s : Schema) (className : String) (segments : List Segment) : Prop :=
  ∃ c names target foreign field more, s.class? className = some c ∧
    c.below? names = some (.relation target foreign) ∧
    segments = names.map .field ++ .field field :: more

/-! ## Below a column -/

/-- Only untyped JSON can be addressed below its top. -/
theorem walk_primitive {all : List Segment} {kind : PrimitiveKind} {default? : Option Json}
    {segment : Segment} :
    s.walk className all (.primitive kind default?) (segment :: segments) =
      if (FieldType.primitive kind default?).isJson then .ok none
      else .error (unresolved className all) := by
  rw [walk, typeStep]
  change _ = if kind.isJson = true then _ else _
  cases kind.isJson <;> rfl

theorem walk_pointer {all rest : List Segment} {target : String} {segment : Segment} :
    s.walk className all (.pointer target) (segment :: rest) = s.typeOf target (segment :: rest) := by
  have hpassage : (FieldType.pointer target).passage? (segment :: rest) false =
      some ⟨target, segment :: rest, false⟩ := rfl
  exact walk_passage hpassage

/-- Behind a member of a relation the walk goes on in the class of the members. -/
theorem walk_member {all more : List Segment} {target : String} {foreign : Option String} {i : Nat}
    {next : Segment} :
    s.walk className all (.relation target foreign) (.index i :: next :: more) =
      s.typeOf target (next :: more) := by
  have hpassage : (FieldType.relation target foreign).passage? (.index i :: next :: more) false =
      some ⟨target, next :: more, false⟩ := rfl
  exact walk_passage hpassage

/-- Where a column is found, the type walk goes where the column and the rest of the path lead. -/
theorem walk_of_columnBelow {refuse : PathReason → Error} {all : List Segment}
    (h : s.columnBelow refuse name ty segments = .ok column) :
    ∃ t, s.walk className all ty segments = .ok t ∧ s.ColumnLeadsTo column t := by
  fun_induction columnBelow s refuse name ty segments with
  | case1 name ty =>
    cases h
    exact ⟨some ty, rfl, rfl⟩
  | case2 name rest fields sub member hfound ih =>
    rw [walk, typeStep, hfound]
    exact ih h
  | case6 name rest dimension default? i hrange hlast =>
    cases h
    refine ⟨some (.primitive .number none), ?_, rfl⟩
    obtain rfl : rest = [] := by simpa using hlast
    rw [walk, typeStep, if_pos (by simpa using hrange)]
    rfl
  | case8 name rest target foreign i hrest =>
    obtain ⟨t, htype, rfl⟩ := Result.map_eq_ok.mp h
    obtain ⟨next, more, rfl⟩ := List.exists_cons_of_ne_nil (mt List.isEmpty_iff.mpr hrest)
    exact ⟨t, walk_member.trans htype, target, foreign, rfl, htype⟩
  | case9 name rest target segment =>
    obtain ⟨t, htype, rfl⟩ := Result.map_eq_ok.mp h
    exact ⟨t, walk_pointer.trans htype, target, rfl, htype⟩
  | case10 name rest ty segment _ _ _ _ hjson =>
    cases h
    refine ⟨none, ?_, rfl⟩
    cases ty with
    | primitive kind default? =>
      rw [walk_primitive, if_pos hjson]
    | _ => cases hjson
  | case3 | case4 | case5 | case7 | case11 | case12 => cases h

/-- Where the type walk goes, there is a column, unless it meets a relation that a field follows. -/
theorem columnBelow_of_walk (name : String) (refuse : PathReason → Error) {all : List Segment}
    (h : s.walk className all ty segments = .ok t) :
    (∃ column, s.columnBelow refuse name ty segments = .ok column) ∨
      ∃ names target foreign field more, ty.below? names = some (.relation target foreign) ∧
        segments = names.map .field ++ .field field :: more := by
  fun_induction columnBelow s refuse name ty segments with
  | case1 name ty => exact .inl ⟨_, rfl⟩
  | case2 name rest fields sub member hfound ih =>
    rw [walk, typeStep, hfound] at h
    rcases ih h with hcolumn | ⟨names, target, foreign, field, more, hbelow, rfl⟩
    · exact .inl hcolumn
    · exact .inr ⟨sub :: names, target, foreign, field, more,
        FieldType.below?_shape.mpr ⟨member, hfound, hbelow⟩, rfl⟩
  | case3 name rest fields sub hmissing =>
    rw [walk, typeStep, hmissing] at h
    cases h
  | case4 name rest dimension default? i hrange =>
    rw [walk, typeStep, if_neg (by simp [hrange])] at h
    cases h
  | case5 name rest dimension default? i hrange hlast =>
    rw [walk, typeStep, if_neg (by simp_all)] at h
    cases h
  | case6 => exact .inl ⟨_, rfl⟩
  | case7 name rest target foreign i hrest =>
    obtain rfl := List.isEmpty_iff.mp hrest
    cases h
  | case8 name rest target foreign i hrest =>
    obtain ⟨next, more, rfl⟩ := List.exists_cons_of_ne_nil (mt List.isEmpty_iff.mpr hrest)
    have htype : s.typeOf target (next :: more) = .ok t := walk_member.symm.trans h
    exact .inl ⟨_, Result.map_eq_ok.mpr ⟨t, htype, rfl⟩⟩
  | case9 name rest target segment =>
    have htype : s.typeOf target (segment :: rest) = .ok t := walk_pointer.symm.trans h
    exact .inl ⟨_, Result.map_eq_ok.mpr ⟨t, htype, rfl⟩⟩
  | case10 => exact .inl ⟨_, rfl⟩
  | case11 name rest ty hpointer hjson i _ hvector hrelation =>
    cases ty with
    | primitive kind default? =>
      rw [walk_primitive, if_neg hjson] at h
      cases h
    | shape fields => cases h
    | vector dimension default? => exact (hvector _ _ _ rfl rfl).elim
    | pointer target => exact (hpointer _ rfl).elim
    | relation target foreign => exact (hrelation _ _ _ rfl rfl).elim
  | case12 name rest ty hpointer hjson field hshape =>
    cases ty with
    | primitive kind default? =>
      rw [walk_primitive, if_neg hjson] at h
      cases h
    | shape fields => exact (hshape _ _ rfl rfl).elim
    | vector dimension default? => cases h
    | pointer target => exact (hpointer _ rfl).elim
    | relation target foreign =>
      exact .inr ⟨[], target, foreign, field, rest, FieldType.below?_nil _, rfl⟩

/-- Along names inside shapes the column's name grows. -/
theorem columnBelow_names {refuse : PathReason → Error} {names : List String} {leaf : FieldType}
    (h : ty.below? names = some leaf) (rest : List Segment) :
    s.columnBelow refuse name ty (names.map .field ++ rest) =
      s.columnBelow refuse (dotted name names) leaf rest := by
  induction names generalizing name ty with
  | nil =>
    rw [FieldType.below?_nil, Option.some.injEq] at h
    rw [h]
    rfl
  | cons first others ih =>
    cases ty with
    | shape fields =>
      obtain ⟨member, hfound, hbelow⟩ := FieldType.below?_shape.mp h
      rw [List.map_cons, List.cons_append, columnBelow, hfound]
      exact ih hbelow
    | primitive | vector | pointer | relation => cases h

/-! ## Paths on a class -/

/-- A column stands where the type walk starts. -/
theorem typeOf_of_columnOf (h : s.columnOf className path segments = .ok column) :
    ∃ t, s.typeOf className segments = .ok t ∧ s.ColumnLeadsTo column t := by
  obtain ⟨c, field, rest, ty, hc, rfl, hf, hbelow⟩ := columnOf_eq_ok.mp h
  rw [typeOf_field rest hc hf]
  exact walk_of_columnBelow hbelow

/-- A relation that a field follows is no column. -/
theorem columnOf_of_meetsRelation (h : s.MeetsRelation className segments) :
    s.columnOf className path segments = .error (.path (.unresolved className path .noSubFields)) := by
  obtain ⟨c, names, target, foreign, next, more, hc, hnames, rfl⟩ := h
  obtain ⟨field, others, ty, rfl, hf, hbelow⟩ := Class.below?_eq_some.mp hnames
  rw [List.map_cons, List.cons_append]
  simp only [columnOf, getClass_eq_ok.mpr hc, hf]
  rw [columnBelow_names hbelow]
  rfl

theorem columnOf_of_typeOf (path : String) (h : s.typeOf className segments = .ok t) :
    (∃ column, s.columnOf className path segments = .ok column) ∨
      s.MeetsRelation className segments := by
  have hstart : ∃ ty, s.startField className segments segments.head? = .ok ty := by
    unfold typeOf at h
    split at h
    · next ty hty => exact ⟨ty, hty⟩
    · cases h
  obtain ⟨ty, hty⟩ := hstart
  obtain ⟨c, field, hc, hhead, hf⟩ := startField_ok.mp hty
  obtain ⟨rest, rfl⟩ := List.head?_eq_some_iff.mp hhead
  rw [typeOf_field rest hc hf] at h
  rcases columnBelow_of_walk field (fun reason => .path (.unresolved className path reason)) h with
    ⟨column, hcolumn⟩ | ⟨names, target, foreign, next, more, hbelow, rfl⟩
  · exact .inl ⟨column, columnOf_eq_ok.mpr ⟨c, field, rest, ty, hc, rfl, hf, hcolumn⟩⟩
  · exact .inr ⟨c, field :: names, target, foreign, next, more, hc,
      Class.below?_eq_some.mpr ⟨field, names, ty, rfl, hf, hbelow⟩, rfl⟩

/-! ## What is left for another class -/

theorem rest_of_columnBelow {refuse : PathReason → Error} {rest : List Segment}
    (h : s.columnBelow refuse name ty segments = .ok column) (hrest : column.path.rest? = some rest) :
    rest ≠ [] ∧ rest <:+ segments := by
  fun_induction columnBelow s refuse name ty segments with
  | case2 name others fields sub member hfound ih =>
    obtain ⟨hne, hsuffix⟩ := ih h
    exact ⟨hne, hsuffix.trans (List.suffix_cons _ _)⟩
  | case8 name others target foreign i hothers =>
    obtain ⟨t, -, rfl⟩ := Result.map_eq_ok.mp h
    cases hrest
    exact ⟨mt List.isEmpty_iff.mpr hothers, List.suffix_cons _ _⟩
  | case9 name others target segment =>
    obtain ⟨t, -, rfl⟩ := Result.map_eq_ok.mp h
    cases hrest
    exact ⟨List.cons_ne_nil _ _, List.suffix_rfl⟩
  | case1 | case6 | case10 =>
    cases h
    cases hrest
  | case3 | case4 | case5 | case7 | case11 | case12 => cases h

/-- What a column leaves of a path is the end of it. -/
theorem rest_of_columnOf {rest : List Segment} (h : s.columnOf className path segments = .ok column)
    (hrest : column.path.rest? = some rest) : rest ≠ [] ∧ rest <:+ segments := by
  obtain ⟨c, field, others, ty, -, rfl, -, hbelow⟩ := columnOf_eq_ok.mp h
  obtain ⟨hne, hsuffix⟩ := rest_of_columnBelow hbelow hrest
  exact ⟨hne, hsuffix.trans (List.suffix_cons _ _)⟩

/-- What a column leaves of a path is read back when it is written out. -/
theorem parse_render_rest {rest : List Segment} (h : s.column className path = .ok column)
    (hrest : column.path.rest? = some rest) : Path.parse (Path.render rest) = .ok rest := by
  obtain ⟨segments, hparse, hcolumn⟩ := Result.bind_eq_ok.mp h
  obtain ⟨hne, front, rfl⟩ := rest_of_columnOf hcolumn hrest
  exact Path.parse_render_of_suffix hparse hne

/-! ## The agreement -/

/--
Where a path has a column, the type walk finds what the column and the rest of the path lead to, and the
rest is the same path on the other class when it is written out. Among the paths that the type walk
accepts, those without a column are the ones that first meet a relation with a field behind it.
-/
theorem column_agrees (s : Schema) (className path : String) :
    (∀ column, s.column className path = .ok column →
      ∃ t, s.typeAt className path = .ok t ∧ s.ColumnLeadsTo column t ∧
        ∀ rest, column.path.rest? = some rest →
          ∀ target, s.typeAt target (Path.render rest) = s.typeOf target rest) ∧
      ∀ t, s.typeAt className path = .ok t →
        ((∃ e, s.column className path = .error e) ↔
          ∃ segments, Path.parse path = .ok segments ∧ s.MeetsRelation className segments) := by
  refine ⟨fun column h => ?_, fun t h => ?_⟩
  · obtain ⟨segments, hparse, hcolumn⟩ := Result.bind_eq_ok.mp h
    obtain ⟨t, htype, hleads⟩ := typeOf_of_columnOf hcolumn
    refine ⟨t, Result.bind_eq_ok.mpr ⟨segments, hparse, htype⟩, hleads, fun rest hrest target => ?_⟩
    rw [typeAt, parse_render_rest h hrest]
    rfl
  · obtain ⟨segments, hparse, htype⟩ := Result.bind_eq_ok.mp h
    have hpath : s.column className path = s.columnOf className path segments := by
      rw [column, hparse]
      rfl
    rw [hpath]
    constructor
    · rintro ⟨e, herror⟩
      rcases columnOf_of_typeOf path htype with ⟨column, hcolumn⟩ | hmeets
      · rw [hcolumn] at herror
        cases herror
      · exact ⟨segments, hparse, hmeets⟩
    · rintro ⟨others, hothers, hmeets⟩
      obtain rfl := Except.ok.inj (hparse.symm.trans hothers)
      exact ⟨_, columnOf_of_meetsRelation hmeets⟩

/-- Notes have an author, who has all notes of theirs, and tags in a shape. -/
def authoredNotes : Json :=
  .obj [
    ("Note", .obj [("fields", .obj [
      ("author", .obj [("type", .str "pointer"), ("target", .str "User")]),
      ("embedding", .obj [("type", .str "vector"), ("dimension", .num (.int 3))]),
      ("info", .obj [("type", .str "shape"), ("shape", .obj [
        ("tags", .obj [("type", .str "relation"), ("target", .str "Tag")])])])])]),
    ("Tag", .obj [("fields", .obj [("label", .str "string")])]),
    ("User", .obj [("fields", .obj [
      ("name", .str "string"),
      ("notes", .obj [("type", .str "relation"), ("target", .str "Note"),
        ("foreignField", .str "author")])])])]

/-- The notes, their tags and authors as a schema. -/
def authoredSchema : Schema where
  classes := [
    ("Note", {
      fields := Field.defaults.foldl (fun t f => t.insert f.1 f.2)
        [("author", .pointer "User"), ("embedding", .vector 3 none),
          ("info", .shape [("tags", .relation "Tag" none)])] }),
    ("Tag", {
      fields := Field.defaults.foldl (fun t f => t.insert f.1 f.2)
        [("label", .primitive .string none)] }),
    ("User", {
      fields := Field.defaults.foldl (fun t f => t.insert f.1 f.2)
        [("name", .primitive .string none), ("notes", .relation "Note" (some "author"))] })]

/-- The label of a note's second tag has a column to start from, the labels of its tags have none. -/
theorem column_agrees_of_authoredNotes :
    ofJson authoredNotes = .ok authoredSchema ∧
      (∃ column, authoredSchema.column "Note" "info.tags[1].label" = .ok column ∧
        authoredSchema.ColumnLeadsTo column (some (.primitive .string none)) ∧
        authoredSchema.typeAt "Tag" "label" = .ok (some (.primitive .string none))) ∧
      authoredSchema.typeAt "Note" "info.tags.label" = .ok (some (.primitive .string none)) ∧
      ∃ e, authoredSchema.column "Note" "info.tags.label" = .error e := by
  obtain ⟨found, -⟩ := column_agrees authoredSchema "Note" "info.tags[1].label"
  obtain ⟨-, missing⟩ := column_agrees authoredSchema "Note" "info.tags.label"
  have htype : authoredSchema.typeAt "Note" "info.tags.label" =
      .ok (some (.primitive .string none)) := by rfl
  obtain ⟨t, hfound, hleads, -⟩ := found ⟨"info.tags", .relation "Tag" none,
    .relationElement 1 [.field "label"]⟩ (by rfl)
  obtain rfl : some (.primitive .string none) = t := Except.ok.inj hfound
  refine ⟨by rfl, ⟨_, by rfl, hleads, by rfl⟩, htype, (missing _ htype).mpr ?_⟩
  exact ⟨[.field "info", .field "tags", .field "label"], by rfl, _, ["info", "tags"], "Tag", none,
    "label", [], rfl, rfl, rfl⟩

end Schema

end ObjectQuery
