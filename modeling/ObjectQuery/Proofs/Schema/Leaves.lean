import ObjectQuery.Proofs.Path
import ObjectQuery.Proofs.Schema.Accepted
import ObjectQuery.Schema.Route

/-!
# Leaves and columns by their names

The leaves of a class, the column a path begins with and the type walk of a row all follow the names
of a path through shapes. `FieldType.below?` is that walk alone: what lies at the end of some names
inside a type. In an accepted schema a path is the leaf, and the whole column, that its names lead to.
-/

namespace ObjectQuery

open ObjectQuery.Path (dotted dotted_cons)

/-! ## Names inside shapes -/

namespace FieldType

/-- The type at the end of names, which lead through shapes only. -/
def below? : FieldType → List String → Option FieldType
  | ty, [] => some ty
  | .shape fields, name :: rest =>
    match Table.find? fields name with
    | some ty => ty.below? rest
    | none => none
  | _, _ :: _ => none

@[simp]
theorem below?_nil (ty : FieldType) : ty.below? [] = some ty := by
  cases ty <;> rfl

theorem below?_shape {fields : List (String × FieldType)} {name : String} {rest : List String}
    {ty : FieldType} :
    (shape fields).below? (name :: rest) = some ty ↔
      ∃ member, Table.find? fields name = some member ∧ member.below? rest = some ty := by
  rw [below?]
  split <;> simp_all

theorem below?_of_not_shape {ty leaf : FieldType} {names : List String}
    (hty : ty.isShape = false) (h : ty.below? names = some leaf) : names = [] ∧ ty = leaf := by
  cases names with
  | nil => simpa using h
  | cons name rest => cases ty <;> cases hty <;> cases h

/-- Behind some names the walk goes on from the type they lead to. -/
theorem below?_append (ty : FieldType) (front back : List String) :
    ty.below? (front ++ back) = (ty.below? front).bind (·.below? back) := by
  induction front generalizing ty with
  | nil => simp
  | cons name rest ih =>
    rw [List.cons_append]
    cases ty with
    | shape fields =>
      rw [below?, below?]
      split
      · exact ih _
      · rfl
    | primitive | vector | pointer | relation => rfl

/-- Names inside a type that holds up are identifiers and lead to such a type. -/
theorem wellTyped_below {s : Schema} {ty leaf : FieldType} {names : List String}
    (hty : s.WellTyped ty) (h : ty.below? names = some leaf) :
    (∀ name ∈ names, Schema.isName name = true) ∧ s.WellTyped leaf := by
  induction names generalizing ty with
  | nil =>
    rw [below?_nil, Option.some.injEq] at h
    exact ⟨nofun, h ▸ hty⟩
  | cons name rest ih =>
    cases ty with
    | shape fields =>
      obtain ⟨member, hfound, hbelow⟩ := below?_shape.mp h
      have hmember := Schema.membersWellTyped_iff.mp hty.2 _ (Table.mem_of_find?_eq_some hfound)
      obtain ⟨hnames, hleaf⟩ := ih hmember.2 hbelow
      exact ⟨List.forall_mem_cons.mpr ⟨hmember.1, hnames⟩, hleaf⟩
    | primitive | vector | pointer | relation => cases h

theorem mem_fieldLeaves_iff {fields : List (String × FieldType)} {path : String}
    {leaf : String × FieldType} :
    leaf ∈ fieldLeaves path fields ↔ ∃ m ∈ fields, leaf ∈ m.2.leaves (path ++ "." ++ m.1) := by
  induction fields with
  | nil => simp [fieldLeaves]
  | cons m rest ih => rw [fieldLeaves, List.mem_append, ih, List.exists_mem_cons_iff]

theorem leaves_of_not_shape {ty : FieldType} (h : ty.isShape = false) (path : String) :
    ty.leaves path = [(path, ty)] := by
  cases ty <;> first | rfl | cases h

/-- The leaves of a type are what lies at the end of names inside it and is no shape. -/
theorem mem_leaves_iff {s : Schema} {ty leaf : FieldType} {path name : String}
    (hty : s.WellTyped ty) :
    (name, leaf) ∈ ty.leaves path ↔
      ∃ names, ty.below? names = some leaf ∧ leaf.isShape = false ∧ name = dotted path names := by
  have hself : ∀ {ty : FieldType} {path : String}, ty.isShape = false →
      ((name, leaf) ∈ ty.leaves path ↔
        ∃ names, ty.below? names = some leaf ∧ leaf.isShape = false ∧ name = dotted path names) := by
    intro ty path hshape
    rw [leaves_of_not_shape hshape, List.mem_singleton, Prod.mk.injEq]
    constructor
    · rintro ⟨rfl, rfl⟩
      exact ⟨[], below?_nil _, hshape, rfl⟩
    · rintro ⟨names, hbelow, -, rfl⟩
      obtain ⟨rfl, rfl⟩ := below?_of_not_shape hshape hbelow
      exact ⟨rfl, rfl⟩
  induction ty using FieldType.nested_induction generalizing path with
  | primitive | vector | pointer | relation => exact hself rfl
  | shape fields ih =>
    clear hself
    obtain ⟨hordered, hmembers⟩ := hty
    have hmembers := Schema.membersWellTyped_iff.mp hmembers
    rw [leaves, mem_fieldLeaves_iff]
    constructor
    · rintro ⟨m, hm, hleaf⟩
      obtain ⟨names, hbelow, hshape, rfl⟩ := (ih m hm (hmembers m hm).2).mp hleaf
      have hfound : Table.find? fields m.1 = some m.2 := hordered.find?_eq_some_iff.mpr hm
      exact ⟨m.1 :: names, below?_shape.mpr ⟨m.2, hfound, hbelow⟩, hshape, rfl⟩
    · rintro ⟨names, hbelow, hshape, rfl⟩
      cases names with
      | nil =>
        rw [below?_nil, Option.some.injEq] at hbelow
        subst hbelow
        cases hshape
      | cons first rest =>
        obtain ⟨member, hfound, hbelow⟩ := below?_shape.mp hbelow
        have hm := Table.mem_of_find?_eq_some hfound
        exact ⟨(first, member), hm, (ih _ hm (hmembers _ hm).2).mpr ⟨rest, hbelow, hshape, rfl⟩⟩

end FieldType

/-! ## Leaves of a class -/

namespace Class

/-- The type at the end of names on a class, which lead through shapes only. -/
def below? (c : Class) : List String → Option FieldType
  | [] => none
  | field :: rest => (c.field? field).bind (·.below? rest)

/-- The leaves of the fields of a class. -/
def leaves (c : Class) : List (String × FieldType) :=
  c.fields.flatMap fun (field, ty) => ty.leaves field

theorem below?_eq_some {c : Class} {names : List String} {ty : FieldType} :
    c.below? names = some ty ↔
      ∃ field rest fieldType, names = field :: rest ∧ c.field? field = some fieldType ∧
        fieldType.below? rest = some ty := by
  cases names with
  | nil => simp [below?]
  | cons field rest =>
    rw [below?, Option.bind_eq_some_iff]
    grind

/-- Behind what is no shape no names lead on. -/
theorem below?_append_of_not_shape {c : Class} {names more : List String} {leaf other : FieldType}
    (h : c.below? names = some leaf) (hleaf : leaf.isShape = false)
    (hmore : c.below? (names ++ more) = some other) : more = [] ∧ leaf = other := by
  obtain ⟨field, rest, ty, rfl, hf, hbelow⟩ := below?_eq_some.mp h
  rw [List.cons_append, below?, hf, Option.bind_some, FieldType.below?_append, hbelow,
    Option.bind_some] at hmore
  exact FieldType.below?_of_not_shape hleaf hmore

/-- Where names lead to what is no shape, other names before the same segments are the same. -/
theorem below?_unique {c : Class} {names others : List String} {leaf other : FieldType}
    {rest left : List Segment} (h : c.below? names = some leaf) (hleaf : leaf.isShape = false)
    (hothers : c.below? others = some other) (hother : other.isShape = false)
    (heq : names.map Segment.field ++ rest = others.map Segment.field ++ left) :
    leaf = other ∧ rest = left := by
  rcases List.append_eq_append_iff.mp heq with ⟨more, hmore, rfl⟩ | ⟨more, hmore, rfl⟩
  · obtain ⟨front, back, rfl, hfront, rfl⟩ := List.map_eq_append_iff.mp hmore
    obtain rfl := List.map_injective_iff.mpr (fun _ _ => Segment.field.inj) hfront
    obtain ⟨rfl, hsame⟩ := below?_append_of_not_shape h hleaf hothers
    exact ⟨hsame, rfl⟩
  · obtain ⟨front, back, rfl, hfront, rfl⟩ := List.map_eq_append_iff.mp hmore
    obtain rfl := List.map_injective_iff.mpr (fun _ _ => Segment.field.inj) hfront
    obtain ⟨rfl, hsame⟩ := below?_append_of_not_shape hothers hother h
    exact ⟨hsame.symm, rfl⟩

end Class

namespace Schema.Accepted

variable {s : Schema} {className path name : String} {c : Class} {ty : FieldType}

/-- The names of what lies in a class are identifiers. -/
theorem wellTyped_below (h : s.Accepted) (hc : s.class? className = some c) {names : List String}
    (hty : c.below? names = some ty) :
    (∀ name ∈ names, isName name = true) ∧ s.WellTyped ty := by
  obtain ⟨field, rest, fieldType, rfl, hf, hbelow⟩ := Class.below?_eq_some.mp hty
  obtain ⟨hname, hfield⟩ := h.wellTyped hc hf
  obtain ⟨hrest, hleaf⟩ := FieldType.wellTyped_below hfield hbelow
  exact ⟨List.forall_mem_cons.mpr ⟨hname, hrest⟩, hleaf⟩

/-- What lies below a field is spelled with dots. -/
theorem split_dotted (h : s.Accepted) (hc : s.class? className = some c) {field : String}
    {fieldType : FieldType} {names : List String} (hf : c.field? field = some fieldType)
    (hbelow : fieldType.below? names = some ty) :
    Text.split '.' (dotted field names) = field :: names := by
  obtain ⟨hname, hfield⟩ := h.wellTyped hc hf
  have hnames := (FieldType.wellTyped_below hfield hbelow).1
  rw [Path.split_dotted field hnames, Path.split_name hname]
  rfl

/-- The leaves of a class are what its paths lead to through shapes and is no shape. -/
theorem mem_leaves_iff (h : s.Accepted) (hc : s.class? className = some c) :
    (path, ty) ∈ c.leaves ↔ c.below? (Text.split '.' path) = some ty ∧ ty.isShape = false := by
  rw [Class.leaves, List.mem_flatMap]
  constructor
  · rintro ⟨⟨field, fieldType⟩, hmem, hleaf⟩
    have hf := (h.field?_iff hc).mpr hmem
    have hfield := (h.wellTyped hc hf).2
    obtain ⟨names, hbelow, hshape, rfl⟩ := (FieldType.mem_leaves_iff hfield).mp hleaf
    rw [h.split_dotted hc hf hbelow]
    exact ⟨Class.below?_eq_some.mpr ⟨field, names, fieldType, rfl, hf, hbelow⟩, hshape⟩
  · rintro ⟨hty, hshape⟩
    obtain ⟨field, rest, fieldType, hsplit, hf, hbelow⟩ := Class.below?_eq_some.mp hty
    have hfield := (h.wellTyped hc hf).2
    have hpath : path = dotted field rest :=
      Text.split_injective (hsplit.trans (h.split_dotted hc hf hbelow).symm)
    exact ⟨(field, fieldType), (h.field?_iff hc).mp hf,
      (FieldType.mem_leaves_iff hfield).mpr ⟨rest, hbelow, hshape, hpath⟩⟩

end Schema.Accepted

/-! ## Whole columns -/

namespace Schema

variable {s : Schema} {className path name : String} {c : Class} {ty : FieldType}

/-- A column is left with nothing of the path exactly if the path is names inside shapes. -/
theorem columnBelow_eq_column {refuse : PathReason → Error} {leaf : FieldType} {column : String}
    {segments : List Segment} :
    s.columnBelow refuse name ty segments = .ok ⟨column, leaf, .column⟩ ↔
      ∃ names, segments = names.map .field ∧ ty.below? names = some leaf ∧
        column = dotted name names := by
  constructor
  · intro h
    fun_induction columnBelow s refuse name ty segments with
    | case1 name ty =>
      cases h
      exact ⟨[], rfl, FieldType.below?_nil _, rfl⟩
    | case2 name rest fields sub member hfound ih =>
      obtain ⟨names, rfl, hbelow, rfl⟩ := ih h
      exact ⟨sub :: names, rfl, FieldType.below?_shape.mpr ⟨member, hfound, hbelow⟩, rfl⟩
    | case8 | case9 =>
      obtain ⟨_, -, heq⟩ := Result.map_eq_ok.mp h
      cases heq
    | case3 | case4 | case5 | case6 | case7 | case10 | case11 | case12 => cases h
  · rintro ⟨names, rfl, hbelow, rfl⟩
    induction names generalizing name ty with
    | nil =>
      rw [FieldType.below?_nil, Option.some.injEq] at hbelow
      subst hbelow
      rw [List.map_nil, columnBelow]
      rfl
    | cons first rest ih =>
      cases ty with
      | shape fields =>
        obtain ⟨member, hfound, hbelow⟩ := FieldType.below?_shape.mp hbelow
        rw [List.map_cons, columnBelow, hfound]
        exact ih hbelow
      | primitive | vector | pointer | relation => cases hbelow

/-- Nothing of the path is left at a shape. -/
theorem columnBelow_of_shape {refuse : PathReason → Error} {segments : List Segment} {column : Column}
    (h : s.columnBelow refuse name ty segments = .ok column)
    (hshape : column.type.isShape = true) : column.path = .column := by
  fun_induction columnBelow s refuse name ty segments with
  | case1 name ty =>
    cases h
    rfl
  | case2 name rest fields sub member hfound ih => exact ih h
  | case6 =>
    cases h
    cases hshape
  | case8 | case9 =>
    obtain ⟨_, -, rfl⟩ := Result.map_eq_ok.mp h
    cases hshape
  | case10 name rest ty segment _ _ _ _ hjson =>
    cases h
    cases ty <;> first | cases hjson | cases hshape
  | case3 | case4 | case5 | case7 | case11 | case12 => cases h

theorem columnOf_eq_ok {segments : List Segment} {column : Column} :
    s.columnOf className path segments = .ok column ↔
      ∃ c field rest ty, s.class? className = some c ∧ segments = .field field :: rest ∧
        c.field? field = some ty ∧
        s.columnBelow (fun reason => .path (.unresolved className path reason)) field ty rest =
          .ok column := by
  constructor
  · intro h
    unfold columnOf at h
    split at h
    · cases h
    · next c field rest hc =>
      split at h
      · next ty hf => exact ⟨c, field, rest, ty, getClass_eq_ok.mp hc, rfl, hf, h⟩
      · cases h
    · cases h
  · rintro ⟨c, field, rest, ty, hc, rfl, hf, h⟩
    simp only [columnOf, getClass_eq_ok.mpr hc, hf]
    exact h

/-- A path is a whole column exactly if its names lead to it through shapes. -/
theorem Accepted.column_eq_column (h : s.Accepted) (hc : s.class? className = some c)
    {column : String} :
    s.column className path = .ok ⟨column, ty, .column⟩ ↔
      c.below? (Text.split '.' path) = some ty ∧ column = path := by
  rw [Schema.column, Result.bind_eq_ok]
  simp only [columnOf_eq_ok, columnBelow_eq_column]
  constructor
  · rintro ⟨_, hparse, _, field, _, fieldType, hc', rfl, hf, names, rfl, hbelow, rfl⟩
    obtain rfl := Option.some.inj (hc.symm.trans hc')
    have hsplit : Text.split '.' path = field :: names := Path.split_of_parse hparse
    rw [hsplit]
    exact ⟨Class.below?_eq_some.mpr ⟨field, names, fieldType, rfl, hf, hbelow⟩,
      Text.split_injective ((h.split_dotted hc hf hbelow).trans hsplit.symm)⟩
  · rintro ⟨hty, rfl⟩
    obtain ⟨field, names, fieldType, hsplit, hf, hbelow⟩ := Class.below?_eq_some.mp hty
    have hparse := Path.parse_of_split hsplit (hsplit ▸ (h.wellTyped_below hc hty).1)
    exact ⟨_, hparse, c, field, _, fieldType, hc, rfl, hf, names, rfl, hbelow,
      Text.split_injective (hsplit.trans (h.split_dotted hc hf hbelow).symm)⟩

end Schema

end ObjectQuery
