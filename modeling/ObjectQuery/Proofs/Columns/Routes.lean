import ObjectQuery.Proofs.Columns.Created
import ObjectQuery.Proofs.Statement.Reached
import ObjectQuery.Proofs.Statement.Ends

/-!
# Columns on a route

A route reads a column in each class it leads through, and the column has in that class the type the
route goes by. So does membership: where foreign fields are followed, each of them refers back to the
class on the other side, which is what the schema was checked for.
-/

namespace ObjectQuery

open ObjectQuery.Path (dotted)

/-- What a route reads in the classes it leads through is there with the type the route goes by. -/
def Route.Fits (s : Schema) : Route → String → Prop
  | .refused _, _ => True
  | .hop name target next, className =>
    s.typeIn? className name = some (.pointer target) ∧ next.Fits s target
  | .column name ty, className => s.typeIn? className name = some ty
  | .json name _, className =>
    ∃ ty, s.typeIn? className name = some ty ∧ ty.columnType?.isSome = true
  | .vectorElement name _, className =>
    ∃ ty, s.typeIn? className name = some ty ∧ ty.columnType?.isSome = true
  | .relationElement name target _ next, className =>
    (∃ foreign, s.typeIn? className name = some (.relation target foreign)) ∧ next.Fits s target

namespace Holding

/-- The side that has the column. -/
def holder : Holding → Target
  | pointer holder _ _ | tokens holder _ _ => holder

/-- The column that refers to the other side. -/
def column : Holding → String
  | pointer _ column _ | tokens _ column _ => column

/-- The side that is referred to. -/
def other : Holding → Target
  | pointer _ _ other | tokens _ _ other => other

end Holding

namespace Schema

variable {s : Schema} {className path name : String} {ty : FieldType}

/-- A column that a path goes on inside has a column of its own; only a relation need not. -/
def GoesInside (column : Column) : Prop :=
  column.path = .column ∨ (∃ position rest, column.path = .relationElement position rest) ∨
    column.type.columnType?.isSome = true

theorem GoesInside.columnType? {column : Column} (h : GoesInside column)
    (hwhole : column.path ≠ .column)
    (hmember : ∀ position rest, column.path ≠ .relationElement position rest) :
    column.type.columnType?.isSome = true :=
  (h.resolve_left hwhole).resolve_left fun ⟨_, _, hpath⟩ => hmember _ _ hpath

/-- The names before what is left of a path lead to the type of the column. -/
theorem below?_of_columnBelow {refuse : PathReason → Error} {segments : List Segment} {column : Column}
    (h : s.columnBelow refuse name ty segments = .ok column) :
    (∃ names, ty.below? names = some column.type ∧ column.name = dotted name names) ∧
      GoesInside column := by
  fun_induction columnBelow s refuse name ty segments with
  | case1 name ty =>
    cases h
    exact ⟨⟨[], FieldType.below?_nil _, rfl⟩, .inl rfl⟩
  | case2 name rest fields sub member hfound ih =>
    obtain ⟨⟨names, hbelow, hname⟩, hinside⟩ := ih h
    exact ⟨⟨sub :: names, FieldType.below?_shape.mpr ⟨member, hfound, hbelow⟩, hname⟩, hinside⟩
  | case6 =>
    cases h
    exact ⟨⟨[], FieldType.below?_nil _, rfl⟩, .inr (.inr rfl)⟩
  | case8 =>
    obtain ⟨_, -, rfl⟩ := Result.map_eq_ok.mp h
    exact ⟨⟨[], FieldType.below?_nil _, rfl⟩, .inr (.inl ⟨_, _, rfl⟩)⟩
  | case9 =>
    obtain ⟨_, -, rfl⟩ := Result.map_eq_ok.mp h
    exact ⟨⟨[], FieldType.below?_nil _, rfl⟩, .inr (.inr rfl)⟩
  | case10 name rest ty segment _ _ _ _ hjson =>
    cases h
    refine ⟨⟨[], FieldType.below?_nil _, rfl⟩, .inr (.inr ?_)⟩
    cases ty with
    | primitive => rfl
    | _ => cases hjson
  | case3 | case4 | case5 | case7 | case11 | case12 => cases h

namespace Accepted

/-- The column that segments begin with has its type in the class. -/
theorem typeIn?_of_columnOf (hs : s.Accepted) {segments : List Segment} {column : Column}
    (h : s.columnOf className path segments = .ok column) :
    s.typeIn? className column.name = some column.type ∧ GoesInside column := by
  obtain ⟨c, field, rest, fieldType, hc, rfl, hf, hbelow⟩ := columnOf_eq_ok.mp h
  obtain ⟨⟨names, hleaf, hname⟩, hinside⟩ := below?_of_columnBelow hbelow
  refine ⟨?_, hinside⟩
  rw [typeIn?, hc, Option.bind_some, hname, hs.split_dotted hc hf hleaf]
  exact Class.below?_eq_some.mpr ⟨field, names, fieldType, rfl, hf, hleaf⟩

theorem typeIn?_of_column (hs : s.Accepted) {column : Column}
    (h : s.column className path = .ok column) :
    s.typeIn? className column.name = some column.type ∧ GoesInside column := by
  obtain ⟨segments, -, h⟩ := Result.bind_eq_ok.mp h
  exact hs.typeIn?_of_columnOf h

theorem routeOf_fits (hs : s.Accepted) (segments : List Segment) :
    (s.routeOf className path segments).Fits s className := by
  fun_induction routeOf s className path segments with
  | case1 => trivial
  | case2 _ _ _ _ _ _ hfound ih => exact ⟨(hs.typeIn?_of_columnOf hfound).1, ih⟩
  | case3 _ _ _ _ _ _ _ _ hfound ih =>
    exact ⟨⟨_, (hs.typeIn?_of_columnOf hfound).1⟩, ih⟩
  | case4 _ _ _ _ _ hfound => exact (hs.typeIn?_of_columnOf hfound).1
  | case5 _ _ _ _ _ _ hfound =>
    obtain ⟨htype, hinside⟩ := hs.typeIn?_of_columnOf hfound
    exact ⟨_, htype, hinside.columnType? (by simp) (by simp)⟩
  | case6 _ _ _ _ _ _ hfound =>
    obtain ⟨htype, hinside⟩ := hs.typeIn?_of_columnOf hfound
    exact ⟨_, htype, hinside.columnType? (by simp) (by simp)⟩
  | case7 => trivial

theorem route_fits (hs : s.Accepted) : (s.route className path).Fits s className := by
  unfold route
  split
  · exact hs.routeOf_fits _
  · trivial

/-- A reference leads to a class of the schema. -/
theorem known_of_typeIn? (hs : s.Accepted) {target : String} (h : s.typeIn? className name = some ty)
    (href : ty.target? = some target) : (s.class? target).isSome = true := by
  obtain ⟨c, hc, hbelow⟩ := typeIn?_eq_some.mp h
  have hwell := (hs.wellTyped_below hc hbelow).2
  cases ty <;> cases href <;> exact hwell

/-- Where a name leads to is the type of the field of that name. -/
theorem eq_of_field? (hs : s.Accepted) {leaf : FieldType} (h : s.typeIn? className name = some leaf)
    (hf : s.field? className name = some ty) : ty = leaf :=
  Option.some.inj ((hs.typeIn?_of_field? hf).symm.trans h)

/-! ## Membership -/

/-- A foreign field refers back to the class of the relation that is derived from it. -/
theorem foreign_refers (hs : s.Accepted) {target foreign : String} {foreignType : FieldType}
    (h : s.field? className name = some (.relation target (some foreign)))
    (hforeign : s.field? target foreign = some foreignType) :
    foreignType.target? = some className := by
  obtain ⟨c, hc, hf⟩ := field?_eq_some.mp h
  obtain ⟨related, hrelated, hf'⟩ := field?_eq_some.mp hforeign
  have hchecked := hs.checked className c (Table.mem_of_find?_eq_some hc)
  obtain ⟨-, hty⟩ := checkClass_ok hchecked _ (Table.mem_of_find?_eq_some hf)
  dsimp only at hty
  simp only [checkType, getClass_eq_ok.mpr hrelated, hf', Option.any_some] at hty
  split at hty
  · next hrefers => exact eq_of_beq hrefers
  · cases hty

/-- The column that decides membership is a field of one of the two sides. -/
theorem holding_stored (hs : s.Accepted) {owner member : Target} {field : String}
    {seen : List (String × String)} {decides : Holding}
    (hmember : ∀ ty, s.field? owner.className field = some ty → ty.target? = some member.className)
    (h : s.holding owner field member seen = .ok decides) :
    ∃ ty, s.field? decides.holder.className decides.column = some ty ∧
      ty.columnType?.isSome = true := by
  fun_induction holding s owner field member seen with
  | case3 owner field member _ _ _ _ _ hfield | case4 owner field member _ _ _ _ _ hfield =>
    cases h
    exact ⟨_, hfield, rfl⟩
  | case6 owner field member _ _ _ _ target foreign hfield _ _ _ hforeign
  | case7 owner field member _ _ _ _ target foreign hfield _ _ _ hforeign =>
    cases h
    obtain rfl : target = member.className := Option.some.inj (hmember _ hfield)
    exact ⟨_, hforeign, rfl⟩
  | case8 owner field member _ _ _ _ target foreign hfield _ _ _ _ _ _ ih =>
    -- the two sides change places, and the foreign field leads back to the owner
    obtain rfl : target = member.className := Option.some.inj (hmember _ hfield)
    exact ih (fun ty hty => hs.foreign_refers hfield hty) h
  | case1 | case2 | case5 | case9 | case10 => cases h

end Accepted

/-- Membership is decided by the owner's column about the member, or the other way round. -/
theorem holding_sides {owner member : Target} {field : String} {seen : List (String × String)}
    {decides : Holding} (h : s.holding owner field member seen = .ok decides) :
    decides.holder = owner ∧ decides.other = member ∨
      decides.holder = member ∧ decides.other = owner := by
  fun_induction holding s owner field member seen with
  | case3 | case4 =>
    cases h
    exact .inl ⟨rfl, rfl⟩
  | case6 | case7 =>
    cases h
    exact .inr ⟨rfl, rfl⟩
  | case8 _ _ _ _ _ _ _ _ _ _ _ _ _ _ _ _ ih => exact (ih h).symm
  | case1 | case2 | case5 | case9 | case10 => cases h

end Schema

end ObjectQuery
