import Mathlib.Data.List.Forall2
import ObjectQuery.Access.Includes
import ObjectQuery.Proofs.Access.Coverage
import ObjectQuery.Proofs.Schema.Accepted
import ObjectQuery.Proofs.Statement.Plan
import ObjectQuery.Proofs.Statement.Refusals
import ObjectQuery.Statement.Populate

/-!
# Schemas are closed

A schema is made of exactly those classes that are valid by themselves: `Schema.Valid` says so of their
declarations, before any default field is added. Every reference in it, in shapes of any depth, leads to
a class of the schema. So whatever follows a path from one of its classes only ever asks for classes
that are there.
-/

namespace ObjectQuery

/-! ## Parts of a type -/

namespace FieldType

/-- A type stands in another: it is the type itself, or stands in a member of a shape. -/
inductive Part (part : FieldType) : FieldType → Prop
  | self : Part part part
  | member {fields : List (String × FieldType)} {m : String × FieldType} (hm : m ∈ fields)
      (h : Part part m.2) : Part part (.shape fields)

variable {P : FieldType → Prop}

/-- What holds of every part of a shape holds of the shape and of every part of its members. -/
theorem forall_part_shape {fields : List (String × FieldType)} :
    (∀ part, Part part (shape fields) → P part) ↔
      P (shape fields) ∧ ∀ m ∈ fields, ∀ part, Part part m.2 → P part := by
  constructor
  · exact fun h => ⟨h _ .self, fun m hm part hpart => h part (.member hm hpart)⟩
  · rintro ⟨hself, hmembers⟩ part (_ | ⟨hm, hpart⟩)
    · exact hself
    · exact hmembers _ hm part hpart

/-- A type that is no shape has no other part. -/
theorem forall_part {ty : FieldType} (h : ty.isShape = false) :
    (∀ part, Part part ty → P part) ↔ P ty := by
  refine ⟨fun hparts => hparts ty .self, fun hself part hpart => ?_⟩
  cases hpart with
  | self => exact hself
  | member hm _ => cases h

end FieldType

open FieldType (Part)

namespace Schema

/-! ## Valid classes -/

/--
What a type in a field of the class `owner` asks for, its members apart. A foreign field is a pointer or
a relation at the top of the class that the relation leads to, and it leads back.
-/
def Stands (classes : Table Class) (owner : String) : FieldType → Prop
  | .primitive .. => True
  | .vector dimension _ => 0 < dimension
  | .shape fields => ∀ m ∈ fields, isName m.1 = true
  | .pointer target => classes.binds target = true
  | .relation target none => classes.binds target = true
  | .relation target (some foreign) =>
    ∃ c back, classes.find? target = some c ∧ c.field? foreign = some back ∧
      (back = .pointer owner ∨ ∃ f, back = .relation owner f)

/-- Classes of which a schema can be made. -/
structure Valid (classes : Table Class) : Prop where
  className : ∀ e ∈ classes, isName e.1 = true
  fieldName : ∀ e ∈ classes, ∀ f ∈ e.2.fields, isName f.1 = true
  /-- No class declares a field that every class carries. -/
  reserved : ∀ e ∈ classes, ∀ f ∈ e.2.fields, Field.isDefault f.1 = false
  /-- Every type in a field, however deep, stands. -/
  type : ∀ e ∈ classes, ∀ f ∈ e.2.fields, ∀ part, Part part f.2 → Stands classes e.1 part
  /-- A field that is secure is declared, or every class carries it. -/
  secure : ∀ e ∈ classes, ∀ field ∈ e.2.secureFields,
    (∃ ty, (field, ty) ∈ e.2.fields) ∨ Field.isDefault field = true

variable {s : Schema} {className field : String} {c : Class} {ty : FieldType}

/-- A class is found if the table binds its name. -/
theorem exists_getClass {target : String} :
    (∃ c, s.getClass target = .ok c) ↔ s.classes.binds target = true := by
  unfold getClass class? Table.binds
  cases s.classes.find? target <;> simp

/-- A type refers to a class if it points or relates to it. -/
theorem refersTo_iff : refersTo ty className = true ↔
    ty = .pointer className ∨ ∃ f, ty = .relation className f := by
  cases ty <;> simp [refersTo, FieldType.target?]

/-- A type passes its check exactly if all that stands in it does. -/
theorem checkType_eq_ok : s.checkType className field ty = .ok () ↔
    ∀ part, Part part ty → Stands s.classes className part := by
  induction ty using FieldType.nested_induction generalizing field with
  | primitive kind default? =>
    rw [FieldType.forall_part (by rfl)]
    exact ⟨fun _ => trivial, fun _ => rfl⟩
  | vector dimension default? =>
    rw [FieldType.forall_part (by rfl), checkType, Stands]
    split <;> simp <;> omega
  | shape fields ih =>
    rw [FieldType.forall_part_shape, checkType, checkFields_eq_ok, Stands, ← forall₂_and]
    exact forall₂_congr fun m hm => and_congr_right fun _ => ih m hm
  | pointer target =>
    rw [FieldType.forall_part (by rfl), checkType, Stands, Result.map_eq_ok, ← exists_getClass]
    simp
  | relation target foreign =>
    rw [FieldType.forall_part (by rfl)]
    cases foreign with
    | none =>
      rw [Stands, ← exists_getClass]
      cases hc : s.getClass target <;> simp [checkType, hc]
    | some foreign =>
      have hclass : ∀ c, s.classes.find? target = some c ↔ s.getClass target = .ok c :=
        fun c => getClass_eq_ok.symm
      simp only [Stands, hclass, ← refersTo_iff]
      cases hc : s.getClass target with
      | error e => simp [checkType, hc]
      | ok c => cases hf : c.field? foreign <;> simp [checkType, hc, hf]

/-- A primitive type passes every check. -/
theorem checkType_of_isPrimitive (h : ty.isPrimitive = true) :
    s.checkType className field ty = .ok () := by
  cases ty <;> first | rfl | cases h

/-! ## Default fields -/

/-- A name is reserved if it is that of a default field. -/
theorem isDefault_iff {name : String} : Field.isDefault name = true ↔
    ∃ ty, (name, ty) ∈ Field.defaults := by
  have hnames : Field.defaultNames = Field.defaults.map (·.1) := rfl
  simp [Field.isDefault, hnames]

/-- Where no declared field is reserved, the fields of a class are the default ones and its own. -/
theorem mem_extended_iff (hreserved : ∀ f ∈ c.fields, Field.isDefault f.1 = false)
    {f : String × FieldType} : f ∈ c.extended.fields ↔ f ∈ Field.defaults ∨ f ∈ c.fields := by
  constructor
  · exact Table.of_mem_foldl_insert
  · intro h
    refine Table.mem_foldl_insert (by decide) (h.imp_right fun hf => ⟨hf, fun e he hname => ?_⟩)
    have hf := hreserved f hf
    rw [hname, isDefault_iff.mpr ⟨e.2, he⟩] at hf
    cases hf

/-- A field that is no primitive is no default field, and default fields leave it as it is. -/
theorem field?_extended (hreserved : ∀ f ∈ c.fields, Field.isDefault f.1 = false)
    (hty : ty.isPrimitive = false) :
    c.extended.field? field = some ty ↔ c.field? field = some ty := by
  constructor
  · intro h
    rcases Table.of_find?_foldl_insert h with hdefault | hfound
    · have hprimitive : ∀ f ∈ Field.defaults, f.2.isPrimitive = true := by decide
      rw [hprimitive _ hdefault] at hty
      cases hty
    · exact hfound
  · intro h
    have hname := hreserved _ (Table.mem_of_find?_eq_some h)
    have hne : ∀ e ∈ Field.defaults, field ≠ e.1 := by
      rintro e he rfl
      rw [isDefault_iff.mpr ⟨e.2, he⟩] at hname
      cases hname
    exact (Table.find?_foldl_insert_of_ne hne).trans h

/-- What stands in classes stands in them with the default fields, and the other way round. -/
theorem stands_extended {classes : Table Class} {owner : String}
    (hreserved : ∀ e ∈ classes, ∀ f ∈ e.2.fields, Field.isDefault f.1 = false) :
    Stands (classes.map fun e => (e.1, e.2.extended)) owner ty ↔ Stands classes owner ty := by
  have hbinds : ∀ target, Table.binds (classes.map fun e => (e.1, e.2.extended)) target =
      classes.binds target := by
    intro target
    rw [Table.binds, Table.find?_map, Option.isSome_map, Table.binds]
  cases ty with
  | primitive | vector | shape => exact Iff.rfl
  | pointer target => rw [Stands, hbinds, Stands]
  | relation target foreign =>
    cases foreign with
    | none => rw [Stands, hbinds, Stands]
    | some foreign =>
      rw [Stands, Stands, Table.find?_map]
      constructor
      · rintro ⟨_, back, hextended, hf, hback⟩
        obtain ⟨c, hc, rfl⟩ := Option.map_eq_some_iff.mp hextended
        have hc' := hreserved _ (Table.mem_of_find?_eq_some hc)
        have hprimitive : back.isPrimitive = false := by rcases hback with rfl | ⟨f, rfl⟩ <;> rfl
        exact ⟨c, back, hc, (field?_extended hc' hprimitive).mp hf, hback⟩
      · rintro ⟨c, back, hc, hf, hback⟩
        have hc' := hreserved _ (Table.mem_of_find?_eq_some hc)
        have hprimitive : back.isPrimitive = false := by rcases hback with rfl | ⟨f, rfl⟩ <;> rfl
        exact ⟨c.extended, back, by rw [hc]; rfl, (field?_extended hc' hprimitive).mpr hf, hback⟩

/-- A class declares no default field if none of its fields has a reserved name. -/
theorem binds_default_iff : (∀ field ∈ Field.defaultNames, c.fields.binds field = false) ↔
    ∀ f ∈ c.fields, Field.isDefault f.1 = false := by
  constructor
  · intro h f hf
    by_contra hdefault
    rw [Bool.not_eq_false, Field.isDefault, List.contains_iff_mem] at hdefault
    have hfree := h f.1 hdefault
    rw [Table.binds_iff.mpr ⟨f.2, hf⟩] at hfree
    cases hfree
  · intro h field hfield
    by_contra hbinds
    rw [Bool.not_eq_false] at hbinds
    obtain ⟨ty, hty⟩ := Table.binds_iff.mp hbinds
    have hdefault := h _ hty
    rw [Field.isDefault, List.contains_iff_mem.mpr hfield] at hdefault
    cases hdefault

/-- A schema can be made of some classes exactly if they are valid. -/
theorem exists_ofClasses {classes : Table Class} :
    (∃ s, ofClasses classes = .ok s) ↔ Valid classes := by
  constructor
  · rintro ⟨s, h⟩
    obtain ⟨hdeclared, hclasses, hchecked⟩ := ofClasses_eq_ok.mp h
    have hreserved : ∀ e ∈ classes, ∀ f ∈ e.2.fields, Field.isDefault f.1 = false :=
      fun e he => binds_default_iff.mp (hdeclared e he).2
    have hclass : ∀ e ∈ classes, s.checkClass e.1 e.2.extended = .ok () := by
      intro e he
      exact hchecked (e.1, e.2.extended) (hclasses ▸ List.mem_map.mpr ⟨e, he, rfl⟩)
    have hfield : ∀ e ∈ classes, ∀ f ∈ e.2.fields,
        isName f.1 = true ∧ s.checkType e.1 f.1 f.2 = .ok () := by
      intro e he f hf
      exact checkClass_ok (hclass e he) f ((mem_extended_iff (hreserved e he)).mpr (.inr hf))
    refine {
      className := fun e he => (hdeclared e he).1
      fieldName := fun e he f hf => (hfield e he f hf).1
      reserved := hreserved
      type := fun e he f hf part hpart => ?_
      secure := fun e he field hsecure => ?_ }
    · have hstands := checkType_eq_ok.mp (hfield e he f hf).2 part hpart
      rw [hclasses] at hstands
      exact (stands_extended hreserved).mp hstands
    · obtain ⟨ty, hty⟩ := Table.binds_iff.mp ((checkClass_eq_ok.mp (hclass e he)).2 field hsecure)
      rcases (mem_extended_iff (hreserved e he)).mp hty with hdefault | hf
      · exact .inr (isDefault_iff.mpr ⟨ty, hdefault⟩)
      · exact .inl ⟨ty, hf⟩
  · intro h
    refine ⟨⟨classes.map fun e => (e.1, e.2.extended)⟩, ofClasses_eq_ok.mpr ⟨?_, rfl, ?_⟩⟩
    · intro e he
      exact ⟨h.className e he, binds_default_iff.mpr (h.reserved e he)⟩
    · intro e' he'
      obtain ⟨e, he, rfl⟩ := List.mem_map.mp he'
      have hdefault : ∀ f ∈ Field.defaults, isName f.1 = true ∧ f.2.isPrimitive = true := by decide
      refine checkClass_eq_ok.mpr ⟨fun f hf => ?_, fun field hsecure => ?_⟩
      · rcases (mem_extended_iff (h.reserved e he)).mp hf with hf | hf
        · exact ⟨(hdefault f hf).1, checkType_of_isPrimitive (hdefault f hf).2⟩
        · refine ⟨h.fieldName e he f hf, checkType_eq_ok.mpr fun part hpart => ?_⟩
          exact (stands_extended h.reserved).mpr (h.type e he f hf part hpart)
      · rw [Table.binds_iff]
        rcases h.secure e he field hsecure with ⟨ty, hty⟩ | hdefault
        · exact ⟨ty, (mem_extended_iff (h.reserved e he)).mpr (.inr hty)⟩
        · obtain ⟨ty, hty⟩ := isDefault_iff.mp hdefault
          exact ⟨ty, (mem_extended_iff (h.reserved e he)).mpr (.inl hty)⟩

/-! ## References lead somewhere -/

/-- Every reference in a type leads to a class. -/
def Leads (s : Schema) (ty : FieldType) : Prop :=
  ∀ part, Part part ty → ∀ target, part.target? = some target → (s.class? target).isSome = true

/-- Every reference of every class leads to a class. -/
def Closed (s : Schema) : Prop :=
  ∀ className c, s.class? className = some c → ∀ field ty, c.field? field = some ty → s.Leads ty

/-- A type whose parts are all valid leads to classes that are there. -/
theorem leads_of_stands {owner : String}
    (h : ∀ part, Part part ty → Stands s.classes owner part) : s.Leads ty := by
  intro part hpart target htarget
  have hstands := h part hpart
  cases part with
  | pointer _ =>
    cases htarget
    exact hstands
  | relation _ foreign =>
    cases htarget
    cases foreign with
    | none => exact hstands
    | some foreign =>
      obtain ⟨c, back, hc, -⟩ := hstands
      exact Option.isSome_of_eq_some hc
  | primitive | vector | shape => cases htarget

/-- A schema of valid classes is closed. -/
theorem closed_of_ofClasses {classes : Table Class} (h : ofClasses classes = .ok s) : s.Closed := by
  intro className c hc field ty hf
  obtain ⟨-, -, hchecked⟩ := ofClasses_eq_ok.mp h
  have hclass := hchecked (className, c) (Table.mem_of_find?_eq_some hc)
  have hty := (checkClass_ok hclass (field, ty) (Table.mem_of_find?_eq_some hf)).2
  exact leads_of_stands (checkType_eq_ok.mp hty)

/-- A primitive type leads nowhere. -/
theorem leads_of_primitive {kind : PrimitiveKind} {default? : Option Json} :
    s.Leads (.primitive kind default?) := by
  rintro part (_ | _) target htarget
  cases htarget

/-- The target of a type that leads to classes of the schema is one of them. -/
theorem Leads.target (h : s.Leads ty) {target : String} (htarget : ty.target? = some target) :
    (s.class? target).isSome = true :=
  h ty .self target htarget

/-- A member of a shape leads where the shape does. -/
theorem Leads.member {fields : List (String × FieldType)} (h : s.Leads (.shape fields))
    {name : String} (hty : Table.find? fields name = some ty) : s.Leads ty :=
  fun part hpart => h part (.member (Table.mem_of_find?_eq_some hty) hpart)

end Schema

/-! ## Walks that know every class -/

/-- An error about something else than a class that is not there. -/
def Error.KnowsClass : Error → Prop
  | .path (.unknownClass _) => False
  | _ => True

open Error (KnowsClass)

/-- Reading a path asks for no class. -/
theorem Path.parse_knows {path : String} : (Path.parse path).Refuses KnowsClass := by
  unfold parse
  split
  · exact .ok
  · exact Result.Refuses.error.mpr trivial

namespace Schema

variable {s : Schema} {className path : String} {ty : FieldType}

/-- A class that is there is not refused as unknown. -/
theorem getClass_knows (h : (s.class? className).isSome = true) :
    (s.getClass className).Refuses KnowsClass := by
  unfold getClass
  split
  · exact .ok
  · next hnone => simp [hnone] at h

/-- The first field of a path is looked for in a class that is there. -/
theorem startField_knows {all : List Segment} {first : Option Segment}
    (h : (s.class? className).isSome = true) :
    (s.startField className all first).Refuses KnowsClass := by
  unfold startField
  split
  · next he => exact (getClass_knows h).of_eq_error he
  · split
    · exact .ok
    · exact Result.Refuses.error.mpr trivial
  · exact Result.Refuses.error.mpr trivial

/-- The type of the first field leads to classes of a closed schema. -/
theorem Closed.leads_of_startField (hs : s.Closed) {all : List Segment} {first : Option Segment}
    (h : s.startField className all first = .ok ty) : s.Leads ty := by
  obtain ⟨c, field, hc, -, hf⟩ := startField_ok.mp h
  exact hs className c hc field ty hf

/-- A step of the type walk goes to a type that leads somewhere, or enters a class that is there. -/
def TypeStep.Leads (s : Schema) : TypeStep → Prop
  | .here ty => s.Leads ty
  | .enter target _ => (s.class? target).isSome = true
  | .untyped | .refuse => True

/-- One step of a walk leads to classes of the schema if the walk did so far. -/
theorem Leads.typeStep (h : s.Leads ty) {segment : Segment} {isLast : Bool} :
    (Schema.typeStep ty segment isLast).Leads s := by
  cases ty with
  | shape fields =>
    cases segment with
    | index i => trivial
    | field name =>
      rw [Schema.typeStep]
      split
      · next hty => exact h.member hty
      · trivial
  | primitive kind default? =>
    rw [Schema.typeStep]
    split <;> trivial
  | vector dimension default? =>
    cases segment with
    | index i =>
      rw [Schema.typeStep]
      split
      · exact leads_of_primitive
      · trivial
    | field name => trivial
  | pointer target => exact h.target rfl
  | relation target foreign =>
    cases segment with
    | index i =>
      rw [Schema.typeStep]
      split
      · trivial
      · exact h.target rfl
    | field name => exact h.target rfl

/-- What a step of the type walk comes to, if it was taken from a type that leads somewhere. -/
theorem Leads.of_typeStep (h : s.Leads ty) {segment : Segment} {isLast : Bool} {next : TypeStep}
    (hstep : Schema.typeStep ty segment isLast = next) : next.Leads s :=
  hstep ▸ h.typeStep

/-- A walk asks for no class but those of a closed schema, by the recursion of the walk. -/
theorem walk_knows (hs : s.Closed) {all segments : List Segment} (hty : s.Leads ty) :
    (s.walk className all ty segments).Refuses KnowsClass := by
  fun_induction walk s className all ty segments with
  | case1 | case3 => exact .ok
  | case4 | case5 => exact Result.Refuses.error.mpr trivial
  | case2 _ _ _ _ _ _ hstep ih => exact ih (hty.of_typeStep hstep)
  | case6 | case8 =>
    next ih => exact ih (hs.leads_of_startField ‹s.startField _ _ _ = _›)
  | case7 | case9 =>
    have hclass := hty.of_typeStep ‹Schema.typeStep _ _ _ = _›
    exact (startField_knows hclass).of_eq_error ‹s.startField _ _ _ = _›

/-- The type of a path is found without asking for an unknown class. -/
theorem typeOf_knows (hs : s.Closed) (h : (s.class? className).isSome = true)
    {segments : List Segment} : (s.typeOf className segments).Refuses KnowsClass := by
  unfold typeOf
  split
  · next hstart => exact walk_knows hs (hs.leads_of_startField hstart)
  · next he => exact (startField_knows h).of_eq_error he

/-- The type of a path as text is found without asking for an unknown class. -/
theorem typeAt_knows (hs : s.Closed) (h : (s.class? className).isSome = true) :
    (s.typeAt className path).Refuses KnowsClass :=
  Path.parse_knows.bind fun _ => typeOf_knows hs h

/-- The column below a type is found without asking for an unknown class. -/
theorem columnBelow_knows (hs : s.Closed) {refuse : PathReason → Error}
    (hrefuse : ∀ reason, (refuse reason).KnowsClass) {name : String} {segments : List Segment}
    (hty : s.Leads ty) : (s.columnBelow refuse name ty segments).Refuses KnowsClass := by
  fun_induction columnBelow s refuse name ty segments with
  | case2 _ _ _ _ _ hsub ih => exact ih (hty.member hsub)
  | case8 | case9 => exact (typeOf_knows hs (hty.target rfl)).map
  | case1 | case6 | case10 => exact .ok
  | case3 | case4 | case5 | case7 | case11 | case12 => exact Result.Refuses.error.mpr (hrefuse _)

/-- The column of a path is found without asking for an unknown class. -/
theorem columnOf_knows (hs : s.Closed) (h : (s.class? className).isSome = true)
    {segments : List Segment} : (s.columnOf className path segments).Refuses KnowsClass := by
  have hrefuse : ∀ reason, KnowsClass (.path (.unresolved className path reason)) := fun _ => trivial
  unfold columnOf
  split
  · next he => exact (getClass_knows h).of_eq_error he
  · next hc =>
    split
    · next hf =>
      exact columnBelow_knows hs hrefuse (hs className _ (getClass_eq_ok.mp hc) _ _ hf)
    · exact Result.Refuses.error.mpr trivial
  · exact Result.Refuses.error.mpr trivial

/-- The column of a path as text is found without asking for an unknown class. -/
theorem column_knows (hs : s.Closed) (h : (s.class? className).isSome = true) :
    (s.column className path).Refuses KnowsClass :=
  Path.parse_knows.bind fun _ => columnOf_knows hs h

end Schema

namespace Gate

variable {g : Gate} {className path : String}

/-- Looking for a field asks for no class. -/
theorem fieldOf_knows {c : Class} {field : String} :
    (fieldOf className c field).Refuses KnowsClass := by
  unfold fieldOf
  split
  · exact .ok
  · exact Result.Refuses.error.mpr trivial

/-- The check of a field asks for no class. -/
theorem authorizeField_knows {c : Class} {field : String} {action : FieldAction} :
    (g.authorizeField className c field action).Refuses KnowsClass := by
  unfold authorizeField
  split
  · exact Result.Refuses.error.mpr trivial
  · split
    · exact .ok
    · exact Result.Refuses.error.mpr trivial

/-- The check of a class finds one that is there. -/
theorem openClass_knows {action : ClassAction} (h : (g.schema.class? className).isSome = true) :
    (g.openClass className action).Refuses KnowsClass := by
  refine (Schema.getClass_knows h).bind fun c => Result.Refuses.bind ?_ fun _ => .pure
  unfold authorizeClass
  split
  · exact .ok
  · exact Result.Refuses.error.mpr trivial

/-- The check for reading a field finds its class. -/
theorem readField_knows {field : String} (h : (g.schema.class? className).isSome = true) :
    (g.readField className field).Refuses KnowsClass :=
  (Schema.getClass_knows h).bind fun _ => fieldOf_knows.bind fun _ =>
    authorizeField_knows.bind fun _ => .pure

/-- The checks along a path only ask for classes that its references lead to. -/
theorem authorizeSegments_knows (hs : g.schema.Closed) {segments : List Segment}
    (h : (g.schema.class? className).isSome = true) :
    (g.authorizeSegments path className segments).Refuses KnowsClass := by
  -- By the length: behind the index of a relation the walk goes on two segments further.
  induction hlength : segments.length using Nat.strong_induction_on
    generalizing className segments with
  | _ n ih =>
    subst hlength
    cases segments with
    | nil => exact Result.Refuses.error.mpr trivial
    | cons segment rest =>
      cases segment with
      | index i => exact Result.Refuses.error.mpr trivial
      | field field =>
        rw [authorizeSegments]
        refine (readField_knows h).bind_given fun ty hread => ?_
        obtain ⟨c, hc, hf, -⟩ := readField_eq_ok.mp hread
        have hleads := hs className c hc field ty hf
        cases ty with
        | pointer target =>
          cases rest with
          | nil => exact .pure
          | cons next more =>
            have hclass := hleads.target rfl
            exact (openClass_knows hclass).bind fun _ => ih _ (by simp) hclass rfl
        | relation target foreign =>
          have hclass := hleads.target rfl
          cases rest with
          | nil => exact .pure
          | cons next more =>
            cases next with
            | field name => exact (openClass_knows hclass).bind fun _ => ih _ (by simp) hclass rfl
            | index i =>
              cases more with
              | nil => exact (Schema.typeOf_knows hs h).bind fun _ => .pure
              | cons _ _ =>
                exact (openClass_knows hclass).bind fun _ => ih _ (by simp) hclass rfl
        | primitive | vector | shape => exact (Schema.typeOf_knows hs h).bind fun _ => .pure

/-- The checks along a path as text only ask for classes that are there. -/
theorem authorizePath_knows (hs : g.schema.Closed) (h : (g.schema.class? className).isSome = true) :
    (g.authorizePath className path).Refuses KnowsClass :=
  Path.parse_knows.bind fun _ => authorizeSegments_knows hs h

/-- The leaves of a shape are expanded without asking for an unknown class. -/
theorem shapeLeaves_knows (hs : g.schema.Closed) (h : (g.schema.class? className).isSome = true)
    {head : String} {ty : FieldType} {rest : List String} :
    (g.shapeLeaves className head ty rest).Refuses KnowsClass := by
  unfold shapeLeaves
  split
  · exact .pure
  · exact (Schema.column_knows hs h).bind fun _ => .pure

/-- An include is expanded without asking for an unknown class, by induction on its parts. -/
theorem expandParts_knows (hs : g.schema.Closed) {parts : List String} {start : String}
    (h : (g.schema.class? className).isSome = true) :
    (g.expandParts className start parts).Refuses KnowsClass := by
  induction parts generalizing className start with
  | nil => exact (Schema.getClass_knows h).bind fun _ => .pure
  | cons head rest ih =>
    rw [expandParts]
    refine (Schema.getClass_knows h).bind_given fun c hc => ?_
    have hc := Schema.getClass_eq_ok.mp hc
    by_cases hstar : head = "*"
    · rw [if_pos hstar]
      split
      · exact .pure
      · exact Result.Refuses.error.mpr trivial
    · rw [if_neg hstar]
      refine fieldOf_knows.bind_given fun ty hf => authorizeField_knows.bind fun _ => ?_
      have hleads := hs className c hc head ty (fieldOf_eq_ok.mp hf)
      cases ty with
      | pointer target | relation target foreign =>
        have hclass := hleads.target rfl
        exact (openClass_knows hclass).bind fun _ => (ih hclass).bind fun _ => .pure
      | shape fields => exact (shapeLeaves_knows hs h).bind fun _ => .pure
      | primitive | vector =>
        dsimp only
        split
        · exact .pure
        · exact Result.Refuses.error.mpr trivial

/-- The includes of a request are expanded without asking for an unknown class. -/
theorem expandIncludes_knows (hs : g.schema.Closed) (h : (g.schema.class? className).isSome = true)
    {includes : List String} : (g.expandIncludes className includes).Refuses KnowsClass :=
  (Result.Refuses.mapM (fun _ => expandParts_knows hs h) _).bind fun _ => .pure

end Gate

namespace Plan

variable {s : Schema} {className : String}

/-- A path is taken into a level without asking for an unknown class. -/
theorem add_knows (hs : s.Closed) {c : Class} (h : (s.class? className).isSome = true)
    {level : Level} {path : Parts} : (level.add s className c path).Refuses KnowsClass := by
  unfold Level.add columnAt
  refine Gate.fieldOf_knows.bind fun ty => ?_
  split
  · exact .pure
  · refine Result.Refuses.bind ?_ fun column => ?_
    · refine (Schema.column_knows hs h).bind fun column => ?_
      split
      · exact Result.Refuses.error.mpr trivial
      · exact .pure
    · split <;> exact .pure

/-- A level is made without asking for an unknown class. -/
theorem level_knows (hs : s.Closed) {c : Class} (h : (s.class? className).isSome = true)
    {paths : List Parts} :
    (paths.foldlM (Level.add s className c) {} : Result Level).Refuses KnowsClass :=
  Result.Refuses.foldlM (fun _ _ => add_knows hs h) _ _

/-- A plan asks for classes only that its references lead to, by induction on how long its paths are. -/
theorem ofParts_knows (hs : s.Closed) {depth : Nat} {target : Target} {reach : Reach}
    {paths : List Parts} {query : BaseQuery} (h : (s.class? target.className).isSome = true) :
    (ofParts s depth target reach paths query).Answers KnowsClass (fun _ => True) := by
  induction depth generalizing target reach paths query with
  | zero =>
    unfold ofParts
    refine Compile.Answers.bind (.lift (Schema.getClass_knows h) fun _ _ => trivial) fun c _ => ?_
    refine Compile.Answers.bind (.lift (level_knows hs h) fun _ _ => trivial) fun level _ => ?_
    exact Compile.Answers.bind (Q := fun _ => True) (.pure trivial) fun _ _ => .pure trivial
  | succ depth ih =>
    unfold ofParts
    refine Compile.Answers.bind (.lift (Schema.getClass_knows h) fun _ hc => hc) fun c hc => ?_
    refine Compile.Answers.bind (.lift (level_knows hs h) fun _ _ => trivial) fun level _ => ?_
    refine Compile.Answers.bind (.mapM fun group _ => ?_) fun _ _ => .pure trivial
    dsimp only
    split
    · next reach className hreach =>
      obtain ⟨ty, hf, hreach⟩ := Option.bind_eq_some_iff.mp hreach
      have hleads := hs target.className c (Schema.getClass_eq_ok.mp hc) group.1 ty hf
      have hclass := hleads.target (reachOf_eq_some hreach).2
      exact .bind .freshTarget fun child hchild => ih (hchild ▸ hclass)
    · exact .throw trivial

/-- The plan for some includes asks for classes only that are there. -/
theorem ofIncludes_knows (hs : s.Closed) {target : Target} {includes : List String}
    {query : BaseQuery} (h : (s.class? target.className).isSome = true) :
    (ofIncludes s target includes query).Answers KnowsClass (fun _ => True) :=
  ofParts_knows hs h

end Plan

/--
A schema is made of some classes exactly if they are valid; and then nothing that starts at one of them
ever fails with a class that is not there: no look for a column or for a type, no permission to read a
path, no list of paths to return and no plan of them, whatever it is asked for.
-/
theorem Schema.ofClasses_closed (classes : Table Class) :
    ((∃ s, ofClasses classes = .ok s) ↔ Valid classes) ∧
      ∀ s, ofClasses classes = .ok s → ∀ declared ∈ classes, ∀ name,
        (∀ path, s.column declared.1 path ≠ .error (.path (.unknownClass name))) ∧
        (∀ path, s.typeAt declared.1 path ≠ .error (.path (.unknownClass name))) ∧
        (∀ g : Gate, g.schema = s →
          (∀ path, g.authorizePath declared.1 path ≠ .error (.path (.unknownClass name))) ∧
          ∀ includes, g.expandIncludes declared.1 includes ≠ .error (.path (.unknownClass name))) ∧
        ∀ label includes query drawn,
          ((Plan.ofIncludes s ⟨declared.1, label⟩ includes query).run.run drawn).1 ≠
            .error (.path (.unknownClass name)) := by
  refine ⟨exists_ofClasses, fun s h declared hdeclared name => ?_⟩
  have hs : s.Closed := closed_of_ofClasses h
  have hclass : (s.class? declared.1).isSome = true := by
    rw [class?, (ofClasses_eq_ok.mp h).2.1, Table.find?_map, Option.isSome_map]
    exact Table.binds_iff.mpr ⟨declared.2, hdeclared⟩
  refine ⟨fun path he => ?_, fun path he => ?_, ?_, fun label includes query drawn he => ?_⟩
  · exact column_knows hs hclass _ he
  · exact typeAt_knows hs hclass _ he
  · rintro g rfl
    exact ⟨fun path he => Gate.authorizePath_knows hs hclass _ he,
      fun includes he => Gate.expandIncludes_knows hs hclass _ he⟩
  · have hanswer := @Plan.ofIncludes_knows s hs ⟨declared.1, label⟩ includes query hclass drawn
    rw [he] at hanswer
    exact hanswer

/-- Authors and their notes, which lead to each other, one of them from inside a shape. -/
def authoredClasses : Table Class :=
  [("Author", { fields := [("notes", .relation "Note" (some "author"))] }),
    ("Note", {
      fields := [("author", .pointer "Author"),
        ("review", .shape [("by", .pointer "Author"), ("marks", .vector 2 none)])]
      secureFields := ["review", "_rperm"] })]

/-- The authors and their notes are valid, so no path from a note leads to an unknown class. -/
theorem Schema.ofClasses_closed_of_authoredClasses :
    Valid authoredClasses ∧ ∃ s, ofClasses authoredClasses = .ok s ∧
      ∀ path name, s.column "Note" path ≠ .error (.path (.unknownClass name)) := by
  obtain ⟨hvalid, hclosed⟩ := ofClasses_closed authoredClasses
  obtain ⟨s, hs⟩ : ∃ s, ofClasses authoredClasses = .ok s := ⟨_, rfl⟩
  obtain ⟨c, hc⟩ : ∃ c, ("Note", c) ∈ authoredClasses :=
    ⟨_, List.mem_cons_of_mem _ List.mem_cons_self⟩
  exact ⟨hvalid.mp ⟨s, hs⟩, s, hs, fun path name => (hclosed s hs ("Note", c) hc name).1 path⟩

end ObjectQuery
