import ObjectQuery.Proofs.Schema.Documents
import ObjectQuery.Proofs.Schema.Passage

/-!
# Accepted schemas

A schema that was read from a document keeps its classes, their fields and the members of every
shape in order, and each class has passed its checks. So a field is found under its name, names are
identifiers, and references lead to classes that are there.
-/

namespace ObjectQuery

/-! ## Types -/

namespace FieldType

mutual

/-- The members of every shape in a type are in order. -/
def Ordered : FieldType → Prop
  | shape fields => Table.Ordered fields ∧ AllOrdered fields
  | _ => True

def AllOrdered : List (String × FieldType) → Prop
  | [] => True
  | (_, ty) :: rest => Ordered ty ∧ AllOrdered rest

end

theorem allOrdered_iff {fields : List (String × FieldType)} :
    AllOrdered fields ↔ ∀ m ∈ fields, m.2.Ordered := by
  induction fields with
  | nil => simp [AllOrdered]
  | cons m rest ih => rw [AllOrdered, ih, List.forall_mem_cons]

theorem ordered_shape {fields : List (String × FieldType)} :
    (shape fields).Ordered ↔ Table.Ordered fields ∧ ∀ m ∈ fields, m.2.Ordered := by
  rw [Ordered, allOrdered_iff]

end FieldType

/-- A table of types, in order itself and inside each of them. -/
def FieldsOrdered (fields : Table FieldType) : Prop :=
  fields.Ordered ∧ ∀ m ∈ fields, m.2.Ordered

/-! ## Reading types -/

namespace FieldType

/-- A type that is read from any document is in order. -/
theorem ordered_of_decode {d : Json} {ty : FieldType} (h : decode d = .ok ty) : ty.Ordered := by
  refine (reads_of_builds (Q := fun _ => True) (fun _ _ _ _ => trivial) (fun _ _ _ _ => trivial)
    (fun r ty hr hbuild => ?_) trivial).type ty h
  cases hbuild with
  | shape hshape => exact ordered_shape.mpr (hr.shape _ hshape)
  | primitive _ => trivial
  | vector _ _ => trivial
  | pointer _ => trivial
  | relation _ => trivial

end FieldType

/-! ## Reading classes -/

namespace Document

/-- The fields of a class that was read are in order. -/
theorem classDefinition_ok {v : Json} {c : Class} (h : classDefinition v = .ok c) :
    FieldsOrdered c.fields := by
  have hstart : FieldsOrdered ({} : Class).fields := Table.Holds.nil
  refine record_invariant (P := fun c : Class => FieldsOrdered c.fields) ?_ hstart h
  intro c name v c' hc hset
  split at hset
  · obtain ⟨fields, hfields, rfl⟩ := map_eq_ok.mp hset
    exact table_ok (fun _ _ => FieldType.ordered_of_decode) hfields
  iterate 5
    · obtain ⟨_, _, rfl⟩ := map_eq_ok.mp hset
      exact hc
  · cases hset
    exact hc

end Document

/-! ## Schemas -/

namespace Class

variable {c : Class}

/-- A class with the fields that every class carries. -/
def extended (c : Class) : Class :=
  { c with fields := Field.defaults.foldl (fun t f => t.insert f.1 f.2) c.fields }

theorem mem_extended : ∀ f ∈ Field.defaults, f ∈ c.extended.fields :=
  fun _ hf => Table.mem_foldl_insert (by decide) (.inl hf)

/-- Default fields are added to those of a class in order. -/
theorem fieldsOrdered_extended (h : FieldsOrdered c.fields) : FieldsOrdered c.extended.fields := by
  have hdefaults : ∀ f ∈ Field.defaults, f.2.Ordered := by
    simp [Field.defaults, FieldType.Ordered]
  exact Table.Holds.foldl_insert hdefaults h

end Class

namespace Schema

/-- Classes and fields are in order, and every class has passed its checks. -/
structure Accepted (s : Schema) : Prop where
  ordered : s.classes.Ordered
  fields : ∀ name c, (name, c) ∈ s.classes → FieldsOrdered c.fields
  checked : ∀ name c, (name, c) ∈ s.classes → s.checkClass name c = .ok ()

/-- A class takes the default fields exactly if its name is one and it declares none of them itself. -/
theorem withDefaults_eq_ok {name : String} {c c' : Class} :
    withDefaults name c = .ok c' ↔ isName name = true ∧
      (∀ field ∈ Field.defaultNames, c.fields.binds field = false) ∧ c.extended = c' := by
  have hfree : ∀ field, (if c.fields.binds field then .error (.path (.reservedField name field))
      else .ok () : Result Unit) = .ok () ↔ c.fields.binds field = false := by
    intro field
    cases c.fields.binds field <;> simp
  unfold withDefaults
  split
  · next hname =>
    have hname : isName name = false := by simpa using hname
    simp [Result.bind_eq_ok, Result.throw_eq_ok, hname]
  · next hname =>
    have hname : isName name = true := by simpa using hname
    simp only [Result.bind_eq_ok, Result.pure_eq_ok, hname, true_and]
    constructor
    · rintro ⟨_, hloop, hc⟩
      exact ⟨fun field hfield => (hfree field).mp (Result.forM_eq_ok.mp hloop field hfield), hc⟩
    · rintro ⟨hbinds, hc⟩
      have hloop := Result.forM_eq_ok.mpr fun field hfield => (hfree field).mpr (hbinds field hfield)
      exact ⟨(), hloop, hc⟩

/-- The schema of some classes is made of these with the default fields, and they are checked in it. -/
theorem ofClasses_eq_ok {classes : Table Class} {s : Schema} :
    ofClasses classes = .ok s ↔
      (∀ e ∈ classes, isName e.1 = true ∧
        ∀ field ∈ Field.defaultNames, e.2.fields.binds field = false) ∧
      s.classes = classes.map (fun e => (e.1, e.2.extended)) ∧
      ∀ e ∈ s.classes, s.checkClass e.1 e.2 = .ok () := by
  have hstep : ∀ {e e' : String × Class}, (withDefaults e.1 e.2).map (e.1, ·) = .ok e' ↔
      (isName e.1 = true ∧ ∀ field ∈ Field.defaultNames, e.2.fields.binds field = false) ∧
        (e.1, e.2.extended) = e' := by
    intro e e'
    simp only [Result.map_eq_ok, withDefaults_eq_ok]
    constructor
    · rintro ⟨c, ⟨hname, hfree, rfl⟩, rfl⟩
      exact ⟨⟨hname, hfree⟩, rfl⟩
    · rintro ⟨⟨hname, hfree⟩, rfl⟩
      exact ⟨_, ⟨hname, hfree, rfl⟩, rfl⟩
  have hloop : ∀ {added : Table Class},
      classes.mapM (fun e => (withDefaults e.1 e.2).map (e.1, ·)) = (.ok added : Result _) ↔
        (∀ e ∈ classes, isName e.1 = true ∧
          ∀ field ∈ Field.defaultNames, e.2.fields.binds field = false) ∧
        classes.map (fun e => (e.1, e.2.extended)) = added := by
    intro added
    simp only [Result.mapM_eq_ok, hstep, List.forall₂_and_left]
    rw [← List.forall₂_eq_eq_eq, List.forall₂_map_left_iff]
  unfold ofClasses
  rw [Result.bind_eq_ok]
  constructor
  · rintro ⟨added, hadded, hrest⟩
    obtain ⟨_, hchecked, hs⟩ := Result.bind_eq_ok.mp hrest
    obtain rfl := Result.pure_eq_ok.mp hs
    obtain ⟨hvalid, rfl⟩ := hloop.mp hadded
    exact ⟨hvalid, rfl, Result.forM_eq_ok.mp hchecked⟩
  · rintro ⟨hvalid, hclasses, hchecked⟩
    refine ⟨s.classes, hloop.mpr ⟨hvalid, hclasses.symm⟩, ?_⟩
    exact Result.bind_eq_ok.mpr ⟨(), Result.forM_eq_ok.mpr hchecked, rfl⟩

/-- A schema of classes in order is accepted, if they are valid. -/
theorem accepted_of_ofClasses {classes : Table Class} {s : Schema} (h : ofClasses classes = .ok s)
    (hordered : classes.Ordered) (hfields : ∀ e ∈ classes, FieldsOrdered e.2.fields) :
    s.Accepted := by
  obtain ⟨-, hclasses, hchecked⟩ := ofClasses_eq_ok.mp h
  refine {
    ordered := hordered.of_names ?_
    fields := fun name c hc => ?_
    checked := fun name c hc => hchecked (name, c) hc }
  · rw [hclasses, List.map_map]
    rfl
  · rw [hclasses] at hc
    obtain ⟨e, he, heq⟩ := List.mem_map.mp hc
    cases heq
    exact Class.fieldsOrdered_extended (hfields e he)

/-- The classes that a schema was read from, and that make it up. -/
theorem exists_of_ofJson {v : Json} {s : Schema} (h : ofJson v = .ok s) :
    ∃ classes, Document.table Document.classDefinition v = .ok classes ∧
      ofClasses classes = .ok s := by
  obtain ⟨classes, hread, hclasses⟩ := Result.bind_eq_ok.mp h
  refine ⟨classes, ?_, hclasses⟩
  unfold Document.run at hread
  split at hread
  · next hok => cases hread; exact hok
  · cases hread

/-- A schema that was read from a document is accepted. -/
theorem accepted_of_ofJson {v : Json} {s : Schema} (h : ofJson v = .ok s) : s.Accepted := by
  obtain ⟨classes, htable, hclasses⟩ := exists_of_ofJson h
  obtain ⟨hordered, hfields⟩ := Document.table_ok
    (P := fun c : Class => FieldsOrdered c.fields) (fun _ _ => Document.classDefinition_ok) htable
  exact accepted_of_ofClasses hclasses hordered hfields

/-- A class of a schema is a class that it is made of, with the default fields. -/
theorem exists_of_class? {classes : Table Class} {s : Schema} (h : ofClasses classes = .ok s)
    {className : String} {c : Class} (hc : s.class? className = some c) :
    ∃ declared, (className, declared) ∈ classes ∧ c = declared.extended := by
  obtain ⟨-, hclasses, -⟩ := ofClasses_eq_ok.mp h
  have hmem := Table.mem_of_find?_eq_some hc
  rw [hclasses] at hmem
  obtain ⟨e, he, heq⟩ := List.mem_map.mp hmem
  cases heq
  exact ⟨e.2, he, rfl⟩

/-- Every class of a schema that was read has the default fields with their types. -/
theorem field?_default_of_ofJson {v : Json} {s : Schema} (h : ofJson v = .ok s)
    {className : String} {c : Class} (hc : s.class? className = some c) :
    ∀ f ∈ Field.defaults, c.field? f.1 = some f.2 := by
  intro f hf
  have hordered := ((accepted_of_ofJson h).fields className c (Table.mem_of_find?_eq_some hc)).1
  obtain ⟨classes, -, hclasses⟩ := exists_of_ofJson h
  obtain ⟨declared, -, rfl⟩ := exists_of_class? hclasses hc
  exact hordered.find?_eq_some_iff.mpr (Class.mem_extended f hf)

/-- The classes of a schema that was read are named by identifiers. -/
theorem isName_class_of_ofJson {v : Json} {s : Schema} (h : ofJson v = .ok s) {className : String}
    {c : Class} (hc : s.class? className = some c) : isName className = true := by
  obtain ⟨classes, -, hclasses⟩ := exists_of_ofJson h
  obtain ⟨declared, hdeclared, -⟩ := exists_of_class? hclasses hc
  exact ((ofClasses_eq_ok.mp hclasses).1 _ hdeclared).1

/-! ## What a type of an accepted schema holds -/

mutual

/-- Members are identifiers in order, and references lead to classes that are there. -/
def WellTyped (s : Schema) : FieldType → Prop
  | .shape fields => Table.Ordered fields ∧ MembersWellTyped s fields
  | .pointer target => (s.class? target).isSome = true
  | .relation target _ => (s.class? target).isSome = true
  | .primitive .. | .vector .. => True

def MembersWellTyped (s : Schema) : List (String × FieldType) → Prop
  | [] => True
  | (name, ty) :: rest => (isName name = true ∧ WellTyped s ty) ∧ MembersWellTyped s rest

end

variable {s : Schema} {className : String} {c : Class}

theorem membersWellTyped_iff {fields : List (String × FieldType)} :
    MembersWellTyped s fields ↔ ∀ m ∈ fields, isName m.1 = true ∧ s.WellTyped m.2 := by
  induction fields with
  | nil => simp [MembersWellTyped]
  | cons m rest ih => rw [MembersWellTyped, ih, List.forall_mem_cons]

theorem checkFields_eq_ok {field : String} {fields : List (String × FieldType)} :
    s.checkFields className field fields = .ok () ↔
      ∀ m ∈ fields, isName m.1 = true ∧
        s.checkType className (field ++ "." ++ m.1) m.2 = .ok () := by
  induction fields with
  | nil => simp [checkFields]
  | cons m rest ih =>
    rw [checkFields, List.forall_mem_cons, ← ih]
    split
    · next hname => simp_all
    · next hname =>
      have hname : isName m.1 = true := by simpa using hname
      split
      · next hty => simp [hname, hty]
      · next hty => simp [hty]

theorem isSome_class?_of_getClass {target : String} (h : s.getClass target = .ok c) :
    (s.class? target).isSome = true := by
  rw [getClass_eq_ok.mp h]
  rfl

theorem wellTyped_of_checkType {field : String} {ty : FieldType} (hordered : ty.Ordered)
    (h : s.checkType className field ty = .ok ()) : s.WellTyped ty := by
  induction ty using FieldType.nested_induction generalizing field with
  | primitive kind default? => trivial
  | vector dimension default? => trivial
  | shape fields ih =>
    obtain ⟨horder, htypes⟩ := FieldType.ordered_shape.mp hordered
    refine ⟨horder, membersWellTyped_iff.mpr fun m hm => ?_⟩
    obtain ⟨hname, hty⟩ := checkFields_eq_ok.mp h m hm
    exact ⟨hname, ih m hm (htypes m hm) hty⟩
  | pointer target =>
    obtain ⟨c, hc, -⟩ := Result.map_eq_ok.mp h
    exact isSome_class?_of_getClass hc
  | relation target foreign =>
    unfold checkType at h
    split at h
    · cases h
    · next hc => exact isSome_class?_of_getClass hc
    · next hc => exact isSome_class?_of_getClass hc

theorem checkClass_eq_ok :
    s.checkClass className c = .ok () ↔
      (∀ m ∈ c.fields, isName m.1 = true ∧ s.checkType className m.1 m.2 = .ok ()) ∧
        ∀ field ∈ c.secureFields, c.fields.binds field = true := by
  have hfield : ∀ m : String × FieldType,
      (do
        if !isName m.1 then throw (.path (.badFieldName className m.1))
        s.checkType className m.1 m.2 : Result Unit) = .ok () ↔
      isName m.1 = true ∧ s.checkType className m.1 m.2 = .ok () := by
    intro m
    cases isName m.1 <;> simp [Result.bind_eq_ok, Result.throw_eq_ok]
  have hsecure : ∀ field, (if c.fields.binds field then .ok ()
      else .error (.path (.undeclaredSecure className field)) : Result Unit) = .ok () ↔
      c.fields.binds field = true := by
    intro field
    cases c.fields.binds field <;> simp
  unfold checkClass
  rw [Result.bind_eq_ok]
  constructor
  · rintro ⟨_, hfields, hsecured⟩
    exact ⟨fun m hm => (hfield m).mp (Result.forM_eq_ok.mp hfields m hm),
      fun field hf => (hsecure field).mp (Result.forM_eq_ok.mp hsecured field hf)⟩
  · rintro ⟨hfields, hsecured⟩
    exact ⟨(), Result.forM_eq_ok.mpr fun m hm => (hfield m).mpr (hfields m hm),
      Result.forM_eq_ok.mpr fun field hf => (hsecure field).mpr (hsecured field hf)⟩

theorem checkClass_ok (h : s.checkClass className c = .ok ()) :
    ∀ m ∈ c.fields, isName m.1 = true ∧ s.checkType className m.1 m.2 = .ok () :=
  (checkClass_eq_ok.mp h).1

namespace Accepted

/-- The fields of a class are what is found under their names. -/
theorem field?_iff (h : s.Accepted) (hc : s.class? className = some c) {field : String}
    {ty : FieldType} : c.field? field = some ty ↔ (field, ty) ∈ c.fields :=
  (h.fields className c (Table.mem_of_find?_eq_some hc)).1.find?_eq_some_iff

/-- A field of a class is named by an identifier and has a type that holds up. -/
theorem wellTyped (h : s.Accepted) (hc : s.class? className = some c) {field : String}
    {ty : FieldType} (hf : c.field? field = some ty) :
    isName field = true ∧ s.WellTyped ty := by
  have hclass := Table.mem_of_find?_eq_some hc
  have hfield := Table.mem_of_find?_eq_some hf
  obtain ⟨hname, hty⟩ := checkClass_ok (h.checked className c hclass) (field, ty) hfield
  exact ⟨hname, wellTyped_of_checkType ((h.fields className c hclass).2 (field, ty) hfield) hty⟩

end Accepted

end Schema

end ObjectQuery
