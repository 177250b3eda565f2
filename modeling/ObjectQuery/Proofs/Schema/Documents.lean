import ObjectQuery.Proofs.Json
import ObjectQuery.Proofs.Numeral.Double
import ObjectQuery.Proofs.Table
import ObjectQuery.Schema.TypeDocument

/-!
# Types and their documents

What the parts of a document have, a type that is read from it has throughout. So a type that was read
can be written: its defaults are no nulls, its dimensions fit an integer, the doubles of its vectors are
finite and its shapes are in order. From what is written of such a type it is read back.
-/

namespace ObjectQuery

/-! ## Loops of a reader -/

namespace Document

variable {α β : Type} {P : α → Prop}

/-- A read in two steps succeeds when both steps do. -/
theorem bind_eq_ok {x : Document α} {f : α → Document β} {b : β} :
    (x >>= f) = .ok b ↔ ∃ a, x = .ok a ∧ f a = .ok b := by
  cases x <;> simp [bind, Except.bind]

/-- A mapped read succeeds when the read it maps does. -/
theorem map_eq_ok {f : α → β} {x : Document α} {b : β} :
    Except.map f x = .ok b ↔ ∃ a, x = .ok a ∧ f a = b := by
  cases x <;> simp [Except.map]

/-- A value is left of a read exactly when the read succeeded with it. -/
theorem toOption_eq_some {x : Document α} {a : α} : x.toOption = some a ↔ x = .ok a := by
  cases x <;> simp [Except.toOption]

/-- An optional member that is not null is read as the member itself. -/
theorem optional_of_ne_null {read : Json → Document α} {v : Json} (hv : v ≠ .null) :
    optional read v = (read v).map some := by
  cases v <;> first | rfl | exact absurd rfl hv

/-- What an optional value is read as, if it is there, its reader makes of what is no null. -/
theorem optional_some_ok {read : Json → Document α} {v : Json} {a? : Option α} {a : α}
    (h : optional read v = .ok a?) (ha : a? = some a) : v ≠ .null ∧ read v = .ok a := by
  subst ha
  unfold optional at h
  split at h
  · cases h
  · next hnull =>
    obtain ⟨a', hread, heq⟩ := map_eq_ok.mp h
    cases heq
    exact ⟨hnull, hread⟩

/-- What a step keeps, a loop that went through has kept. -/
theorem foldlM_invariant {f : α → β → Document α}
    (hf : ∀ a x a', P a → f a x = .ok a' → P a') {xs : List β} {a a' : α} (ha : P a)
    (h : xs.foldlM f a = .ok a') : P a' := by
  induction xs generalizing a with
  | nil =>
    cases h
    exact ha
  | cons x rest ih =>
    rw [List.foldlM_cons] at h
    obtain ⟨mid, hmid, hrest⟩ := bind_eq_ok.mp h
    exact ih (hf a x mid ha hmid) hrest

/-- A record that was read has what its start has and every member keeps. -/
theorem record_invariant {names : List String} {start : α} {set : α → String → Json → Document α}
    (hset : ∀ a name v a', P a → set a name v = .ok a' → P a') (hstart : P start) {v : Json}
    {a : α} (h : record names start set v = .ok a) : P a := by
  cases v with
  | obj members => exact foldlM_invariant (fun a m a' ha => hset a m.1 m.2 a' ha) hstart h
  | arr items =>
    obtain ⟨found, hfound, h⟩ := bind_eq_ok.mp h
    split at h
    · cases h
    · cases h
      exact foldlM_invariant (fun a m a' ha => hset a m.1 m.2 a' ha) hstart hfound
  | null | bool _ | num _ | str _ => cases h

/-- A table that was read is in order, and what it binds is what was read. -/
theorem table_ok {read : Json → Document α} (hread : ∀ v a, read v = .ok a → P a) {v : Json}
    {t : Table α} (h : table read v = .ok t) : t.Holds P := by
  cases v with
  | obj members =>
    refine foldlM_invariant (P := Table.Holds P) (fun t m t' ht hstep => ?_) Table.Holds.nil h
    obtain ⟨a, ha, rfl⟩ := map_eq_ok.mp hstep
    exact ht.insert (hread m.2 a ha)
  | null | bool _ | num _ | str _ | arr _ => cases h

/-! ## Numbers -/

/-- A natural number of a document fits 64 bits. -/
theorem natural_lt {v : Json} {n : Nat} (h : natural v = .ok n) : n < 2 ^ 64 := by
  unfold natural at h
  split at h
  · next hread =>
    cases h
    unfold Json.asNat64? at hread
    split at hread
    · split at hread
      · next hrange =>
        have hmost := hrange.2
        cases hread
        rw [show Int.pow 2 64 = 18446744073709551616 from rfl] at hmost
        omega
      · cases hread
    · cases hread
  · cases h

/-- Every number below `2 ^ 64` is read back from its own document. -/
theorem natural_ofNat {n : Nat} (h : n < 2 ^ 64) : natural (Json.ofNat n) = .ok n := by
  have hrange : 0 ≤ (n : Int) ∧ (n : Int) < Int.pow 2 64 := by
    rw [show Int.pow 2 64 = 18446744073709551616 from rfl]
    omega
  have hread : (Json.ofNat n).asNat64? = some (n : Int).toNat := by
    rw [Json.ofNat, Json.asNat64?, if_pos hrange]
  rw [natural, hread]
  rfl

/-- The doubles that are read from values in range are finite. -/
theorem isFinite_of_doubles {v : Json} (hv : v.inRange = true) {xs : List Float}
    (h : list double v = .ok xs) : ∀ x ∈ xs, x.isFinite = true := by
  cases v with
  | arr items =>
    replace hv := Json.inRange_arr.mp hv
    change items.mapM double = .ok xs at h
    induction items generalizing xs with
    | nil =>
      cases h
      exact nofun
    | cons item rest ih =>
      obtain ⟨hitem, hrest⟩ := List.forall_mem_cons.mp hv
      rw [List.mapM_cons] at h
      obtain ⟨x, hx, h⟩ := bind_eq_ok.mp h
      obtain ⟨ys, hys, h⟩ := bind_eq_ok.mp h
      cases h
      refine List.forall_mem_cons.mpr ⟨?_, ih hrest hys⟩
      unfold double Json.asFloat? at hx
      cases item with
      | num n =>
        cases hx
        exact Number.isFinite_toFloat hitem
      | _ => cases hx
  | _ => cases h

/-- A list of finite doubles is read back from its own document. -/
theorem doubles_ofFloat {xs : List Float} (h : ∀ x ∈ xs, x.isFinite = true) :
    list double (.arr (xs.map Json.ofFloat)) = .ok xs := by
  change (xs.map Json.ofFloat).mapM double = .ok xs
  induction xs with
  | nil => rfl
  | cons x rest ih =>
    obtain ⟨hx, hrest⟩ := List.forall_mem_cons.mp h
    rw [List.map_cons, List.mapM_cons, ih hrest, Json.ofFloat, if_pos hx]
    rfl

end Document

/-! ## Types -/

namespace FieldType

/-- Induction with the hypothesis for every member of a shape. -/
@[elab_as_elim]
theorem nested_induction {motive : FieldType → Prop}
    (primitive : ∀ kind default?, motive (primitive kind default?))
    (vector : ∀ dimension default?, motive (vector dimension default?))
    (shape : ∀ fields, (∀ m ∈ fields, motive m.2) → motive (shape fields))
    (pointer : ∀ target, motive (pointer target))
    (relation : ∀ target foreign, motive (relation target foreign))
    (ty : FieldType) : motive ty :=
  @FieldType.rec motive (fun fields => ∀ m ∈ fields, motive m.2) (fun m => motive m.2)
    primitive vector shape pointer relation
    (fun _ hm => absurd hm List.not_mem_nil)
    (fun _ _ head tail => List.forall_mem_cons.mpr ⟨head, tail⟩)
    (fun _ _ member => member) ty

end FieldType

/-! ## Reading types -/

namespace TypeRecord

variable {r r' : TypeRecord} {P : FieldType → Prop} {Q : Json → Prop}

/-- The default of a vector is read as a list of doubles is. -/
theorem vectorDefault_eq_ok {v : Json} {xs : List Float} :
    vectorDefault v = .ok xs ↔ Document.list Document.double v = .ok xs := by
  unfold vectorDefault
  cases Document.list Document.double v <;> simp

/-- The types that a record can be built into, by what it takes of its members. -/
inductive Builds (r : TypeRecord) : FieldType → Prop
  | primitive (kind : PrimitiveKind) : Builds r (.primitive kind r.default?)
  | vector {dimension : Nat} {default? : Option (List Float)}
      (hdimension : r.dimension = some dimension)
      (hdefault : ∀ xs, default? = some xs → ∃ v, r.default? = some v ∧ vectorDefault v = .ok xs) :
      Builds r (.vector dimension default?)
  | shape {fields : Table FieldType} (hshape : r.shape = some fields) : Builds r (.shape fields)
  | pointer (target : String) : Builds r (.pointer target)
  | relation (target : String) : Builds r (.relation target r.foreignField)

/-- The type a record builds is described by the record. -/
theorem builds_of_build {ty : FieldType} (h : r.build = .ok ty) : r.Builds ty := by
  unfold build at h
  split at h
  · cases h
  · split at h
    · cases h
      exact .primitive _
    · split at h
      · split at h
        · cases h
        · next hdimension _ =>
          cases h
          exact .vector hdimension nofun
        · next v hdimension hdefault =>
          obtain ⟨xs, hxs, rfl⟩ := Document.map_eq_ok.mp h
          refine .vector hdimension fun ys hys => ⟨v, hdefault, ?_⟩
          cases hys
          exact hxs
      · split at h
        · next hshape =>
          cases h
          exact .shape hshape
        · cases h
      · split at h
        · cases h
          exact .pointer _
        · cases h
      · split at h
        · cases h
          exact .relation _
        · cases h
      · cases h

/-- A record that was read holds a default, a dimension and fields as a document can have them. -/
structure Holds (P : FieldType → Prop) (Q : Json → Prop) (r : TypeRecord) : Prop where
  default? : ∀ v, r.default? = some v → v ≠ .null ∧ Q v
  dimension : ∀ n, r.dimension = some n → n < 2 ^ 64
  shape : ∀ fields, r.shape = some fields → Table.Holds P fields

/-- A record that has only its tag holds nothing that could be wrong. -/
theorem holds_of_tag {tag : Option String} : Holds P Q { tag } := ⟨nofun, nofun, nofun⟩

/-- Setting a member of a record to a value that satisfies `Q` keeps what holds of the record. -/
theorem Holds.set (h : r.Holds P Q) {name : String} {v : Json} (hv : Q v)
    (hset : (r.set name v).toOption = some r') : r'.Holds P Q := by
  replace hset := Document.toOption_eq_some.mp hset
  unfold TypeRecord.set at hset
  split at hset
  · obtain ⟨_, -, rfl⟩ := Document.map_eq_ok.mp hset
    exact ⟨h.default?, h.dimension, h.shape⟩
  · obtain ⟨default?, hdefault, rfl⟩ := Document.map_eq_ok.mp hset
    refine ⟨fun w hw => ?_, h.dimension, h.shape⟩
    obtain ⟨hnull, hok⟩ := Document.optional_some_ok hdefault hw
    cases hok
    exact ⟨hnull, hv⟩
  · obtain ⟨dimension, hdimension, rfl⟩ := Document.map_eq_ok.mp hset
    refine ⟨h.default?, fun n hn => ?_, h.shape⟩
    exact Document.natural_lt (Document.optional_some_ok hdimension hn).2
  · obtain ⟨shape, hshape, rfl⟩ := Document.map_eq_ok.mp hset
    refine ⟨h.default?, h.dimension, fun fields hfields => ?_⟩
    cases (Document.optional_some_ok hshape hfields).2
  · obtain ⟨_, -, rfl⟩ := Document.map_eq_ok.mp hset
    exact ⟨h.default?, h.dimension, h.shape⟩
  · obtain ⟨_, -, rfl⟩ := Document.map_eq_ok.mp hset
    exact ⟨h.default?, h.dimension, h.shape⟩
  · cases hset
    exact h

end TypeRecord

namespace FieldType

variable {P : FieldType → Prop} {Q : Json → Prop}

/-- Types that are read from a value have a property, and so have the fields read from its members. -/
structure Reads (P : FieldType → Prop) (Q : Json → Prop) (raw : Json) : Prop where
  value : Q raw
  type : ∀ ty, decode raw = .ok ty → P ty
  fields : ∀ members table fields, raw = .obj members → Table.Holds P table →
    decodeFields members table = some fields → Table.Holds P fields

namespace Reads

/-- Fields read from a document satisfy `P` when each of its members does, and stand in order. -/
theorem fields_of_members {members : List (String × Json)} (ih : ∀ m ∈ members, Reads P Q m.2)
    {table result : Table FieldType} (htable : table.Holds P)
    (h : decodeFields members table = some result) : result.Holds P := by
  induction members generalizing table with
  | nil =>
    cases h
    exact htable
  | cons m rest ihrest =>
    obtain ⟨hm, hrest⟩ := List.forall_mem_cons.mp ih
    rw [decodeFields] at h
    split at h
    · next ty hty => exact ihrest hrest (htable.insert (hm.type ty hty)) h
    · cases h

/-- One member of a type document keeps what holds of the record it is read into. -/
theorem member {r r' : TypeRecord} (hr : r.Holds P Q) {name : String} {v : Json}
    (ih : Reads P Q v) (h : decodeMember r name v = some r') : r'.Holds P Q := by
  cases v with
  | obj entries =>
    rw [decodeMember] at h
    split at h
    · obtain ⟨fields, hfields, rfl⟩ := Option.map_eq_some_iff.mp h
      refine ⟨hr.default?, hr.dimension, fun found hfound => ?_⟩
      cases hfound
      exact ih.fields entries [] fields rfl .nil hfields
    · exact hr.set ih.value h
  | null | bool _ | num _ | str _ | arr _ => exact hr.set ih.value h

/-- All members of a type document, read in turn, keep what holds of the record. -/
theorem members {members : List (String × Json)} (ih : ∀ m ∈ members, Reads P Q m.2)
    {r r' : TypeRecord} (hr : r.Holds P Q) (h : decodeMembers r members = some r') :
    r'.Holds P Q := by
  induction members generalizing r with
  | nil =>
    cases h
    exact hr
  | cons m rest ihrest =>
    obtain ⟨hm, hrest⟩ := List.forall_mem_cons.mp ih
    rw [decodeMembers] at h
    split at h
    · next mid hmid => exact ihrest hrest (hm.member hr hmid) h
    · cases h

/-- A type written as an array fills the record item by item and keeps what holds of it. -/
theorem items {items : List Json} (ih : ∀ x ∈ items, Reads P Q x) {names : List String}
    {r r' : TypeRecord} (hr : r.Holds P Q) (h : decodeItems r names items = some r') :
    r'.Holds P Q := by
  induction items generalizing r names with
  | nil =>
    cases names <;> cases h <;> exact hr
  | cons x rest ihrest =>
    obtain ⟨hx, hrest⟩ := List.forall_mem_cons.mp ih
    cases names with
    | nil => cases h
    | cons name names =>
      rw [decodeItems] at h
      split at h
      · next mid hmid => exact ihrest hrest (hx.member hr hmid) h
      · cases h

end Reads

/-- What a record hands on to the type that is built from it, every type that is read has. -/
theorem reads_of_builds (harr : ∀ items, Q (.arr items) → ∀ x ∈ items, Q x)
    (hobj : ∀ members, Q (.obj members) → ∀ m ∈ members, Q m.2)
    (hbuild : ∀ r ty, TypeRecord.Holds P Q r → r.Builds ty → P ty) {raw : Json} (hraw : Q raw) :
    Reads P Q raw := by
  have hbuilt : ∀ {r : TypeRecord} {ty : FieldType}, r.Holds P Q → r.build = .ok ty → P ty :=
    fun hr hty => hbuild _ _ hr (TypeRecord.builds_of_build hty)
  induction raw using Json.nested_induction with
  | null | bool _ | num _ => exact ⟨hraw, nofun, nofun⟩
  | str tag =>
    refine ⟨hraw, fun ty hty => ?_, nofun⟩
    rw [decode] at hty
    exact hbuilt TypeRecord.holds_of_tag hty
  | arr items ih =>
    have hitems : ∀ x ∈ items, Reads P Q x := fun x hx => ih x hx (harr items hraw x hx)
    refine ⟨hraw, fun ty hty => ?_, nofun⟩
    rw [decode] at hty
    split at hty
    · next hr => exact hbuilt (Reads.items hitems TypeRecord.holds_of_tag hr) hty
    · cases hty
  | obj members ih =>
    have hmembers : ∀ m ∈ members, Reads P Q m.2 := fun m hm => ih m hm (hobj members hraw m hm)
    refine ⟨hraw, fun ty hty => ?_, fun entries table fields hentries htable hfields => ?_⟩
    · rw [decode] at hty
      split at hty
      · next hr => exact hbuilt (Reads.members hmembers TypeRecord.holds_of_tag hr) hty
      · cases hty
    · cases hentries
      exact Reads.fields_of_members hmembers htable hfields

/-! ## Writing types -/

mutual

/--
What is written of a type can be read: a default that is no null, a dimension of sixty-four bits,
finite doubles, and shapes in order.
-/
def Written : FieldType → Prop
  | primitive _ default? => default? ≠ some .null
  | vector dimension default? =>
    dimension < 2 ^ 64 ∧ ∀ xs, default? = some xs → ∀ x ∈ xs, x.isFinite = true
  | shape fields => Table.Ordered fields ∧ AllWritten fields
  | pointer _ | relation .. => True

def AllWritten : List (String × FieldType) → Prop
  | [] => True
  | (_, ty) :: rest => Written ty ∧ AllWritten rest

end

/-- The predicate of the recursion says that each field is written with a type that reads back. -/
theorem allWritten_iff {fields : List (String × FieldType)} :
    AllWritten fields ↔ ∀ m ∈ fields, m.2.Written := by
  induction fields with
  | nil => simp [AllWritten]
  | cons m rest ih => rw [AllWritten, ih, List.forall_mem_cons]

/-- A shape reads back when its fields stand in order and each of them reads back. -/
theorem written_shape {fields : List (String × FieldType)} :
    (shape fields).Written ↔ Table.Holds Written fields := by
  rw [Written, allWritten_iff]
  rfl

/-- A type that is read from values in range can be written. -/
theorem written_of_decode {d : Json} {ty : FieldType} (hd : d.inRange = true)
    (h : decode d = .ok ty) : ty.Written := by
  refine (reads_of_builds (Q := fun v => v.inRange = true) (fun _ => Json.inRange_arr.mp)
    (fun _ => Json.inRange_obj.mp) (fun r ty hr hbuild => ?_) hd).type ty h
  cases hbuild with
  | primitive kind =>
    intro hnull
    exact (hr.default? .null hnull).1 rfl
  | vector hdimension hdefault =>
    refine ⟨hr.dimension _ hdimension, fun xs hxs => ?_⟩
    obtain ⟨v, hv, hread⟩ := hdefault xs hxs
    exact Document.isFinite_of_doubles (hr.default? v hv).2 (TypeRecord.vectorDefault_eq_ok.mp hread)
  | shape hshape => exact written_shape.mpr (hr.shape _ hshape)
  | pointer target => trivial
  | relation target => trivial

/-! ## Reading what was written -/

/-- An object is read by filling the empty record and building the type from it. -/
theorem decode_obj {members : List (String × Json)} {r : TypeRecord}
    (h : decodeMembers {} members = some r) : decode (.obj members) = r.build := by
  rw [decode, h]

/-- Members other than the shape's are stored as they are. -/
theorem decodeMembers_set {r r' : TypeRecord} {name : String} {v : Json}
    {rest : List (String × Json)} (hname : name ≠ "shape") (h : r.set name v = .ok r') :
    decodeMembers r ((name, v) :: rest) = decodeMembers r' rest := by
  have hmember : decodeMember r name v = some r' := by
    unfold decodeMember
    split
    · rw [if_neg hname, h]
      rfl
    · rw [h]
      rfl
  rw [decodeMembers, hmember]

/-- A default that is not null is recorded as it stands. -/
theorem set_default {r : TypeRecord} {v : Json} (hv : v ≠ .null) :
    r.set "default" v = .ok { r with default? := some v } := by
  change (Document.optional .ok v).map _ = _
  rw [Document.optional_of_ne_null hv]
  rfl

/-- A dimension that is a natural number is recorded. -/
theorem set_dimension {r : TypeRecord} {v : Json} {dimension : Nat} (hv : v ≠ .null)
    (h : Document.natural v = .ok dimension) :
    r.set "dimension" v = .ok { r with dimension := some dimension } := by
  change (Document.optional Document.natural v).map _ = _
  rw [Document.optional_of_ne_null hv, h]
  rfl

/-- A primitive type with a default reads back from what it is written as. -/
theorem decode_primitive {kind : PrimitiveKind} {v : Json} (hv : v ≠ .null) :
    decode (primitive kind (some v)).encode = .ok (primitive kind (some v)) := by
  have hread : decodeMembers {} [("type", .str kind.tag), ("default", v)] =
      some { tag := some kind.tag, default? := some v } := by
    rw [decodeMembers_set (by decide) rfl, decodeMembers_set (by decide) (set_default hv)]
    rfl
  rw [encode, decode_obj hread]
  cases kind <;> rfl

/-- A vector type reads back from what it is written as. -/
theorem decode_vector {dimension : Nat} {default? : Option (List Float)}
    (h : (vector dimension default?).Written) :
    decode (vector dimension default?).encode = .ok (vector dimension default?) := by
  obtain ⟨hdimension, hfinite⟩ := h
  have hset : ∀ r : TypeRecord, r.set "dimension" (Json.ofNat dimension) =
      .ok { r with dimension := some dimension } :=
    fun r => set_dimension nofun (Document.natural_ofNat hdimension)
  cases default? with
  | none =>
    have hread : decodeMembers {} [("type", .str "vector"), ("dimension", Json.ofNat dimension)] =
        some { tag := some "vector", dimension := some dimension } := by
      rw [decodeMembers_set (by decide) rfl, decodeMembers_set (by decide) (hset _)]
      rfl
    exact decode_obj hread
  | some xs =>
    have hdefault : Json.arr (xs.map Json.ofFloat) ≠ .null := nofun
    have hread : decodeMembers {} [("type", .str "vector"), ("default", .arr (xs.map Json.ofFloat)),
        ("dimension", Json.ofNat dimension)] = some {
          tag := some "vector"
          default? := some (.arr (xs.map Json.ofFloat))
          dimension := some dimension } := by
      rw [decodeMembers_set (by decide) rfl, decodeMembers_set (by decide) (set_default hdefault),
        decodeMembers_set (by decide) (hset _)]
      rfl
    have hxs := Document.doubles_ofFloat (hfinite xs rfl)
    calc decode (vector dimension (some xs)).encode
        = (TypeRecord.vectorDefault (.arr (xs.map Json.ofFloat))).map
            fun xs => vector dimension (some xs) := decode_obj hread
      _ = .ok (vector dimension (some xs)) := by
          rw [TypeRecord.vectorDefault_eq_ok.mpr hxs]
          rfl

/-- The fields of a shape are bound in their order, each at the end of those before it. -/
theorem decodeFields_encodeFields {fields table : Table FieldType}
    (hread : ∀ m ∈ fields, decode m.2.encode = .ok m.2)
    (hordered : Table.Ordered (table ++ fields)) :
    decodeFields (encodeFields fields) table = some (table ++ fields) := by
  induction fields generalizing table with
  | nil =>
    rw [List.append_nil]
    rfl
  | cons m rest ih =>
    obtain ⟨hm, hrest⟩ := List.forall_mem_cons.mp hread
    have hlast : ∀ e ∈ table, e.1 < m.1 := fun e he =>
      (List.pairwise_append.mp hordered).2.2 e he m List.mem_cons_self
    rw [encodeFields, decodeFields, hm]
    dsimp only
    rw [Table.insert_of_gt hlast, ih hrest (by rwa [List.append_assoc]), List.append_assoc]
    rfl

/-- What was written of a type reads as that type. -/
theorem decode_encode {ty : FieldType} (h : ty.Written) : decode ty.encode = .ok ty := by
  induction ty using nested_induction with
  | primitive kind default? =>
    cases default? with
    | none => cases kind <;> rfl
    | some v => exact decode_primitive fun hnull => h (hnull ▸ rfl)
  | vector dimension default? => exact decode_vector h
  | shape fields ih =>
    obtain ⟨hordered, hwritten⟩ := written_shape.mp h
    have hmembers : ∀ m ∈ fields, decode m.2.encode = .ok m.2 :=
      fun m hm => ih m hm (hwritten m hm)
    have hfields := @decodeFields_encodeFields fields [] hmembers hordered
    have hread : decodeMembers {} [("type", .str "shape"), ("shape", .obj (encodeFields fields))] =
        some { tag := some "shape", shape := some fields } := by
      rw [decodeMembers_set (by decide) rfl, decodeMembers, decodeMember, if_pos rfl, hfields]
      rfl
    rw [encode, decode_obj hread]
    rfl
  | pointer target => rfl
  | relation target foreign =>
    cases foreign with
    | none => rfl
    | some field => rfl

/--
A type that is read from a document, whose numbers are those a document can have, reads back from what
is written of it, which is written of what it reads as again. A bare tag is written of a primitive
without default, and of nothing else.
-/
theorem decode_encode_of_decode {d : Json} {ty : FieldType} (hd : d.inRange = true)
    (h : decode d = .ok ty) :
    decode ty.encode = .ok ty ∧ (decode ty.encode).map encode = .ok ty.encode ∧
      ∀ tag, ty.encode = .str tag ↔ ∃ kind, ty = .primitive kind none ∧ tag = kind.tag := by
  have hread := decode_encode (written_of_decode hd h)
  refine ⟨hread, by rw [hread]; rfl, fun tag => ?_⟩
  constructor
  · intro htag
    cases ty with
    | primitive kind default? =>
      cases default? with
      | none =>
        cases htag
        exact ⟨kind, rfl, rfl⟩
      | some v => cases htag
    | vector dimension default? => cases htag
    | shape fields => cases htag
    | pointer target => cases htag
    | relation target foreign => cases htag
  · rintro ⟨kind, rfl, rfl⟩
    rfl

/-- A place, written with its members out of order, a null, a member that is not known and an array. -/
def placeType : Json :=
  .obj [("shape", .obj [
      ("near", .obj [("type", .str "vector"), ("dimension", .num (.int 2)),
        ("default", .arr [.num (.int 1), .num (.float 0.5)])]),
      ("city", .arr [.str "string", .str "Oslo"]),
      ("ratings", .obj [("foreignField", .null), ("target", .str "Rating"),
        ("type", .str "relation")]),
      ("zip", .obj [("note", .bool true), ("type", .str "string"), ("default", .null)])]),
    ("type", .str "shape")]

theorem decode_encode_of_decode_placeType :
    placeType.inRange = true ∧ ∃ ty, decode placeType = .ok ty ∧ decode ty.encode = .ok ty := by
  have hrange : placeType.inRange = true := by decide +kernel
  have hread : decode placeType = .ok (.shape [
      ("city", .primitive .string (some (.str "Oslo"))),
      ("near", .vector 2 (some [1.0, 0.5])),
      ("ratings", .relation "Rating" none),
      ("zip", .primitive .string none)]) := by rfl
  exact ⟨hrange, _, hread, (decode_encode_of_decode hrange hread).1⟩

end FieldType

end ObjectQuery
