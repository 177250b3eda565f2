import Mathlib.Data.List.Forall2
import ObjectQuery.Proofs.Json
import ObjectQuery.Value.Compare

/-!
# Kinds of values

A value is compared as what it stands for: an envelope as an instant or a number, a bare id and an
object with an id as a reference, and every other value as its constructor says. The kinds are
exclusive. Between two values of one kind `equals` is the equality of that kind, whatever else the
equality of values looks at first.
-/

namespace ObjectQuery.Value

variable {v a b : Json} {id : String} {t : Instant}

/-! ## Envelopes and references -/

/-- A date is read of an envelope around a text that is an instant. -/
theorem asDate?_eq_some :
    asDate? v = some t ↔
      ∃ text, v = .obj [(dateTag, .str text)] ∧ Instant.ofText? text = some t := by
  simp only [asDate?, Option.bind_eq_some_iff, envelope?_eq_some]

/-- The envelope of an instant is read as its text is. -/
theorem asDate?_ofInstant (t : Instant) : asDate? (ofInstant t) = Instant.ofText? t.render := by
  rw [asDate?, ofInstant, envelope?, if_pos rfl, Option.bind_some]

/-- Numbers are the plain ones and the decimals in an envelope. -/
theorem isNumeric_iff :
    isNumeric v = true ↔ (∃ n, v = .num n) ∨ ∃ text, v = .obj [(decimalTag, .str text)] := by
  cases v with
  | num n => simp [isNumeric]
  | _ => simp [isNumeric, Option.isSome_iff_exists, envelope?_eq_some]

/-- A reference is an id or an object with an id that is no envelope. -/
theorem referenceId?_eq_some :
    referenceId? v = some id ↔
      v = .str id ∨ ∃ members, v = .obj members ∧ isTagged v = false ∧
        Json.member? members "_id" = some (.str id) := by
  cases v with
  | obj members =>
    have htext : ∀ w : Json, w.asStr? = some id ↔ w = .str id := by
      intro w
      cases w <;> simp [Json.asStr?]
    rw [referenceId?]
    cases isTagged (.obj members) <;> simp [Option.bind_eq_some_iff, htext]
  | _ => simp [referenceId?]

/-- Whatever is read as a date is tagged. -/
theorem isTagged_of_asDate? (h : (asDate? v).isSome = true) : isTagged v = true := by
  obtain ⟨t, ht⟩ := Option.isSome_iff_exists.mp h
  obtain ⟨text, rfl, -⟩ := asDate?_eq_some.mp ht
  rfl

/-- A number is no instant. -/
theorem asDate?_of_isNumeric (h : isNumeric v = true) : asDate? v = none := by
  rcases isNumeric_iff.mp h with ⟨n, rfl⟩ | ⟨text, rfl⟩ <;> rfl

/-- What is not tagged is no instant, and of such objects none is a number. -/
theorem plain_of_untagged {members : List (String × Json)} (h : isTagged (.obj members) = false) :
    asDate? (.obj members) = none ∧ isNumeric (.obj members) = false := by
  refine ⟨?_, ?_⟩
  · rw [Option.eq_none_iff_forall_ne_some]
    intro t ht
    rw [isTagged_of_asDate? (Option.isSome_iff_exists.mpr ⟨t, ht⟩)] at h
    cases h
  · rw [Bool.eq_false_iff]
    intro hnumeric
    rcases isNumeric_iff.mp hnumeric with ⟨n, hn⟩ | ⟨text, htext⟩
    · cases hn
    · rw [htext] at h
      cases h

/-- A reference is neither an instant nor a number. -/
theorem untagged_of_referenceId? (h : (referenceId? v).isSome = true) :
    asDate? v = none ∧ isNumeric v = false := by
  obtain ⟨id, hid⟩ := Option.isSome_iff_exists.mp h
  rcases referenceId?_eq_some.mp hid with rfl | ⟨members, rfl, hplain, -⟩
  · exact ⟨rfl, rfl⟩
  · exact plain_of_untagged hplain

/-! ## Kinds -/

/-- What a value is compared as. -/
inductive Kind where
  | null
  | bool
  | date
  | numeric
  | reference
  | array
  | object
deriving DecidableEq

/-- The kind of a value; an envelope whose date cannot be read is an object like any other. -/
def kind : Json → Kind
  | .null => .null
  | .bool _ => .bool
  | .num _ => .numeric
  | .str _ => .reference
  | .arr _ => .array
  | .obj members =>
    if (asDate? (.obj members)).isSome then .date
    else if isNumeric (.obj members) then .numeric
    else if (referenceId? (.obj members)).isSome then .reference
    else .object

/-- The kind is that of a date exactly when a date is read. -/
theorem kind_eq_date : kind v = .date ↔ (asDate? v).isSome = true := by
  cases v with
  | obj members => grind [kind]
  | _ => simp [kind, asDate?, envelope?]

/-- The kind is numeric exactly for what counts as a number. -/
theorem kind_eq_numeric : kind v = .numeric ↔ isNumeric v = true := by
  cases v with
  | obj members => grind [kind, asDate?_of_isNumeric]
  | _ => simp [kind, isNumeric, envelope?]

/-- The kind is that of a reference exactly when an id is read. -/
theorem kind_eq_reference : kind v = .reference ↔ (referenceId? v).isSome = true := by
  cases v with
  | obj members => grind [kind, untagged_of_referenceId?]
  | _ => simp [kind, referenceId?]

/-- Only null is of the kind of null. -/
theorem kind_eq_null : kind v = .null ↔ v = .null := by
  cases v with
  | obj members => grind [kind]
  | _ => simp [kind]

/-- Only truth values are of their kind. -/
theorem kind_eq_bool : kind v = .bool ↔ ∃ b, v = .bool b := by
  cases v with
  | obj members => grind [kind]
  | _ => simp [kind]

/-- Only arrays are of their kind. -/
theorem kind_eq_array : kind v = .array ↔ ∃ items, v = .arr items := by
  cases v with
  | obj members => grind [kind]
  | _ => simp [kind]

/-- An object is what is left of objects: no date, no number, no reference. -/
theorem kind_eq_object :
    kind v = .object ↔ ∃ members, v = .obj members ∧ asDate? v = none ∧ isNumeric v = false ∧
      referenceId? v = none := by
  cases v with
  | obj members => grind [kind, Option.isSome_iff_ne_none]
  | _ => simp [kind]

/-! ## Equality within a kind -/

/-- What the kinds decide is the answer. -/
theorem equals_of_decided {decided : Bool} (h : equalByKind? a b = some decided) :
    equals a b = decided := by
  cases a with
  | obj members => cases b <;> simp [equals, h]
  | arr items =>
    cases b with
    | arr others => cases h
    | _ => simp [equals, h]
  | _ => simp [equals, h]

/-- Items are equal when the arrays are of one length and equal place by place. -/
theorem itemsEqual_iff {xs ys : List Json} :
    itemsEqual xs ys = true ↔ List.Forall₂ (equals · · = true) xs ys := by
  induction xs generalizing ys with
  | nil => cases ys <;> simp [itemsEqual]
  | cons x xs ih => cases ys <;> simp [itemsEqual, ih]

/-- Members are equal when each finds an equal value under its name. -/
theorem membersEqual_iff {xs ys : List (String × Json)} :
    membersEqual xs ys = true ↔
      ∀ m ∈ xs, ∃ w, Json.member? ys m.1 = some w ∧ equals m.2 w = true := by
  induction xs with
  | nil => simp [membersEqual]
  | cons m rest ih =>
    rw [membersEqual, Bool.and_eq_true, ih, List.forall_mem_cons]
    refine and_congr_left fun _ => ?_
    cases Json.member? ys m.1 <;> simp

/-- What two values of a kind have in common that are equal. -/
def SameIn : Kind → Json → Json → Prop
  | .null, _, _ => True
  | .bool, a, b => a = b
  | .date, a, b => asDate? a = asDate? b
  | .numeric, a, b => numericOrder a b = some .eq
  | .reference, a, b => referenceId? a = referenceId? b
  | .array, a, b => ∃ xs ys, a = .arr xs ∧ b = .arr ys ∧ List.Forall₂ (equals · · = true) xs ys
  | .object, a, b => ∃ xs ys, a = .obj xs ∧ b = .obj ys ∧ xs.length = ys.length ∧
      ∀ m ∈ xs, ∃ w, Json.member? ys m.1 = some w ∧ equals m.2 w = true

/-- Numbers are equal when their order says so. -/
theorem equals_of_numeric (ha : isNumeric a = true) (hb : isNumeric b = true) :
    equals a b = true ↔ numericOrder a b = some .eq := by
  have hdecided : equalByKind? a b = some (numericOrder a b == some .eq) := by
    unfold equalByKind?
    rw [asDate?_of_isNumeric ha, ha, hb]
    rfl
  rw [equals_of_decided hdecided, beq_iff_eq]

/-- Dates are equal when they are the same instant. -/
theorem equals_of_dates {u : Instant} (ha : asDate? a = some t) (hb : asDate? b = some u) :
    equals a b = true ↔ t = u := by
  have hdecided : equalByKind? a b = some (t == u) := by
    unfold equalByKind?
    rw [ha, hb]
  rw [equals_of_decided hdecided, beq_iff_eq]

/-- References are equal when their ids are. -/
theorem equals_of_references {other : String} (ha : referenceId? a = some id)
    (hb : referenceId? b = some other) : equals a b = true ↔ id = other := by
  obtain ⟨hdate, hnumeric⟩ := untagged_of_referenceId? (Option.isSome_iff_exists.mpr ⟨id, ha⟩)
  have hdecided : equalByKind? a b = some (id == other) := by
    unfold equalByKind?
    rw [hdate, hnumeric, Bool.false_and]
    rcases referenceId?_eq_some.mp ha with rfl | ⟨members, rfl, -⟩ <;>
      rcases referenceId?_eq_some.mp hb with rfl | ⟨others, rfl, -⟩ <;>
        simp_all [referenceId?]
  rw [equals_of_decided hdecided, beq_iff_eq]

/-- Objects are compared member by member where no kind is common to them. -/
theorem equals_of_objects {xs ys : List (String × Json)}
    (hdates : asDate? (.obj xs) = none ∨ asDate? (.obj ys) = none)
    (hnumeric : isNumeric (.obj xs) = false ∨ isNumeric (.obj ys) = false)
    (hreferences : referenceId? (.obj xs) = none ∨ referenceId? (.obj ys) = none) :
    equals (.obj xs) (.obj ys) = true ↔ xs.length = ys.length ∧
      ∀ m ∈ xs, ∃ w, Json.member? ys m.1 = some w ∧ equals m.2 w = true := by
  have hopen : equalByKind? (.obj xs) (.obj ys) = none := by
    unfold equalByKind?
    rcases hdates with h | h <;> rcases hnumeric with h' | h' <;> rcases hreferences with h'' | h'' <;>
      simp [h, h', h'']
  rw [equals, hopen, ← membersEqual_iff]
  simp

/-- Within one kind, equality is the comparison of that kind. -/
theorem equals_iff_sameIn {k : Kind} (ha : kind a = k) (hb : kind b = k) :
    equals a b = true ↔ SameIn k a b := by
  cases k with
  | null =>
    obtain rfl := kind_eq_null.mp ha
    obtain rfl := kind_eq_null.mp hb
    exact iff_of_true rfl trivial
  | bool =>
    obtain ⟨x, rfl⟩ := kind_eq_bool.mp ha
    obtain ⟨y, rfl⟩ := kind_eq_bool.mp hb
    have hdecided : equalByKind? (.bool x) (.bool y) = some (x == y) := rfl
    rw [equals_of_decided hdecided, beq_iff_eq, SameIn, Json.bool.injEq]
  | date =>
    obtain ⟨t, ht⟩ := Option.isSome_iff_exists.mp (kind_eq_date.mp ha)
    obtain ⟨u, hu⟩ := Option.isSome_iff_exists.mp (kind_eq_date.mp hb)
    rw [equals_of_dates ht hu, SameIn, ht, hu, Option.some.injEq]
  | numeric => exact equals_of_numeric (kind_eq_numeric.mp ha) (kind_eq_numeric.mp hb)
  | reference =>
    obtain ⟨x, hx⟩ := Option.isSome_iff_exists.mp (kind_eq_reference.mp ha)
    obtain ⟨y, hy⟩ := Option.isSome_iff_exists.mp (kind_eq_reference.mp hb)
    rw [equals_of_references hx hy, SameIn, hx, hy, Option.some.injEq]
  | array =>
    obtain ⟨xs, rfl⟩ := kind_eq_array.mp ha
    obtain ⟨ys, rfl⟩ := kind_eq_array.mp hb
    rw [equals, itemsEqual_iff]
    simp [SameIn]
  | object =>
    obtain ⟨xs, rfl, hdate, hnumeric, hreference⟩ := kind_eq_object.mp ha
    obtain ⟨ys, rfl, -⟩ := kind_eq_object.mp hb
    rw [equals_of_objects (.inl hdate) (.inl hnumeric) (.inl hreference)]
    simp [SameIn]

/-! ## Equality between kinds -/

/-- The kinds only decide between values of the same kind. -/
theorem kind_eq_of_decided {decided : Bool} (h : equalByKind? a b = some decided) :
    kind a = kind b := by
  unfold equalByKind? at h
  split at h
  next x y hx hy =>
    rw [kind_eq_date.mpr (Option.isSome_iff_exists.mpr ⟨x, hx⟩),
      kind_eq_date.mpr (Option.isSome_iff_exists.mpr ⟨y, hy⟩)]
  next =>
    split at h
    next hnumeric =>
      obtain ⟨ha, hb⟩ := (Bool.and_eq_true _ _).mp hnumeric
      rw [kind_eq_numeric.mpr ha, kind_eq_numeric.mpr hb]
    next =>
      have hreferences : ∀ {x y : String}, referenceId? a = some x → referenceId? b = some y →
          kind a = kind b := by
        intro x y hx hy
        rw [kind_eq_reference.mpr (Option.isSome_iff_exists.mpr ⟨x, hx⟩),
          kind_eq_reference.mpr (Option.isSome_iff_exists.mpr ⟨y, hy⟩)]
      split at h
      case h_1 | h_2 | h_3 => rfl
      case h_7 => cases h
      all_goals
        split at h
        · exact hreferences ‹_› ‹_›
        · cases h

/-- Values of different kinds are only equal as objects, member by member. -/
theorem equals_cases (h : equals a b = true) :
    kind a = kind b ∨ ∃ xs ys, a = .obj xs ∧ b = .obj ys ∧ xs.length = ys.length ∧
      ∀ m ∈ xs, ∃ w, Json.member? ys m.1 = some w ∧ equals m.2 w = true := by
  cases hdecided : equalByKind? a b with
  | some decided => exact .inl (kind_eq_of_decided hdecided)
  | none =>
    cases a with
    | obj xs =>
      cases b with
      | obj ys =>
        rw [equals, hdecided] at h
        have hmembers := (Bool.and_eq_true _ _).mp h
        exact .inr ⟨xs, ys, rfl, rfl, beq_iff_eq.mp hmembers.1, membersEqual_iff.mp hmembers.2⟩
      | _ => simp [equals, hdecided] at h
    | arr items =>
      cases b with
      | arr others => exact .inl rfl
      | _ => simp [equals, hdecided] at h
    | _ => simp [equals, hdecided] at h

end ObjectQuery.Value
