import Mathlib.Data.List.Perm.Subperm
import ObjectQuery.Proofs.Value.Kinds

/-!
# Where equality is an equivalence

Equality asks for the kind of both values first, and falls back to their members where they have none in
common. It is reflexive as far as every decimal envelope it comes to can be read, and transitive as long
as it does not change its measure on the way: two numbers are compared as doubles, a number and a decimal
envelope as decimals; and a reference that stands where an id or the text of an envelope belongs is equal
to that text, but does not make a reference or an envelope of the object around it.
-/

namespace ObjectQuery.Value

open Numeral (Decimal compareFloat orderKey)

variable {a b c v w x y : Json} {k m n : Number} {xs ys zs : List (String × Json)}

/-! ## Numbers -/

instance : Std.TransCmp Decimal.order where
  eq_swap := Std.OrientedOrd.eq_swap
  isLE_trans {p q r} hpq hqr := by
    unfold Decimal.order at *
    rw [Std.isLE_compare] at *
    have hpow : ∀ n, 0 < Int.pow 10 n := fun n => Int.pow_pos (by decide)
    refine Int.le_of_mul_le_mul_right ?_ (hpow q.scale)
    calc p.coefficient * Int.pow 10 r.scale * Int.pow 10 q.scale
        = p.coefficient * Int.pow 10 q.scale * Int.pow 10 r.scale := Int.mul_right_comm ..
      _ ≤ q.coefficient * Int.pow 10 p.scale * Int.pow 10 r.scale :=
        Int.mul_le_mul_of_nonneg_right hpq (Int.le_of_lt (hpow _))
      _ = q.coefficient * Int.pow 10 r.scale * Int.pow 10 p.scale := Int.mul_right_comm ..
      _ ≤ r.coefficient * Int.pow 10 q.scale * Int.pow 10 p.scale :=
        Int.mul_le_mul_of_nonneg_right hqr (Int.le_of_lt (hpow _))
      _ = r.coefficient * Int.pow 10 p.scale * Int.pow 10 q.scale := Int.mul_right_comm ..

/-- Doubles compare the other way around when they are swapped, or not at all. -/
theorem compareFloat_swap (x y : Float) :
    compareFloat x y = (compareFloat y x).map Ordering.swap := by
  unfold compareFloat
  rw [Bool.or_comm]
  split
  · rfl
  · exact congrArg some Std.OrientedOrd.eq_swap

/-- Unless both are numbers, two values are ordered as the decimals that they stand for. -/
theorem numericOrder_of_decimal (h : ∀ m n, v = .num m → w ≠ .num n) :
    numericOrder v w = (asDecimal? v).bind fun x => (asDecimal? w).map x.order := by
  unfold numericOrder
  split
  next m n => exact absurd rfl (h m n rfl)
  next => cases asDecimal? v <;> cases asDecimal? w <;> rfl

/-- The numeric order turns around with its sides. -/
theorem numericOrder_swap (v w : Json) :
    numericOrder v w = (numericOrder w v).map Ordering.swap := by
  by_cases hboth : ∃ m n, v = .num m ∧ w = .num n
  · obtain ⟨m, n, rfl, rfl⟩ := hboth
    exact compareFloat_swap _ _
  · rw [numericOrder_of_decimal fun m n hm hn => hboth ⟨m, n, hm, hn⟩,
      numericOrder_of_decimal fun m n hm hn => hboth ⟨n, m, hn, hm⟩]
    cases asDecimal? v <;> cases asDecimal? w <;> try rfl
    exact congrArg some Std.OrientedCmp.eq_swap

/-- Two numbers are the same double; both zeros are. -/
def sameDouble (m n : Number) : Bool := compareFloat m.toFloat n.toFloat == some .eq

/-- Both values are a decimal, and it is the same. -/
def sameDecimal (a b : Json) : Bool :=
  match asDecimal? a, asDecimal? b with
  | some x, some y => x.order y == .eq
  | _, _ => false

/-- Numbers are the same double if they compare so, which one that is no number does not. -/
theorem sameDouble_iff :
    sameDouble m n = true ↔ m.toFloat.isNaN = false ∧ n.toFloat.isNaN = false ∧
      orderKey m.toFloat = orderKey n.toFloat := by
  unfold sameDouble compareFloat
  split
  next h => grind
  next h => simp_all

/-- What is the same double as another is so for all that are. -/
theorem sameDouble_trans (h : sameDouble k m = true) (h' : sameDouble m n = true) :
    sameDouble k n = true := by
  rw [sameDouble_iff] at *
  exact ⟨h.1, h'.2.1, h.2.2.trans h'.2.2⟩

/-- Values are the same decimal if both stand for one, of the same order. -/
theorem sameDecimal_iff :
    sameDecimal a b = true ↔
      ∃ p q, asDecimal? a = some p ∧ asDecimal? b = some q ∧ p.order q = .eq := by
  unfold sameDecimal
  split <;> simp_all

/-- What is the same decimal as another is so for all that are. -/
theorem sameDecimal_trans (h : sameDecimal a b = true) (h' : sameDecimal b c = true) :
    sameDecimal a c = true := by
  rw [sameDecimal_iff] at *
  obtain ⟨p, q, hp, hq, hpq⟩ := h
  obtain ⟨q', r, hq', hr, hqr⟩ := h'
  obtain rfl : q = q' := Option.some.inj (hq.symm.trans hq')
  exact ⟨p, r, hp, hr, Std.TransCmp.eq_trans hpq hqr⟩

/-- A value is the same decimal as itself if it stands for one. -/
theorem sameDecimal_self : sameDecimal a a = (asDecimal? a).isSome := by
  unfold sameDecimal
  cases asDecimal? a with
  | none => rfl
  | some p => exact beq_iff_eq.mpr Std.ReflCmp.compare_self

/-- Numbers are ordered as equal if they are the same double. -/
theorem numericOrder_of_numbers :
    numericOrder (.num m) (.num n) = some .eq ↔ sameDouble m n = true := by
  rw [numericOrder, sameDouble, beq_iff_eq]

/-- Only between two numbers is the measure the double. -/
theorem numericOrder_eq :
    numericOrder a b = some .eq ↔ (∃ m n, a = .num m ∧ b = .num n ∧ sameDouble m n = true) ∨
      ((∀ m n, a = .num m → b ≠ .num n) ∧ sameDecimal a b = true) := by
  unfold numericOrder
  split
  next m n => simp [sameDouble]
  next hother =>
    unfold sameDecimal
    split <;> grind

/-! ## Members -/

/-- What is related as far as both are there is related the other way around too. -/
theorem rel_flip {R : Json → Json → Prop} {first second : Option Json}
    (h : Option.Rel R first second) : Option.Rel (fun v w => R w v) second first := by
  cases h with
  | some hrel => exact .some hrel
  | none => exact .none

/-- What is related to a value that is there is there. -/
theorem exists_of_rel_some {R : Json → Json → Prop} {found : Option Json}
    (h : Option.Rel R (some v) found) : ∃ w, found = some w ∧ R v w := by
  cases h with
  | some hrel => exact ⟨_, rfl, hrel⟩

/--
Objects that have every key once hold as many members, and for each of the first a related one of the
second, just when both hold nothing or related values under every key.
-/
theorem memberwise_iff {R : Json → Json → Prop} (hxs : (xs.map (·.1)).Nodup)
    (hys : (ys.map (·.1)).Nodup) :
    (xs.length = ys.length ∧ ∀ m ∈ xs, ∃ w, Json.member? ys m.1 = some w ∧ R m.2 w) ↔
      ∀ key, Option.Rel R (Json.member? xs key) (Json.member? ys key) := by
  constructor
  · rintro ⟨hlength, hmembers⟩ key
    have hsub : xs.map (·.1) ⊆ ys.map (·.1) := by
      intro name hname
      obtain ⟨m, hm, rfl⟩ := List.mem_map.mp hname
      obtain ⟨w, hw, -⟩ := hmembers m hm
      exact List.mem_map_of_mem (f := (·.1)) (Json.mem_of_member? hw)
    have hperm := (List.subperm_of_subset hxs hsub).perm_of_length_le (by simp [hlength])
    cases hv : Json.member? xs key with
    | none =>
      rw [Json.member?_eq_none, hperm.mem_iff, ← Json.member?_eq_none] at hv
      rw [hv]
      exact .none
    | some v =>
      obtain ⟨w, hw, hrel⟩ := hmembers _ (Json.mem_of_member? hv)
      rw [hw]
      exact .some hrel
  · intro h
    have hkeys : ∀ key, key ∈ xs.map (·.1) ↔ key ∈ ys.map (·.1) := by
      intro key
      rw [← not_iff_not, ← Json.member?_eq_none, ← Json.member?_eq_none]
      have hkey := h key
      generalize Json.member? xs key = first at hkey ⊢
      generalize Json.member? ys key = second at hkey ⊢
      cases hkey <;> simp
    refine ⟨by simpa using ((List.perm_ext_iff_of_nodup hxs hys).mpr hkeys).length_eq, fun m hm => ?_⟩
    have hkey := h m.1
    rw [Json.member?_of_mem hxs hm] at hkey
    exact exists_of_rel_some hkey

/-! ## Misplaced references -/

/-- Whether a number is one, and an object has every key once: so is every value that is written. -/
def wellFormed : Json → Bool
  | .num n => !n.toFloat.isNaN
  | .obj members => decide (members.map (·.1)).Nodup
  | _ => true

/-- An object that is well-formed has every key once. -/
theorem nodup_of_wellFormed (h : wellFormed (.obj xs) = true) : (xs.map (·.1)).Nodup :=
  of_decide_eq_true h

/-- Whether a value is an object that refers to another by its id. -/
def refers : Json → Bool
  | .obj members => (referenceId? (.obj members)).isSome
  | _ => false

/-- Whether a reference stands where an id belongs, or alone where the text of an envelope does. -/
def misplaces : Json → Bool
  | .obj members =>
    (Json.member? members "_id").any refers ||
      members.any fun m => members.length = 1 && [dateTag, decimalTag].contains m.1 && refers m.2
  | _ => false

/-- A value has the id of a reference if it is that id, or refers by it. -/
theorem eq_or_refers_of_referenceId? {id : String} (h : referenceId? v = some id) :
    v = .str id ∨ refers v = true := by
  rcases referenceId?_eq_some.mp h with rfl | ⟨members, rfl, -⟩
  · exact .inl rfl
  · exact .inr (by rw [refers, h]; rfl)

/-- What is equal to a text is that text, or refers by it. -/
theorem referenceId?_of_equals_text {text : String}
    (h : equals (.str text) w = true ∨ equals w (.str text) = true) :
    referenceId? w = some text := by
  have hkind : kind w = .reference := by
    rcases h with h | h
    · rcases equals_cases h with hkind | ⟨xs, ys, hxs, -⟩
      · exact hkind.symm
      · cases hxs
    · rcases equals_cases h with hkind | ⟨xs, ys, -, hys, -⟩
      · exact hkind
      · cases hys
  obtain ⟨id, hid⟩ := Option.isSome_iff_exists.mp (kind_eq_reference.mp hkind)
  have htext : referenceId? (.str text) = some text := rfl
  rcases h with h | h
  · rw [hid, (equals_of_references htext hid).mp h]
  · rw [hid, (equals_of_references hid htext).mp h]

section

variable {R : Json → Json → Prop}

/-- Where no reference is misplaced, an object that agrees with an envelope is that envelope. -/
theorem eq_of_envelope {tag text : String} (htag : tag ∈ [dateTag, decimalTag])
    (hR : ∀ text w, R (.str text) w → referenceId? w = some text)
    (hlength : ys.length = 1)
    (h : Option.Rel R (Json.member? [(tag, .str text)] tag) (Json.member? ys tag))
    (hplaced : misplaces (.obj ys) = false) : ys = [(tag, .str text)] := by
  obtain ⟨⟨key, w⟩, rfl⟩ := List.length_eq_one_iff.mp hlength
  rw [Json.member?_cons, if_pos rfl, Json.member?_cons] at h
  obtain ⟨w', hw', hrel⟩ := exists_of_rel_some h
  split at hw'
  next heq =>
    subst heq
    obtain rfl := Option.some.inj hw'
    rcases eq_or_refers_of_referenceId? (hR _ _ hrel) with rfl | hrefers
    · rfl
    · simp_all [misplaces]
  next => cases hw'

/-- Where no reference is misplaced, what agrees with an object of its own kind is of that kind. -/
theorem kind_of_memberwise (hR : ∀ text w, R (.str text) w → referenceId? w = some text)
    (hlength : xs.length = ys.length)
    (h : ∀ key, Option.Rel R (Json.member? xs key) (Json.member? ys key))
    (hplaced : misplaces (.obj ys) = false) :
    kind (.obj xs) = .object ∨ kind (.obj ys) = kind (.obj xs) := by
  cases htagged : isTagged (.obj xs) with
  | true =>
    obtain ⟨tag, htag, text, hxs⟩ := isTagged_iff.mp htagged
    obtain rfl := Json.obj.inj hxs
    exact .inr (by rw [eq_of_envelope htag hR hlength.symm (h tag) hplaced])
  | false =>
    obtain ⟨hdate, hnumeric⟩ := plain_of_untagged htagged
    cases hid : referenceId? (.obj xs) with
    | none => exact .inl (kind_eq_object.mpr ⟨xs, rfl, hdate, hnumeric, hid⟩)
    | some id =>
      right
      rw [kind_eq_reference.mpr (Option.isSome_iff_exists.mpr ⟨id, hid⟩), kind_eq_reference]
      rcases referenceId?_eq_some.mp hid with hstr | ⟨members, hmembers, -, hown⟩
      · cases hstr
      obtain rfl := Json.obj.inj hmembers
      have hkey := h "_id"
      rw [hown] at hkey
      obtain ⟨w, hw, hrel⟩ := exists_of_rel_some hkey
      rcases eq_or_refers_of_referenceId? (hR _ _ hrel) with rfl | hrefers
      · have huntagged : isTagged (.obj ys) = false := by
          rw [Bool.eq_false_iff, Ne, isTagged_iff]
          rintro ⟨tag, htag, text, hys⟩
          have hne : "_id" ≠ tag := by
            rintro rfl
            exact absurd htag (by decide)
          rw [Json.obj.inj hys, Json.member?_cons, if_neg hne] at hw
          cases hw
        exact Option.isSome_iff_exists.mpr
          ⟨id, referenceId?_eq_some.mpr (.inr ⟨ys, rfl, huntagged, hw⟩)⟩
      · simp_all [misplaces]

end

/-- Where every key is there once and no reference is misplaced, equal values are of one kind. -/
theorem kind_eq_of_equals (ha : wellFormed a = true) (hb : wellFormed b = true)
    (hplaced : misplaces a = false) (hplaced' : misplaces b = false) (h : equals a b = true) :
    kind a = kind b := by
  rcases equals_cases h with hkind | ⟨xs, ys, rfl, rfl, hmembers⟩
  · exact hkind
  have hrel : ∀ key, Option.Rel (fun v w => equals v w = true) (Json.member? xs key)
      (Json.member? ys key) :=
    (memberwise_iff (nodup_of_wellFormed ha) (nodup_of_wellFormed hb)).mp hmembers
  have hfirst := kind_of_memberwise (fun _ _ h => referenceId?_of_equals_text (.inl h)) hmembers.1
    hrel hplaced'
  have hsecond := kind_of_memberwise (fun _ _ h => referenceId?_of_equals_text (.inr h))
    hmembers.1.symm (fun key => rel_flip (hrel key)) hplaced
  rcases hfirst with hfirst | hfirst
  · rcases hsecond with hsecond | hsecond
    · exact hfirst.trans hsecond.symm
    · exact hsecond
  · exact hfirst.symm

/-! ## The parts that equality comes to -/

/-- The items of an array and the values of an object. -/
def children : Json → List Json
  | .arr items => items
  | .obj members => members.map (·.2)
  | _ => []

/-- An induction on values: what holds of a value if it does of all that it contains holds of all. -/
@[elab_as_elim]
theorem children_induction {motive : Json → Prop}
    (step : ∀ v, (∀ x ∈ children v, motive x) → motive v) (v : Json) : motive v := by
  induction v using Json.nested_induction with
  | arr items ih => exact step _ ih
  | obj members ih => exact step _ (List.forall_mem_map.mpr ih)
  | _ => exact step _ (by simp [children])

mutual

/-- A value and what it is compared by: not the members of a reference, which only its id tells apart. -/
def compared : Json → List Json
  | .arr items => .arr items :: comparedItems items
  | .obj members => .obj members :: if refers (.obj members) then [] else comparedMembers members
  | v => [v]

def comparedItems : List Json → List Json
  | [] => []
  | x :: xs => compared x ++ comparedItems xs

def comparedMembers : List (String × Json) → List Json
  | [] => []
  | (_, x) :: xs => compared x ++ comparedMembers xs

end

/-- The values of an array are compared by what each item is. -/
theorem comparedItems_eq (items : List Json) : comparedItems items = items.flatMap compared := by
  induction items with
  | nil => rfl
  | cons x rest ih => rw [comparedItems, ih, List.flatMap_cons]

/-- The values of an object are compared by what each member is. -/
theorem comparedMembers_eq (members : List (String × Json)) :
    comparedMembers members = (members.map (·.2)).flatMap compared := by
  induction members with
  | nil => rfl
  | cons m rest ih => rw [comparedMembers, ih, List.map_cons, List.flatMap_cons]

/-- What a value is compared by is itself, and what its parts are, unless it refers. -/
theorem mem_compared :
    x ∈ compared v ↔ x = v ∨ refers v = false ∧ ∃ y ∈ children v, x ∈ compared y := by
  cases v with
  | arr items => simp [compared, comparedItems_eq, children, refers]
  | obj members =>
    rw [compared]
    cases refers (.obj members) <;> simp [comparedMembers_eq, children]
  | _ => simp [compared, children]

theorem self_mem_compared : v ∈ compared v := mem_compared.mpr (.inl rfl)

/-- What a part is compared by, the whole is compared by. -/
theorem compared_subset (hrefers : refers v = false) (h : x ∈ children v) :
    compared x ⊆ compared v :=
  fun _ hy => mem_compared.mpr (.inr ⟨hrefers, x, h, hy⟩)

/-! ## Values that have one measure -/

/-- Whether two numbers are the same double just when they are the same decimal, if they are any. -/
def agrees : Json → Json → Bool
  | .num m, .num n =>
    (sameDouble m n && ((asDecimal? (.num m)).isSome || (asDecimal? (.num n)).isSome)) ==
      sameDecimal (.num m) (.num n)
  | _, _ => true

/-- Values among which no reference is misplaced, and no decimal tells apart what doubles do not. -/
structure Comparable (parts : List Json) : Prop where
  wellFormed : ∀ v ∈ parts, wellFormed v = true
  placed : ∀ v ∈ parts, misplaces v = false
  agrees : (∃ v ∈ parts, (envelope? decimalTag v).isSome = true) →
    ∀ v ∈ parts, ∀ w ∈ parts, agrees v w = true

variable {parts : List Json}

/--
Numbers on which both measures agree are the same decimal if they are the same double and have one.
-/
theorem agrees_iff (h : agrees (.num m) (.num n) = true) :
    sameDecimal (.num m) (.num n) = true ↔ sameDouble m n = true ∧
      ((asDecimal? (.num m)).isSome = true ∨ (asDecimal? (.num n)).isSome = true) := by
  rw [agrees, beq_iff_eq] at h
  rw [← h, Bool.and_eq_true, Bool.or_eq_true]

/-- The numeric order does not tell apart which of two equal values comes first. -/
theorem numericOrder_comm : numericOrder a b = some .eq ↔ numericOrder b a = some .eq := by
  rw [numericOrder_swap]
  cases numericOrder b a with
  | none => simp
  | some o => cases o <;> simp

/-- Values that are the same decimal both stand for one. -/
theorem isSome_of_sameDecimal (h : sameDecimal a b = true) :
    (asDecimal? a).isSome = true ∧ (asDecimal? b).isSome = true := by
  obtain ⟨p, q, hp, hq, -⟩ := sameDecimal_iff.mp h
  exact ⟨Option.isSome_iff_exists.mpr ⟨p, hp⟩, Option.isSome_iff_exists.mpr ⟨q, hq⟩⟩

/-- Where numbers agree, decimals measure them as far as there are any. -/
theorem numericOrder_of_agrees (hnum : ∀ m n, a = .num m → b = .num n → agrees a b = true) :
    numericOrder a b = some .eq ↔ sameDecimal a b = true ∨
      ∃ m n, a = .num m ∧ b = .num n ∧ sameDouble m n = true ∧ (asDecimal? a).isSome = false ∧
        (asDecimal? b).isSome = false := by
  rw [numericOrder_eq]
  by_cases hboth : ∃ m n, a = .num m ∧ b = .num n
  · obtain ⟨m, n, rfl, rfl⟩ := hboth
    have hagrees := agrees_iff (hnum m n rfl rfl)
    grind
  · grind

/--
Among comparable values numeric equality goes over from one pair to the next, whichever measures they
take.
-/
theorem numericOrder_trans (h : Comparable parts) (ha : a ∈ parts) (hb : b ∈ parts) (hc : c ∈ parts)
    (hna : isNumeric a = true) (hnb : isNumeric b = true) (hnc : isNumeric c = true)
    (hab : numericOrder a b = some .eq) (hbc : numericOrder b c = some .eq) :
    numericOrder a c = some .eq := by
  by_cases hexact : ∃ v ∈ parts, (envelope? decimalTag v).isSome = true
  · have hnum := h.agrees hexact
    rw [numericOrder_of_agrees fun _ _ _ _ => hnum a ha b hb] at hab
    rw [numericOrder_of_agrees fun _ _ _ _ => hnum b hb c hc] at hbc
    rw [numericOrder_of_agrees fun _ _ _ _ => hnum a ha c hc]
    rcases hab with hab | ⟨m, n, rfl, rfl, hab, hm, hn⟩
    · rcases hbc with hbc | ⟨m, n, rfl, rfl, -, hm, -⟩
      · exact .inl (sameDecimal_trans hab hbc)
      · rw [(isSome_of_sameDecimal hab).2] at hm
        cases hm
    · rcases hbc with hbc | ⟨m', k, heq, rfl, hbc, -, hk⟩
      · rw [(isSome_of_sameDecimal hbc).1] at hn
        cases hn
      · obtain rfl := Json.num.inj heq
        exact .inr ⟨m, k, rfl, rfl, sameDouble_trans hab hbc, hm, hk⟩
  · have hnumber : ∀ v ∈ parts, isNumeric v = true → ∃ n, v = .num n := by
      intro v hv hnumeric
      rcases isNumeric_iff.mp hnumeric with hn | ⟨text, rfl⟩
      · exact hn
      · exact absurd ⟨_, hv, by simp [envelope?]⟩ hexact
    obtain ⟨k, rfl⟩ := hnumber a ha hna
    obtain ⟨m, rfl⟩ := hnumber b hb hnb
    obtain ⟨n, rfl⟩ := hnumber c hc hnc
    rw [numericOrder_of_numbers] at *
    exact sameDouble_trans hab hbc

/-! ## Equality as an equivalence -/

/-- A value that refers is a reference by its kind. -/
theorem kind_of_refers (h : refers v = true) : kind v = .reference := by
  cases v with
  | obj members => exact kind_eq_reference.mpr h
  | _ => cases h

/-- A value that is no reference by its kind does not refer. -/
theorem refers_of_kind (hkind : kind v ≠ .reference) : refers v = false :=
  Bool.eq_false_iff.mpr fun hrefers => hkind (kind_of_refers hrefers)

/-- Arrays and objects are compared by all that is in them. -/
theorem child_subset (hkind : kind v = .array ∨ kind v = .object) (hx : x ∈ children v)
    (hv : compared v ⊆ parts) : compared x ⊆ parts := by
  refine fun _ hy => hv (compared_subset ?_ hx hy)
  rw [Bool.eq_false_iff]
  intro hrefers
  rw [kind_of_refers hrefers] at hkind
  rcases hkind with hkind | hkind <;> cases hkind

/-- A member of an object is one of the values that it contains. -/
theorem value_mem_children {key : String} (h : Json.member? xs key = some v) :
    v ∈ children (.obj xs) :=
  List.mem_map_of_mem (f := (·.2)) (Json.mem_of_member? h)

/-- Objects are the same if they have equal values under the same keys. -/
theorem sameIn_object (hxs : wellFormed (.obj xs) = true) (hys : wellFormed (.obj ys) = true) :
    SameIn .object (.obj xs) (.obj ys) ↔
      ∀ key, Option.Rel (fun v w => equals v w = true) (Json.member? xs key) (Json.member? ys key) := by
  rw [← memberwise_iff (nodup_of_wellFormed hxs) (nodup_of_wellFormed hys)]
  simp [SameIn]

section

variable {R : Json → Json → Prop} {us vs ws : List Json} {o p q : Option Json}

/-- Lists that correspond correspond the other way around, if their items do. -/
theorem forall₂_symm (h : ∀ v ∈ vs, ∀ w ∈ ws, R v w → R w v) (hvw : List.Forall₂ R vs ws) :
    List.Forall₂ R ws vs := by
  induction hvw with
  | nil => exact .nil
  | cons hrel _ ih =>
    exact .cons (h _ List.mem_cons_self _ List.mem_cons_self hrel)
      (ih fun v hv w hw => h v (List.mem_cons_of_mem _ hv) w (List.mem_cons_of_mem _ hw))

/-- Lists that correspond to a third correspond, if their items do through it. -/
theorem forall₂_trans (h : ∀ u ∈ us, ∀ v ∈ vs, ∀ w ∈ ws, R u v → R v w → R u w)
    (huv : List.Forall₂ R us vs) (hvw : List.Forall₂ R vs ws) : List.Forall₂ R us ws := by
  induction huv generalizing ws with
  | nil => exact hvw
  | cons hrel _ ih =>
    cases hvw with
    | cons hrel' hrest =>
      exact .cons (h _ List.mem_cons_self _ List.mem_cons_self _ List.mem_cons_self hrel hrel')
        (ih (fun u hu v hv w hw => h u (List.mem_cons_of_mem _ hu) v (List.mem_cons_of_mem _ hv) w
          (List.mem_cons_of_mem _ hw)) hrest)

/-- What may be missing corresponds as a list of one item at most. -/
theorem rel_iff_forall₂ : Option.Rel R o p ↔ List.Forall₂ R o.toList p.toList := by
  cases o <;> cases p <;> simp

end

/-- Comparable values that are equal are of one kind. -/
theorem Comparable.kind_eq (h : Comparable parts) (ha : compared a ⊆ parts) (hb : compared b ⊆ parts)
    (hab : equals a b = true) : kind a = kind b :=
  kind_eq_of_equals (h.wellFormed a (ha self_mem_compared)) (h.wellFormed b (hb self_mem_compared))
    (h.placed a (ha self_mem_compared)) (h.placed b (hb self_mem_compared)) hab

/-- Equal members of as many keys are equal the other way around, for no key comes twice. -/
theorem memberwise_symm (hxs : (xs.map (·.1)).Nodup) (hys : (ys.map (·.1)).Nodup)
    (hchildren : ∀ x ∈ children (.obj xs), ∀ y ∈ children (.obj ys),
      equals x y = true → equals y x = true)
    (h : xs.length = ys.length ∧
      ∀ m ∈ xs, ∃ w, Json.member? ys m.1 = some w ∧ equals m.2 w = true) :
    ys.length = xs.length ∧ ∀ m ∈ ys, ∃ w, Json.member? xs m.1 = some w ∧ equals m.2 w = true := by
  have hkeys := (memberwise_iff (R := fun v w => equals v w = true) hxs hys).mp h
  refine (memberwise_iff (R := fun v w => equals v w = true) hys hxs).mpr fun key => ?_
  rw [rel_iff_forall₂]
  refine forall₂_symm (fun x hx y hy => ?_) (rel_iff_forall₂.mp (hkeys key))
  exact hchildren x (value_mem_children (Option.mem_toList.mp hx)) y
    (value_mem_children (Option.mem_toList.mp hy))

/-- Equality goes both ways between values of which it does between the parts. -/
theorem equals_symm_of_children (ha : ∀ xs, a = .obj xs → (xs.map (·.1)).Nodup)
    (hb : ∀ ys, b = .obj ys → (ys.map (·.1)).Nodup)
    (hchildren : ∀ x ∈ children a, ∀ y ∈ children b, equals x y = true → equals y x = true)
    (hab : equals a b = true) : equals b a = true := by
  by_cases hkind : kind a = kind b
  · rw [equals_iff_sameIn hkind rfl] at hab
    rw [equals_iff_sameIn rfl hkind]
    cases hk : kind b with
    | null => trivial
    | bool | date | reference =>
      rw [hk] at hab
      exact Eq.symm hab
    | numeric =>
      rw [hk] at hab
      exact numericOrder_comm.mp hab
    | array =>
      rw [hk] at hab
      obtain ⟨xs, ys, rfl, rfl, hitems⟩ := hab
      exact ⟨ys, xs, rfl, rfl, forall₂_symm hchildren hitems⟩
    | object =>
      rw [hk] at hab
      obtain ⟨xs, ys, rfl, rfl, hmembers⟩ := hab
      exact ⟨ys, xs, rfl, rfl, memberwise_symm (ha _ rfl) (hb _ rfl) hchildren hmembers⟩
  · -- Objects of two kinds have no kind in common by which the swapped ones could be decided.
    obtain ⟨xs, ys, rfl, rfl, hmembers⟩ := (equals_cases hab).resolve_left hkind
    refine (equals_of_objects ?_ ?_ ?_).mpr
      (memberwise_symm (ha _ rfl) (hb _ rfl) hchildren hmembers)
    · by_contra hdates
      grind [kind_eq_date, Option.isSome_iff_ne_none]
    · by_contra hnumeric
      grind [kind_eq_numeric]
    · by_contra hreferences
      grind [kind_eq_reference, Option.isSome_iff_ne_none]

/-- Among comparable values equality goes both ways, by induction on what the left one contains. -/
theorem equals_symm (h : Comparable parts) (ha : compared a ⊆ parts) (hb : compared b ⊆ parts)
    (hab : equals a b = true) : equals b a = true := by
  induction a using children_induction generalizing b with
  | step a ih =>
    have hkind := h.kind_eq ha hb hab
    have hwellFormed : ∀ {v : Json}, compared v ⊆ parts → ∀ xs, v = .obj xs →
        (xs.map (·.1)).Nodup := by
      rintro _ hv xs rfl
      exact nodup_of_wellFormed (h.wellFormed _ (hv self_mem_compared))
    by_cases hreference : kind a = .reference
    · rw [equals_iff_sameIn hreference (hkind ▸ hreference)] at hab
      exact (equals_iff_sameIn (hkind ▸ hreference) hreference).mpr (Eq.symm hab)
    · have hrefers : refers a = false := refers_of_kind hreference
      have hrefers' : refers b = false := refers_of_kind (hkind ▸ hreference)
      refine equals_symm_of_children (hwellFormed ha) (hwellFormed hb) (fun x hx y hy => ?_) hab
      exact ih x hx (fun _ h => ha (compared_subset hrefers hx h))
        (fun _ h => hb (compared_subset hrefers' hy h))

/--
Among comparable values equality goes over from one pair to the next, by induction on the middle one.
-/
theorem equals_trans (h : Comparable parts) (ha : compared a ⊆ parts) (hb : compared b ⊆ parts)
    (hc : compared c ⊆ parts) (hab : equals a b = true) (hbc : equals b c = true) :
    equals a c = true := by
  induction b using children_induction generalizing a c with
  | step b ih =>
    have hka := h.kind_eq ha hb hab
    have hkc := (h.kind_eq hb hc hbc).symm
    rw [equals_iff_sameIn hka rfl] at hab
    rw [equals_iff_sameIn rfl hkc] at hbc
    rw [equals_iff_sameIn hka hkc]
    cases hkb : kind b with
    | null => trivial
    | bool | date | reference =>
      rw [hkb] at hab hbc
      exact Eq.trans hab hbc
    | numeric =>
      rw [hkb] at hab hbc hka hkc
      exact numericOrder_trans h (ha self_mem_compared) (hb self_mem_compared) (hc self_mem_compared)
        (kind_eq_numeric.mp hka) (kind_eq_numeric.mp hkb) (kind_eq_numeric.mp hkc) hab hbc
    | array =>
      rw [hkb] at hab hbc hka hkc
      obtain ⟨xs, ys, rfl, rfl, hxy⟩ := hab
      obtain ⟨ys', zs, heq, rfl, hyz⟩ := hbc
      obtain rfl := Json.arr.inj heq
      refine ⟨xs, zs, rfl, rfl, forall₂_trans (fun x hx y hy z hz => ?_) hxy hyz⟩
      exact ih y hy (child_subset (.inl hka) hx ha) (child_subset (.inl hkb) hy hb)
        (child_subset (.inl hkc) hz hc)
    | object =>
      rw [hkb] at hab hbc hka hkc
      obtain ⟨xs, rfl, -⟩ := kind_eq_object.mp hka
      obtain ⟨ys, rfl, -⟩ := kind_eq_object.mp hkb
      obtain ⟨zs, rfl, -⟩ := kind_eq_object.mp hkc
      have hxs := h.wellFormed _ (ha self_mem_compared)
      have hys := h.wellFormed _ (hb self_mem_compared)
      have hzs := h.wellFormed _ (hc self_mem_compared)
      rw [sameIn_object hxs hys] at hab
      rw [sameIn_object hys hzs] at hbc
      rw [sameIn_object hxs hzs]
      intro key
      rw [rel_iff_forall₂]
      refine forall₂_trans (fun x hx y hy z hz => ?_) (rel_iff_forall₂.mp (hab key))
        (rel_iff_forall₂.mp (hbc key))
      have hx := value_mem_children (Option.mem_toList.mp hx)
      have hy := value_mem_children (Option.mem_toList.mp hy)
      have hz := value_mem_children (Option.mem_toList.mp hz)
      exact ih y hy (child_subset (.inr hka) hx ha) (child_subset (.inr hkb) hy hb)
        (child_subset (.inr hkc) hz hc)

/-- Whether a value is a decimal envelope whose text is no decimal. -/
def unreadable (v : Json) : Bool := (envelope? decimalTag v).isSome && (asDecimal? v).isNone

/-- An envelope that cannot be read is still numeric by its kind. -/
theorem kind_of_unreadable (h : unreadable v = true) : kind v = .numeric := by
  obtain ⟨text, htext⟩ := Option.isSome_iff_exists.mp (Bool.and_eq_true_iff.mp h).1
  rw [kind_eq_numeric, isNumeric_iff]
  exact .inr ⟨text, envelope?_eq_some.mp htext⟩

/-- Everything that a value comes to can be read if all parts of it can, unless it refers. -/
theorem readable_iff (hkind : kind v ≠ .numeric) :
    (∀ x ∈ compared v, unreadable x = false) ↔
      (refers v = false → ∀ y ∈ children v, ∀ x ∈ compared y, unreadable x = false) := by
  constructor
  · intro h hrefers y hy x hx
    exact h x (compared_subset hrefers hy hx)
  · intro h x hx
    rcases mem_compared.mp hx with rfl | ⟨hrefers, y, hy, hx⟩
    · exact Bool.eq_false_iff.mpr fun hunreadable => hkind (kind_of_unreadable hunreadable)
    · exact h hrefers y hy x hx

/-- A well-formed number is the same double as itself. -/
theorem sameDouble_self (h : wellFormed (.num n) = true) : sameDouble n n = true := by
  have hfinite : n.toFloat.isNaN = false := by simpa [wellFormed] using h
  exact sameDouble_iff.mpr ⟨hfinite, hfinite, rfl⟩

/-- A value is equal to itself as far as every decimal envelope it is compared by can be read. -/
theorem equals_self (h : ∀ x ∈ compared v, wellFormed x = true) :
    equals v v = true ↔ ∀ x ∈ compared v, unreadable x = false := by
  induction v using children_induction with
  | step v ih =>
    have hchild : refers v = false → ∀ x ∈ children v,
        (equals x x = true ↔ ∀ y ∈ compared x, unreadable y = false) := fun hrefers x hx =>
      ih x hx fun y hy => h y (compared_subset hrefers hx hy)
    rw [equals_iff_sameIn rfl rfl]
    cases hk : kind v with
    | null =>
      obtain rfl := kind_eq_null.mp hk
      exact iff_of_true trivial (by simp [compared, unreadable, envelope?])
    | bool =>
      obtain ⟨b, rfl⟩ := kind_eq_bool.mp hk
      exact iff_of_true rfl (by simp [compared, unreadable, envelope?])
    | date =>
      obtain ⟨t, ht⟩ := Option.isSome_iff_exists.mp (kind_eq_date.mp hk)
      obtain ⟨text, rfl, -⟩ := asDate?_eq_some.mp ht
      refine iff_of_true rfl ((readable_iff (by simp [hk])).mpr fun _ => ?_)
      simp [children, compared, unreadable, envelope?]
    | numeric =>
      rcases isNumeric_iff.mp (kind_eq_numeric.mp hk) with ⟨n, rfl⟩ | ⟨text, rfl⟩
      · exact iff_of_true (numericOrder_of_numbers.mpr (sameDouble_self (h _ self_mem_compared)))
          (by simp [compared, unreadable, envelope?])
      · rw [SameIn, numericOrder_eq, sameDecimal_self]
        simp [compared, comparedMembers, unreadable, envelope?]
    | reference =>
      refine iff_of_true rfl ((readable_iff (by simp [hk])).mpr fun hrefers => ?_)
      obtain ⟨id, hid⟩ := Option.isSome_iff_exists.mp (kind_eq_reference.mp hk)
      rcases eq_or_refers_of_referenceId? hid with rfl | htrue
      · simp [children]
      · rw [hrefers] at htrue
        cases htrue
    | array =>
      have hrefers : refers v = false := refers_of_kind (by simp [hk])
      obtain ⟨items, rfl⟩ := kind_eq_array.mp hk
      have hsame : SameIn .array (.arr items) (.arr items) ↔ ∀ x ∈ items, equals x x = true := by
        simp [SameIn, List.forall₂_same]
      rw [readable_iff (by simp [hk]), forall_prop_of_true hrefers, hsame]
      exact forall₂_congr (hchild hrefers)
    | object =>
      have hrefers : refers v = false := refers_of_kind (by simp [hk])
      obtain ⟨members, rfl, -⟩ := kind_eq_object.mp hk
      have hself := h _ self_mem_compared
      have hsame : SameIn .object (.obj members) (.obj members) ↔
          ∀ x ∈ children (.obj members), equals x x = true := by
        rw [sameIn_object hself hself, children, List.forall_mem_map]
        constructor
        · intro hall m hm
          have hkey := hall m.1
          rwa [Json.member?_of_mem (nodup_of_wellFormed hself) hm, Option.rel_some_some] at hkey
        · intro hall key
          cases hv : Json.member? members key with
          | none => exact .none
          | some v => exact .some (hall _ (Json.mem_of_member? hv))
      rw [readable_iff (by simp [hk]), forall_prop_of_true hrefers, hsame]
      exact forall₂_congr (hchild hrefers)

/--
Where equality is an equivalence. A value is equal to itself exactly if every decimal envelope it is
compared by can be read; values that have one measure and no misplaced reference are equal both ways
round, and to each other when they are equal to a third.
-/
theorem equals_equivalence (a b c : Json) :
    ((∀ x ∈ compared a, wellFormed x = true) →
      (equals a a = true ↔ ∀ x ∈ compared a, unreadable x = false)) ∧
    (Comparable (compared a ++ compared b) → equals a b = true → equals b a = true) ∧
    (Comparable (compared a ++ compared b ++ compared c) →
      equals a b = true → equals b c = true → equals a c = true) := by
  refine ⟨equals_self, fun h => ?_, fun h => ?_⟩
  · exact equals_symm h (List.subset_append_left _ _) (List.subset_append_right _ _)
  · refine equals_trans h ?_ ?_ (List.subset_append_right _ _) <;> intro x hx <;> simp [hx]

/-- A note that names its author in full, with a price as a number. -/
def pricedNote : Json :=
  .obj [("author", .obj [("_id", .str "u"), ("name", .str "Ann")]), ("prices", .arr [.num (.float 2.5)]),
    ("on", .obj [("$date", .str "2024-01-01T00:00:00Z")])]

/-- The same note with the author's id, a price as a decimal and the date in another zone. -/
def decimalNote : Json :=
  .obj [("on", .obj [("$date", .str "2024-01-01T01:00:00+01:00")]), ("author", .str "u"),
    ("prices", .arr [.obj [("$decimal", .str "2.50")]])]

/-- The same note once more, with the author as a bare reference. -/
def referringNote : Json :=
  .obj [("author", .obj [("_id", .str "u")]), ("prices", .arr [.num (.float 2.5)]),
    ("on", .obj [("$date", .str "2024-01-01T00:00:00.000Z")])]

/-- A price may be a number or a decimal, and an author a reference or the object that it refers to. -/
theorem equals_equivalence_of_notes :
    (equals pricedNote pricedNote = true ∧ equals decimalNote pricedNote = true) ∧
      equals pricedNote referringNote = true := by
  have hcomparable :
      Comparable (compared pricedNote ++ compared decimalNote ++ compared referringNote) :=
    ⟨by decide +kernel, by decide +kernel, fun _ => by decide +kernel⟩
  have hpair : Comparable (compared pricedNote ++ compared decimalNote) :=
    ⟨by decide +kernel, by decide +kernel, fun _ => by decide +kernel⟩
  have hequal : equals pricedNote decimalNote = true := by decide +kernel
  obtain ⟨hself, hsymm, htrans⟩ := equals_equivalence pricedNote decimalNote referringNote
  refine ⟨⟨?_, hsymm hpair hequal⟩, htrans hcomparable hequal (by decide +kernel)⟩
  exact (hself (by decide +kernel)).mpr (by decide +kernel)

/--
An envelope without a decimal differs from itself; two integers that are one double are told apart by a
decimal; and a reference to a reference is equal to that, but not to the id.
-/
theorem equals_not_equivalence :
    equals (.obj [("$decimal", .str "abc")]) (.obj [("$decimal", .str "abc")]) = false ∧
      (let even := Json.num (.int 9007199254740992)
      let odd := Json.num (.int 9007199254740993)
      let decimal := Json.obj [("$decimal", .str "9007199254740993")]
      equals even odd = true ∧ equals odd decimal = true ∧ equals even decimal = false) ∧
      (let reference := Json.obj [("_id", .str "x")]
      equals (.str "x") reference = true ∧ equals reference (.obj [("_id", reference)]) = true ∧
        equals (.str "x") (.obj [("_id", reference)]) = false) := by
  decide +kernel

end ObjectQuery.Value
