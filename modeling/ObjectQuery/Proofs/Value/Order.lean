import ObjectQuery.Json.Parser
import ObjectQuery.Proofs.Value.Equality

/-!
# The order of values

Two values that change places have the reverse order and are equal as before, so a comparison may be
turned round with its operator. That needs each object to have its keys once, since only the members
of the first of two objects are looked up in the second; so has every value that is read from a text.

Texts are ordered throughout, and so are truth values, instants and decimals: among values of one of
these kinds any two are ordered, as what they stand for is, and equal when neither comes first.
-/

namespace ObjectQuery

/-! ## Instants -/

instance : Std.TransCmp Instant.order :=
  inferInstanceAs (Std.TransCmp (compareLex (compareOn Instant.seconds) (compareOn Instant.nanos)))

/-- Instants of one order are the same. -/
theorem Instant.order_eq_iff {t u : Instant} : t.order u = .eq ↔ t = u := by
  cases t
  cases u
  rw [order, Ordering.then_eq_eq, Std.compare_eq_iff_eq, Std.compare_eq_iff_eq, Instant.mk.injEq]

/-- A comparison turned round admits what the comparison does of the order turned round. -/
theorem Comparison.admits_swap (op : Comparison) (o : Ordering) :
    op.admits o.swap = op.flip.admits o := by
  cases op <;> cases o <;> rfl

namespace Value

open Numeral (Decimal)

variable {u v w : Json} {values : List Json}

/-! ## Values that change places -/

/-- The order of two values turns round with them, or there is none either way. -/
theorem order_swap (v w : Json) : order v w = (order w v).map Ordering.swap := by
  unfold order
  rw [Bool.and_comm]
  cases asDate? v <;> cases asDate? w
  case some.some => exact congrArg some Std.OrientedCmp.eq_swap
  all_goals
    dsimp only
    split
    · exact numericOrder_swap v w
    · cases v <;> cases w <;> first | rfl | exact congrArg some Std.OrientedOrd.eq_swap

mutual

/-- Whether every object in a value has each key once, as every value that is read has. -/
def keysOnce : Json → Bool
  | .arr items => keysOnceItems items
  | .obj members => decide (members.map (·.1)).Nodup && keysOnceMembers members
  | _ => true

def keysOnceItems : List Json → Bool
  | [] => true
  | x :: xs => keysOnce x && keysOnceItems xs

def keysOnceMembers : List (String × Json) → Bool
  | [] => true
  | (_, x) :: xs => keysOnce x && keysOnceMembers xs

end

/-- The items of an array have their keys once if each of them has. -/
theorem keysOnceItems_iff {items : List Json} :
    keysOnceItems items = true ↔ ∀ x ∈ items, keysOnce x = true := by
  induction items with
  | nil => simp [keysOnceItems]
  | cons x rest ih => simp [keysOnceItems, ih]

/-- The members of an object have their keys once if each value has. -/
theorem keysOnceMembers_iff {members : List (String × Json)} :
    keysOnceMembers members = true ↔ ∀ x ∈ members.map (·.2), keysOnce x = true := by
  induction members with
  | nil => simp [keysOnceMembers]
  | cons m rest ih => rw [keysOnceMembers, Bool.and_eq_true, ih, List.map_cons, List.forall_mem_cons]

/-- A value has its keys once if its own do not repeat and all that it contains has its keys once. -/
theorem keysOnce_iff :
    keysOnce v = true ↔ (∀ members, v = .obj members → (members.map (·.1)).Nodup) ∧
      ∀ x ∈ children v, keysOnce x = true := by
  cases v with
  | arr items => simp [keysOnce, keysOnceItems_iff, children]
  | obj members => simp [keysOnce, keysOnceMembers_iff, children]
  | _ => simp [keysOnce, children]

/-- Equality does not change when its sides do, among values whose keys do not repeat. -/
theorem equals_swap (hv : keysOnce v = true) (hw : keysOnce w = true) :
    equals v w = equals w v := by
  have hsymm : ∀ {v w : Json}, keysOnce v = true → keysOnce w = true → equals v w = true →
      equals w v = true := by
    intro v
    induction v using children_induction with
    | step v ih =>
      intro w hv hw
      rw [keysOnce_iff] at hv hw
      exact equals_symm_of_children hv.1 hw.1
        fun x hx y hy => ih x hx (hv.2 x hx) (hw.2 y hy)
  exact Bool.eq_iff_iff.mpr ⟨hsymm hv hw, hsymm hw hv⟩

/--
A comparison holds of two values exactly if the turned one holds of them in the other order: they are
equal both ways round or neither way, and their order is reversed.
-/
theorem compares_flip {left right : Json} (hleft : keysOnce left = true)
    (hright : keysOnce right = true) :
    (∀ op, compares op left right = compares op.flip right left) ∧
      equals left right = equals right left ∧
      order left right = (order right left).map Ordering.swap := by
  have hequals := equals_swap hleft hright
  refine ⟨fun op => ?_, hequals, order_swap left right⟩
  have horder : (order left right).any op.admits = (order right left).any op.flip.admits := by
    rw [order_swap left right, Option.any_map]
    exact congrArg (fun holds => (order right left).any holds) (funext op.admits_swap)
  cases op with
  | eq => exact hequals
  | ne => exact congrArg not hequals
  | gt | gte | lt | lte => exact horder

/-- A note with a decimal and one with a number have their keys once, so they are equal either way. -/
theorem compares_flip_of_notes :
    (keysOnce pricedNote = true ∧ keysOnce decimalNote = true) ∧
      compares .eq decimalNote pricedNote = true := by
  have hpriced : keysOnce pricedNote = true := by decide +kernel
  have hdecimal : keysOnce decimalNote = true := by decide +kernel
  obtain ⟨hflip, -⟩ := compares_flip hpriced hdecimal
  refine ⟨⟨hpriced, hdecimal⟩, (hflip .eq).symm.trans ?_⟩
  decide +kernel

/-! ## Values that are read -/

/-- An object has its keys once if they do not repeat and all members have their keys once. -/
theorem keysOnce_obj {members : List (String × Json)} (hkeys : (members.map (·.1)).Nodup)
    (h : ∀ m ∈ members, keysOnce m.2 = true) : keysOnce (.obj members) = true := by
  rw [keysOnce, Bool.and_eq_true, decide_eq_true_eq, keysOnceMembers_iff, List.forall_mem_map]
  exact ⟨hkeys, h⟩

/-- A reading that goes on has read something first. -/
theorem exists_of_reading {α β : Type} {x : Json.Reading α} {f : α → Json.Reading β} {b : β}
    (h : (x >>= f) = .ok b) : ∃ a, x = .ok a ∧ f a = .ok b := by
  cases x with
  | ok a => exact ⟨a, rfl, h⟩
  | error _ => cases h

/-- A value that is read without looking into it has no key. -/
theorem keysOnce_of_map {α : Type} {f : α → Json × List Char} {x : Json.Reading α}
    {rest : List Char} (hf : ∀ a, keysOnce (f a).1 = true) (h : x.map f = .ok (v, rest)) :
    keysOnce v = true := by
  cases x with
  | ok a =>
    have hv := hf a
    rwa [Except.ok.inj h] at hv
  | error _ => cases h

/-- By the fuel: a value, the items up to a bracket and the members up to a brace. -/
theorem keysOnce_of_read (fuel : Nat) :
    (∀ limit cs v rest, Json.readValue fuel limit cs = .ok (v, rest) → keysOnce v = true) ∧
    (∀ limit acc cs v rest, (∀ x ∈ acc, keysOnce x = true) →
      Json.readItems fuel limit acc cs = .ok (v, rest) → keysOnce v = true) ∧
    (∀ limit acc cs v rest, (∀ m ∈ acc, keysOnce m.2 = true) →
      Json.readMembers fuel limit acc cs = .ok (v, rest) → keysOnce v = true) := by
  induction fuel with
  | zero =>
    refine ⟨fun limit cs v rest h => ?_, fun limit acc cs v rest _ h => ?_,
      fun limit acc cs v rest _ h => ?_⟩
    all_goals cases h
  | succ fuel ih =>
    obtain ⟨ihvalue, ihitems, ihmembers⟩ := ih
    refine ⟨?value, ?items, ?members⟩
    case value =>
      intro limit cs v rest h
      unfold Json.readValue at h
      split at h
      · exact keysOnce_of_map (fun _ => rfl) h
      · exact keysOnce_of_map (fun _ => rfl) h
      · exact keysOnce_of_map (fun _ => rfl) h
      · exact keysOnce_of_map (fun _ => rfl) h
      · split at h
        · cases h
        · split at h
          · cases h
            rfl
          · cases h
          · exact ihitems _ _ _ _ _ (List.forall_mem_nil _) h
      · split at h
        · cases h
        · split at h
          · cases h
            rfl
          · cases h
          · exact ihmembers _ _ _ _ _ (List.forall_mem_nil _) h
      · exact keysOnce_of_map (fun _ => rfl) h
    case items =>
      intro limit acc cs v rest hacc h
      unfold Json.readItems at h
      obtain ⟨⟨x, after⟩, hx, h⟩ := exists_of_reading h
      have hall : ∀ y ∈ x :: acc, keysOnce y = true :=
        List.forall_mem_cons.mpr ⟨ihvalue _ _ _ _ hx, hacc⟩
      dsimp only at h
      split at h
      · split at h
        · cases h
        · exact ihitems _ _ _ _ _ hall h
      · cases h
        exact keysOnceItems_iff.mpr fun y hy => hall y (List.mem_reverse.mp hy)
      · cases h
    case members =>
      intro limit acc cs v rest hacc h
      unfold Json.readMembers at h
      split at h
      · obtain ⟨⟨key, after⟩, -, h⟩ := exists_of_reading h
        dsimp only at h
        split at h
        · obtain ⟨⟨x, after⟩, hx, h⟩ := exists_of_reading h
          have hall : ∀ m ∈ (key, x) :: acc, keysOnce m.2 = true :=
            List.forall_mem_cons.mpr ⟨ihvalue _ _ _ _ hx, hacc⟩
          dsimp only at h
          split at h
          · split at h
            · cases h
            · exact ihmembers _ _ _ _ _ hall h
          · cases h
            refine keysOnce_obj ?_ fun m hm => ?_
            · exact Json.keys_overlay_nodup List.nodup_nil
            · rcases Json.of_mem_overlay hm with hm | hm
              · exact hall m (List.mem_reverse.mp hm)
              · cases hm
          · cases h
        · cases h
      · cases h

/-- Every value that is read from a text has each key once in every object. -/
theorem keysOnce_of_parse {text : String} {limit : Nat} (h : Json.parse text limit = .ok v) :
    keysOnce v = true := by
  unfold Json.parse at h
  split at h
  next v' hread =>
    cases h
    obtain ⟨⟨v', rest⟩, hvalue, hread⟩ := exists_of_reading hread
    have hv := (keysOnce_of_read _).1 _ _ _ _ hvalue
    dsimp only at hread
    split at hread
    · cases hread
      exact hv
    · cases hread
  next => cases h

/-! ## Values of one kind -/

/-- Values that stand for something are ordered as that is, and equal when neither of it comes first. -/
structure RankedBy {α : Type} (cmp : α → α → Ordering) (rank : Json → Option α) : Prop where
  order_eq : ∀ {v w x y}, rank v = some x → rank w = some y → order v w = some (cmp x y)
  equals_iff : ∀ {v w x y}, rank v = some x → rank w = some y → (equals v w = true ↔ cmp x y = .eq)

/-- Texts are ordered as texts. -/
theorem rankedBy_text : RankedBy compare Json.asStr? where
  order_eq {v w _ _} hv hw := by
    cases v <;> cases hv
    cases w <;> cases hw
    rfl
  equals_iff {v w x y} hv hw := by
    cases v <;> cases hv
    cases w <;> cases hw
    rw [equals_of_references rfl rfl, Std.compare_eq_iff_eq]

/-- Truth values are ordered with false first. -/
theorem rankedBy_bool : RankedBy compare Json.asBool? where
  order_eq {v w _ _} hv hw := by
    cases v <;> cases hv
    cases w <;> cases hw
    rfl
  equals_iff {v w x y} hv hw := by
    cases v <;> cases hv
    cases w <;> cases hw
    rw [equals_iff_sameIn (k := .bool) rfl rfl, SameIn, Json.bool.injEq, Std.compare_eq_iff_eq]

/-- Values that stand for instants are ordered as instants. -/
theorem rankedBy_date : RankedBy Instant.order asDate? where
  order_eq hv hw := by
    unfold order
    rw [hv, hw]
  equals_iff hv hw := by rw [equals_of_dates hv hw, Instant.order_eq_iff]

/-- The decimal in an envelope; a number stands for a double first. -/
def enclosedDecimal? (v : Json) : Option Decimal := (envelope? decimalTag v).bind Decimal.ofText?

/-- Decimals in their envelopes are numeric, and ordered as decimals. -/
theorem numericOrder_of_enclosed {d e : Decimal} (hv : enclosedDecimal? v = some d)
    (hw : enclosedDecimal? w = some e) :
    isNumeric v = true ∧ isNumeric w = true ∧ numericOrder v w = some (d.order e) := by
  obtain ⟨text, htext, -⟩ := Option.bind_eq_some_iff.mp hv
  obtain ⟨text', htext', -⟩ := Option.bind_eq_some_iff.mp hw
  obtain rfl := envelope?_eq_some.mp htext
  obtain rfl := envelope?_eq_some.mp htext'
  refine ⟨rfl, rfl, ?_⟩
  have hd : asDecimal? (.obj [(decimalTag, .str text)]) = some d := hv
  have he : asDecimal? (.obj [(decimalTag, .str text')]) = some e := hw
  rw [numericOrder_of_decimal (by simp), hd, he]
  rfl

/-- Decimals in their envelopes are ordered as decimals. -/
theorem rankedBy_decimal : RankedBy Decimal.order enclosedDecimal? where
  order_eq hv hw := by
    obtain ⟨hnumeric, hnumeric', horder⟩ := numericOrder_of_enclosed hv hw
    unfold order
    rw [asDate?_of_isNumeric hnumeric, hnumeric, hnumeric']
    exact horder
  equals_iff hv hw := by
    obtain ⟨hnumeric, hnumeric', horder⟩ := numericOrder_of_enclosed hv hw
    rw [equals_of_numeric hnumeric hnumeric', horder, Option.some.injEq]

/-- All texts, all truth values, all instants or all decimals in envelopes. -/
def OneKind (values : List Json) : Prop :=
  (∀ v ∈ values, v.asStr?.isSome = true) ∨ (∀ v ∈ values, v.asBool?.isSome = true) ∨
    (∀ v ∈ values, (asDate? v).isSome = true) ∨ ∀ v ∈ values, (enclosedDecimal? v).isSome = true

/-- Values any two of which are ordered, and equal when neither comes first. -/
structure Ordered (values : List Json) : Prop where
  total : ∀ v ∈ values, ∀ w ∈ values, (order v w).isSome = true
  equals_iff : ∀ v ∈ values, ∀ w ∈ values, (equals v w = true ↔ order v w = some .eq)
  trans : ∀ {side : Ordering}, side ≠ .eq → ∀ u ∈ values, ∀ v ∈ values, ∀ w ∈ values,
    order u v ≠ some side → order v w ≠ some side → order u w ≠ some side

namespace Ordered

/-- Fewer values are ordered if more are. -/
theorem mono {others : List Json} (h : Ordered values) (hsub : others ⊆ values) :
    Ordered others where
  total v hv w hw := h.total v (hsub hv) w (hsub hw)
  equals_iff v hv w hw := h.equals_iff v (hsub hv) w (hsub hw)
  trans hside u hu v hv w hw := h.trans hside u (hsub hu) v (hsub hv) w (hsub hw)

/-- Where neither of two values comes first they are equal. -/
theorem equals_of_ne {side : Ordering} (h : Ordered values) (hside : side ≠ .eq) (hv : v ∈ values)
    (hw : w ∈ values) (hvw : order v w ≠ some side) (hwv : order w v ≠ some side) :
    equals v w = true := by
  obtain ⟨o, ho⟩ := Option.isSome_iff_exists.mp (h.total v hv w hw)
  rw [h.equals_iff v hv w hw, ho]
  rw [order_swap w v, ho] at hwv
  rw [ho] at hvw
  cases o <;> cases side <;> simp_all

/-- Ordered values that are equal are not one before the other. -/
theorem ne_of_equals {side : Ordering} (h : Ordered values) (hside : side ≠ .eq) (hv : v ∈ values)
    (hw : w ∈ values) (hvw : equals v w = true) : order v w ≠ some side := by
  rw [(h.equals_iff v hv w hw).mp hvw, Ne, Option.some.injEq]
  exact hside.symm

/-- Among ordered values equality goes both ways. -/
theorem equals_symm (h : Ordered values) (hv : v ∈ values) (hw : w ∈ values)
    (hvw : equals v w = true) : equals w v = true := by
  rw [h.equals_iff w hw v hv, order_swap w v, (h.equals_iff v hv w hw).mp hvw]
  rfl

/-- Among ordered values equality goes over from one pair to the next. -/
theorem equals_trans (h : Ordered values) (hu : u ∈ values) (hv : v ∈ values) (hw : w ∈ values)
    (huv : equals u v = true) (hvw : equals v w = true) : equals u w = true := by
  have hgt : Ordering.gt ≠ .eq := by decide
  refine h.equals_of_ne hgt hu hw ?_ ?_
  · exact h.trans hgt u hu v hv w hw (h.ne_of_equals hgt hu hv huv) (h.ne_of_equals hgt hv hw hvw)
  · exact h.trans hgt w hw v hv u hu (h.ne_of_equals hgt hw hv (h.equals_symm hv hw hvw))
      (h.ne_of_equals hgt hv hu (h.equals_symm hu hv huv))

/-- An ordered value is equal to itself. -/
theorem equals_self (h : Ordered values) (hv : v ∈ values) : equals v v = true := by
  obtain ⟨o, ho⟩ := Option.isSome_iff_exists.mp (h.total v hv v hv)
  have hswap := order_swap v v
  rw [ho, Option.map_some, Option.some.injEq] at hswap
  rw [h.equals_iff v hv v hv, ho]
  cases o with
  | eq => rfl
  | lt | gt => exact absurd hswap (by decide)

/-- Of ordered values one is at most the other if it does not come after it. -/
theorem compares_lte (h : Ordered values) (hv : v ∈ values) (hw : w ∈ values) :
    compares .lte v w = true ↔ order v w ≠ some .gt := by
  obtain ⟨o, ho⟩ := Option.isSome_iff_exists.mp (h.total v hv w hw)
  simp [compares, ho, Comparison.admits]

/-- Of ordered values one is at least the other if it does not come before it. -/
theorem compares_gte (h : Ordered values) (hv : v ∈ values) (hw : w ∈ values) :
    compares .gte v w = true ↔ order v w ≠ some .lt := by
  obtain ⟨o, ho⟩ := Option.isSome_iff_exists.mp (h.total v hv w hw)
  simp [compares, ho, Comparison.admits]

end Ordered

section

variable {α : Type} {cmp : α → α → Ordering} [Std.TransCmp cmp]

/-- What does not come before, and what does not come behind, passes on in a row. -/
theorem ne_trans {side : Ordering} (hside : side ≠ .eq) {x y z : α} (hxy : cmp x y ≠ side)
    (hyz : cmp y z ≠ side) : cmp x z ≠ side := by
  cases side with
  | eq => exact absurd rfl hside
  | gt =>
    have hle := Std.TransCmp.isLE_trans (Ordering.isLE_iff_ne_gt.mpr hxy)
      (Ordering.isLE_iff_ne_gt.mpr hyz)
    exact Ordering.isLE_iff_ne_gt.mp hle
  | lt =>
    have hge := Std.TransCmp.isGE_trans (Ordering.isGE_iff_ne_lt.mpr hxy)
      (Ordering.isGE_iff_ne_lt.mpr hyz)
    exact Ordering.isGE_iff_ne_lt.mp hge

/-- Values are ordered that all have a rank. -/
theorem RankedBy.ordered {rank : Json → Option α} (h : RankedBy cmp rank)
    (hranked : ∀ v ∈ values, (rank v).isSome = true) : Ordered values := by
  have hrank : ∀ v ∈ values, ∃ x, rank v = some x := fun v hv =>
    Option.isSome_iff_exists.mp (hranked v hv)
  constructor
  · intro v hv w hw
    obtain ⟨x, hx⟩ := hrank v hv
    obtain ⟨y, hy⟩ := hrank w hw
    rw [h.order_eq hx hy]
    rfl
  · intro v hv w hw
    obtain ⟨x, hx⟩ := hrank v hv
    obtain ⟨y, hy⟩ := hrank w hw
    rw [h.order_eq hx hy, h.equals_iff hx hy, Option.some.injEq]
  · intro side hside u hu v hv w hw
    obtain ⟨x, hx⟩ := hrank u hu
    obtain ⟨y, hy⟩ := hrank v hv
    obtain ⟨z, hz⟩ := hrank w hw
    rw [h.order_eq hx hy, h.order_eq hy hz, h.order_eq hx hz, Ne, Ne, Ne, Option.some.injEq,
      Option.some.injEq, Option.some.injEq]
    exact ne_trans hside

end

/-- Values of one kind are ordered. -/
theorem OneKind.ordered (h : OneKind values) : Ordered values := by
  rcases h with h | h | h | h
  · exact rankedBy_text.ordered h
  · exact rankedBy_bool.ordered h
  · exact rankedBy_date.ordered h
  · exact rankedBy_decimal.ordered h

end Value

end ObjectQuery
