import Mathlib.Data.Set.CoeSort
import ObjectQuery.Proofs.Value.Order
import ObjectQuery.SortSpec

/-!
# Sorting is consistent

Each key orders rows by what stands under it, with null at one end, and the keys are asked in turn. On
rows whose values under each key are of one kind this is an order in which any number of rows can be
sorted: two rows that change places are compared the other way round, and what is first or the same
passes on in a row. Values of different kinds are not ordered and count as equal, which need not pass
on.
-/

namespace ObjectQuery

namespace Value

/-! ## Missing places -/

/-- A segment finds nothing in a value: an object without its key, a short array, or no container. -/
def Lacks : Json → String → Prop
  | .obj members, segment => segment ∉ members.map (·.1)
  | .arr items, segment =>
    ∀ i, Numeral.readUnsigned? segment Numeral.bound64 = some i → items.length ≤ i
  | _, _ => True

/-- A segment that finds nothing steps to null. -/
theorem step_of_lacks {v : Json} {segment : String} (h : Lacks v segment) :
    step v segment = .null := by
  cases v with
  | obj members => rw [step, Json.member?_eq_none.mpr h, Option.getD_none]
  | arr items =>
    rw [step]
    split
    · next i hi => rw [List.getD_eq_getElem?_getD, List.getElem?_eq_none (h i hi), Option.getD_none]
    · rfl
  | null | bool _ | num _ | str _ => rfl

/-- A path that is missing in a value: where some of its segments lead, the next one finds nothing. -/
def Misses (v : Json) (path : String) : Prop :=
  ∃ front segment back, Text.split '.' path = front ++ segment :: back ∧
    Lacks (front.foldl step v) segment

/-- Behind a missing place stands null. -/
theorem getPath_of_misses {v : Json} {path : String} (h : Misses v path) :
    getPath v path = .null := by
  obtain ⟨front, segment, back, hpath, hlacks⟩ := h
  rw [getPath, hpath, List.foldl_append, List.foldl_cons, step_of_lacks hlacks, foldl_step_null]

/-! ## Kinds that are ordered -/

/-- The tests for a text, a truth value, an instant and a decimal in an envelope. -/
def orderedKinds : List (Json → Bool) :=
  [fun v => v.asStr?.isSome, fun v => v.asBool?.isSome, fun v => (asDate? v).isSome,
    fun v => (enclosedDecimal? v).isSome]

/-- Values that all pass one of the tests are of one kind. -/
theorem oneKind_of_mem {kind : Json → Bool} (hkind : kind ∈ orderedKinds) {values : List Json}
    (h : ∀ v ∈ values, kind v = true) : OneKind values := by
  simp only [orderedKinds, List.mem_cons, List.not_mem_nil, or_false] at hkind
  rcases hkind with rfl | rfl | rfl | rfl
  · exact .inl h
  · exact .inr (.inl h)
  · exact .inr (.inr (.inl h))
  · exact .inr (.inr (.inr h))

end Value

namespace SortSpec

open Value (orderedKinds)

/-! ## Two values under a key -/

/-- What a direction puts first: a lesser value and then null, or a greater value and null before it. -/
def Before : Direction → Json → Json → Prop
  | .asc, x, y => Value.order x y = some .lt ∨ (x ≠ .null ∧ y = .null)
  | .desc, x, y => Value.order x y = some .gt ∨ (x = .null ∧ y ≠ .null)

/-- What no direction tells apart: values of the same rank, and null from null. -/
def Ties (x y : Json) : Prop := Value.order x y = some .eq ∨ (x = .null ∧ y = .null)

/-- A value of a kind, or null. -/
def Ranks (kind : Json → Bool) (x : Json) : Prop := x = .null ∨ kind x = true

variable {x y z : Json} {kind : Json → Bool} {direction : Direction}

/-- Where neither is null, values stand in their own order, and the same where they have none. -/
theorem ascending_of_values (hx : x ≠ .null) (hy : y ≠ .null) :
    ascending x y = (Value.order x y).getD .eq := by
  unfold ascending
  split
  · exact absurd rfl hx
  · exact absurd rfl hx
  · exact absurd rfl hy
  · rfl

/-- Null stands behind every other value. -/
theorem ascending_null_left (hy : y ≠ .null) : ascending .null y = .gt := by
  unfold ascending
  split <;> simp_all

/-- Every other value stands before null. -/
theorem ascending_null_right (hx : x ≠ .null) : ascending x .null = .lt := by
  unfold ascending
  split <;> simp_all

/-- Two values that change places turn their order around. -/
theorem ascending_swap (x y : Json) : ascending x y = (ascending y x).swap := by
  by_cases hx : x = .null
  · by_cases hy : y = .null
    · rw [hx, hy]
      rfl
    · rw [hx, ascending_null_left hy, ascending_null_right hy]
      rfl
  · by_cases hy : y = .null
    · rw [hy, ascending_null_left hx, ascending_null_right hx]
      rfl
    · rw [ascending_of_values hx hy, ascending_of_values hy hx, Value.order_swap x y]
      cases Value.order y x <;> rfl

/-- A value that passes one of the tests is not null. -/
theorem ne_null_of_kind (hkind : kind ∈ orderedKinds) (hx : kind x = true) : x ≠ .null := by
  rintro rfl
  simp only [orderedKinds, List.mem_cons, List.not_mem_nil, or_false] at hkind
  rcases hkind with rfl | rfl | rfl | rfl <;> cases hx

/-- Two values of an ordered kind are ordered. -/
theorem order_of_kind (hkind : kind ∈ orderedKinds) (hx : kind x = true) (hy : kind y = true) :
    Value.order x y = some (ascending x y) := by
  have hordered : Value.Ordered [x, y] :=
    (Value.oneKind_of_mem hkind (by simp [hx, hy])).ordered
  obtain ⟨o, ho⟩ := Option.isSome_iff_exists.mp (hordered.total x (by simp) y (by simp))
  rw [ascending_of_values (ne_null_of_kind hkind hx) (ne_null_of_kind hkind hy), ho]
  rfl

/-- Not being behind is transitive among nulls and values of one kind. -/
theorem ascending_isLE_trans (hkind : kind ∈ orderedKinds) (hx : Ranks kind x) (hy : Ranks kind y)
    (hz : Ranks kind z) (hxy : (ascending x y).isLE = true) (hyz : (ascending y z).isLE = true) :
    (ascending x z).isLE = true := by
  rcases hz with rfl | hz
  · by_cases hx : x = .null
    · rw [hx]
      rfl
    · rw [ascending_null_right hx]
      rfl
  have hznull := ne_null_of_kind hkind hz
  -- before a value there is no null, so neither `y` nor `x` is one
  rcases hy with rfl | hy
  · rw [ascending_null_left hznull] at hyz
    cases hyz
  have hynull := ne_null_of_kind hkind hy
  rcases hx with rfl | hx
  · rw [ascending_null_left hynull] at hxy
    cases hxy
  have hordered : Value.Ordered [x, y, z] :=
    (Value.oneKind_of_mem hkind (by simp [hx, hy, hz])).ordered
  have htrans := @Value.Ordered.trans _ hordered .gt (by decide) x (by simp) y (by simp) z (by simp)
  rw [order_of_kind hkind hx hy, order_of_kind hkind hy hz, order_of_kind hkind hx hz] at htrans
  simp only [Ne, Option.some.injEq] at htrans
  rw [Ordering.isLE_iff_ne_gt] at hxy hyz ⊢
  exact htrans hxy hyz

/-- Null on the left is ordered with no value. -/
theorem order_null_left (y : Json) : Value.order .null y = none := by
  have hdate : Value.asDate? .null = none := rfl
  unfold Value.order
  rw [hdate]
  cases y <;> rfl

/-- Null on the right is ordered with no value. -/
theorem order_null_right (x : Json) : Value.order x .null = none := by
  rw [Value.order_swap, order_null_left]
  rfl

/-- Of two values that rank, either both are values of the kind or one of them is null. -/
theorem ascending_cases (hkind : kind ∈ orderedKinds) (hx : Ranks kind x) (hy : Ranks kind y) :
    (x ≠ .null ∧ y ≠ .null ∧ Value.order x y = some (ascending x y)) ∨
      Value.order x y = none ∧
        ((x = .null ∧ y = .null ∧ ascending x y = .eq) ∨
          (x = .null ∧ y ≠ .null ∧ ascending x y = .gt) ∨
            (x ≠ .null ∧ y = .null ∧ ascending x y = .lt)) := by
  rcases hx with rfl | hx
  · refine .inr ⟨order_null_left y, ?_⟩
    by_cases hynull : y = .null
    · exact .inl ⟨rfl, hynull, by rw [hynull]; rfl⟩
    · exact .inr (.inl ⟨rfl, hynull, ascending_null_left hynull⟩)
  have hxnull := ne_null_of_kind hkind hx
  rcases hy with rfl | hy
  · exact .inr ⟨order_null_right x, .inr (.inr ⟨hxnull, rfl, ascending_null_right hxnull⟩)⟩
  · exact .inl ⟨hxnull, ne_null_of_kind hkind hy, order_of_kind hkind hx hy⟩

/-- In either direction two values come out the same exactly when they tie. -/
theorem directed_eq_eq (hkind : kind ∈ orderedKinds) (hx : Ranks kind x) (hy : Ranks kind y) :
    directed direction x y = .eq ↔ Ties x y := by
  have hasc : directed direction x y = .eq ↔ ascending x y = .eq := by
    cases direction
    · rfl
    · exact Ordering.swap_eq_eq
  rw [hasc]
  rcases ascending_cases hkind hx hy with ⟨hxnull, -, ho⟩ | ⟨ho, h⟩
  · simp [Ties, ho, hxnull]
  · rcases h with ⟨rfl, rfl, h⟩ | ⟨rfl, hynull, h⟩ | ⟨hxnull, rfl, h⟩ <;> simp_all [Ties]

/-- In either direction a value comes out first exactly when it stands before the other. -/
theorem directed_eq_lt (hkind : kind ∈ orderedKinds) (hx : Ranks kind x) (hy : Ranks kind y) :
    directed direction x y = .lt ↔ Before direction x y := by
  cases direction with
  | asc =>
    show ascending x y = .lt ↔ _
    rcases ascending_cases hkind hx hy with ⟨hxnull, hynull, ho⟩ | ⟨ho, h⟩
    · simp [Before, ho, hynull]
    · rcases h with ⟨rfl, rfl, h⟩ | ⟨rfl, hynull, h⟩ | ⟨hxnull, rfl, h⟩ <;> simp_all [Before]
  | desc =>
    show (ascending x y).swap = .lt ↔ _
    rw [Ordering.swap_eq_lt]
    rcases ascending_cases hkind hx hy with ⟨hxnull, hynull, ho⟩ | ⟨ho, h⟩
    · simp [Before, ho, hxnull]
    · rcases h with ⟨rfl, rfl, h⟩ | ⟨rfl, hynull, h⟩ | ⟨hxnull, rfl, h⟩ <;> simp_all [Before]

/-! ## Rows under one key -/

/-- A key of a sort: how its value is read off a row, and its direction. -/
structure Key where
  value : Json → Json
  direction : Direction

namespace Key

variable {key : Key} {rows : Set Json}

/-- The key that stands at a path. -/
def ofPath (path : String) (direction : Direction) : Key :=
  ⟨fun row => Value.getPath row path, direction⟩

/-- The order of two rows by the key alone. -/
def order (key : Key) (a b : Json) : Ordering := directed key.direction (key.value a) (key.value b)

/-- Nulls aside, the values of the rows under the key are of one kind that is ordered. -/
def Uniform (key : Key) (rows : Set Json) : Prop :=
  ∃ kind ∈ orderedKinds, ∀ row ∈ rows, Ranks kind (key.value row)

/-- Two rows that change places turn the order under a key around. -/
theorem order_swap (key : Key) (a b : Json) : key.order a b = (key.order b a).swap := by
  unfold order directed
  cases key.direction
  · exact ascending_swap _ _
  · exact congrArg Ordering.swap (ascending_swap _ _)

/-- A descending key orders as the ascending one does rows that change places. -/
theorem order_of_desc (hdesc : key.direction = .desc) (a b : Json) :
    key.order a b = ascending (key.value b) (key.value a) := by
  rw [order, hdesc]
  exact (ascending_swap _ _).symm

/-- Under a uniform key the rows are consistently ordered, in either direction. -/
theorem Uniform.trans (h : key.Uniform rows) : Std.TransCmp fun a b : rows => key.order a b where
  eq_swap := key.order_swap _ _
  isLE_trans {a b c} hab hbc := by
    obtain ⟨kind, hkind, hranks⟩ := h
    cases hdirection : key.direction with
    | asc =>
      simp only [order, hdirection, directed] at hab hbc ⊢
      exact ascending_isLE_trans hkind (hranks a a.2) (hranks b b.2) (hranks c c.2) hab hbc
    | desc =>
      rw [order_of_desc hdirection] at hab hbc ⊢
      exact ascending_isLE_trans hkind (hranks c c.2) (hranks b b.2) (hranks a a.2) hbc hab

end Key

/-! ## Rows under all keys -/

/-- The keys of a sort, the most significant first. -/
def keys : SortSpec → List Key
  | paths keys => keys.map fun key => .ofPath key.1 key.2
  | expressions keys => keys.map fun key => ⟨fun row => key.1.eval row, key.2⟩

/-- The order of two rows by keys in turn. -/
def inTurn : List Key → Json → Json → Ordering
  | [], _, _ => .eq
  | key :: rest, a, b => (key.order a b).then (inTurn rest a b)

/-- The values a row is sorted by are those under the keys, each with its direction. -/
theorem keyValues_eq (sort : SortSpec) (row : Json) :
    sort.keyValues row = sort.keys.map fun key => (key.value row, key.direction) := by
  cases sort <;> simp [keyValues, keys, Key.ofPath, Function.comp_def]

/-- Comparing is asking the keys in turn. -/
theorem compare_eq_inTurn (sort : SortSpec) (a b : Json) :
    sort.compare a b = inTurn sort.keys a b := by
  rw [compare, keyValues_eq, keyValues_eq]
  induction sort.keys with
  | nil => rfl
  | cons key rest ih =>
    rw [List.map_cons, List.map_cons, compareKeys, ih]
    rfl

variable {rows : Set Json} {ks : List Key} {a b : Json}

/-- By the keys: each is consistent, and the later ones decide where it does not. -/
theorem inTurn_trans (h : ∀ key ∈ ks, key.Uniform rows) :
    Std.TransCmp fun a b : rows => inTurn ks a b := by
  induction ks with
  | nil => exact { eq_swap := rfl, isLE_trans := fun _ _ => rfl }
  | cons key rest ih =>
    obtain ⟨hkey, hrest⟩ := List.forall_mem_cons.mp h
    have hfirst := hkey.trans
    have hlater := ih hrest
    exact inferInstanceAs (Std.TransCmp
      (compareLex (fun a b : rows => key.order a b) fun a b : rows => inTurn rest a b))

/-- The keys in turn come out the same exactly when each of them does. -/
theorem inTurn_eq_eq : inTurn ks a b = .eq ↔ ∀ key ∈ ks, key.order a b = .eq := by
  induction ks with
  | nil => simp [inTurn]
  | cons key rest ih => rw [inTurn, Ordering.then_eq_eq, ih, List.forall_mem_cons]

/-- The first key that does not leave two rows the same decides. -/
theorem inTurn_eq_lt : inTurn ks a b = .lt ↔ ∃ front key back, ks = front ++ key :: back ∧
    (∀ k ∈ front, k.order a b = .eq) ∧ key.order a b = .lt := by
  induction ks with
  | nil => simp [inTurn]
  | cons key rest ih =>
    rw [inTurn, Ordering.then_eq_lt, ih]
    constructor
    · rintro (h | ⟨heq, front, later, back, rfl, hfront, h⟩)
      · exact ⟨[], key, rest, rfl, List.forall_mem_nil _, h⟩
      · exact ⟨key :: front, later, back, rfl, List.forall_mem_cons.mpr ⟨heq, hfront⟩, h⟩
    · rintro ⟨_ | ⟨first, front⟩, later, back, hks, hfront, h⟩
      · cases hks
        exact .inl h
      · cases hks
        obtain ⟨hfirst, hfront⟩ := List.forall_mem_cons.mp hfront
        exact .inr ⟨hfirst, front, later, back, rfl, hfront, h⟩

/-- A comparison that rows can be sorted by. -/
structure Consistent (cmp : Json → Json → Ordering) (rows : Set Json) : Prop where
  self : ∀ a ∈ rows, cmp a a = .eq
  reversed : ∀ a ∈ rows, ∀ b ∈ rows, cmp a b = (cmp b a).swap
  lt_trans : ∀ a ∈ rows, ∀ b ∈ rows, ∀ c ∈ rows, cmp a b = .lt → cmp b c = .lt → cmp a c = .lt
  eq_trans : ∀ a ∈ rows, ∀ b ∈ rows, ∀ c ∈ rows, cmp a b = .eq → cmp b c = .eq → cmp a c = .eq

/-- A transitive comparison of the rows is one they can be sorted by. -/
theorem consistent_of_trans {cmp : Json → Json → Ordering}
    (h : Std.TransCmp fun a b : rows => cmp a b) : Consistent cmp rows where
  self a ha := @Std.ReflCmp.compare_self _ (fun a b : rows => cmp a b) _ ⟨a, ha⟩
  reversed a ha b hb := @Std.OrientedCmp.eq_swap _ (fun a b : rows => cmp a b) _ ⟨a, ha⟩ ⟨b, hb⟩
  lt_trans a ha b hb c hc :=
    @Std.TransCmp.lt_trans _ (fun a b : rows => cmp a b) h ⟨a, ha⟩ ⟨b, hb⟩ ⟨c, hc⟩
  eq_trans a ha b hb c hc :=
    @Std.TransCmp.eq_trans _ (fun a b : rows => cmp a b) h ⟨a, ha⟩ ⟨b, hb⟩ ⟨c, hc⟩

/--
On rows that have values of one kind or null under each key a sort is consistent. Two rows are the same
if no key tells them apart, and otherwise the first key that does decides: ascending, the lesser value
is first and null last; descending, null is first and then the greater value. Under a path that is
missing stands null.
-/
theorem compare_consistent (sort : SortSpec) (h : ∀ key ∈ sort.keys, key.Uniform rows) :
    Consistent sort.compare rows ∧
      (∀ a ∈ rows, ∀ b ∈ rows,
        (sort.compare a b = .eq ↔ ∀ key ∈ sort.keys, Ties (key.value a) (key.value b)) ∧
        (sort.compare a b = .lt ↔ ∃ front key back, sort.keys = front ++ key :: back ∧
          (∀ k ∈ front, Ties (k.value a) (k.value b)) ∧
          Before key.direction (key.value a) (key.value b))) ∧
      ∀ path direction row, Value.Misses row path → (Key.ofPath path direction).value row = .null := by
  have hcompare : sort.compare = inTurn sort.keys :=
    funext fun a => funext fun b => compare_eq_inTurn sort a b
  have hties : ∀ key ∈ sort.keys, ∀ a ∈ rows, ∀ b ∈ rows,
      (key.order a b = .eq ↔ Ties (key.value a) (key.value b)) := by
    intro key hkey a ha b hb
    obtain ⟨kind, hkind, hranks⟩ := h key hkey
    exact directed_eq_eq hkind (hranks a ha) (hranks b hb)
  have hbefore : ∀ key ∈ sort.keys, ∀ a ∈ rows, ∀ b ∈ rows,
      (key.order a b = .lt ↔ Before key.direction (key.value a) (key.value b)) := by
    intro key hkey a ha b hb
    obtain ⟨kind, hkind, hranks⟩ := h key hkey
    exact directed_eq_lt hkind (hranks a ha) (hranks b hb)
  rw [hcompare]
  refine ⟨consistent_of_trans (inTurn_trans h), fun a ha b hb => ⟨?_, ?_⟩,
    fun path direction row => Value.getPath_of_misses⟩
  · rw [inTurn_eq_eq]
    exact forall₂_congr fun key hkey => hties key hkey a ha b hb
  · rw [inTurn_eq_lt]
    refine exists_congr fun front => exists_congr fun key => exists_congr fun back => ?_
    refine and_congr_right fun hkeys => and_congr ?_ ?_
    · exact forall₂_congr fun k hk => hties k (by simp [hkeys, hk]) a ha b hb
    · exact hbefore key (by simp [hkeys]) a ha b hb

/-- Notes by their last change, the latest first, and then by their titles. -/
def latestFirst : SortSpec := .paths [("changed.at", .desc), ("title", .asc)]

/-- A note that was never changed. -/
def neverChanged : Json := .obj [("title", .str "a")]

/-- A note with the instant of its last change. -/
def titledNote : Json :=
  .obj [("title", .str "b"),
    ("changed", .obj [("at", .obj [("$date", .str "2024-01-01T01:00:00+01:00")])])]

/-- A note that was changed at the same instant and has no title. -/
def untitledNote : Json :=
  .obj [("title", .null), ("changed", .obj [("at", .obj [("$date", .str "2024-01-01T00:00:00Z")])])]

theorem compare_consistent_of_changedNotes :
    let notes : Set Json := {row | row ∈ [neverChanged, titledNote, untitledNote]}
    (∀ key ∈ latestFirst.keys, key.Uniform notes) ∧
      Value.getPath neverChanged "changed.at" = .null ∧
      latestFirst.compare titledNote untitledNote = .lt ∧
      latestFirst.compare neverChanged untitledNote = .lt ∧
      latestFirst.compare untitledNote neverChanged = .gt := by
  intro notes
  have hchanged : (Key.ofPath "changed.at" .desc).Uniform notes :=
    ⟨fun v => (Value.asDate? v).isSome, by simp [orderedKinds], List.forall_mem_cons.mpr
      ⟨.inl rfl, List.forall_mem_cons.mpr ⟨.inr (by decide +kernel),
        List.forall_mem_cons.mpr ⟨.inr (by decide +kernel), List.forall_mem_nil _⟩⟩⟩⟩
  have htitle : (Key.ofPath "title" .asc).Uniform notes :=
    ⟨fun v => v.asStr?.isSome, by simp [orderedKinds], List.forall_mem_cons.mpr
      ⟨.inr rfl, List.forall_mem_cons.mpr ⟨.inr rfl,
        List.forall_mem_cons.mpr ⟨.inl rfl, List.forall_mem_nil _⟩⟩⟩⟩
  have huniform : ∀ key ∈ latestFirst.keys, key.Uniform notes :=
    List.forall_mem_cons.mpr ⟨hchanged, List.forall_mem_cons.mpr ⟨htitle, List.forall_mem_nil _⟩⟩
  have hnever : neverChanged ∈ notes := List.mem_cons_self
  have htitled : titledNote ∈ notes := List.mem_cons_of_mem _ List.mem_cons_self
  have huntitled : untitledNote ∈ notes :=
    List.mem_cons_of_mem _ (List.mem_cons_of_mem _ List.mem_cons_self)
  obtain ⟨hconsistent, hcompare, hmisses⟩ := compare_consistent latestFirst huniform
  have hmissing : Value.Misses neverChanged "changed.at" :=
    ⟨[], "changed", ["at"], by decide +kernel, by simp [neverChanged, Value.Lacks]⟩
  have hinstant : Value.order (Value.getPath titledNote "changed.at")
      (Value.getPath untitledNote "changed.at") = some .eq := by decide +kernel
  have hpresent : Value.getPath titledNote "changed.at" ≠ .null := by
    intro hnull
    rw [hnull, order_null_left] at hinstant
    cases hinstant
  have htext : Value.getPath titledNote "title" ≠ .null := by
    intro hnull
    cases hnull
  have hfirst : latestFirst.compare neverChanged titledNote = .lt :=
    (hcompare _ hnever _ htitled).2.mpr ⟨[], _, _, rfl, List.forall_mem_nil _,
      .inr ⟨hmisses _ .desc _ hmissing, hpresent⟩⟩
  have hsecond : latestFirst.compare titledNote untitledNote = .lt :=
    (hcompare _ htitled _ huntitled).2.mpr ⟨[Key.ofPath "changed.at" .desc], _, [], rfl,
      List.forall_mem_singleton.mpr (.inl hinstant), .inr ⟨htext, rfl⟩⟩
  have hthird := hconsistent.lt_trans _ hnever _ htitled _ huntitled hfirst hsecond
  refine ⟨huniform, hmisses _ .desc _ hmissing, hsecond, hthird, ?_⟩
  rw [hconsistent.reversed _ huntitled _ hnever, hthird]
  rfl

end SortSpec

end ObjectQuery
