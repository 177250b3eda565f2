import ObjectQuery.Proofs.Accumulator.Groups
import ObjectQuery.Proofs.Value.Order

/-!
# The greatest, the least and the most frequent value

Each of the three is the value that is left of a contest: values come one by one, and one that beats the
best so far takes its place. Where losing passes on in a row, the value that is left is beaten by none,
whatever the order they come in. Values of one kind are compared in such a way, and so are their counts,
which are the parts of the values by equality: by frequency first, then the lesser value before the
greater. What is left is determined up to equality, so the order of the rows does not matter.
-/

namespace ObjectQuery.Accumulator

open Value (equals order order_swap compares Ordered OneKind)

/-! ## Contests -/

section

variable {α : Type} {beats : α → α → Bool} {x : α} {xs : List α}

/-- No two of the contestants beat each other, and to lose passes on in a row. -/
structure Contest (beats : α → α → Bool) (xs : List α) : Prop where
  asymm : ∀ x ∈ xs, ∀ y ∈ xs, beats x y = true → beats y x = false
  trans : ∀ x ∈ xs, ∀ y ∈ xs, ∀ z ∈ xs, beats x y = false → beats y z = false → beats x z = false

/-- Fewer contestants are still a contest. -/
theorem Contest.mono {ys : List α} (h : Contest beats xs) (hsub : ys ⊆ xs) : Contest beats ys where
  asymm x hx y hy := h.asymm x (hsub hx) y (hsub hy)
  trans x hx y hy z hz := h.trans x (hsub hx) y (hsub hy) z (hsub hz)

/-- Nobody beats themselves. -/
theorem Contest.irrefl (h : Contest beats xs) (hx : x ∈ xs) : beats x x = false := by
  cases hbeats : beats x x with
  | false => rfl
  | true => exact hbeats.symm.trans (h.asymm x hx x hx hbeats)

/-- Whoever is left when all have come is one of them, and beaten by none. -/
theorem Contest.foldl_unbeaten (h : Contest beats (x :: xs)) :
    let best := xs.foldl (fun best y => if beats y best then y else best) x
    best ∈ x :: xs ∧ ∀ y ∈ x :: xs, beats y best = false := by
  induction xs generalizing x with
  | nil =>
    refine ⟨List.mem_singleton_self x, List.forall_mem_singleton.mpr ?_⟩
    exact h.irrefl (List.mem_singleton_self x)
  | cons y rest ih =>
    have hx : x ∈ x :: y :: rest := List.mem_cons_self
    have hy : y ∈ x :: y :: rest := List.mem_cons_of_mem _ List.mem_cons_self
    dsimp only
    rw [List.foldl_cons]
    split
    next hbeats =>
      obtain ⟨hmem, hunbeaten⟩ := ih (h.mono (List.subset_cons_self _ _))
      have hbest := List.mem_cons_of_mem x hmem
      refine ⟨hbest, List.forall_mem_cons.mpr ⟨?_, hunbeaten⟩⟩
      exact h.trans x hx y hy _ hbest (h.asymm y hy x hx hbeats) (hunbeaten y List.mem_cons_self)
    next hbeats =>
      rw [Bool.not_eq_true] at hbeats
      have hsub : x :: rest ⊆ x :: y :: rest := List.cons_subset_cons x (List.subset_cons_self _ _)
      obtain ⟨hmem, hunbeaten⟩ := ih (h.mono hsub)
      have hbest := hsub hmem
      rw [List.forall_mem_cons] at hunbeaten
      refine ⟨hbest, List.forall_mem_cons.mpr ⟨hunbeaten.1, List.forall_mem_cons.mpr ⟨?_, hunbeaten.2⟩⟩⟩
      exact h.trans y hy x hx _ hbest hbeats hunbeaten.1

end

variable {values : List Json} {v w : Json}

/-! ## The greatest and the least value -/

/-- To be ordered on one side of another is a contest among ordered values. -/
theorem contest_order {side : Ordering} (h : Ordered values) (hside : side ≠ .eq) :
    Contest (fun v w => order v w == some side) values where
  asymm v _ w _ hvw := by
    rw [beq_iff_eq] at hvw
    rw [order_swap w v, hvw, Option.map_some, beq_eq_false_iff_ne, Ne, Option.some.injEq]
    cases side <;> first | exact absurd rfl hside | decide
  trans u hu v hv w hw huv hvw := by
    rw [beq_eq_false_iff_ne] at *
    exact h.trans hside u hu v hv w hw huv hvw

/-- The extreme of some values is one of them, and none is further out. -/
theorem extreme_unbeaten {side : Ordering} (h : Ordered values) (hside : side ≠ .eq)
    (hne : values ≠ []) :
    extreme side values ∈ values ∧ ∀ w ∈ values, order w (extreme side values) ≠ some side := by
  cases values with
  | nil => exact absurd rfl hne
  | cons v rest =>
    obtain ⟨hmem, hunbeaten⟩ := (contest_order h hside).foldl_unbeaten
    exact ⟨hmem, fun w hw => beq_eq_false_iff_ne.mp (hunbeaten w hw)⟩

/-! ## Counts -/

/-- How many of the values a value is equal to. -/
def occurrences (values : List Json) (v : Json) : Nat := values.countP (equals v)

/-- The count that a part makes: its first value, and how many values it has. -/
def countOf (p : Json × List Json) : Json × Nat := (p.1, (p.1 :: p.2).length)

/-- Counting a value in is placing it among the parts of the values so far. -/
theorem tally_countOf (v : Json) (acc : List (Json × List Json)) :
    tally v (acc.map countOf) = (place id v acc).map countOf := by
  induction acc with
  | nil => rfl
  | cons p rest ih =>
    simp only [List.map_cons, countOf, tally, place, id]
    split
    · simp only [List.map_cons, countOf, List.length_cons, List.length_append, List.length_nil]
    · simp only [List.map_cons, countOf, ih]

/-- The counts of all values are those of the parts they fall into. -/
theorem foldl_tally (values : List Json) :
    values.foldl (fun counts v => tally v counts) [] = (partsOf id values).map countOf :=
  @List.foldl_hom _ _ _ (List.map countOf) _ _ values [] fun acc v => tally_countOf v acc

section

variable {parts : List (Json × List Json)} {p : Json × List Json}

/-- The values are those of the parts. -/
theorem Partition.mem_iff (hparts : Partition id values parts) :
    v ∈ values ↔ ∃ p ∈ parts, v ∈ p.1 :: p.2 := by
  rw [← hparts.perm.mem_iff, List.mem_flatMap]

/-- Every value of a part equals the first one. -/
theorem Partition.equals_first (h : Ordered values) (hparts : Partition id values parts)
    (hp : p ∈ parts) (hv : v ∈ p.1 :: p.2) : equals p.1 v = true := by
  rcases List.mem_cons.mp hv with rfl | hv
  · exact h.equals_self (hparts.mem_iff.mpr ⟨p, hp, List.mem_cons_self⟩)
  · exact hparts.together p hp v hv

/-- The values that the first of a part is equal to are those of the part. -/
theorem Partition.length_part (h : Ordered values) (hparts : Partition id values parts)
    (hp : p ∈ parts) : (p.1 :: p.2).length = occurrences values p.1 := by
  have hmem : ∀ q ∈ parts, ∀ v ∈ q.1 :: q.2, v ∈ values := fun q hq v hv =>
    hparts.mem_iff.mpr ⟨q, hq, hv⟩
  have hfirst : ∀ q ∈ parts, q.1 ∈ values := fun q hq => hmem q hq _ List.mem_cons_self
  obtain ⟨before, after, rfl⟩ := List.append_of_mem hp
  have hapart := hparts.apart
  rw [List.pairwise_append, List.pairwise_cons] at hapart
  obtain ⟨-, ⟨hbehind, -⟩, hacross⟩ := hapart
  have hown : (p.1 :: p.2).countP (equals p.1) = (p.1 :: p.2).length :=
    List.countP_eq_length.mpr fun v hv => hparts.equals_first h hp hv
  have hafter : (after.flatMap fun q => q.1 :: q.2).countP (equals p.1) = 0 := by
    rw [List.countP_eq_zero]
    intro v hv
    obtain ⟨q, hq, hv⟩ := List.mem_flatMap.mp hv
    exact Bool.eq_false_iff.mp (hbehind q hq v hv)
  have hbefore : (before.flatMap fun q => q.1 :: q.2).countP (equals p.1) = 0 := by
    rw [List.countP_eq_zero]
    intro v hv hequal
    obtain ⟨q, hq, hv⟩ := List.mem_flatMap.mp hv
    have hq' : q ∈ before ++ p :: after := List.mem_append_left _ hq
    have hapart : equals q.1 p.1 = false := hacross q hq p List.mem_cons_self p.1 List.mem_cons_self
    have hback := h.equals_symm (hfirst p hp) (hmem q hq' v hv) hequal
    rw [h.equals_trans (hfirst q hq') (hmem q hq' v hv) (hfirst p hp)
      (hparts.equals_first h hq' hv) hback] at hapart
    cases hapart
  rw [occurrences, ← hparts.perm.countP_eq, List.flatMap_append, List.flatMap_cons,
    List.countP_append, List.countP_append, hbefore, hown, hafter, Nat.zero_add, Nat.add_zero]

end

/-- Equal values occur equally often. -/
theorem occurrences_congr (h : Ordered values) (hv : v ∈ values) (hw : w ∈ values)
    (hvw : equals v w = true) : occurrences values v = occurrences values w := by
  refine List.countP_congr fun x hx => ⟨fun hvx => ?_, fun hwx => ?_⟩
  · exact h.equals_trans hw hv hx (h.equals_symm hv hw hvw) hvx
  · exact h.equals_trans hv hw hx hvw hwx

/-! ## The most frequent value -/

/-- A count beats fewer of another value, and as many of one that is greater. -/
def outnumbers (cur best : Json × Nat) : Bool :=
  best.2 < cur.2 || (cur.2 == best.2 && order cur.1 best.1 == some .lt)

/-- An entry is not outnumbered by one that counts less, or as much and is not the lesser. -/
theorem outnumbers_eq_false {e f : Json × Nat} :
    outnumbers e f = false ↔ e.2 ≤ f.2 ∧ (e.2 = f.2 → order e.1 f.1 ≠ some .lt) := by
  simp [outnumbers]

/-- To outnumber is a contest among counted values that are ordered. -/
theorem contest_outnumbers (h : Ordered values) {counts : List (Json × Nat)}
    (hcounts : ∀ e ∈ counts, e.1 ∈ values) : Contest outnumbers counts where
  asymm e he f hf hef := by
    have hasymm := (contest_order h (show Ordering.lt ≠ .eq by decide)).asymm _ (hcounts e he) _
      (hcounts f hf)
    simp only [outnumbers, Bool.or_eq_true, Bool.and_eq_true, decide_eq_true_eq, beq_iff_eq] at hef
    rw [outnumbers_eq_false]
    rcases hef with hlt | ⟨heq, horder⟩
    · omega
    · exact ⟨Nat.le_of_eq heq.symm, fun _ => beq_eq_false_iff_ne.mp (hasymm (beq_iff_eq.mpr horder))⟩
  trans e he f hf g hg hef hfg := by
    rw [outnumbers_eq_false] at *
    refine ⟨Nat.le_trans hef.1 hfg.1, fun heq => ?_⟩
    exact h.trans (by decide) _ (hcounts e he) _ (hcounts f hf) _ (hcounts g hg)
      (hef.2 (by omega)) (hfg.2 (by omega))

/-- The most frequent value is the first of a part that no part outnumbers. -/
theorem mostFrequent_unbeaten (h : Ordered values) (hne : values ≠ []) :
    ∃ p ∈ partsOf id values, mostFrequent values = p.1 ∧
      ∀ q ∈ partsOf id values, outnumbers (countOf q) (countOf p) = false := by
  have hparts := partsOf_partition id values
  have hcontest : Contest outnumbers ((partsOf id values).map countOf) := by
    refine contest_outnumbers h (List.forall_mem_map.mpr fun p hp => ?_)
    exact hparts.mem_iff.mpr ⟨p, hp, List.mem_cons_self⟩
  unfold mostFrequent
  rw [foldl_tally]
  cases hcounts : partsOf id values with
  | nil =>
    rw [hcounts] at hparts
    exact absurd (List.nil_perm.mp hparts.perm) hne
  | cons first rest =>
    rw [hcounts, List.map_cons] at hcontest
    obtain ⟨hmem, hunbeaten⟩ := hcontest.foldl_unbeaten
    rw [← List.map_cons] at hmem hunbeaten
    obtain ⟨p, hp, hbest⟩ := List.mem_map.mp hmem
    refine ⟨p, hp, congrArg Prod.fst hbest.symm, fun q hq => ?_⟩
    rw [hbest]
    exact hunbeaten _ (List.mem_map_of_mem hq)

/-! ## What is picked -/

/--
Among values, an aggregate may take the first of two rather than the second: the greater, the lesser, or
the more frequent and of those as frequent the lesser.
-/
def Prefers (op : Aggregate) (values : List Json) (v w : Json) : Prop :=
  match op with
  | .max => compares .lte w v = true
  | .min => compares .gte w v = true
  | .most => occurrences values w ≤ occurrences values v ∧
      (occurrences values w = occurrences values v → compares .gte w v = true)
  | _ => False

/-- One of the values, which may be taken rather than any of them. -/
structure Picks (op : Aggregate) (values : List Json) (v : Json) : Prop where
  mem : v ∈ values
  prefers : ∀ w ∈ values, Prefers op values v w

/-- The greatest and the least value are picked by the rules of `max` and `min`. -/
theorem picks_extreme (h : Ordered values) (hne : values ≠ []) :
    Picks .max values (extreme .gt values) ∧ Picks .min values (extreme .lt values) := by
  obtain ⟨hmax, hgreatest⟩ := extreme_unbeaten h (show Ordering.gt ≠ .eq by decide) hne
  obtain ⟨hmin, hleast⟩ := extreme_unbeaten h (show Ordering.lt ≠ .eq by decide) hne
  exact ⟨⟨hmax, fun w hw => (h.compares_lte hw hmax).mpr (hgreatest w hw)⟩,
    ⟨hmin, fun w hw => (h.compares_gte hw hmin).mpr (hleast w hw)⟩⟩

/-- The most frequent value is picked by the rule of `most`. -/
theorem picks_mostFrequent (h : Ordered values) (hne : values ≠ []) :
    Picks .most values (mostFrequent values) := by
  obtain ⟨p, hp, hmost, hunbeaten⟩ := mostFrequent_unbeaten h hne
  have hparts := partsOf_partition id values
  have hfirst : ∀ q ∈ partsOf id values, q.1 ∈ values := fun q hq =>
    hparts.mem_iff.mpr ⟨q, hq, List.mem_cons_self⟩
  rw [hmost]
  refine ⟨hfirst p hp, fun w hw => ?_⟩
  obtain ⟨q, hq, hwq⟩ := hparts.mem_iff.mp hw
  have hequal := h.equals_symm (hfirst q hq) hw (hparts.equals_first h hq hwq)
  obtain ⟨hcount, htie⟩ := outnumbers_eq_false.mp (hunbeaten q hq)
  simp only [countOf, hparts.length_part h hq, hparts.length_part h hp] at hcount htie
  unfold Prefers
  dsimp only
  rw [occurrences_congr h hw (hfirst q hq) hequal, h.compares_gte hw (hfirst p hp)]
  refine ⟨hcount, fun heq => ?_⟩
  exact h.trans (by decide) w hw _ (hfirst q hq) _ (hfirst p hp)
    (h.ne_of_equals (by decide) hw (hfirst q hq) hequal) (htie heq)

/-- An aggregate that is not of numbers only picks by its rule. -/
theorem picks_aggregate {op : Aggregate} (hop : op.isNumeric = false) (h : Ordered values)
    (hne : values ≠ []) : Picks op values (aggregate op values) := by
  cases op with
  | max => exact (picks_extreme h hne).1
  | min => exact (picks_extreme h hne).2
  | most => exact picks_mostFrequent h hne
  | _ => cases hop

/-- Values that may both be picked are equal. -/
theorem Picks.equals {op : Aggregate} (h : Ordered values) (hv : Picks op values v)
    (hw : Picks op values w) : equals v w = true := by
  have hvw := hv.prefers w hw.mem
  have hwv := hw.prefers v hv.mem
  cases op with
  | max =>
    exact h.equals_of_ne (by decide) hv.mem hw.mem ((h.compares_lte hv.mem hw.mem).mp hwv)
      ((h.compares_lte hw.mem hv.mem).mp hvw)
  | min =>
    exact h.equals_of_ne (by decide) hv.mem hw.mem ((h.compares_gte hv.mem hw.mem).mp hwv)
      ((h.compares_gte hw.mem hv.mem).mp hvw)
  | most =>
    have heq := Nat.le_antisymm hwv.1 hvw.1
    exact h.equals_of_ne (by decide) hv.mem hw.mem
      ((h.compares_gte hv.mem hw.mem).mp (hwv.2 heq))
      ((h.compares_gte hw.mem hv.mem).mp (hvw.2 heq.symm))
  | _ => exact hvw.elim

/-- What may be picked does not depend on the order of the values. -/
theorem Picks.perm {op : Aggregate} {others : List Json} (hperm : values.Perm others)
    (hv : Picks op values v) : Picks op others v := by
  have hcount : ∀ w, occurrences others w = occurrences values w := fun w =>
    (hperm.countP_eq _).symm
  refine ⟨hperm.mem_iff.mp hv.mem, fun w hw => ?_⟩
  have hprefers := hv.prefers w (hperm.mem_iff.mpr hw)
  unfold Prefers at *
  simpa only [hcount] using hprefers

/-! ## Rows -/

/-- What rows put in that is not null. -/
def inputs (input : Expr) (rows : List Json) : List Json :=
  (rows.map fun row => input.eval row).filter fun v => !v.isNull

/-- The inputs of rows in another order are the inputs in that order. -/
theorem inputs_perm {input : Expr} {rows others : List Json} (h : rows.Perm others) :
    (inputs input rows).Perm (inputs input others) := (h.map _).filter _

/-- No input is null. -/
theorem not_null_of_mem_inputs {input : Expr} {rows : List Json} (h : v ∈ inputs input rows) :
    v ≠ .null := by
  rintro rfl
  cases (List.mem_filter.mp h).2

/-- The aggregate of nothing is null. -/
theorem aggregate_nil {op : Aggregate} (hop : op.isNumeric = false) : aggregate op [] = .null := by
  cases op with
  | max | min | most => rfl
  | _ => cases hop

/--
On rows that put in values of one kind the greatest, the least and the most frequent value is null only
if nothing is put in, and else one that may be picked. With the rows in another order it is equal.
-/
theorem eval_picks {op : Aggregate} (hop : op.isNumeric = false) {input : Expr} {rows : List Json}
    (h : OneKind (inputs input rows)) :
    (eval rows (unary op input) = .null ↔ inputs input rows = []) ∧
      (inputs input rows ≠ [] → Picks op (inputs input rows) (eval rows (unary op input))) ∧
      ∀ others, rows.Perm others →
        equals (eval rows (unary op input)) (eval others (unary op input)) = true := by
  have hordered := h.ordered
  have heval : ∀ rows, eval rows (unary op input) = aggregate op (inputs input rows) := fun rows => by
    rw [eval, inputs]
  have hpicks : inputs input rows ≠ [] →
      Picks op (inputs input rows) (eval rows (unary op input)) := fun hne => by
    rw [heval]
    exact picks_aggregate hop hordered hne
  refine ⟨⟨fun hnull => ?_, fun hnil => by rw [heval, hnil, aggregate_nil hop]⟩, hpicks,
    fun others hperm => ?_⟩
  · by_contra hne
    exact not_null_of_mem_inputs (hpicks hne).mem hnull
  · have hinputs : (inputs input rows).Perm (inputs input others) := inputs_perm hperm
    by_cases hne : inputs input rows = []
    · have hother : inputs input others = [] := (hne ▸ hinputs).nil_eq.symm
      rw [heval, heval, hne, hother, aggregate_nil hop]
      rfl
    · have hother : inputs input others ≠ [] := fun hnil => hne (hnil ▸ hinputs).eq_nil
      have hpicked := picks_aggregate hop (hordered.mono hinputs.symm.subset) hother
      rw [heval others]
      exact (hpicks hne).equals hordered (hpicked.perm hinputs.symm)

/-- Three rows with an instant, two of them with the same in different zones, and one without. -/
def datedRows : List Json := [
  .obj [("at", .obj [("$date", .str "2024-01-01T01:00:00+01:00")])],
  .obj [("at", .obj [("$date", .str "2023-12-31T23:00:00Z")])],
  .obj [],
  .obj [("at", .obj [("$date", .str "2024-01-01T00:00:00Z")])]]

theorem eval_picks_of_datedRows :
    OneKind (inputs (.key "at") datedRows) ∧ inputs (.key "at") datedRows ≠ [] ∧
      Picks .most (inputs (.key "at") datedRows) (eval datedRows (unary .most (.key "at"))) ∧
      equals (eval datedRows (unary .most (.key "at")))
        (eval datedRows.reverse (unary .most (.key "at"))) = true := by
  have hkind : OneKind (inputs (.key "at") datedRows) := .inr (.inr (.inl (by decide +kernel)))
  have hne : inputs (.key "at") datedRows ≠ [] := by decide +kernel
  obtain ⟨-, hpicks, hperm⟩ := @eval_picks .most rfl _ _ hkind
  exact ⟨hkind, hne, hpicks hne, hperm _ (List.reverse_perm _).symm⟩

end ObjectQuery.Accumulator
