import ObjectQuery.Proofs.Expr.Simplify
import ObjectQuery.Proofs.Filter.Reading

/-!
# Simplified filters accept the same objects

Simplification keeps what a well-formed filter accepts as long as the operands of its expressions
keep their kinds. The condition is exact: an operand that does not keep its kind has another value
once it is simplified, and a comparison with a constant shows it.
-/

namespace ObjectQuery

/-! ## Lists of filters -/

namespace Filter

/-- The items are simplified one by one. -/
@[simp] theorem simplifyItems_eq_map (items : List Filter) :
    simplifyItems items = items.map simplify := by
  induction items with
  | nil => rfl
  | cons f rest ih => simp [simplifyItems, ih]

/-- The items are evaluated one by one. -/
@[simp] theorem evalItems_eq_map (items : List Filter) (object : Json) :
    evalItems items object = items.map (·.eval object) := by
  induction items with
  | nil => rfl
  | cons f rest ih => simp [evalItems, ih]

/-- A connective joins what its items say of an object. -/
@[simp] theorem eval_connective (op : Connective) (items : List Filter) (object : Json) :
    (connective op items).eval object = op.join (items.map (·.eval object)) := by
  rw [eval, evalItems_eq_map]

@[simp] theorem eval_truth (object : Json) : truth.eval object = true := by
  simp [truth, Connective.join]

/-- The truth filter is recognised, and no other one. -/
theorem isTruth_iff {f : Filter} : f.isTruth = true ↔ f = truth := by
  unfold isTruth truth
  split <;> simp_all

/-! ## Connectives -/

/-- Splicing nested items in leaves the value of the connective. -/
theorem join_splice (op : Connective) (items : List Filter) (object : Json) :
    op.join ((splice op items).map (·.eval object)) = op.join (items.map (·.eval object)) := by
  refine Connective.join_flatMap op items _ _ _ fun f _ => ?_
  cases f with
  | connective child nested =>
    by_cases h : op.absorbs child = true
    · obtain rfl := Connective.absorbs_iff.mp h
      simp [h]
    · simp [h]
  | _ => simp

/-- An item left after splicing is a filter of the list, or an item of one that was absorbed. -/
theorem mem_splice {op : Connective} {items : List Filter} {g : Filter} (h : g ∈ splice op items) :
    g ∈ items ∨ ∃ nested, .connective op.inner nested ∈ items ∧ g ∈ nested := by
  obtain ⟨f, hf, hg⟩ := List.mem_flatMap.mp h
  split at hg
  · next child nested =>
    split at hg
    · next habsorbs =>
      obtain rfl := Connective.absorbs_iff.mp habsorbs
      exact .inr ⟨nested, hf, hg⟩
    · exact .inl (List.mem_singleton.mp hg ▸ hf)
  · exact .inl (List.mem_singleton.mp hg ▸ hf)

/-- Splicing well-formed items gives well-formed items. -/
theorem splice_wellFormed {op : Connective} {items : List Filter}
    (h : ∀ f ∈ items, f.WellFormed) : ∀ f ∈ splice op items, f.WellFormed := by
  intro g hg
  rcases mem_splice hg with hmem | ⟨nested, hf, hmem⟩
  · exact h g hmem
  · exact itemsWellFormed_iff.mp (h _ hf).2 g hmem

/-- Of well-formed items at least one is left, but for empty conjunctions in a conjunction. -/
theorem splice_ne_nil {op : Connective} {items : List Filter} (h : ∀ f ∈ items, f.WellFormed)
    (hop : op ≠ .and) (hne : items ≠ []) : splice op items ≠ [] := by
  cases items with
  | nil => exact absurd rfl hne
  | cons f rest =>
    intro hnil
    have hf := (List.append_eq_nil_iff.mp hnil).1
    dsimp only at hf
    split at hf
    · next child nested =>
      split at hf
      · next habsorbs =>
        have hchild := Connective.absorbs_iff.mp habsorbs
        rcases (h _ List.mem_cons_self).1 with hand | hnested
        · rw [hand] at hchild
          cases op with
          | and => exact hop rfl
          | or | nor => cases hchild
        · exact hnested hf
      · cases hf
    · cases hf

/-- A connective over items accepts everything, is the only item, or joins the spliced items. -/
theorem connect_cases (op : Connective) (items : List Filter) :
    (connect op items = truth ∧ (op = .or ∧ truth ∈ items ∨ splice op items = [])) ∨
    (∃ f, connect op items = f ∧ splice op items = [f]) ∧ op ≠ .nor ∨
    connect op items = .connective op (splice op items) ∧ splice op items ≠ [] ∧
      (op = .nor ∨ (splice op items).length ≠ 1) ∧ (op = .or → truth ∉ items) := by
  by_cases htruth : (op == .or && items.any isTruth) = true
  · obtain ⟨rfl, f, hf, ht⟩ : op = .or ∧ ∃ f ∈ items, f.isTruth = true := by simpa using htruth
    refine .inl ⟨?_, .inl ⟨rfl, isTruth_iff.mp ht ▸ hf⟩⟩
    unfold connect
    rw [if_pos htruth]
  · have hnone : op = .or → truth ∉ items := by
      rintro rfl hmem
      exact htruth (by simpa using ⟨truth, hmem, rfl⟩)
    unfold connect
    rw [if_neg htruth]
    match hsplice : splice op items with
    | [] => exact .inl ⟨by cases op <;> rfl, .inr rfl⟩
    | [f] =>
      cases op with
      | and | or => exact .inr (.inl ⟨⟨f, rfl, rfl⟩, nofun⟩)
      | nor => exact .inr (.inr ⟨rfl, List.cons_ne_nil f [], .inl rfl, hnone⟩)
    | f :: g :: rest =>
      exact .inr (.inr ⟨by cases op <;> rfl, List.cons_ne_nil f _, .inr (by simp), hnone⟩)

/-- What is collected from the items of connectives is collected from what is left of them. -/
theorem splice_subset {α : Type} {collect : Filter → List α}
    (h : ∀ op items, collect (.connective op items) = items.flatMap collect) {op : Connective}
    {items : List Filter} : (splice op items).flatMap collect ⊆ items.flatMap collect := by
  intro a ha
  obtain ⟨f, hf, hmem⟩ := List.mem_flatMap.mp ha
  rcases mem_splice hf with hf | ⟨nested, hitem, hf⟩
  · exact List.mem_flatMap.mpr ⟨f, hf, hmem⟩
  · refine List.mem_flatMap.mpr ⟨_, hitem, ?_⟩
    rw [h]
    exact List.mem_flatMap.mpr ⟨f, hf, hmem⟩

/-- Connecting collects nothing beyond what the items do. -/
theorem connect_subset {α : Type} {collect : Filter → List α}
    (h : ∀ op items, collect (.connective op items) = items.flatMap collect) {op : Connective}
    {items : List Filter} : collect (connect op items) ⊆ items.flatMap collect := by
  have hsplice : (splice op items).flatMap collect ⊆ items.flatMap collect := splice_subset h
  rcases connect_cases op items with ⟨hc, -⟩ | ⟨⟨f, hc, hone⟩, -⟩ | ⟨hc, -⟩
  · rw [hc, truth, h]
    exact List.nil_subset _
  · rw [hone, List.flatMap_singleton] at hsplice
    rw [hc]
    exact hsplice
  · rw [hc, h]
    exact hsplice

/-- Connecting gives the value of the connective, where `or` and `nor` have an item. -/
theorem eval_connect {op : Connective} {items : List Filter} (h : ∀ f ∈ items, f.WellFormed)
    (hop : op = .and ∨ items ≠ []) (object : Json) :
    (connect op items).eval object = op.join (items.map (·.eval object)) := by
  rw [← join_splice]
  rcases connect_cases op items with
    ⟨hc, ⟨rfl, hmem⟩ | hnil⟩ | ⟨⟨f, hc, hone⟩, hop⟩ | ⟨hc, -, -, -⟩
  · have haccepts : Connective.or.join (items.map (·.eval object)) = true := by
      simp only [Connective.join, List.any_map, List.any_eq_true]
      exact ⟨truth, hmem, by simp⟩
    rw [hc, eval_truth, join_splice, haccepts]
  · have hnone : op ≠ .or := by
      rintro rfl
      exact splice_ne_nil h (by decide) (hop.resolve_left (by decide)) hnil
    rw [hc, hnil, eval_truth]
    cases op <;> simp_all [Connective.join]
  · rw [hc, hone]
    cases op <;> simp_all [Connective.join]
  · rw [hc, eval_connective]

/-- Connecting well-formed items gives a well-formed filter. -/
theorem connect_wellFormed {op : Connective} {items : List Filter} (h : ∀ f ∈ items, f.WellFormed) :
    (connect op items).WellFormed := by
  have hsplice : ∀ f ∈ splice op items, f.WellFormed := splice_wellFormed h
  rcases connect_cases op items with ⟨hc, -⟩ | ⟨⟨f, hc, hone⟩, -⟩ | ⟨hc, hne, -, -⟩
  · rw [hc]
    exact ⟨.inl rfl, trivial⟩
  · rw [hc]
    exact hsplice f (hone ▸ List.mem_cons_self)
  · rw [hc]
    exact ⟨.inr hne, itemsWellFormed_iff.mpr hsplice⟩

end Filter

/-! ## Operands -/

mutual

/-- The expressions of a filter, those inside filters for elements included. -/
def Filter.exprs : Filter → List Expr
  | .connective _ items => Filter.itemExprs items
  | .field _ test => test.exprs
  | .expr e => [e]

def Filter.itemExprs : List Filter → List Expr
  | [] => []
  | f :: fs => f.exprs ++ Filter.itemExprs fs

def FieldTest.exprs : FieldTest → List Expr
  | .every f | .any f => f.exprs
  | .not t => t.exprs
  | _ => []

end

namespace Filter

/-- The expressions that a filter reads for their values. -/
def operands (f : Filter) : List Expr := f.exprs.flatMap Expr.operands

/-- Every operand that yields a truth value still does once it is simplified. -/
def KeepsKinds (f : Filter) : Prop := ∀ x ∈ f.operands, x.KeepsKind

instance (f : Filter) : Decidable f.KeepsKinds := inferInstanceAs (Decidable (∀ x ∈ _, _))

end Filter

/-! ## Simplification -/

/-- A negated test says the opposite. -/
@[simp] theorem FieldTest.eval_negate (t : FieldTest) (v : Json) :
    t.negate.eval v = !t.eval v := by
  cases t <;> simp [FieldTest.negate, FieldTest.eval]

mutual

/-- What `simplify` returns of a filter is well formed, even where the filter is not. -/
theorem Filter.simplify_wellFormed : (f : Filter) → f.simplify.WellFormed
  | .connective op items => by
    rw [Filter.simplify]
    exact Filter.connect_wellFormed (Filter.simplifyItems_wellFormed items)
  | .field _ test => FieldTest.simplify_wellFormed test
  | .expr _ => trivial
termination_by structural f => f

/-- Each of the simplified items is well formed. -/
theorem Filter.simplifyItems_wellFormed :
    (items : List Filter) → ∀ f ∈ Filter.simplifyItems items, f.WellFormed
  | [] => fun _ hf => absurd hf List.not_mem_nil
  | f :: fs =>
    List.forall_mem_cons.mpr ⟨Filter.simplify_wellFormed f, Filter.simplifyItems_wellFormed fs⟩
termination_by structural items => items

/-- What `simplify` returns of a test is well formed. -/
theorem FieldTest.simplify_wellFormed : (t : FieldTest) → t.simplify.WellFormed
  | .not t => by
    have ht := FieldTest.simplify_wellFormed t
    rw [FieldTest.simplify]
    cases h : t.simplify <;> simp_all [FieldTest.negate, FieldTest.WellFormed]
  | .every f => Filter.simplify_wellFormed f
  | .any f => Filter.simplify_wellFormed f
  | .compare .. | .oneOf _ | .noneOf _ | .subset _ | .superset _ | .intersect _ | .pattern ..
  | .startsWith _ | .endsWith _ | .size _ | .empty _ => trivial
termination_by structural t => t

end

/-! ## Meaning -/

/-- Only a truth value equals a truth value. -/
theorem Value.equals_bool {v : Json} {b : Bool} :
    Value.equals v (.bool b) = true ↔ v = .bool b := by
  cases v <;>
    simp [Value.equals, Value.equalByKind?, Value.asDate?, Value.envelope?, Value.isNumeric]

/-- What a list of filters needs for all of them to keep their meaning. -/
private theorem keepsKinds_items {items : List Filter}
    (h : ∀ x ∈ (Filter.itemExprs items).flatMap Expr.operands, x.KeepsKind) :
    ∀ f ∈ items, f.KeepsKinds := by
  induction items with
  | nil => simp
  | cons f rest ih =>
    simp only [Filter.itemExprs, List.flatMap_append, List.mem_append] at h
    exact List.forall_mem_cons.mpr ⟨fun x hx => h x (.inl hx), ih fun x hx => h x (.inr hx)⟩

mutual

/-- A well-formed filter whose operands keep their kinds accepts the same once it is simplified. -/
theorem Filter.eval_simplify : (f : Filter) → f.WellFormed → f.KeepsKinds →
    ∀ object, f.simplify.eval object = f.eval object
  | .connective op items, hwf, hk, object => by
    have hop : op = .and ∨ Filter.simplifyItems items ≠ [] := by
      rw [Filter.simplifyItems_eq_map]
      exact hwf.1.imp_right fun hne hnil => hne (List.map_eq_nil_iff.mp hnil)
    have hitems := Filter.evalItems_simplify items (Filter.itemsWellFormed_iff.mp hwf.2)
      (keepsKinds_items hk) object
    rw [Filter.simplify, Filter.eval_connect (Filter.simplifyItems_wellFormed items) hop,
      Filter.eval, ← Filter.evalItems_eq_map, hitems]
  | .field path test, hwf, hk, object => by
    simp only [Filter.simplify, Filter.eval, FieldTest.eval_simplify test hwf hk]
  | .expr e, _, hk, object =>
    (Expr.simplify_sound e (by simpa [Filter.KeepsKinds, Filter.operands, Filter.exprs] using hk)
      object).1
termination_by structural f => f

/-- The simplified items say what the items say, one by one. -/
theorem Filter.evalItems_simplify : (items : List Filter) → (∀ f ∈ items, f.WellFormed) →
    (∀ f ∈ items, f.KeepsKinds) →
    ∀ object, Filter.evalItems (Filter.simplifyItems items) object = Filter.evalItems items object
  | [], _, _, _ => rfl
  | f :: fs, hwf, hk, object => by
    obtain ⟨hf, hfs⟩ := List.forall_mem_cons.mp hwf
    obtain ⟨kf, kfs⟩ := List.forall_mem_cons.mp hk
    simp only [Filter.simplifyItems, Filter.evalItems, Filter.eval_simplify f hf kf,
      Filter.evalItems_simplify fs hfs kfs]
termination_by structural items => items

/-- A simplified test says what the test says. -/
theorem FieldTest.eval_simplify : (t : FieldTest) → t.WellFormed →
    (∀ x ∈ t.exprs.flatMap Expr.operands, x.KeepsKind) → ∀ v, t.simplify.eval v = t.eval v
  | .not t, hwf, hk, v => by
    rw [FieldTest.simplify, FieldTest.eval_negate, FieldTest.eval_simplify t hwf hk, FieldTest.eval]
  | .every f, hwf, hk, v => by
    simp only [FieldTest.simplify, FieldTest.eval, Filter.eval_simplify f hwf hk]
  | .any f, hwf, hk, v => by
    simp only [FieldTest.simplify, FieldTest.eval, Filter.eval_simplify f hwf hk]
  | .compare .., _, _, _ | .oneOf _, _, _, _ | .noneOf _, _, _, _ | .subset _, _, _, _
  | .superset _, _, _, _ | .intersect _, _, _, _ | .pattern .., _, _, _ | .startsWith _, _, _, _
  | .endsWith _, _, _, _ | .size _, _, _, _ | .empty _, _, _, _ => rfl
termination_by structural t => t

end

namespace Filter

/-- The comparison of an expression with a constant, as a filter. -/
def compared (op : Comparison) (x : Expr) (v : Json) : Filter :=
  .expr (.comparison op x (.value v))

/-- The value of an operand is kept if all operands keep their kinds. -/
theorem eval_simplify_operand {f : Filter} (h : f.KeepsKinds) {x : Expr} (hx : x ∈ f.operands)
    (object : Json) : x.simplify.eval object = x.eval object := by
  obtain ⟨e, he, hxe⟩ := List.mem_flatMap.mp hx
  refine (x.simplify_sound (fun y hy => h y ?_) object).2 (h x hx)
  exact List.mem_flatMap.mpr ⟨e, he, e.operands_trans x hxe y hy⟩

/--
A filter that was read accepts the same objects once it is simplified, if its operands keep their
kinds; and they do exactly if no comparison tells one of them from its simplified form.
-/
theorem eval_simplify_of_decode {allowSelf : Bool} {raw : Json} {f : Filter}
    (h : Filter.decode allowSelf raw = .ok f) :
    (f.KeepsKinds → ∀ object, f.simplify.eval object = f.eval object) ∧
      (f.KeepsKinds ↔ ∀ x ∈ f.operands, ∀ op v object,
        (compared op x v).simplify.eval object = (compared op x v).eval object) := by
  refine ⟨f.eval_simplify (wellFormed_of_decode h), fun hk x hx op v object => ?_,
    fun hc x hx => ?_⟩
  · have hvalue := eval_simplify_operand hk hx object
    simp only [compared, simplify, eval, Expr.simplify, Expr.eval, hvalue]
  · intro hb
    -- On the empty object the operand has a truth value, which a key there has not.
    have hvalue := Expr.eval_of_isBoolean hb (.obj [])
    have hsame := hc x hx .eq (x.eval (.obj [])) (.obj [])
    simp only [compared, simplify, eval, Expr.simplify, Expr.eval, Value.compares, Value.truthy,
      hvalue, Value.equals_bool.mpr rfl] at hsame
    exact Expr.isBoolean_of_eval (Value.equals_bool.mp hsame)

/-- A double negation that is read for its truth may be cancelled. -/
theorem eval_simplify_of_double_negation :
    let request : Json :=
      .obj [("$expr", .obj [("$not", .obj [("$not", .obj [("$key", .str "a")])])])]
    let filter : Filter := .expr (.not (.not (.key "a")))
    Filter.decode false request = .ok filter ∧ filter.KeepsKinds ∧
      ∀ object, filter.simplify.eval object = filter.eval object :=
  have hread : Filter.decode false _ = .ok (.expr (.not (.not (.key "a")))) := rfl
  have hkeeps : (Filter.expr (.not (.not (.key "a")))).KeepsKinds := by decide
  ⟨hread, hkeeps, (eval_simplify_of_decode hread).1 hkeeps⟩

/-- Compared with `true` a double negation of five is accepted, but no more once simplified. -/
theorem double_negation_changes_comparison :
    ∃ raw f object, Filter.decode false raw = .ok f ∧ f.eval object = true ∧
      f.simplify.eval object = false :=
  ⟨.obj [("$expr", .obj [("$eq", .arr [
      .obj [("$not", .obj [("$not", .obj [("$key", .str "a")])])],
      .obj [("$value", .bool true)]])])],
    .expr (.comparison .eq (.not (.not (.key "a"))) (.value (.bool true))),
    .obj [("a", .num (.int 5))], rfl, rfl, rfl⟩

end Filter

end ObjectQuery
