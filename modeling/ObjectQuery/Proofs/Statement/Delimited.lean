import ObjectQuery.Proofs.Statement.Brackets
import ObjectQuery.Proofs.Statement.Depth
import ObjectQuery.Proofs.Statement.Reached

/-!
# Operands stand beside operators as one piece

Expressions are compiled to pieces, but for those that are exposed, and conditions close their brackets at
every depth of the filters for elements; so do the guards of joined classes. Where two operands are
compared, or one with a constant, each side is then one piece, and the operator between them is the only
one outside of brackets. An open operand is none: its own operator is outside of brackets as well, and
takes what stands beside it for its own.
-/

namespace ObjectQuery

open Sql InScope

namespace Context

variable {ctx : Context} {frame : Frame}

/-! ## Expressions -/

mutual

/-- An expression is compiled to one piece, unless it is exposed. -/
theorem adds_term (hguard : ctx.GuardsBalanced) (hframe : frame.Primary) :
    ∀ e : Expr, Adds (ctx.term frame e) (Term.Delimited e)
  | .key path => by
    unfold term
    exact .bind (adds_operand hguard hframe) fun o ho => .pure (.inl ho)
  | .value v => by
    unfold term
    exact .pure (Expr.constant?.eq_1 v)
  | .array items => by
    unfold term
    exact .bind (adds_terms hguard hframe items) fun ts hts => .pure (Term.delimited_array hts)
  | .not e => by
    unfold term
    exact .bind (adds_term hguard hframe e) fun t ht => .pure (Term.delimited_not ht.balanced)
  | .connective op items => by
    unfold term
    exact .bind (adds_terms hguard hframe items) fun ts hts => .pure (Term.delimited_connective hts)
  | .comparison op l r => by
    unfold term
    refine .bind (adds_term hguard hframe l) fun left hl => ?_
    exact .bind (adds_term hguard hframe r) fun right hr => .pure (Term.delimited_comparison hl hr)
  | .measure m l r => by
    unfold term
    refine .bind (adds_vector hguard hframe l) fun left hl => ?_
    exact .bind (adds_vector hguard hframe r) fun right hr => .pure (.inl (Measure.primary_sql hl hr))

theorem adds_terms (hguard : ctx.GuardsBalanced) (hframe : frame.Primary) :
    ∀ es : List Expr, Adds (ctx.terms frame es) (List.Forall₂ Term.Delimited es)
  | [] => by
    unfold terms
    exact .pure .nil
  | e :: es => by
    unfold terms
    refine .bind (adds_term hguard hframe e) fun t ht => ?_
    exact .bind (adds_terms hguard hframe es) fun ts hts => .pure (.cons ht hts)

theorem adds_vector (hguard : ctx.GuardsBalanced) (hframe : frame.Primary) :
    ∀ es : List Expr, Adds (ctx.vector frame es) Sql.Balanced
  | [] => by
    unfold vector
    exact .bind (adds_elements hguard hframe []) fun _ hsqls => .pure (Vector.balanced_ofElements hsqls)
  | [e] => by
    unfold vector
    refine .bind (adds_term hguard hframe e) fun t ht => ?_
    exact .lift fun sql hsql => Vector.balanced_ofTerm ht.balanced hsql
  | e₁ :: e₂ :: es => by
    unfold vector
    exact .bind (adds_elements hguard hframe (e₁ :: e₂ :: es)) fun _ hsqls =>
      .pure (Vector.balanced_ofElements hsqls)

theorem adds_elements (hguard : ctx.GuardsBalanced) (hframe : frame.Primary) :
    ∀ es : List Expr, Adds (ctx.elements frame es) fun sqls => ∀ sql ∈ sqls, sql.Balanced
  | [] => by
    unfold elements
    exact .pure nofun
  | e :: es => by
    unfold elements
    refine .bind (adds_term hguard hframe e) fun t ht => ?_
    refine .bind (.lift (Q := Sql.Balanced) fun sql hsql =>
      Vector.balanced_elementOfTerm ht.balanced hsql) fun sql hsql => ?_
    exact .bind (adds_elements hguard hframe es) fun sqls hsqls =>
      .pure (List.forall_mem_cons.mpr ⟨hsql, hsqls⟩)

end

/-! ## Filters -/

theorem adds_operandTest (hguard : ctx.GuardsBalanced) (hframe : frame.Primary) {path : String}
    (t : FieldTest) : Adds (do (← ctx.operand frame path).test t) Sql.Balanced :=
  .bind (adds_operand hguard hframe) fun _ ho =>
    .lift fun _ hsql => Operand.balanced_test ho.balanced hsql

theorem balanced_connective {op : Connective} {parts : List Sql} (h : ∀ p ∈ parts, p.Balanced) :
    (op.sql parts).Balanced := by
  cases op with
  | and => exact balanced_and h
  | or => exact balanced_or h
  | nor => exact balanced_not (balanced_or h)

mutual

theorem adds_test (hguard : ctx.GuardsBalanced) {frame : Frame} (hframe : frame.Primary)
    {path : String} : ∀ t : FieldTest, Adds (ctx.test frame path t) Sql.Balanced
  | .every f => by
    unfold test
    exact adds_quantify (fun inner hinner => adds_condition hguard hinner f) hguard hframe
  | .any f => by
    unfold test
    exact adds_quantify (fun inner hinner => adds_condition hguard hinner f) hguard hframe
  | .not t => by
    unfold test
    split
    next => exact .bind (adds_test hguard hframe t) fun sql hsql => .pure (balanced_not hsql)
    next => exact adds_operandTest hguard hframe (.not t)
  | .compare .. | .oneOf _ | .noneOf _ | .subset _ | .superset _ | .intersect _ | .pattern ..
  | .startsWith _ | .endsWith _ | .size _ | .empty _ => by
    unfold test
    exact adds_operandTest hguard hframe _

/-- A condition closes its brackets. -/
theorem adds_condition (hguard : ctx.GuardsBalanced) {frame : Frame} (hframe : frame.Primary) :
    ∀ f : Filter, Adds (ctx.condition frame f) Sql.Balanced
  | .connective op items => by
    unfold condition
    exact .bind (adds_conditions hguard hframe items) fun sqls hsqls =>
      .pure (balanced_connective hsqls)
  | .field path t => by
    unfold condition
    exact adds_test hguard hframe t
  | .expr e => by
    unfold condition
    exact .bind (adds_term hguard hframe e) fun t ht =>
      .pure (balanced_piece (Term.primary_or_open_truth ht.balanced))

theorem adds_conditions (hguard : ctx.GuardsBalanced) {frame : Frame} (hframe : frame.Primary) :
    ∀ fs : List Filter, Adds (ctx.conditions frame fs) fun sqls => ∀ sql ∈ sqls, sql.Balanced
  | [] => by
    unfold conditions
    exact .pure nofun
  | f :: fs => by
    unfold conditions
    refine .bind (adds_condition hguard hframe f) fun sql hsql => ?_
    exact .bind (adds_conditions hguard hframe fs) fun sqls hsqls =>
      .pure (List.forall_mem_cons.mpr ⟨hsql, hsqls⟩)

end

/-! ## Guards -/

theorem guardsBalanced_guardWithin {s : Schema} {filters : ClassFilter} (depth : Nat) :
    GuardsBalanced ⟨s, guardWithin s (some filters) depth⟩ := by
  induction depth with
  | zero =>
    intro t
    dsimp only
    rw [guardWithin_zero]
    split
    next => exact .pure nofun
    next => exact .throw
  | succ depth ih =>
    intro t
    dsimp only
    rw [guardWithin_succ]
    split
    next => exact .pure nofun
    next =>
      have hframe : (Frame.table t).Primary := trivial
      refine .bind (adds_condition ih hframe _) fun p hp => .pure ?_
      intro q hq
      obtain rfl := Option.mem_some_iff.mp hq
      exact hp

/-- The conditions of a query on the classes it joins close their brackets. -/
theorem guardsBalanced_of {s : Schema} {filters : Option ClassFilter} :
    (Context.of s filters).GuardsBalanced := by
  cases filters with
  | none =>
    intro t
    change Adds (guardWithin s none s.classes.length t) _
    unfold guardWithin
    exact .pure nofun
  | some filters => exact guardsBalanced_guardWithin _

/-! ## Comparisons -/

/--
Where the value at a path is compared with a constant, what stands beside the operator is one piece on
each side, and the operator is the only one outside of brackets. Where two expressions are compared it is
the same, unless one of them is exposed and compiled to an open operand.
-/
theorem operands_delimited (s : Schema) (filters : Option ClassFilter) (frame : Frame)
    (hframe : frame.Primary) :
    (∀ path o, Gives ((Context.of s filters).operand frame path) o →
      ∀ op v, (o.compareConstant op v).Compares) ∧
    ∀ op left right t, Gives ((Context.of s filters).term frame (.comparison op left right)) t →
      ∃ l r, Gives ((Context.of s filters).term frame left) l ∧
        Gives ((Context.of s filters).term frame right) r ∧
        t = .boolean (Term.compare op l r) ∧
        (l.Primary ∨ l.Open ∧ left.Exposed) ∧ (r.Primary ∨ r.Open ∧ right.Exposed) ∧
        ((Term.compare op l r).Compares ∨ l.Open ∧ left.Exposed ∨ r.Open ∧ right.Exposed) := by
  have hguard : (Context.of s filters).GuardsBalanced := guardsBalanced_of
  refine ⟨fun path o ho op v => ?_, fun op left right t ht => ?_⟩
  · exact Operand.compares_compareConstant ((adds_operand hguard hframe).gives ho)
  · unfold term at ht
    obtain ⟨l, hl, ht⟩ := ht.of_bind
    obtain ⟨r, hr, ht⟩ := ht.of_bind
    obtain rfl := ht.of_pure
    have hleft := ((adds_term hguard hframe left).gives hl).primary_or_open
    have hright := ((adds_term hguard hframe right).gives hr).primary_or_open
    refine ⟨l, r, hl, hr, rfl, hleft, hright, ?_⟩
    rcases hleft with hleft | hopen
    · rcases hright with hright | hopen
      · exact .inl (Term.compares_compare hleft hright)
      · exact .inr (.inr hopen)
    · exact .inr (.inl hopen)

/-- Notes with two truth values. -/
def flaggedNotes : Json :=
  .obj [("Note", .obj [("fields", .obj [("done", .str "boolean"), ("kept", .str "boolean")])])]

def flaggedSchema : Schema where
  classes := [
    ("Note", {
      fields := Field.defaults.foldl (fun t f => t.insert f.1 f.2)
        [("done", .primitive .boolean none), ("kept", .primitive .boolean none)] })]

/-- A flag is read from its column. -/
theorem operand_flag {name : String} (h : name = "done" ∨ name = "kept") :
    (Context.of flaggedSchema none).operand (.table (.root "Note")) name =
      pure ⟨.column "Note" name, .scalar .boolean⟩ := by
  have hroute : flaggedSchema.route "Note" name = .column name (.primitive .boolean none) := by
    have hparse : Path.parse name = .ok [.field name] := by obtain rfl | rfl := h <;> rfl
    rw [Schema.route, hparse]
    exact Schema.routeOf_of_column (by obtain rfl | rfl := h <;> rfl)
  have hself : name ≠ Filter.selfKey := by obtain rfl | rfl := h <;> decide
  change (if name = Filter.selfKey then _
    else (Context.of flaggedSchema none).operandAt _ (flaggedSchema.route "Note" name)) = _
  rw [if_neg hself, hroute]
  rfl

/-- Two columns are compared as they are. -/
theorem operands_delimited_of_flaggedNotes :
    Schema.ofJson flaggedNotes = .ok flaggedSchema ∧
      ∃ o l r, Gives ((Context.of flaggedSchema none).operand (.table (.root "Note")) "done") o ∧
        (o.compareConstant .ne (.bool true)).Compares ∧
        Gives ((Context.of flaggedSchema none).term (.table (.root "Note"))
          (.comparison .eq (.key "done") (.key "kept"))) (.boolean (Term.compare .eq l r)) ∧
        (Term.compare .eq l r).Compares := by
  obtain ⟨beside, compared⟩ :=
    operands_delimited flaggedSchema none (.table (.root "Note")) trivial
  have hoperand : Gives ((Context.of flaggedSchema none).operand (.table (.root "Note")) "done")
      ⟨.column "Note" "done", .scalar .boolean⟩ :=
    ⟨[], 0, [], 0, by rw [operand_flag (.inl rfl)]; exact runs_pure.mpr ⟨rfl, rfl, rfl⟩⟩
  have hterm : Gives ((Context.of flaggedSchema none).term (.table (.root "Note"))
      (.comparison .eq (.key "done") (.key "kept"))) (.boolean (Term.compare .eq
        (.operand ⟨.column "Note" "done", .scalar .boolean⟩)
        (.operand ⟨.column "Note" "kept", .scalar .boolean⟩))) :=
    ⟨[], 0, [], 0, by
      simp only [term, operand_flag (.inl rfl), operand_flag (.inr rfl)]
      exact runs_pure.mpr ⟨rfl, rfl, rfl⟩⟩
  obtain ⟨l, r, -, -, ht, -, -, hcompares⟩ := compared _ _ _ _ hterm
  have hdelimited : (Term.compare .eq l r).Compares := by
    rcases hcompares with hcompares | ⟨-, hexposed⟩ | ⟨-, hexposed⟩
    · exact hcompares
    · cases hexposed
    · cases hexposed
  exact ⟨by rfl, _, l, r, hoperand, beside _ _ hoperand _ _, ht ▸ hterm, hdelimited⟩

/-- A negation beside an operator is not one piece: its own operator comes first and takes the other. -/
theorem operand_open_of_negation :
    ∃ l r : Operand, Schema.ofJson flaggedNotes = .ok flaggedSchema ∧
      Filter.decode false (.obj [("$expr", .obj [("$eq", .arr [
        .obj [("$not", .obj [("$key", .str "done")])], .obj [("$key", .str "kept")]])])]) =
        .ok (.expr (.comparison .eq (.not (.key "done")) (.key "kept"))) ∧
      Gives ((Context.of flaggedSchema none).term (.table (.root "Note"))
        (.comparison .eq (.not (.key "done")) (.key "kept")))
        (.boolean (.seq ["(", l.sql, " IS NOT DISTINCT FROM ", r.sql, ")"])) ∧
      ¬ l.sql.Primary := by
  refine ⟨⟨(Sql.orFalse (.column "Note" "done")).not, .scalar .boolean⟩,
    ⟨.column "Note" "kept", .scalar .boolean⟩, by rfl, by rfl, ⟨[], 0, [], 0, ?_⟩, ?_⟩
  · simp only [term, operand_flag (.inl rfl), operand_flag (.inr rfl)]
    exact runs_pure.mpr ⟨rfl, rfl, rfl⟩
  · exact Open.not_primary ⟨_, (primary_orFalse primary_column.balanced).balanced, .inl rfl⟩

end Context

end ObjectQuery
