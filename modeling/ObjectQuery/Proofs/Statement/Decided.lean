import ObjectQuery.Proofs.Sql.Decided
import ObjectQuery.Proofs.Statement.Refusals

/-!
# Filters compile to conditions that are never null

Whatever a filter asks of an object or of an element of an array, its condition is in the grammar of
conditions that are true or false in every row. A filter for elements is given the scope of the
elements before it is compiled, so it is never refused for the lack of one. Both are shown of the
compiler at once, since the one follows its results and the other its errors along the same calls.
-/

namespace ObjectQuery

open InScope (Answers)
open Error (OfPath)

/-- Not the error of a filter for elements that has no scope of elements. -/
def Error.Scoped (e : Error) : Prop := e ≠ .expression .elementScope

/-- An error about a path is not one about a missing scope. -/
theorem Error.OfPath.scoped {e : Error} (h : OfPath e) : e.Scoped := by
  obtain ⟨_, rfl⟩ := h
  exact nofun

/-- A compilation that may give anything. -/
abbrev InScope.Scoped (x : InScope α) : Prop := Answers Error.Scoped (fun _ => True) x

/-- A compilation that gives a condition of the grammar. -/
abbrev InScope.Decides (x : InScope Sql) : Prop := Answers Error.Scoped Sql.IsDecided x

open InScope (Scoped Decides)

/-- A computation that is refused for a path is not refused for a missing scope. -/
theorem InScope.scoped_of_path {r : Result α} (h : r.Refuses OfPath) :
    Scoped (liftM r : InScope α) :=
  .lift (h.mono fun _ => Error.OfPath.scoped) fun _ _ => trivial

/-- Errors of a route may be said to be of a larger kind. -/
theorem Route.Refuses.mono {E F : Error → Prop} {route : Route} (h : route.Refuses E)
    (hEF : ∀ e, E e → F e) : route.Refuses F := by
  induction route with
  | refused e => exact hEF e h
  | hop _ _ _ ih | relationElement _ _ _ _ ih => exact ih h
  | column | json | vectorElement => trivial

/-- A route is not refused for a missing scope. -/
theorem Schema.route_scoped {s : Schema} {className path : String} :
    (s.route className path).Refuses Error.Scoped :=
  route_refuses.mono fun _ => Error.OfPath.scoped

/-- A term that is no vector is not refused for a missing scope. -/
theorem Vector.ofTerm_scoped {dimension : Option Nat} {t : Term} :
    (ofTerm dimension t).Refuses Error.Scoped := by
  unfold ofTerm
  split
  case h_3 => split <;> simp [unfit, Error.Scoped]
  all_goals simp [unfit, Error.Scoped]

/-- A term that is no element of a vector is not refused for a missing scope. -/
theorem Vector.elementOfTerm_scoped {t : Term} : (elementOfTerm t).Refuses Error.Scoped := by
  unfold elementOfTerm
  split
  case h_2 => split <;> simp [unfit, Error.Scoped]
  all_goals simp [unfit, Error.Scoped]

namespace Context

variable {ctx : Context}

/-- The guards are not refused for the lack of a scope. -/
def GuardsScoped (ctx : Context) : Prop := ∀ target, Scoped (ctx.guard target)

/-! ## Values -/

section

variable (hguard : ctx.GuardsScoped)

include hguard

/-- A pointer is joined without asking for the scope of elements. -/
theorem pointerJoin_scoped {owner : Target} {column className : String} {label : Option String} :
    Scoped (ctx.pointerJoin owner column className label) := by
  unfold pointerJoin
  refine .bind .get fun scope _ => ?_
  split
  next => exact .pure trivial
  next =>
    cases label
    case' some label => refine .bind (Q := fun _ => True) (.pure trivial) fun label _ => ?_
    case' none => refine .bind (.liftCompile .freshAlias) fun label _ => ?_
    all_goals
      refine .bind (.liftCompile (.inNewScope (hguard _))) fun _ _ => ?_
      exact .bind .modify fun _ _ => .pure trivial

/-- The place of a path is found without asking for the scope of elements. -/
theorem locate_scoped {owner : Target} (route : Route) (hroute : route.Refuses Error.Scoped) :
    Answers Error.Scoped (fun located => located.2.Refuses Error.Scoped)
      (ctx.locate owner route) := by
  induction route generalizing owner with
  | hop column className next ih =>
    unfold locate
    exact .bind (pointerJoin_scoped hguard) fun _ _ => ih hroute
  | refused e => exact .throw hroute
  | column | json | vectorElement | relationElement => exact .pure hroute

/-- The conditions on members do not ask for the scope of elements. -/
theorem memberConditions_scoped {owner member : Target} {field : String} :
    Scoped (ctx.memberConditions owner field member) := by
  unfold memberConditions
  refine .bind (InScope.scoped_of_path Schema.contains_refuses) fun _ _ => ?_
  exact .bind (hguard member) fun _ _ => .pure trivial

/-- The tokens of a relation do not ask for the scope of elements. -/
theorem relationTokens_scoped {owner : Target} {field className : String} :
    (ctx.relationTokens owner field className).Answers Error.Scoped fun _ => True := by
  unfold relationTokens
  refine .bind .freshTarget fun member _ => ?_
  exact .bind (.inNewScope (memberConditions_scoped hguard)) fun _ _ => .pure trivial

/-- What stands at a route is an operand without asking for the scope of elements. -/
theorem operandAt_scoped {owner : Target} (route : Route) (hroute : route.Refuses Error.Scoped) :
    Scoped (ctx.operandAt owner route) := by
  induction route generalizing owner with
  | refused e => exact .throw hroute
  | hop column className next ih =>
    unfold operandAt
    exact .bind (pointerJoin_scoped hguard) fun _ _ => ih hroute
  | column name ty =>
    unfold operandAt
    split
    next => exact .bind (.liftCompile (relationTokens_scoped hguard)) fun _ _ => .pure trivial
    next => exact InScope.scoped_of_path Operand.ofColumn_refuses
  | json column keys => exact .pure trivial
  | vectorElement column position => exact .pure trivial
  | relationElement column className position next ih =>
    unfold operandAt
    refine .bind (.liftCompile .freshTarget) fun member _ => ?_
    refine .bind (.liftCompile (.inNewScope (Q := fun _ => True) ?_)) fun _ _ => .pure trivial
    exact .bind (ih hroute) fun _ _ =>
      .bind (memberConditions_scoped hguard) fun _ _ => .pure trivial

/-- A path inside an element is read in the scope that it is given, and any other needs none. -/
theorem operand_scoped {frame : Frame} {path : String} : Scoped (ctx.operand frame path) := by
  unfold operand
  split
  next => exact InScope.scoped_of_path elementOperand_refuses
  next =>
    split
    next => exact .pure trivial
    next => exact operandAt_scoped hguard _ Schema.route_scoped

end

/-! ## Expressions -/

mutual

/-- No term is refused for the lack of a scope, by the recursion of its expression. -/
theorem term_scoped (hguard : ctx.GuardsScoped) {frame : Frame} :
    ∀ e : Expr, Scoped (ctx.term frame e)
  | .key path => by
    unfold term
    exact .bind (operand_scoped hguard) fun _ _ => .pure trivial
  | .value v => by
    unfold term
    exact .pure trivial
  | .array items => by
    unfold term
    exact .bind (terms_scoped hguard items) fun _ _ => .pure trivial
  | .not e => by
    unfold term
    exact .bind (term_scoped hguard e) fun _ _ => .pure trivial
  | .connective op items => by
    unfold term
    exact .bind (terms_scoped hguard items) fun _ _ => .pure trivial
  | .comparison op l r => by
    unfold term
    refine .bind (term_scoped hguard l) fun _ _ => ?_
    exact .bind (term_scoped hguard r) fun _ _ => .pure trivial
  | .measure m l r => by
    unfold term
    refine .bind (vector_scoped hguard l) fun _ _ => ?_
    exact .bind (vector_scoped hguard r) fun _ _ => .pure trivial

/-- Terms are not refused for the lack of a scope, one by one. -/
theorem terms_scoped (hguard : ctx.GuardsScoped) {frame : Frame} :
    ∀ es : List Expr, Scoped (ctx.terms frame es)
  | [] => by
    unfold terms
    exact .pure trivial
  | e :: es => by
    unfold terms
    refine .bind (term_scoped hguard e) fun _ _ => ?_
    exact .bind (terms_scoped hguard es) fun _ _ => .pure trivial

/-- No vector is refused for the lack of a scope. -/
theorem vector_scoped (hguard : ctx.GuardsScoped) {frame : Frame} :
    ∀ es : List Expr, Scoped (ctx.vector frame es)
  | [] => by
    unfold vector
    exact .bind (elements_scoped hguard []) fun _ _ => .pure trivial
  | [e] => by
    unfold vector
    exact .bind (term_scoped hguard e) fun _ _ => .lift Vector.ofTerm_scoped fun _ _ => trivial
  | e₁ :: e₂ :: es => by
    unfold vector
    exact .bind (elements_scoped hguard (e₁ :: e₂ :: es)) fun _ _ => .pure trivial

/-- No elements of a vector are refused for the lack of a scope. -/
theorem elements_scoped (hguard : ctx.GuardsScoped) {frame : Frame} :
    ∀ es : List Expr, Scoped (ctx.elements frame es)
  | [] => by
    unfold elements
    exact .pure trivial
  | e :: es => by
    unfold elements
    refine .bind (term_scoped hguard e) fun _ _ => ?_
    refine .bind (Q := fun _ => True) (.lift Vector.elementOfTerm_scoped fun _ _ => trivial) ?_
    exact fun _ _ => .bind (elements_scoped hguard es) fun _ _ => .pure trivial

end

/-! ## Filters -/

/--
A filter over elements decides if the filter for one does, which is given the scope of the elements.
-/
theorem overElements_decides {o : Operand} {path : String} {every : Bool}
    {filter : Frame → InScope Sql} (h : ∀ o, Decides (filter (.element o))) :
    Decides (overElements o path every filter) := by
  unfold overElements
  refine .bind (.liftCompile .freshAlias) fun label _ => ?_
  split
  next rows type helements =>
    refine .bind (.liftCompile (.inNewScope (h _))) fun r _ => ?_
    have hquantified := isDecided_quantified every
      (.seq [rows, " AS ", .binder label, "(", .ident elementColumn, ")"]) [] r.1
    dsimp only
    split
    next =>
      split
      next =>
        refine .pure (Sql.isDecided_and (List.forall_mem_cons.mpr ⟨?_, ?_⟩))
        · exact isDecided_isListOrNull o.sql
        · exact List.forall_mem_singleton.mpr hquantified
      next => exact .pure hquantified
    next => exact .pure hquantified
  next => exact .throw nofun

/-- A filter over members decides if the filter for one does. -/
theorem overMembers_decides (hguard : ctx.GuardsScoped) {owner : Target}
    {field className : String} {every : Bool} {filter : Frame → InScope Sql}
    (hfilter : ∀ member, Decides (filter (.table member))) :
    Decides (ctx.overMembers owner field className every filter) := by
  unfold overMembers
  refine .bind (.liftCompile .freshTarget) fun member _ => ?_
  refine .bind (.liftCompile (.inNewScope (Q := fun _ => True) ?_)) fun r _ =>
    .pure (isDecided_quantified ..)
  exact .bind (hfilter member) fun _ _ =>
    .bind (memberConditions_scoped hguard) fun _ _ => .pure trivial

/-- A filter over members or elements decides, whichever the path leads to. -/
theorem quantify_decides (hguard : ctx.GuardsScoped) {frame : Frame} {path : String} {every : Bool}
    {filter : Frame → InScope Sql} (hfilter : ∀ frame, Decides (filter frame)) :
    Decides (ctx.quantify frame path every filter) := by
  have helements : ∀ o, Decides (overElements o path every filter) :=
    fun _ => overElements_decides fun _ => hfilter _
  unfold quantify
  split
  next owner =>
    split
    next => exact .bind (operand_scoped hguard) fun o _ => helements o
    next =>
      refine .bind (locate_scoped hguard _ Schema.route_scoped) fun located hlocated => ?_
      dsimp only
      split
      next => exact overMembers_decides hguard fun _ => hfilter _
      next => exact .bind (operandAt_scoped hguard _ hlocated) fun o _ => helements o
  next element =>
    exact .bind (InScope.scoped_of_path elementOperand_refuses) fun o _ => helements o

/-- A test of a value, which is no filter for elements. -/
theorem operandTest_decides (hguard : ctx.GuardsScoped) {frame : Frame} {path : String}
    {t : FieldTest} (h : t.elementFilter? = none) :
    Decides (do (← ctx.operand frame path).test t) := by
  refine .bind (operand_scoped hguard) fun o _ => ?_
  obtain ⟨sql, htest, hsql⟩ := o.exists_isDecided_test t h
  rw [htest]
  exact .pure hsql

mutual

/-- A test of a field decides in every frame, by the recursion of tests and filters. -/
theorem test_decides (hguard : ctx.GuardsScoped) {frame : Frame} {path : String} :
    ∀ t : FieldTest, Decides (ctx.test frame path t)
  | .every f => by
    unfold test
    exact quantify_decides hguard fun _ => condition_decides hguard f
  | .any f => by
    unfold test
    exact quantify_decides hguard fun _ => condition_decides hguard f
  | .not t => by
    unfold test
    split
    next => exact .bind (test_decides hguard t) fun _ hsql => .pure hsql.not
    next hplain =>
      exact operandTest_decides hguard (t := .not t) (Option.not_isSome_iff_eq_none.mp hplain)
  | .compare .. | .oneOf _ | .noneOf _ | .subset _ | .superset _ | .intersect _ | .pattern ..
  | .startsWith _ | .endsWith _ | .size _ | .empty _ => by
    unfold test
    exact operandTest_decides hguard rfl

/-- A filter decides in every frame. -/
theorem condition_decides (hguard : ctx.GuardsScoped) {frame : Frame} :
    ∀ f : Filter, Decides (ctx.condition frame f)
  | .connective op items => by
    unfold condition
    exact .bind (conditions_decide hguard items) fun _ hitems => .pure (op.isDecided_sql hitems)
  | .field path t => by
    unfold condition
    exact test_decides hguard t
  | .expr e => by
    unfold condition
    exact .bind (term_scoped hguard e) fun t _ => .pure t.isDecided_truth

/-- Filters decide in every frame, one by one. -/
theorem conditions_decide (hguard : ctx.GuardsScoped) {frame : Frame} : ∀ fs : List Filter,
    Answers Error.Scoped (fun items => ∀ i ∈ items, Sql.IsDecided i) (ctx.conditions frame fs)
  | [] => by
    unfold conditions
    exact .pure nofun
  | f :: fs => by
    unfold conditions
    refine .bind (condition_decides hguard f) fun sql hsql => ?_
    refine .bind (conditions_decide hguard fs) fun rest hrest => ?_
    exact .pure (List.forall_mem_cons.mpr ⟨hsql, hrest⟩)

end

end Context

/-! ## Guards -/

/-- Guards are conditions themselves, down to the depth to which they are compiled. -/
theorem guardWithin_scoped (s : Schema) (filters : Option ClassFilter) (depth : Nat)
    (target : Target) : Scoped (guardWithin s filters depth target) := by
  induction depth generalizing target with
  | zero =>
    unfold guardWithin
    split
    next => exact .pure trivial
    next =>
      dsimp only
      split
      next => exact .pure trivial
      next => exact .throw nofun
  | succ depth ih =>
    cases filters with
    | none => exact .pure trivial
    | some filters =>
      unfold guardWithin
      dsimp only
      split
      next => exact .pure trivial
      next =>
        have hguards : Context.GuardsScoped ⟨s, guardWithin s (some filters) depth⟩ := ih
        exact .bind (Context.condition_decides hguards _) fun _ _ => .pure trivial

/--
The condition of a filter on an object or on an element of an array is of the grammar, and so it is
true or false in every row; and the filter is not refused for the lack of a scope of elements.
-/
theorem Context.condition_decided (s : Schema) (filters : Option ClassFilter) (frame : Frame)
    (f : Filter) (scope : Scope) (n : Nat) :
    match ((((Context.of s filters).condition frame f).run scope).run.run n).1 with
    | .ok (sql, _) => ∃ p : Decided, sql = p.sql ∧ ∀ ρ : Valuation, (p.eval ρ).isSome = true
    | .error e => e ≠ .expression .elementScope := by
  have hguards : (Context.of s filters).GuardsScoped := guardWithin_scoped s filters _
  have h : Decides ((Context.of s filters).condition frame f) := condition_decides hguards f
  have h := h scope n
  revert h
  cases ((((Context.of s filters).condition frame f).run scope).run.run n).1 with
  | ok r =>
    rintro ⟨p, hp⟩
    exact ⟨p, hp, p.eval_isSome⟩
  | error e => exact id

end ObjectQuery
