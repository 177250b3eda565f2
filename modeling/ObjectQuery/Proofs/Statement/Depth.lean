import ObjectQuery.Proofs.Statement.Runs
import ObjectQuery.Statement.Condition

/-!
# Guards compile alike at every depth

The conditions on joined classes may lead to further classes, and a depth bounds how far. The bound
decides whether they compile, never to what: whatever compiles within a depth compiles to the same
within a greater one. The argument is that a compilation depends on the guards of its context in a
monotone way, function by function.
-/

namespace ObjectQuery

/-- Every successful run of a compilation is one of another. -/
def Compile.Refines (x y : Compile α) : Prop :=
  ∀ ⦃n a n'⦄, Runs x n a n' → Runs y n a n'

/-- Every successful run of a compilation inside a query is one of another. -/
def InScope.Refines (x y : InScope α) : Prop :=
  ∀ ⦃scope n a scope' n'⦄, Runs x scope n a scope' n' → Runs y scope n a scope' n'

/-- What refines another goes on to refine it, whatever it gives. -/
theorem Compile.Refines.bind {x y : Compile α} {f f' : α → Compile β} (hx : Refines x y)
    (hf : ∀ a, Refines (f a) (f' a)) : Refines (x >>= f) (y >>= f') := by
  intro n b n' hrun
  obtain ⟨a, m, hrx, hrf⟩ := runs_bind.mp hrun
  exact runs_bind.mpr ⟨a, m, hx hrx, hf a hrf⟩

theorem Compile.Refines.refl {x : Compile α} : Refines x x :=
  fun _ _ _ hrun => hrun

/-- A scope of its own refines another if what is compiled in it does. -/
theorem Compile.Refines.inNewScope {x y : InScope α} (h : InScope.Refines x y) :
    Refines (ObjectQuery.inNewScope x) (ObjectQuery.inNewScope y) :=
  fun _ _ _ hrun => runs_inNewScope.mpr (h (runs_inNewScope.mp hrun))

namespace InScope.Refines

/-- Every compilation refines itself. -/
theorem refl {x : InScope α} : Refines x x :=
  fun _ _ _ _ _ hrun => hrun

/-- What refines a refinement refines what that refines. -/
theorem trans {x y z : InScope α} (hxy : Refines x y) (hyz : Refines y z) : Refines x z :=
  fun _ _ _ _ _ hrun => hyz (hxy hrun)

/-- A refusal may be refined by anything. -/
theorem throw {e : Error} {y : InScope α} : Refines (throw e) y :=
  fun _ _ _ _ _ hrun => (not_runs_throw hrun).elim

/-- What refines another in every scope goes on to refine it, whatever it gives. -/
theorem bind {x y : InScope α} {f f' : α → InScope β} (hx : Refines x y)
    (hf : ∀ a, Refines (f a) (f' a)) : Refines (x >>= f) (y >>= f') := by
  intro scope n b scope' n' hrun
  obtain ⟨a, mid, m, hrx, hrf⟩ := runs_bind.mp hrun
  exact runs_bind.mpr ⟨a, mid, m, hx hrx, hf a hrf⟩

/-- What does not look at the joins refines as it does without. -/
theorem liftCompile {x y : Compile α} (h : Compile.Refines x y) :
    Refines (liftM x : InScope α) (liftM y) := by
  intro scope n a scope' n' hrun
  obtain ⟨hx, hscope⟩ := runs_liftCompile.mp hrun
  exact runs_liftCompile.mpr ⟨h hx, hscope⟩

/-- What a compilation gives its refinement gives too. -/
theorem gives {x y : InScope α} {a : α} (h : Refines x y) : Gives x a → Gives y a :=
  fun ⟨scope, n, scope', n', hrun⟩ => ⟨scope, n, scope', n', h hrun⟩

end InScope.Refines

namespace Context

open InScope (Refines)

/-- Whatever one way to guard compiles, another compiles alike. -/
def GuardsRefine (guard guard' : Target → InScope (Option Sql)) : Prop :=
  ∀ t, Refines (guard t) (guard' t)

section Guards

variable {schema : Schema} {guard guard' : Target → InScope (Option Sql)}

/-! ## Values -/

/-- A pointer is joined to the same under guards that refine. -/
theorem pointerJoin_refines (h : GuardsRefine guard guard') {owner : Target}
    {column className : String} {label : Option String} :
    Refines (pointerJoin ⟨schema, guard⟩ owner column className label)
      (pointerJoin ⟨schema, guard'⟩ owner column className label) := by
  unfold pointerJoin
  refine .bind .refl fun scope => ?_
  split
  next => exact .refl
  next =>
    cases label
    all_goals
      refine .bind .refl fun label => ?_
      exact .bind (.liftCompile (.inNewScope (h _))) fun _ => .refl

/-- The place of a path is found to be the same under guards that refine. -/
theorem locate_refines (h : GuardsRefine guard guard') {owner : Target} (route : Route) :
    Refines (locate ⟨schema, guard⟩ owner route) (locate ⟨schema, guard'⟩ owner route) := by
  induction route generalizing owner with
  | hop column className next ih =>
    unfold locate
    exact .bind (pointerJoin_refines h) fun _ => ih
  | _ => exact .refl

/-- The conditions on members are the same under guards that refine. -/
theorem memberConditions_refines (h : GuardsRefine guard guard') {owner member : Target}
    {field : String} :
    Refines (memberConditions ⟨schema, guard⟩ owner field member)
      (memberConditions ⟨schema, guard'⟩ owner field member) := by
  unfold memberConditions
  exact .bind .refl fun _ => .bind (h member) fun _ => .refl

/-- The tokens of a relation are the same under guards that refine. -/
theorem relationTokens_refines (h : GuardsRefine guard guard') {owner : Target}
    {field className : String} :
    Compile.Refines (relationTokens ⟨schema, guard⟩ owner field className)
      (relationTokens ⟨schema, guard'⟩ owner field className) := by
  unfold relationTokens
  exact .bind .refl fun _ => .bind (.inNewScope (memberConditions_refines h)) fun _ => .refl

/-- What stands at a route is the same operand under guards that refine. -/
theorem operandAt_refines (h : GuardsRefine guard guard') {owner : Target} (route : Route) :
    Refines (operandAt ⟨schema, guard⟩ owner route) (operandAt ⟨schema, guard'⟩ owner route) := by
  induction route generalizing owner with
  | hop column className next ih =>
    unfold operandAt
    exact .bind (pointerJoin_refines h) fun _ => ih
  | column name ty =>
    unfold operandAt
    split
    next => exact .bind (.liftCompile (relationTokens_refines h)) fun _ => .refl
    next => exact .refl
  | relationElement column className position next ih =>
    unfold operandAt
    refine .bind .refl fun member => ?_
    refine .bind (.liftCompile (.inNewScope ?_)) fun _ => .refl
    exact .bind ih fun _ => .bind (memberConditions_refines h) fun _ => .refl
  | _ => exact .refl

/-- A path is the same operand under guards that refine. -/
theorem operand_refines (h : GuardsRefine guard guard') {frame : Frame} {path : String} :
    Refines (operand ⟨schema, guard⟩ frame path) (operand ⟨schema, guard'⟩ frame path) := by
  unfold operand
  split
  next => exact .refl
  next =>
    split
    next => exact .refl
    next => exact operandAt_refines h _

/-! ## Expressions -/

mutual

/-- An expression is the same term under guards that refine, by its recursion. -/
theorem term_refines (h : GuardsRefine guard guard') {frame : Frame} :
    ∀ e : Expr, Refines (term ⟨schema, guard⟩ frame e) (term ⟨schema, guard'⟩ frame e)
  | .key path => by
    unfold term
    exact .bind (operand_refines h) fun _ => .refl
  | .value v => by
    unfold term
    exact .refl
  | .array items => by
    unfold term
    exact .bind (terms_refines h items) fun _ => .refl
  | .not e => by
    unfold term
    exact .bind (term_refines h e) fun _ => .refl
  | .connective op items => by
    unfold term
    exact .bind (terms_refines h items) fun _ => .refl
  | .comparison op l r => by
    unfold term
    exact .bind (term_refines h l) fun _ => .bind (term_refines h r) fun _ => .refl
  | .measure m l r => by
    unfold term
    exact .bind (vector_refines h l) fun _ => .bind (vector_refines h r) fun _ => .refl

/-- Expressions are the same terms under guards that refine, one by one. -/
theorem terms_refines (h : GuardsRefine guard guard') {frame : Frame} :
    ∀ es : List Expr, Refines (terms ⟨schema, guard⟩ frame es) (terms ⟨schema, guard'⟩ frame es)
  | [] => by
    unfold terms
    exact .refl
  | e :: es => by
    unfold terms
    exact .bind (term_refines h e) fun _ => .bind (terms_refines h es) fun _ => .refl

/-- Expressions are the same vector under guards that refine. -/
theorem vector_refines (h : GuardsRefine guard guard') {frame : Frame} :
    ∀ es : List Expr, Refines (vector ⟨schema, guard⟩ frame es) (vector ⟨schema, guard'⟩ frame es)
  | [] => by
    unfold vector
    exact .bind (elements_refines h []) fun _ => .refl
  | [e] => by
    unfold vector
    exact .bind (term_refines h e) fun _ => .refl
  | e₁ :: e₂ :: es => by
    unfold vector
    exact .bind (elements_refines h (e₁ :: e₂ :: es)) fun _ => .refl

/-- Expressions are the same elements of a vector under guards that refine. -/
theorem elements_refines (h : GuardsRefine guard guard') {frame : Frame} :
    ∀ es : List Expr,
      Refines (elements ⟨schema, guard⟩ frame es) (elements ⟨schema, guard'⟩ frame es)
  | [] => by
    unfold elements
    exact .refl
  | e :: es => by
    unfold elements
    exact .bind (term_refines h e) fun _ => .bind .refl fun _ =>
      .bind (elements_refines h es) fun _ => .refl

end

/-! ## Filters -/

/--
A condition on members or elements is the same under guards that refine, if the filter for one is.
-/
theorem quantify_refines (h : GuardsRefine guard guard') {frame : Frame} {path : String}
    {every : Bool} {filter filter' : Frame → InScope Sql}
    (hfilter : ∀ frame, Refines (filter frame) (filter' frame)) :
    Refines (quantify ⟨schema, guard⟩ frame path every filter)
      (quantify ⟨schema, guard'⟩ frame path every filter') := by
  have helements (o : Operand) :
      Refines (overElements o path every filter) (overElements o path every filter') := by
    unfold overElements
    refine .bind .refl fun label => ?_
    split
    next => exact .bind (.liftCompile (.inNewScope (hfilter _))) fun _ => .refl
    next => exact .throw
  unfold quantify
  split
  next owner =>
    split
    next => exact .bind (operand_refines h) helements
    next =>
      refine .bind (locate_refines h _) ?_
      rintro ⟨owner, route⟩
      dsimp only
      split
      next =>
        unfold overMembers
        refine .bind .refl fun member => .bind (.liftCompile (.inNewScope ?_)) fun _ => .refl
        exact .bind (hfilter _) fun _ => .bind (memberConditions_refines h) fun _ => .refl
      next => exact .bind (operandAt_refines h _) helements
  next => exact .bind .refl helements

mutual

/-- A test compiles to the same under guards that refine, by its recursion. -/
theorem test_refines (h : GuardsRefine guard guard') {frame : Frame} {path : String} :
    ∀ t : FieldTest,
      Refines (test ⟨schema, guard⟩ frame path t) (test ⟨schema, guard'⟩ frame path t)
  | .every f => by
    unfold test
    exact quantify_refines h fun frame => condition_refines h f
  | .any f => by
    unfold test
    exact quantify_refines h fun frame => condition_refines h f
  | .not t => by
    unfold test
    split
    next => exact .bind (test_refines h t) fun _ => .refl
    next => exact .bind (operand_refines h) fun _ => .refl
  | .compare .. | .oneOf _ | .noneOf _ | .subset _ | .superset _ | .intersect _ | .pattern ..
  | .startsWith _ | .endsWith _ | .size _ | .empty _ => by
    unfold test
    exact .bind (operand_refines h) fun _ => .refl

/-- The more its guards compile, the more a condition compiles, and to the same. -/
theorem condition_refines (h : GuardsRefine guard guard') {frame : Frame} :
    ∀ f : Filter,
      Refines (condition ⟨schema, guard⟩ frame f) (condition ⟨schema, guard'⟩ frame f)
  | .connective op items => by
    unfold condition
    exact .bind (conditions_refines h items) fun _ => .refl
  | .field path t => by
    unfold condition
    exact test_refines h t
  | .expr e => by
    unfold condition
    exact .bind (term_refines h e) fun _ => .refl

/-- Filters compile to the same under guards that refine, one by one. -/
theorem conditions_refines (h : GuardsRefine guard guard') {frame : Frame} :
    ∀ fs : List Filter,
      Refines (conditions ⟨schema, guard⟩ frame fs) (conditions ⟨schema, guard'⟩ frame fs)
  | [] => by
    unfold conditions
    exact .refl
  | f :: fs => by
    unfold conditions
    exact .bind (condition_refines h f) fun _ => .bind (conditions_refines h fs) fun _ => .refl

end

end Guards

/-! ## Depth -/

/-- At no depth a class may have conditions. -/
theorem guardWithin_zero {s : Schema} {filters : ClassFilter} {t : Target} :
    guardWithin s (some filters) 0 t =
      if (filters t.className).simplify.isTruth then pure none else throw .endlessConditions :=
  rfl

/-- A guard is compiled with guards that go one class less deep. -/
theorem guardWithin_succ {s : Schema} {filters : ClassFilter} {depth : Nat} {t : Target} :
    guardWithin s (some filters) (depth + 1) t =
      if (filters t.className).simplify.isTruth then pure none
      else return some (← condition ⟨s, guardWithin s (some filters) depth⟩ (.table t)
        (filters t.className).simplify) :=
  rfl

/-- Guards that go one class deeper refine those that do not, by induction on the depth. -/
theorem guardWithin_refines_succ {s : Schema} {filters : ClassFilter} (depth : Nat) :
    GuardsRefine (guardWithin s (some filters) depth)
      (guardWithin s (some filters) (depth + 1)) := by
  induction depth with
  | zero =>
    intro t
    rw [guardWithin_zero, guardWithin_succ]
    split
    next => exact .refl
    next => exact .throw
  | succ depth ih =>
    intro t
    rw [guardWithin_succ, guardWithin_succ]
    split
    next => exact .refl
    next => exact .bind (condition_refines ih _) fun _ => .refl

/-- A guard that compiles within a depth compiles to the same within a greater one. -/
theorem guardWithin_refines {s : Schema} {filters : ClassFilter} {depth depth' : Nat}
    (hle : depth ≤ depth') :
    GuardsRefine (guardWithin s (some filters) depth) (guardWithin s (some filters) depth') := by
  intro t
  induction hle with
  | refl => exact .refl
  | step _ ih => exact ih.trans (guardWithin_refines_succ _ t)

end Context

end ObjectQuery
