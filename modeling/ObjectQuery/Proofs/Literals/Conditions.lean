import ObjectQuery.Proofs.Columns.Admitted
import ObjectQuery.Proofs.Literals.Tests

/-!
# Conditions without their words

Two runs of a compilation are in step if from the same joins and the same counter they give what
corresponds or fail alike, and leave the same joins and the same counter. A filter and its blank are
compiled in step: a string is read where a test is compiled and nowhere else, so no join, no alias and
no branch depends on it.
-/

namespace ObjectQuery

/-! ## Runs in step -/

/-- Two runs from the same counter give what corresponds or fail alike, and leave the same counter. -/
def Compile.InStep (R : α → α' → Prop) (x : Compile α) (x' : Compile α') : Prop :=
  ∀ n, Result.Agree R (x.run.run n).1 (x'.run.run n).1 ∧ (x.run.run n).2 = (x'.run.run n).2

/-- Two runs inside the same query are in step, and leave the same joins. -/
def InScope.InStep (R : α → α' → Prop) (x : InScope α) (x' : InScope α') : Prop :=
  ∀ scope, Compile.InStep (fun r r' => R r.1 r'.1 ∧ r.2 = r'.2) (x.run scope) (x'.run scope)

namespace Compile.InStep

variable {R : α → α' → Prop} {S : β → β' → Prop}

theorem pure {a : α} {a' : α'} (h : R a a') : InStep R (pure a) (pure a') := fun _ => ⟨.ok h, rfl⟩

theorem throw {e : Error} : InStep R (throw e) (throw e) := fun _ => ⟨.error e, rfl⟩

/-- Two runs in step stay so for any relation the given one implies. -/
theorem imp {Q : α → α' → Prop} {x : Compile α} {x' : Compile α'} (h : InStep R x x')
    (hR : ∀ a a', R a a' → Q a a') : InStep Q x x' :=
  fun n => ⟨(h n).1.imp hR, (h n).2⟩

/-- A run is in step with itself. -/
theorem refl (x : Compile α) : InStep Eq x x :=
  fun _ => ⟨(Result.Agree.refl _).imp fun _ _ h => h.1, rfl⟩

/-- Runs in step may be continued in step. -/
theorem bind {x : Compile α} {x' : Compile α'} {f : α → Compile β} {f' : α' → Compile β'}
    (hx : InStep R x x') (hf : ∀ a a', R a a' → InStep S (f a) (f' a')) :
    InStep S (x >>= f) (x' >>= f') := by
  intro n
  obtain ⟨hresult, hcounter⟩ := hx n
  rw [run_bind, run_bind]
  cases hrun : x.run.run n with
  | mk r m =>
    cases hrun' : x'.run.run n with
    | mk r' m' =>
      rw [hrun, hrun'] at hresult hcounter
      obtain rfl : m = m' := hcounter
      cases hresult with
      | ok h => exact hf _ _ h m
      | error e => exact ⟨.error e, rfl⟩

/-- Two scopes opened in step leave results in step and the same joins. -/
theorem inNewScope {x : InScope α} {x' : InScope α'} (h : InScope.InStep R x x') :
    InStep (fun r r' => R r.1 r'.1 ∧ r.2 = r'.2) (inNewScope x) (ObjectQuery.inNewScope x') :=
  h []

/-- Runs that are in step with the same one are in step with each other. -/
theorem join {x : Compile γ} {x₁ : Compile α} {x₂ : Compile β} {P : γ → α → Prop}
    {Q : γ → β → Prop} {T : α → β → Prop} (h₁ : InStep P x x₁) (h₂ : InStep Q x x₂)
    (hT : ∀ c a b, P c a → Q c b → T a b) : InStep T x₁ x₂ := by
  intro n
  obtain ⟨hresult₁, hcounter₁⟩ := h₁ n
  obtain ⟨hresult₂, hcounter₂⟩ := h₂ n
  refine ⟨?_, hcounter₁.symm.trans hcounter₂⟩
  generalize (x.run.run n).1 = r at hresult₁ hresult₂
  generalize (x₁.run.run n).1 = r₁ at hresult₁
  generalize (x₂.run.run n).1 = r₂ at hresult₂
  cases hresult₁ with
  | ok ha =>
    cases hresult₂ with
    | ok hb => exact .ok (hT _ _ _ ha hb)
  | error e =>
    cases hresult₂ with
    | error e => exact .error e

end Compile.InStep

namespace InScope.InStep

variable {R : α → α' → Prop} {S : β → β' → Prop}

/-- Related values are returned in step. -/
theorem pure {a : α} {a' : α'} (h : R a a') : InStep R (pure a) (pure a') :=
  fun _ => .pure ⟨h, rfl⟩

/-- The same error is in step with itself. -/
theorem throw {e : Error} : InStep R (throw e) (throw e) := fun _ => .throw

/-- Two runs in step stay so for any relation the given one implies. -/
theorem imp {Q : α → α' → Prop} {x : InScope α} {x' : InScope α'} (h : InStep R x x')
    (hR : ∀ a a', R a a' → Q a a') : InStep Q x x' :=
  fun scope => (h scope).imp fun _ _ h => ⟨hR _ _ h.1, h.2⟩

/-- A run in a scope is in step with itself. -/
theorem refl (x : InScope α) : InStep Eq x x := by
  refine fun scope => (Compile.InStep.refl _).imp ?_
  rintro r _ rfl
  exact ⟨rfl, rfl⟩

/-- Runs in step may be continued in step. -/
theorem bind {x : InScope α} {x' : InScope α'} {f : α → InScope β} {f' : α' → InScope β'}
    (hx : InStep R x x') (hf : ∀ a a', R a a' → InStep S (f a) (f' a')) :
    InStep S (x >>= f) (x' >>= f') := by
  refine fun scope => (hx scope).bind ?_
  rintro ⟨a, mid⟩ ⟨a', _⟩ ⟨h, rfl⟩
  exact hf a a' h mid

/-- What two runs have in common goes first. -/
theorem after (x : InScope α) {f : α → InScope β} {f' : α → InScope β'}
    (hf : ∀ a, InStep S (f a) (f' a)) : InStep S (x >>= f) (x >>= f') := by
  refine (refl x).bind ?_
  rintro a _ rfl
  exact hf a

/-- Compilations in step stay in step inside a scope. -/
theorem liftCompile {x : Compile α} {x' : Compile α'} (h : Compile.InStep R x x') :
    InStep R (liftM x) (liftM x') :=
  fun _ => h.bind fun _ _ h => .pure ⟨h, rfl⟩

/-- Results that agree stay in step inside a scope. -/
theorem lift {r : Result α} {r' : Result α'} (h : r.Agree R r') :
    InStep R (liftM r) (liftM r') := by
  cases h with
  | ok h => exact pure h
  | error e => exact throw

/-- Opening a scope in the middle of one keeps the runs in step. -/
theorem inNewScope {x : InScope α} {x' : InScope α'} (h : InStep R x x') :
    InStep (fun r r' => R r.1 r'.1 ∧ r.2 = r'.2) (liftM (inNewScope x))
      (liftM (ObjectQuery.inNewScope x')) :=
  liftCompile (.inNewScope h)

/-- Beside what is known of their results, that the runs have given them. -/
theorem given {x : InScope α} {x' : InScope α'} (h : InStep R x x') :
    InStep (fun a a' => R a a' ∧ Gives x a ∧ Gives x' a') x x' := by
  intro scope n
  obtain ⟨hresult, hcounter⟩ := h scope n
  refine ⟨?_, hcounter⟩
  cases hrun : (x.run scope).run.run n with
  | mk r m =>
    cases hrun' : (x'.run scope).run.run n with
    | mk r' m' =>
      rw [hrun, hrun'] at hresult
      cases hresult with
      | ok hr => exact .ok ⟨⟨hr.1, ⟨_, _, _, _, hrun⟩, _, _, _, _, hrun'⟩, hr.2⟩
      | error e => exact .error e

/-- A run that goes through has its counterpart. -/
theorem runs {x : InScope α} {x' : InScope α'} {a : α} {scope scope' : Scope} {n n' : Nat}
    (h : InStep R x x') (hrun : Runs x scope n a scope' n') :
    ∃ a', Runs x' scope n a' scope' n' ∧ R a a' := by
  obtain ⟨hresult, hcounter⟩ := h scope n
  unfold Runs Compile.Runs at hrun
  cases hrun' : (x'.run scope).run.run n with
  | mk r' m' =>
    rw [hrun, hrun'] at hresult hcounter
    obtain rfl : n' = m' := hcounter
    cases hresult with
    | @ok _ after hr =>
      obtain ⟨a', _⟩ := after
      obtain ⟨hR, rfl⟩ := hr
      exact ⟨a', hrun', hR⟩

/-- Loops whose turns are in step are in step. -/
theorem mapM {f : α → InScope β} {f' : α' → InScope β'} {xs : List α} {xs' : List α'}
    (h : List.Forall₂ (fun a a' => InStep S (f a) (f' a')) xs xs') :
    InStep (List.Forall₂ S) (xs.mapM f) (xs'.mapM f') := by
  induction h with
  | nil => exact pure .nil
  | cons hitem _ ih =>
    rw [List.mapM_cons, List.mapM_cons]
    exact bind hitem fun _ _ hb => bind ih fun _ _ hbs => pure (.cons hb hbs)

/-- Runs that are in step with the same one are in step with each other. -/
theorem join {x : InScope γ} {x₁ : InScope α} {x₂ : InScope β} {P : γ → α → Prop}
    {Q : γ → β → Prop} {T : α → β → Prop} (h₁ : InStep P x x₁) (h₂ : InStep Q x x₂)
    (hT : ∀ c a b, P c a → Q c b → T a b) : InStep T x₁ x₂ := by
  refine fun scope => (h₁ scope).join (h₂ scope) ?_
  rintro ⟨c, mid⟩ ⟨a, mid₁⟩ ⟨b, mid₂⟩ ⟨ha, hmid₁⟩ ⟨hb, hmid₂⟩
  exact ⟨hT c a b ha hb, hmid₁.symm.trans hmid₂⟩

end InScope.InStep

/-! ## Filters for elements -/

/-- A connective joins fragments whatever the strings they bind. -/
theorem Connective.blank_sql (op : Connective) (parts : List Sql) :
    (op.sql parts).blank = op.sql (parts.map Sql.blank) := by
  cases op <;> simp [Connective.sql]

namespace Context

variable {ctx : Context} {every : Bool} {filter filter' : Frame → InScope Sql}

/-- Quantifying over rewordings gives rewordings: the source and the conditions are the same. -/
theorem quantified_reworded {source condition condition' : Sql} {conditions : List Sql}
    (h : condition.Reworded condition') :
    (quantified every source conditions condition).Reworded
      (quantified every source conditions condition') := by
  unfold Sql.Reworded at h ⊢
  unfold quantified
  split <;> simp [h]

/-- A test of the members of a relation is in step when the test of a member is. -/
theorem overMembers_inStep {owner : Target} {field className : String}
    (h : ∀ frame, InScope.InStep Sql.Reworded (filter frame) (filter' frame)) :
    InScope.InStep Sql.Reworded (ctx.overMembers owner field className every filter)
      (ctx.overMembers owner field className every filter') := by
  unfold overMembers
  refine .after _ fun member => ?_
  refine .bind (.inNewScope (R := fun r r' : Sql × List Sql => r.1.Reworded r'.1 ∧ r.2 = r'.2) ?_) ?_
  · refine (h _).bind fun _ _ hcondition => .after _ fun _ => ?_
    exact .pure ⟨hcondition, rfl⟩
  · rintro ⟨⟨condition, conditions⟩, inner⟩ ⟨⟨condition', _⟩, _⟩ ⟨⟨hcondition, rfl⟩, rfl⟩
    exact .pure (quantified_reworded hcondition)

/-- A test of the elements of an array is in step when the test of an element is. -/
theorem overElements_inStep {o : Operand} {path : String}
    (h : ∀ frame, InScope.InStep Sql.Reworded (filter frame) (filter' frame)) :
    InScope.InStep Sql.Reworded (overElements o path every filter)
      (overElements o path every filter') := by
  unfold overElements
  refine .after _ fun label => ?_
  cases elementsOf? o with
  | none => exact .throw
  | some element =>
    obtain ⟨rows, type⟩ := element
    refine .bind (.inNewScope (h _)) ?_
    rintro ⟨condition, _⟩ ⟨condition', _⟩ ⟨hcondition, -⟩
    have htest : ∀ source : Sql, (quantified every source [] condition).blank =
        (quantified every source [] condition').blank :=
      fun _ => quantified_reworded hcondition
    dsimp only
    split
    next =>
      refine .pure ?_
      unfold Sql.Reworded
      split
      next => simp only [Sql.blank_and, List.map_cons, htest, List.map_nil]
      next => exact htest _
    next => exact .pure (htest _)

/-- A quantified test is in step when what it asks of a frame is, wherever the frame stands. -/
theorem quantify_inStep {frame : Frame} {path : String}
    (h : ∀ frame, InScope.InStep Sql.Reworded (filter frame) (filter' frame)) :
    InScope.InStep Sql.Reworded (ctx.quantify frame path every filter)
      (ctx.quantify frame path every filter') := by
  unfold quantify
  cases frame with
  | element element => exact .after _ fun _ => overElements_inStep h
  | table owner =>
    dsimp only
    split
    next => exact .after _ fun _ => overElements_inStep h
    next =>
      refine .after _ ?_
      rintro ⟨owner, route⟩
      dsimp only
      split
      next => exact overMembers_inStep h
      next => exact .after _ fun _ => overElements_inStep h

/-! ## Filters -/

/-- A test of one operand is in step with the blank of it. -/
theorem operandTest_inStep {frame : Frame} {path : String} {t t' : FieldTest} (h : t' = t.blank) :
    InScope.InStep Sql.Reworded (do (← ctx.operand frame path).test t')
      (do (← ctx.operand frame path).test t) := by
  subst h
  exact .after _ fun o => .lift (o.test_blank t)

/-- A test is one for elements whatever its strings. -/
theorem isSome_elementFilter?_blank : ∀ t : FieldTest,
    t.blank.elementFilter?.isSome = t.elementFilter?.isSome
  | .not t => isSome_elementFilter?_blank t
  | .compare .. | .oneOf _ | .noneOf _ | .subset _ | .superset _ | .intersect _ | .pattern ..
  | .startsWith _ | .endsWith _ | .size _ | .empty _ | .every _ | .any _ => rfl

mutual

/-- A test and its blank compile in step: the cases are those of the test. -/
theorem test_inStep (frame : Frame) (path : String) : ∀ t : FieldTest,
    InScope.InStep Sql.Reworded (ctx.test frame path t.blank) (ctx.test frame path t)
  | .every f => by
    unfold FieldTest.blank Context.test
    exact quantify_inStep fun frame => condition_inStep frame f
  | .any f => by
    unfold FieldTest.blank Context.test
    exact quantify_inStep fun frame => condition_inStep frame f
  | .not t => by
    unfold FieldTest.blank Context.test
    rw [isSome_elementFilter?_blank]
    split
    next =>
      refine (test_inStep frame path t).bind fun _ _ h => .pure ?_
      unfold Sql.Reworded at h ⊢
      rw [Sql.blank_not, Sql.blank_not, h]
    next => exact operandTest_inStep rfl
  | .compare .. | .oneOf _ | .noneOf _ | .subset _ | .superset _ | .intersect _ | .pattern ..
  | .startsWith _ | .endsWith _ | .size _ | .empty _ => by
    unfold FieldTest.blank Context.test
    exact operandTest_inStep rfl

/-- A filter and its blank are compiled in step. -/
theorem condition_inStep (frame : Frame) : ∀ f : Filter,
    InScope.InStep Sql.Reworded (ctx.condition frame f.blank) (ctx.condition frame f)
  | .connective op items => by
    unfold Filter.blank Context.condition
    refine (conditions_inStep frame items).bind fun _ _ h => .pure ?_
    unfold Sql.Reworded
    rw [op.blank_sql, op.blank_sql, h]
  | .field path t => by
    unfold Filter.blank Context.condition
    exact test_inStep frame path t
  | .expr e => by
    unfold Filter.blank
    exact (InScope.InStep.refl _).imp fun _ _ => congrArg Sql.blank

/-- The parts of a connective compile in step, one by one. -/
theorem conditions_inStep (frame : Frame) : ∀ fs : List Filter,
    InScope.InStep (fun parts parts' => parts.map Sql.blank = parts'.map Sql.blank)
      (ctx.conditions frame (Filter.blankItems fs)) (ctx.conditions frame fs)
  | [] => by
    unfold Filter.blankItems Context.conditions
    exact .pure rfl
  | f :: fs => by
    unfold Filter.blankItems Context.conditions
    refine (condition_inStep frame f).bind fun _ _ h => ?_
    refine (conditions_inStep frame fs).bind fun _ _ hs => .pure ?_
    rw [List.map_cons, List.map_cons, h, hs]

end

/--
Filters that differ in nothing but the strings of their tests, at whatever depth, are compiled in step in
any context: both are refused alike or both give a condition. The conditions are written as the same
text, and of what they bind only strings differ.
-/
theorem condition_reworded (ctx : Context) (frame : Frame) {f f' : Filter} (h : f.blank = f'.blank) :
    InScope.InStep (fun sql sql' : Sql => sql.compile.Reworded sql'.compile)
      (ctx.condition frame f) (ctx.condition frame f') := by
  have hfirst : InScope.InStep Sql.Reworded (ctx.condition frame f.blank) (ctx.condition frame f) :=
    condition_inStep frame f
  rw [h] at hfirst
  refine hfirst.join (condition_inStep frame f') fun _ _ _ hsql hsql' => Sql.Reworded.compile ?_
  exact hsql.symm.trans hsql'

/-- A filter of tags with strings in its tests, also for the elements of an array. -/
def worded (city source label : String) : Filter :=
  .connective .and [
    .field "note.info.city" (.not (.oneOf [.str city, .arr [.str label], .null])),
    .field "label" (.pattern source true),
    .field "_rperm" (.not (.any (.field Filter.selfKey (.startsWith label)))),
    .field "_rperm" (.superset [.str city, .str label])]

/-- A quote in the words of a filter is bound as any other word is. -/
theorem condition_reworded_of_worded :
    ∃ sql sql' scope n, (worded "Rome" "^R" "new").blank = (worded "' OR '1'='1" "'" "").blank ∧
      InScope.Runs ((Context.of Gate.taggedSchema none).condition (.table (.root "Tag"))
        (worded "Rome" "^R" "new")) [] 0 sql scope n ∧
      InScope.Runs ((Context.of Gate.taggedSchema none).condition (.table (.root "Tag"))
        (worded "' OR '1'='1" "'" "")) [] 0 sql' scope n ∧
      sql.compile.params.length = 4 ∧ sql.compile.Reworded sql'.compile := by
  have hblank : (worded "Rome" "^R" "new").blank = (worded "' OR '1'='1" "'" "").blank := rfl
  obtain ⟨⟨sql, scope⟩, n, hrun, hcount⟩ := Compile.exists_runs_of_any (n := 0)
    (x := ((Context.of Gate.taggedSchema none).condition (.table (.root "Tag"))
      (worded "Rome" "^R" "new")).run [])
    (p := fun r => r.1.compile.params.length = 4) (by decide +kernel)
  have hstep := condition_reworded (.of Gate.taggedSchema none) (.table (.root "Tag")) hblank [] 0
  generalize hsecond : ((((Context.of Gate.taggedSchema none).condition (.table (.root "Tag"))
    (worded "' OR '1'='1" "'" "")).run []).run.run 0) = second at hstep
  obtain ⟨result, n'⟩ := second
  obtain ⟨hagree, hcounter⟩ := hstep
  rw [hrun] at hagree hcounter
  obtain rfl : n = n' := hcounter
  cases hagree with
  | @ok _ r h =>
    obtain ⟨sql', _⟩ := r
    obtain ⟨hreworded, rfl⟩ := h
    exact ⟨sql, sql', scope, n, hblank, hrun, hsecond, of_decide_eq_true hcount, hreworded⟩

end Context

end ObjectQuery
