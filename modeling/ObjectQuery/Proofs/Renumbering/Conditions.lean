import ObjectQuery.Proofs.Renumbering.Reach
import ObjectQuery.Proofs.Renumbering.Terms

/-!
# Two conditions

A filter is compiled along its tree, each key of it in the frame that its run is in at that place. The
guards of joined classes are filters in turn: they agree by induction on the depth they have left, and
where that is used up both runs are refused.
-/

namespace ObjectQuery

namespace Offset

variable {ν : Offset} {ctx : Context} {frame frame' : Frame}

/-- Filters that agree, whatever their keys refer to. -/
def Filters (ν : Offset) (filter filter' : Frame → InScope Sql) : Prop :=
  ∀ frame frame', ν.Frames frame frame' → ν.AgreeIn ν.Fragments (filter frame) (filter' frame')

namespace Guards

/-! ## Expressions -/

theorem dimension?_eq (hframe : ν.Frames frame frame') (e : Expr) :
    ctx.dimension? frame e = ctx.dimension? frame' e := by
  cases hframe with
  | element h => rfl
  | table h =>
    cases e with
    | key path => simp only [Context.dimension?, h.className_eq]
    | value _ | array _ | not _ | connective _ _ | comparison _ _ _ | measure _ _ _ => rfl

mutual

theorem term (hctx : ν.Guards ctx) (hframe : ν.Frames frame frame') : ∀ e : Expr,
    ν.AgreeIn (Term.Alike ν.Labels) (ctx.term frame e) (ctx.term frame' e)
  | .key path => by
    unfold Context.term
    exact .bind (hctx.operand hframe) fun _ _ h => .pure (.operand h)
  | .value v => by
    unfold Context.term
    exact .pure (.constant v)
  | .array items => by
    unfold Context.term
    exact .bind (terms hctx hframe items) fun _ _ h => .pure (Term.alike_array h)
  | .not e => by
    unfold Context.term
    refine .bind (term hctx hframe e) fun _ _ h => .pure (.operand (.mk _ ?_))
    exact Sql.alike_not.mpr (Term.alike_truth h)
  | .connective op items => by
    unfold Context.term
    refine .bind (terms hctx hframe items) fun _ _ h => .pure (.operand (.mk _ ?_))
    exact Connective.alike_sql (List.rel_map (fun _ _ => (Term.alike_truth ·)) h)
  | .comparison op l r => by
    unfold Context.term
    refine .bind (term hctx hframe l) fun _ _ hl => .bind (term hctx hframe r) fun _ _ hr => ?_
    exact .pure (.operand (.mk _ (Term.alike_compare hl hr)))
  | .measure m l r => by
    unfold Context.term
    refine .bind (vector hctx hframe l) fun _ _ hl => .bind (vector hctx hframe r) fun _ _ hr => ?_
    exact .pure (.operand (.mk _ (Measure.alike_sql hl hr)))

theorem terms (hctx : ν.Guards ctx) (hframe : ν.Frames frame frame') : ∀ es : List Expr,
    ν.AgreeIn (List.Forall₂ (Term.Alike ν.Labels)) (ctx.terms frame es) (ctx.terms frame' es)
  | [] => by
    unfold Context.terms
    exact .pure .nil
  | e :: es => by
    unfold Context.terms
    refine .bind (term hctx hframe e) fun _ _ h => .bind (terms hctx hframe es) fun _ _ hs => ?_
    exact .pure (.cons h hs)

theorem vector (hctx : ν.Guards ctx) (hframe : ν.Frames frame frame') : ∀ es : List Expr,
    ν.AgreeIn ν.Fragments (ctx.vector frame es) (ctx.vector frame' es)
  | [] => by
    unfold Context.vector
    exact .bind (elements hctx hframe []) fun _ _ h => .pure (Vector.alike_ofElements h)
  | [e] => by
    unfold Context.vector
    refine .bind (term hctx hframe e) fun _ _ h => ?_
    rw [dimension?_eq hframe]
    exact .lift (Vector.alike_ofTerm h)
  | e₁ :: e₂ :: es => by
    unfold Context.vector
    exact .bind (elements hctx hframe (e₁ :: e₂ :: es)) fun _ _ h =>
      .pure (Vector.alike_ofElements h)

theorem elements (hctx : ν.Guards ctx) (hframe : ν.Frames frame frame') : ∀ es : List Expr,
    ν.AgreeIn (List.Forall₂ ν.Fragments) (ctx.elements frame es) (ctx.elements frame' es)
  | [] => by
    unfold Context.elements
    exact .pure .nil
  | e :: es => by
    unfold Context.elements
    refine .bind (term hctx hframe e) fun _ _ h => ?_
    refine .bind (.lift (Vector.alike_elementOfTerm h)) fun _ _ hsql => ?_
    exact .bind (elements hctx hframe es) fun _ _ hs => .pure (.cons hsql hs)

end

/-! ## Filters for elements -/

/-- The visible members of a relation. -/
theorem overMembers (hctx : ν.Guards ctx) {owner owner' : Target} (howner : ν.Targets owner owner')
    {field className : String} (hknown : (ν.schema.class? className).isSome = true) {every : Bool}
    {filter filter' : Frame → InScope Sql} (hfilter : ν.Filters filter filter') :
    ν.AgreeIn ν.Fragments (ctx.overMembers owner field className every filter)
      (ctx.overMembers owner' field className every filter') := by
  unfold Context.overMembers
  refine .bind (.liftCompile (.freshTarget hknown)) ?_
  rintro member member' ⟨hmember, -⟩
  refine .bind (.inNewScope (R := fun r r' : Sql × List Sql =>
    ν.Fragments r.1 r'.1 ∧ List.Forall₂ ν.Fragments r.2 r'.2) ?_) ?_
  · refine .bind (hfilter _ _ (.table hmember)) fun _ _ hcondition => ?_
    exact .bind (hctx.memberConditions howner hmember) fun _ _ h => .pure ⟨hcondition, h⟩
  · rintro ⟨⟨condition, conditions⟩, inner⟩ ⟨⟨condition', conditions'⟩, inner'⟩
      ⟨⟨hcondition, hconditions⟩, hinner⟩
    exact .pure (Context.alike_quantified (hinner.clause hmember) hconditions hcondition)

/-- The elements of an array. -/
theorem overElements {o o' : Operand} (h : o.Alike ν.Labels o') {path : String} {every : Bool}
    {filter filter' : Frame → InScope Sql} (hfilter : ν.Filters filter filter') :
    ν.AgreeIn ν.Fragments (Context.overElements o path every filter)
      (Context.overElements o' path every filter') := by
  unfold Context.overElements
  refine .bind (.liftCompile .freshAlias) fun label label' hlabel => ?_
  have hlabel : ν.Labels label label' := .drawn hlabel
  have hrows := Context.alike_elementsOf? h
  generalize Context.elementsOf? o = rows at hrows
  generalize Context.elementsOf? o' = rows' at hrows
  cases hrows with
  | none => exact .throw
  | @some r r' hrows =>
    obtain ⟨rows, type⟩ := r
    obtain ⟨rows', _⟩ := r'
    obtain ⟨hrows, rfl⟩ := hrows
    dsimp only
    have helement : ν.Frames (.element ⟨.column label Context.elementColumn, type⟩)
        (.element ⟨.column label' Context.elementColumn, type⟩) :=
      .element (.mk type (.column _ hlabel))
    refine .bind (.inNewScope (hfilter _ _ helement)) ?_
    rintro ⟨condition, _⟩ ⟨condition', _⟩ ⟨hcondition, -⟩
    have htest : ν.Fragments
        (Context.quantified every
          (.seq [rows, " AS ", .binder label, "(", .ident Context.elementColumn, ")"]) [] condition)
        (Context.quantified every
          (.seq [rows', " AS ", .binder label', "(", .ident Context.elementColumn, ")"]) []
          condition') :=
      Context.alike_quantified (by simp [hrows, hlabel]) .nil hcondition
    obtain ⟨kind, h⟩ := h
    dsimp only
    split
    next =>
      refine .pure ?_
      split
      next => exact Sql.alike_and (.cons (Context.alike_isListOrNull h) (.cons htest .nil))
      next => exact htest
    next => exact .pure htest

theorem quantify (hctx : ν.Guards ctx) (hframe : ν.Frames frame frame') {path : String}
    {every : Bool} {filter filter' : Frame → InScope Sql} (hfilter : ν.Filters filter filter') :
    ν.AgreeIn ν.Fragments (ctx.quantify frame path every filter)
      (ctx.quantify frame' path every filter') := by
  unfold Context.quantify
  cases hframe with
  | element h => exact .bind (.lift (elementOperand h)) fun _ _ ho => overElements ho hfilter
  | @table owner owner' howner =>
    dsimp only
    split
    next => exact .bind (hctx.operand (.table howner)) fun _ _ ho => overElements ho hfilter
    next =>
      rw [← howner.className_eq, hctx.schema]
      refine .bind (hctx.locate howner _ ν.accepted.route_fits) ?_
      rintro ⟨owner, route⟩ ⟨owner', _⟩ ⟨howner, rfl, hroute⟩
      dsimp only at howner hroute ⊢
      split
      next field className foreign =>
        exact hctx.overMembers howner (ν.accepted.known_of_typeIn? hroute rfl) hfilter
      next =>
        exact .bind (hctx.operandAt howner route hroute) fun _ _ ho => overElements ho hfilter

/-! ## Filters -/

theorem operandTest (hctx : ν.Guards ctx) (hframe : ν.Frames frame frame') {path : String}
    (t : FieldTest) :
    ν.AgreeIn ν.Fragments (do (← ctx.operand frame path).test t)
      (do (← ctx.operand frame' path).test t) :=
  .bind (hctx.operand hframe) fun _ _ ho => .lift (Operand.alike_test ho t)

mutual

theorem test (hctx : ν.Guards ctx) {frame frame' : Frame} (hframe : ν.Frames frame frame')
    {path : String} : ∀ t : FieldTest,
      ν.AgreeIn ν.Fragments (ctx.test frame path t) (ctx.test frame' path t)
  | .every f => by
    unfold Context.test
    exact hctx.quantify hframe fun _ _ hinner => condition hctx hinner f
  | .any f => by
    unfold Context.test
    exact hctx.quantify hframe fun _ _ hinner => condition hctx hinner f
  | .not t => by
    unfold Context.test
    split
    next => exact .bind (test hctx hframe t) fun _ _ h => .pure (Sql.alike_not.mpr h)
    next => exact hctx.operandTest hframe (.not t)
  | .compare .. | .oneOf _ | .noneOf _ | .subset _ | .superset _ | .intersect _ | .pattern ..
  | .startsWith _ | .endsWith _ | .size _ | .empty _ => by
    unfold Context.test
    exact hctx.operandTest hframe _

/-- The same filter gives conditions that correspond. -/
theorem condition (hctx : ν.Guards ctx) {frame frame' : Frame} (hframe : ν.Frames frame frame') :
    ∀ f : Filter, ν.AgreeIn ν.Fragments (ctx.condition frame f) (ctx.condition frame' f)
  | .connective op items => by
    unfold Context.condition
    exact .bind (conditions hctx hframe items) fun _ _ h => .pure (Connective.alike_sql h)
  | .field path t => by
    unfold Context.condition
    exact test hctx hframe t
  | .expr e => by
    unfold Context.condition
    exact .bind (hctx.term hframe e) fun _ _ h => .pure (Term.alike_truth h)

theorem conditions (hctx : ν.Guards ctx) {frame frame' : Frame} (hframe : ν.Frames frame frame') :
    ∀ fs : List Filter,
      ν.AgreeIn (List.Forall₂ ν.Fragments) (ctx.conditions frame fs) (ctx.conditions frame' fs)
  | [] => by
    unfold Context.conditions
    exact .pure .nil
  | f :: fs => by
    unfold Context.conditions
    refine .bind (condition hctx hframe f) fun _ _ h => ?_
    exact .bind (conditions hctx hframe fs) fun _ _ hs => .pure (.cons h hs)

end

/-- The filter that is asked for on members. -/
theorem memberFilter (hctx : ν.Guards ctx) (hframe : ν.Frames frame frame') {query : BaseQuery} :
    ν.AgreeIn (List.Forall₂ ν.Fragments) (ctx.memberFilter frame query)
      (ctx.memberFilter frame' query) := by
  unfold Context.memberFilter
  split
  next => exact .pure .nil
  next => exact .bind (hctx.condition hframe _) fun _ _ h => .pure (.cons h .nil)

end Guards

/-! ## Guards -/

/-- The conditions on joined classes agree, at whatever depth they have to end. -/
theorem guards_within (filters : Option ClassFilter) (depth : Nat) :
    ν.Guards ⟨ν.schema, guardWithin ν.schema filters depth⟩ := by
  induction depth with
  | zero =>
    refine ⟨rfl, fun {t t'} h => ?_⟩
    dsimp only
    unfold guardWithin
    rw [← h.className_eq]
    split
    next => exact .pure .none
    next =>
      dsimp only
      split
      next => exact .pure .none
      next => exact .throw
  | succ depth ih =>
    refine ⟨rfl, fun {t t'} h => ?_⟩
    dsimp only
    unfold guardWithin
    rw [← h.className_eq]
    split
    next => exact .pure .none
    next filters =>
      dsimp only
      split
      next => exact .pure .none
      next => exact .bind (ih.condition (.table h) _) fun _ _ hsql => .pure (.some hsql)

theorem guards_of (filters : Option ClassFilter) : ν.Guards (.of ν.schema filters) :=
  guards_within filters _

end Offset

end ObjectQuery
