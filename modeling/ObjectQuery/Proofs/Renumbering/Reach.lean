import ObjectQuery.Proofs.Renumbering.Runs

/-!
# Two ways to a value

Which column decides membership, which pointers are hopped over and what stands at the end of a route
is a matter of classes alone. So both runs go the same way to a value; they join a pointer of a class
of the schema both, or both find it joined.
-/

namespace ObjectQuery

namespace Offset

variable {ν : Offset} {owner owner' member member' : Target} {field : String}

/-! ## Membership -/

/-- The same column decides, of targets that correspond. -/
inductive Holdings (ν : Offset) : Holding → Holding → Prop where
  | pointer {holder holder' other other' : Target} (column : String) (h : ν.Targets holder holder')
    (hother : ν.Targets other other') :
    Holdings ν (.pointer holder column other) (.pointer holder' column other')
  | tokens {holder holder' other other' : Target} (column : String) (h : ν.Targets holder holder')
    (hother : ν.Targets other other') :
    Holdings ν (.tokens holder column other) (.tokens holder' column other')

theorem Holdings.sql {decides decides' : Holding} (h : ν.Holdings decides decides') :
    ν.Fragments decides.sql decides'.sql := by
  cases h with
  | pointer column h hother => simp [Holding.sql, h.column, hother.token]
  | tokens column h hother => simp [Holding.sql, h.column, hother.token]

theorem agree_holding (howner : ν.Targets owner owner') (hmember : ν.Targets member member')
    {seen : List (String × String)} :
    Result.Agree ν.Holdings (ν.schema.holding owner field member seen)
      (ν.schema.holding owner' field member' seen) := by
  -- only the classes of the two sides decide what is looked at next
  obtain ⟨className, label⟩ := owner'
  obtain rfl : owner.className = className := howner.className_eq
  fun_induction Schema.holding ν.schema owner field member seen generalizing label member' with
  | case1 =>
    rename_i hseen
    rw [Schema.holding, dif_pos hseen]
    exact .error _
  | case2 _ _ _ _ _ hseen | case5 _ _ _ _ _ hseen | case9 _ _ _ _ _ _ hseen
  | case10 _ _ _ _ _ _ hseen =>
    rw [Schema.holding, dif_neg hseen]
    split <;> simp_all
    exact .error _
  | case3 _ _ _ _ _ hseen =>
    rw [Schema.holding, dif_neg hseen]
    split <;> simp_all
    exact .ok (.pointer _ howner hmember)
  | case4 _ _ _ _ _ hseen =>
    rw [Schema.holding, dif_neg hseen]
    split <;> simp_all
    exact .ok (.tokens _ howner hmember)
  | case6 _ _ _ _ _ hseen =>
    rw [Schema.holding, dif_neg hseen]
    split <;> simp_all
    exact .ok (.pointer _ hmember howner)
  | case7 _ _ _ _ _ hseen =>
    rw [Schema.holding, dif_neg hseen]
    split <;> simp_all
    exact .ok (.tokens _ hmember howner)
  | case8 owner field member seen key hseen _ _ foreign =>
    rename_i ih
    have hstep : ν.schema.holding ⟨owner.className, label⟩ field member' seen =
        ν.schema.holding member' foreign ⟨owner.className, label⟩ (key :: seen) := by
      rw [Schema.holding, dif_neg hseen]
      split <;> simp_all [key]
    obtain ⟨className, label'⟩ := member'
    obtain rfl : member.className = className := hmember.className_eq
    rw [hstep]
    exact ih howner _ hmember

theorem agree_contains (howner : ν.Targets owner owner') (hmember : ν.Targets member member') :
    Result.Agree ν.Fragments (ν.schema.contains owner field member)
      (ν.schema.contains owner' field member') :=
  (agree_holding howner hmember).map fun _ _ h => h.sql

theorem memberOrder (howner : ν.Targets owner owner') (hmember : ν.Targets member member') :
    ν.Fragments (ν.schema.memberOrder owner field member)
      (ν.schema.memberOrder owner' field member') := by
  unfold Schema.memberOrder
  rw [← howner.className_eq]
  split
  next => simp [howner.column, hmember.token]
  next => exact hmember.column

/-- A context of the schema whose guards of targets that correspond agree. -/
structure Guards (ν : Offset) (ctx : Context) : Prop where
  schema : ctx.schema = ν.schema
  guard {t t' : Target} (h : ν.Targets t t') :
    ν.AgreeIn (Option.Rel ν.Fragments) (ctx.guard t) (ctx.guard t')

namespace Guards

variable {ctx : Context}

/-! ## Pointers -/

theorem joinSql {target target' : Target} {column : String} {guard guard' : Option Sql}
    {inner inner' : Scope} (howner : ν.Targets owner owner') (htarget : ν.Targets target target')
    (hguard : Option.Rel ν.Fragments guard guard') (hinner : ν.Scopes inner inner') :
    ν.Fragments (Context.joinSql owner column target guard inner)
      (Context.joinSql owner' column target' guard' inner') := by
  have htable : ν.Fragments (.table target.className target.label)
      (.table target'.className target'.label) := by
    rw [← htarget.className_eq]
    exact .table _ htarget.label
  cases hguard with
  | none => simp [Context.joinSql, howner.column, htarget.token, htable]
  | some hguard =>
    have hstar : ν.Fragments (.star target.label) (.star target'.label) := .star htarget.label
    simp [Context.joinSql, howner.column, htarget.token, htarget.label, hguard, hstar,
      hinner.clause htarget]

/-- A pointer is joined in both runs, or has been in both; an alias to use may be given. -/
theorem pointerJoin (hctx : ν.Guards ctx) (howner : ν.Targets owner owner')
    {column className : String}
    (htype : ν.schema.typeIn? owner.className column = some (.pointer className))
    {label label' : Option String} (hlabel : Option.Rel (DrawnApart ν.shift) label label') :
    ν.AgreeIn (fun t t' => ν.Targets t t' ∧ t.className = className)
      (ctx.pointerJoin owner column className label)
      (ctx.pointerJoin owner' column className label') := by
  obtain ⟨c, hc, -⟩ := Schema.typeIn?_eq_some.mp htype
  have hdistinct := howner.distinct (hc ▸ rfl)
  have hknown : (ν.schema.class? className).isSome = true := ν.accepted.known_of_typeIn? htype rfl
  unfold Context.pointerJoin
  refine .bind .get fun scope scope' hscope => ?_
  have hfound := hscope.label? hdistinct column
  generalize scope.label? owner.label column = found at hfound
  generalize scope'.label? owner'.label column = found' at hfound
  cases hfound with
  | some h => exact .pure ⟨.drawn hknown h, rfl⟩
  | none =>
    -- both ways to an alias go on alike
    cases hlabel
    case' some h => refine .bind (.pure (R := DrawnApart ν.shift) h) fun label label' hlabel => ?_
    case' none => refine .bind (.liftCompile .freshAlias) fun label label' hlabel => ?_
    all_goals
      have htarget : ν.Targets ⟨className, label⟩ ⟨className, label'⟩ := .drawn hknown hlabel
      refine .bind (.inNewScope (hctx.guard htarget)) ?_
      rintro ⟨guard, inner⟩ ⟨guard', inner'⟩ ⟨hguard, hinner⟩
      refine .bind (.modify fun scope scope' hscope => ?_) fun _ _ _ => .pure ⟨htarget, rfl⟩
      exact List.rel_append hscope
        (.cons ⟨hdistinct, rfl, hlabel, joinSql howner htarget hguard hinner⟩ .nil)

/-- Where the pointer hops of a route end, and what is left of it. -/
theorem locate (hctx : ν.Guards ctx) (howner : ν.Targets owner owner') (route : Route)
    (hroute : route.Fits ν.schema owner.className) :
    ν.AgreeIn (fun r r' => ν.Targets r.1 r'.1 ∧ r.2 = r'.2 ∧ r.2.Fits ν.schema r.1.className)
      (ctx.locate owner route) (ctx.locate owner' route) := by
  induction route generalizing owner owner' with
  | hop column className next ih =>
    unfold Context.locate
    refine .bind (hctx.pointerJoin howner hroute.1 .none) ?_
    rintro target target' ⟨htarget, rfl⟩
    exact ih htarget hroute.2
  | refused e => exact .throw
  | column | json | vectorElement | relationElement => exact .pure ⟨howner, rfl, hroute⟩

/-! ## Members -/

/-- The conditions on the members that are visible. -/
theorem memberConditions (hctx : ν.Guards ctx) (howner : ν.Targets owner owner')
    (hmember : ν.Targets member member') :
    ν.AgreeIn (List.Forall₂ ν.Fragments) (ctx.memberConditions owner field member)
      (ctx.memberConditions owner' field member') := by
  unfold Context.memberConditions
  rw [hctx.schema]
  refine .bind (.lift (agree_contains howner hmember)) fun _ _ hcontained => ?_
  refine .bind (hctx.guard hmember) fun guard guard' hguard => .pure (.cons hcontained ?_)
  cases hguard with
  | none => exact .nil
  | some h => exact .cons h .nil

theorem relationTokens (hctx : ν.Guards ctx) (howner : ν.Targets owner owner') {className : String}
    (hknown : (ν.schema.class? className).isSome = true) :
    ν.Agree ν.Fragments (ctx.relationTokens owner field className)
      (ctx.relationTokens owner' field className) := by
  unfold Context.relationTokens
  rw [hctx.schema]
  refine .bind (.freshTarget hknown) ?_
  rintro member member' ⟨hmember, -⟩
  refine .bind (.inNewScope (hctx.memberConditions howner hmember)) ?_
  rintro ⟨conditions, inner⟩ ⟨conditions', inner'⟩ ⟨hconditions, hinner⟩
  refine .pure ?_
  simp [hmember.token, hinner.clause hmember, Sql.alike_and hconditions,
    memberOrder howner hmember]

theorem oneRow {order order' : Sql} {position : Nat} (h : ν.Fragments order order') :
    ν.Fragments (Context.oneRow order position) (Context.oneRow order' position) := by
  simp [Context.oneRow, h]

/-! ## Values -/

/-- The value at the end of a route that fits the schema. -/
theorem operandAt (hctx : ν.Guards ctx) (howner : ν.Targets owner owner') (route : Route)
    (hroute : route.Fits ν.schema owner.className) :
    ν.AgreeIn (Operand.Alike ν.Labels) (ctx.operandAt owner route) (ctx.operandAt owner' route) := by
  induction route generalizing owner owner' with
  | refused e =>
    unfold Context.operandAt
    exact .throw
  | hop column className next ih =>
    unfold Context.operandAt
    refine .bind (hctx.pointerJoin howner hroute.1 .none) ?_
    rintro target target' ⟨htarget, rfl⟩
    exact ih htarget hroute.2
  | column name ty =>
    unfold Context.operandAt
    split
    next className foreign =>
      have hknown := ν.accepted.known_of_typeIn? hroute rfl
      exact .bind (.liftCompile (hctx.relationTokens howner hknown)) fun _ _ h => .pure (.mk _ h)
    next => exact .lift (Operand.alike_ofColumn howner.column)
  | json column keys =>
    unfold Context.operandAt
    exact .pure (.mk _ (Sql.alike_jsonAt.mpr howner.column))
  | vectorElement column position =>
    unfold Context.operandAt
    exact .pure (.mk _ (by simp [howner.column]))
  | relationElement column className position next ih =>
    obtain ⟨⟨foreign, htype⟩, hnext⟩ := hroute
    have hknown := ν.accepted.known_of_typeIn? htype rfl
    unfold Context.operandAt
    rw [hctx.schema]
    refine .bind (.liftCompile (.freshTarget hknown)) ?_
    rintro member member' ⟨hmember, rfl⟩
    refine .bind (.inNewScope (R := fun r r' : Operand × List Sql =>
      r.1.Alike ν.Labels r'.1 ∧ List.Forall₂ ν.Fragments r.2 r'.2) ?_) ?_
    · refine .bind (ih hmember hnext) fun value value' hvalue => ?_
      exact .bind (hctx.memberConditions howner hmember) fun _ _ h => .pure ⟨hvalue, h⟩
    · rintro ⟨⟨value, conditions⟩, inner⟩ ⟨⟨value', conditions'⟩, inner'⟩
        ⟨⟨hvalue, hconditions⟩, hinner⟩
      have hsql := hvalue.sql
      obtain ⟨type, -⟩ := hvalue
      refine .pure (.mk type ?_)
      simp [hsql, hinner.clause hmember, Sql.alike_and hconditions,
        oneRow (memberOrder howner hmember)]

theorem elementOperand {element element' : Operand} {path : String}
    (h : element.Alike ν.Labels element') :
    Result.Agree (Operand.Alike ν.Labels) (Context.elementOperand element path)
      (Context.elementOperand element' path) := by
  obtain ⟨type, h⟩ := h
  unfold Context.elementOperand
  split
  next => exact .ok (.mk type h)
  next =>
    dsimp only
    split
    next =>
      refine (Result.Agree.refl (Path.parse path)).bind ?_
      rintro segments _ ⟨rfl, -⟩
      exact .ok (.mk _ (Sql.alike_jsonAt.mpr h))
    next => exact .error _

/-- The value of a key. -/
theorem operand (hctx : ν.Guards ctx) {frame frame' : Frame} (hframe : ν.Frames frame frame')
    {path : String} :
    ν.AgreeIn (Operand.Alike ν.Labels) (ctx.operand frame path) (ctx.operand frame' path) := by
  unfold Context.operand
  cases hframe with
  | element h => exact .lift (elementOperand h)
  | table h =>
    dsimp only
    rw [← h.className_eq, hctx.schema]
    split
    next => exact .pure (.mk _ h.token)
    next => exact hctx.operandAt h _ ν.accepted.route_fits

end Guards

end Offset

end ObjectQuery
