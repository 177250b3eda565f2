import ObjectQuery.Proofs.Sql.Predicate
import ObjectQuery.Proofs.Statement.Pieces
import ObjectQuery.Proofs.Statement.Runs

/-!
# What is reached is read as one piece

A path is compiled to one piece: a column, a document or an element taken out of one, an array or a value
that a subquery finds. Whatever conditions are part of such a subquery close their brackets, and so do the
joins that a compilation adds; a filter over elements closes its own if the filter does.
-/

namespace ObjectQuery

open Sql
open Token (scan_append)

/-! ## Runs that add joins -/

/-- A compilation adds no joins but such as close their brackets, and what it gives is as stated. -/
def InScope.Adds (x : InScope α) (Q : α → Prop) : Prop :=
  ∀ ⦃scope n a scope' n'⦄, Runs x scope n a scope' n' →
    (∃ more : Scope, scope' = scope ++ more ∧ ∀ j ∈ more, j.sql.Balanced) ∧ Q a

namespace InScope.Adds

variable {α β : Type} {Q R : α → Prop}

/-- What leaves the joins as they are adds none. -/
theorem of_same {x : InScope α}
    (h : ∀ ⦃scope n a scope' n'⦄, Runs x scope n a scope' n' → scope = scope' ∧ Q a) :
    Adds x Q := by
  intro scope n a scope' n' hrun
  obtain ⟨rfl, ha⟩ := h hrun
  exact ⟨⟨[], (List.append_nil _).symm, nofun⟩, ha⟩

/-- What is returned at once adds no join. -/
theorem pure {a : α} (h : Q a) : Adds (pure a) Q :=
  of_same fun _ _ _ _ _ hrun => by
    obtain ⟨rfl, rfl, -⟩ := runs_pure.mp hrun
    exact ⟨rfl, h⟩

/-- A refusal adds no join. -/
theorem throw {e : Error} : Adds (throw e : InScope α) Q :=
  fun _ _ _ _ _ hrun => (not_runs_throw hrun).elim

/-- A computation without joins adds none. -/
theorem lift {r : Result α} (h : ∀ a, r = .ok a → Q a) : Adds (liftM r) Q :=
  of_same fun _ _ a _ _ hrun => by
    obtain ⟨ha, rfl, -⟩ := runs_lift.mp hrun
    exact ⟨rfl, h a ha⟩

/-- What does not look at the joins adds none. -/
theorem liftCompile {x : Compile α} (h : Compile.Yields x Q) : Adds (liftM x) Q :=
  of_same fun _ _ _ _ _ hrun => by
    obtain ⟨hx, rfl⟩ := runs_liftCompile.mp hrun
    exact ⟨rfl, h hx⟩

/-- Looking at the joins adds none. -/
theorem get : Adds get fun _ => True :=
  of_same fun _ _ _ _ _ hrun => by
    cases hrun
    exact ⟨rfl, trivial⟩

/-- What adds balanced joins goes on with what does, said of results of its kind. -/
theorem bind {x : InScope α} {f : α → InScope β} {Q : β → Prop} (hx : Adds x R)
    (hf : ∀ a, R a → Adds (f a) Q) : Adds (x >>= f) Q := by
  intro scope n b scope' n' hrun
  obtain ⟨a, mid, m, hrx, hrf⟩ := runs_bind.mp hrun
  obtain ⟨⟨first, rfl, hfirst⟩, ha⟩ := hx hrx
  obtain ⟨⟨last, rfl, hlast⟩, hb⟩ := hf a ha hrf
  exact ⟨⟨first ++ last, List.append_assoc .., List.forall_mem_append.mpr ⟨hfirst, hlast⟩⟩, hb⟩

/-- A join that closes its brackets may be added. -/
theorem join {j : Join} (h : j.sql.Balanced) : Adds (modify (· ++ [j])) fun _ => True := by
  intro scope n a scope' n' hrun
  cases hrun
  exact ⟨⟨[j], rfl, List.forall_mem_singleton.mpr h⟩, trivial⟩

/-- A query of its own has the joins that are added to it. -/
theorem inNewScope {x : InScope α} (h : Adds x Q) :
    Compile.Yields (ObjectQuery.inNewScope x) fun r => (∀ j ∈ r.2, j.sql.Balanced) ∧ Q r.1 := by
  intro n r n' hrun
  obtain ⟨⟨more, hscope, hmore⟩, hr⟩ := h (Compile.runs_inNewScope.mp hrun)
  rw [List.nil_append] at hscope
  exact ⟨hscope ▸ hmore, hr⟩

/-- What is given by a compilation is as it is said to be, for it starts without joins. -/
theorem gives {x : InScope α} (h : Adds x Q) {a : α} (ha : Gives x a) : Q a := by
  obtain ⟨_, _, _, _, hrun⟩ := ha
  exact (h hrun).2

end InScope.Adds

open InScope

/-! ## Targets and members -/

/-- The token of a target is called for, so it is one piece. -/
theorem Target.primary_token {t : Target} : t.token.Primary :=
  primary_group_seq [.str (objectToken t.className ""), " || ", t.column Field.id] fun _ => rfl

/-- A table closes its brackets. -/
theorem Target.balanced_table {t : Target} : t.table.Balanced := by
  unfold table
  split <;> exact fun _ => rfl

/-- A table with balanced joins behind it closes its brackets. -/
theorem Scope.balanced_joined {scope : Scope} {table : Sql} (h : ∀ j ∈ scope, j.sql.Balanced)
    (htable : table.Balanced) : (scope.joined table).Balanced := by
  have hspace : (raw " ").Balanced := fun _ => rfl
  refine balanced_seq (List.forall_mem_cons.mpr ⟨htable, List.forall_mem_flatMap.mpr fun j hj => ?_⟩)
  exact List.forall_mem_cons.mpr ⟨hspace, List.forall_mem_singleton.mpr (h j hj)⟩

/-- What makes an object a member of another closes its brackets. -/
theorem Holding.balanced_sql (h : Holding) : h.sql.Balanced := by
  intro stack
  cases h <;>
  · simp only [sql, Target.column, Sql.tokens, seqTokens, scan_append,
      Target.primary_token.balanced.scan]
    rfl

/-- The order of members closes its brackets. -/
theorem Schema.balanced_memberOrder {s : Schema} {owner member : Target} {field : String} :
    (s.memberOrder owner field member).Balanced := by
  unfold memberOrder
  split
  · intro stack
    simp only [Target.column, tokens, seqTokens, scan_append, Target.primary_token.balanced.scan]
    rfl
  · exact primary_column.balanced

namespace Context

/-- A subquery for one row closes its brackets, if its order does. -/
theorem balanced_oneRow {order : Sql} {position : Nat} (h : order.Balanced) :
    (oneRow order position).Balanced := by
  have hbounds : (Sql.seq [" LIMIT 1 OFFSET ", raw (toString position)]).Balanced :=
    balanced_pair (fun _ => rfl) balanced_number
  have hlead : (raw " ORDER BY ").Balanced := fun _ => rfl
  exact balanced_seq (List.forall_mem_cons.mpr ⟨hlead, List.forall_mem_cons.mpr ⟨h,
    List.forall_mem_singleton.mpr hbounds⟩⟩)

/-- A join of a pointer closes its brackets, if the guard and the joins inside do. -/
theorem balanced_joinSql {owner target : Target} {column : String} {guard : Option Sql}
    {inner : Scope} (hguard : ∀ p ∈ guard, p.Balanced) (hinner : ∀ j ∈ inner, j.sql.Balanced) :
    (joinSql owner column target guard inner).Balanced := by
  have htoken : target.token.Balanced := Target.primary_token.balanced
  cases guard with
  | none =>
    intro stack
    simp only [joinSql, Target.column, tokens, seqTokens, scan_append, htoken.scan]
    rfl
  | some p =>
    have hrows : (select (.star target.label) (inner.clause target) p .empty).Balanced :=
      balanced_select (fun _ => rfl) (Scope.balanced_joined hinner Target.balanced_table)
        (hguard p rfl) Token.balanced_nil
    intro stack
    simp only [joinSql, Target.column, tokens, seqTokens, scan_append, htoken.scan, hrows.scan]
    rfl

/-! ## Values -/

variable {ctx : Context}

/-- The guards of a context close their brackets. -/
def GuardsBalanced (ctx : Context) : Prop :=
  ∀ t, Adds (ctx.guard t) fun guard => ∀ p ∈ guard, p.Balanced

section

variable (hguard : ctx.GuardsBalanced)

include hguard

/-- A pointer is joined with brackets that it closes, and once only. -/
theorem adds_pointerJoin {owner : Target} {column className : String} {label : Option String} :
    Adds (ctx.pointerJoin owner column className label) fun _ => True := by
  unfold pointerJoin
  refine .bind .get fun scope _ => ?_
  split
  next => exact .pure trivial
  next =>
    cases label
    case' some label => refine .bind (.pure (Q := fun _ => True) trivial) fun label _ => ?_
    case' none => refine .bind (.liftCompile .any) fun label _ => ?_
    all_goals
      refine .bind (.liftCompile (hguard _).inNewScope) ?_
      rintro ⟨guard, inner⟩ ⟨hinner, hconditions⟩
      exact .bind (.join (balanced_joinSql hconditions hinner)) fun _ _ => .pure trivial

/-- The place of a path is found with the joins of its pointers. -/
theorem adds_locate {owner : Target} (route : Route) :
    Adds (ctx.locate owner route) fun _ => True := by
  induction route generalizing owner with
  | hop column className next ih =>
    unfold locate
    exact .bind (adds_pointerJoin hguard) fun _ _ => ih
  | refused e => exact .throw
  | column | json | vectorElement | relationElement => exact .pure trivial

/-- The conditions on members close their brackets. -/
theorem adds_memberConditions {owner member : Target} {field : String} :
    Adds (ctx.memberConditions owner field member) fun conditions =>
      ∀ c ∈ conditions, c.Balanced := by
  unfold memberConditions
  refine .bind (.lift (Q := Sql.Balanced) fun sql h => ?_) fun contained hcontained => ?_
  · obtain ⟨holding, -, rfl⟩ := Result.map_eq_ok.mp h
    exact holding.balanced_sql
  · refine .bind (hguard member) fun guard hconditions => .pure ?_
    exact List.forall_mem_cons.mpr ⟨hcontained, fun p hp => hconditions p (Option.mem_toList.mp hp)⟩

/-- The tokens of a relation are one piece: a column, or an array of what a subquery finds. -/
theorem primary_relationTokens {owner : Target} {field className : String} :
    (ctx.relationTokens owner field className).Yields Sql.Primary := by
  unfold relationTokens
  refine .bind .any fun member _ => ?_
  refine .bind (adds_memberConditions hguard).inNewScope ?_
  rintro ⟨conditions, inner⟩ ⟨hinner, hconditions⟩
  refine .pure ?_
  have htail : (Sql.seq [" ORDER BY ", ctx.schema.memberOrder owner field member]).Balanced :=
    balanced_pair (fun _ => rfl) Schema.balanced_memberOrder
  have hrows := balanced_select (Target.primary_token (t := member)).balanced
    (Scope.balanced_joined hinner (Target.balanced_table (t := member))) (balanced_and hconditions)
    htail
  refine primary_call "ARRAY" (by decide) hrows ?_
  simp only [Scope.clause, tokens, seqTokens, List.append_nil]
  rfl

/-- The value at the end of a route is one piece. -/
theorem adds_operandAt {owner : Target} (route : Route) :
    Adds (ctx.operandAt owner route) fun o => o.sql.Primary := by
  induction route generalizing owner with
  | refused e => exact .throw
  | hop column className next ih =>
    unfold operandAt
    exact .bind (adds_pointerJoin hguard) fun _ _ => ih
  | column name ty =>
    unfold operandAt
    split
    next =>
      exact .bind (.liftCompile (primary_relationTokens hguard)) fun _ h => .pure h
    next =>
      refine .lift fun o h => ?_
      rw [Operand.ofColumn_sql h]
      exact primary_column
  | json column keys =>
    unfold operandAt
    exact .pure (primary_jsonAt primary_column.balanced)
  | vectorElement column position =>
    unfold operandAt
    have hcolumn : (owner.column column).parens.Primary := primary_parens primary_column.balanced
    have helement := Token.Primary.subscript hcolumn (balanced_number (n := position + 1))
    refine .pure ?_
    change Token.Primary (Sql.seq [(owner.column column).parens,
      .seq [.seq ["[", raw (toString (position + 1))], "]"]]).tokens
    simp only [tokens, seqTokens, List.append_assoc, List.append_nil]
    exact helement
  | relationElement column className position next ih =>
    unfold operandAt
    refine .bind (.liftCompile .any) fun member _ => ?_
    refine .bind (.liftCompile (InScope.Adds.inNewScope
      (Q := fun r : Operand × List Sql => r.1.sql.Primary ∧ ∀ c ∈ r.2, c.Balanced) ?_)) ?_
    · refine .bind ih fun value hvalue => ?_
      exact .bind (adds_memberConditions hguard) fun conditions hconditions =>
        .pure ⟨hvalue, hconditions⟩
    · rintro ⟨⟨value, conditions⟩, inner⟩ ⟨hinner, hvalue, hconditions⟩
      have htail : (oneRow (ctx.schema.memberOrder owner column member) position).Balanced :=
        balanced_oneRow Schema.balanced_memberOrder
      have hrow := balanced_select hvalue.balanced
        (Scope.balanced_joined hinner (Target.balanced_table (t := member)))
        (balanced_and hconditions) htail
      refine .pure (primary_group_seq [.block _] ?_)
      exact balanced_seq (List.forall_mem_singleton.mpr hrow)

end

/-- The value of a key inside an element is one piece if the element is. -/
theorem primary_elementOperand {element o : Operand} {path : String} (h : element.sql.Primary)
    (ho : elementOperand element path = .ok o) : o.sql.Primary := by
  unfold elementOperand at ho
  split at ho
  next =>
    cases ho
    exact h
  next =>
    split at ho
    next =>
      obtain ⟨segments, -, ho⟩ := Result.bind_eq_ok.mp ho
      cases ho
      exact primary_jsonAt h.balanced
    next => cases ho

end Context

/-- An element of an array is one piece; the fields of an object are read through its alias. -/
def Frame.Primary : Frame → Prop
  | .table _ => True
  | .element o => o.sql.Primary

/-- The frames that the compiler makes of elements read a column. -/
theorem Frame.primary_element {label : String} {type : OperandType} :
    (Frame.element ⟨.column label Context.elementColumn, type⟩).Primary :=
  primary_column

namespace Context

variable {ctx : Context} {frame : Frame}

/-- A path is compiled to one piece. -/
theorem adds_operand (hguard : ctx.GuardsBalanced) (hframe : frame.Primary) {path : String} :
    Adds (ctx.operand frame path) fun o => o.sql.Primary := by
  unfold operand
  split
  next element => exact .lift fun o h => primary_elementOperand hframe h
  next owner =>
    split
    next => exact .pure Target.primary_token
    next => exact adds_operandAt hguard _

/-! ## Filters for elements -/

/-- A condition on the members of a relation closes its brackets. -/
theorem balanced_quantified {every : Bool} {source condition : Sql} {conditions : List Sql}
    (hsource : source.Balanced) (hconditions : ∀ c ∈ conditions, c.Balanced)
    (hcondition : condition.Balanced) : (quantified every source conditions condition).Balanced := by
  have hexists : ∀ extra : Sql, extra.Balanced →
      (existsIn source (conditions ++ [extra])).Balanced := fun extra hextra =>
    balanced_existsIn hsource
      (List.forall_mem_append.mpr ⟨hconditions, List.forall_mem_singleton.mpr hextra⟩)
  unfold quantified
  split
  · exact balanced_pair (fun _ => rfl) (hexists _ (balanced_not hcondition))
  · exact hexists _ hcondition

/-- The elements of a primary operand close their brackets. -/
theorem balanced_elementsOf? {o : Operand} {rows : Sql} {type : OperandType}
    (ho : o.sql.Balanced) (h : elementsOf? o = some (rows, type)) : rows.Balanced := by
  have hunnest : (unnest o.sql).Balanced := by
    intro stack
    simp only [unnest, tokens, seqTokens, scan_append, ho.scan]
    rfl
  unfold elementsOf? at h
  split at h
  case h_4 =>
    cases h
    intro stack
    simp only [unnestJson, tokens, seqTokens, scan_append, ho.scan, (balanced_jsonIs ho).scan]
    rfl
  case h_5 => cases h
  all_goals
    cases h
    exact hunnest

/-- A test for a list, or for nothing, closes its brackets. -/
theorem balanced_isListOrNull {sql : Sql} (h : sql.Balanced) : (isListOrNull sql).Balanced := by
  intro stack
  simp only [isListOrNull, tokens, seqTokens, scan_append, h.scan]
  rfl

section

variable {every : Bool} {filter : Frame → InScope Sql}
  (hfilter : ∀ frame : Frame, frame.Primary → Adds (filter frame) Sql.Balanced)

include hfilter

/-- A filter over members closes its brackets if the filter does, and with it their guard. -/
theorem adds_overMembers (hguard : ctx.GuardsBalanced) {owner : Target} {field className : String} :
    Adds (ctx.overMembers owner field className every filter) Sql.Balanced := by
  unfold overMembers
  refine .bind (.liftCompile .any) fun member _ => ?_
  refine .bind (.liftCompile (InScope.Adds.inNewScope
    (Q := fun r : Sql × List Sql => r.1.Balanced ∧ ∀ c ∈ r.2, c.Balanced) ?_)) ?_
  · refine .bind (hfilter (.table member) trivial) fun condition hcondition => ?_
    exact .bind (adds_memberConditions hguard) fun conditions hconditions =>
      .pure ⟨hcondition, hconditions⟩
  · rintro ⟨⟨condition, conditions⟩, inner⟩ ⟨hinner, hcondition, hconditions⟩
    exact .pure (balanced_quantified (Scope.balanced_joined hinner Target.balanced_table)
      hconditions hcondition)

/-- A filter over elements closes its brackets if the filter does. -/
theorem adds_overElements {o : Operand} (ho : o.sql.Primary) {path : String} :
    Adds (overElements o path every filter) Sql.Balanced := by
  unfold overElements
  refine .bind (.liftCompile .any) fun label _ => ?_
  split
  next rows type helements =>
    have hrows := balanced_elementsOf? ho.balanced helements
    refine .bind (.liftCompile (hfilter _ Frame.primary_element).inNewScope) ?_
    rintro ⟨condition, inner⟩ ⟨-, hcondition⟩
    have hsource : (Sql.seq [rows, " AS ", .binder label, "(", .ident elementColumn, ")"]).Balanced := by
      intro stack
      simp only [tokens, seqTokens, scan_append, hrows.scan]
      rfl
    have htest : (quantified every
        (.seq [rows, " AS ", .binder label, "(", .ident elementColumn, ")"]) [] condition).Balanced :=
      balanced_quantified hsource (List.forall_mem_nil _) hcondition
    dsimp only
    split
    next =>
      split
      next =>
        exact .pure (balanced_and (List.forall_mem_cons.mpr ⟨balanced_isListOrNull ho.balanced,
          List.forall_mem_singleton.mpr htest⟩))
      next => exact .pure htest
    next => exact .pure htest
  next => exact .throw

/-- A filter over members or elements closes its brackets, whichever the path leads to. -/
theorem adds_quantify (hguard : ctx.GuardsBalanced) (hframe : frame.Primary) {path : String} :
    Adds (ctx.quantify frame path every filter) Sql.Balanced := by
  unfold quantify
  split
  next owner =>
    split
    next =>
      exact .bind (adds_operand hguard hframe) fun o ho => adds_overElements hfilter ho
    next =>
      refine .bind (adds_locate hguard _) ?_
      rintro ⟨owner, route⟩ -
      dsimp only
      split
      next => exact adds_overMembers hfilter hguard
      next =>
        exact .bind (adds_operandAt hguard _) fun o ho => adds_overElements hfilter ho
  next element =>
    exact .bind (.lift fun o h => primary_elementOperand hframe h) fun o ho =>
      adds_overElements hfilter ho

end

end Context

end ObjectQuery
