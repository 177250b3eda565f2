import ObjectQuery.Proofs.Sql.Predicate
import ObjectQuery.Proofs.Sql.Tables
import ObjectQuery.Proofs.Statement.Discipline
import ObjectQuery.Proofs.Statement.Runs
import ObjectQuery.Statement.Condition

/-!
# Guards

The conditions on the objects of a class are its guard. A query that reads the table of a class does
its duty by it if the guard is one of the conjuncts of its condition, or if the class has no
conditions. A join leaves a table without guard only where its class has no conditions; any other
one it reads through a subquery. That is the invariant of the joins, and `Context.Keeps` is what the
guards of a context owe.

A pointer is joined through a subquery with the guard of its class, a relation is a subquery with
the guard among its conditions. So in a context that keeps its guards the joins stay guarded, and
the value at the end of a route is closed.
-/

namespace ObjectQuery

open Sql InScope

/-- The guard of a target: the conditions on its class, compiled over it. -/
def IsGuard (s : Schema) (filters : ClassFilter) (t : Target) (p : Sql) : Prop :=
  Gives ((Context.of s (some filters)).condition (.table t) (filters t.className).simplify) p

/-- A condition keeps a target to the objects that satisfy the conditions on its class. -/
def Restricts (s : Schema) (filters : ClassFilter) (condition : Sql) (t : Target) : Prop :=
  (filters t.className).simplify.isTruth ∨ ∃ p, Conjunct p condition ∧ IsGuard s filters t p

/-- What the body of a query owes to a table it reads. -/
def Shelters (s : Schema) (filters : ClassFilter) (body : Sql) (t : Target) : Prop :=
  (filters t.className).simplify.isTruth ∨
    ∃ list source condition tail, body = select list source condition tail ∧
      t ∈ source.tables ∧ Restricts s filters condition t

/-- The joins of a query: the tables they read themselves are of classes without conditions. -/
def Scope.Guarded (s : Schema) (filters : ClassFilter) (scope : Scope) : Prop :=
  ∀ j ∈ scope, Dutiful (Shelters s filters) j.sql ∧
    ∀ t ∈ j.sql.tables, (filters t.className).simplify.isTruth

/-- The result of a guard: none where the class has no conditions. -/
def GuardResult (s : Schema) (filters : ClassFilter) (t : Target) : Option Sql → Prop
  | none => (filters t.className).simplify.isTruth
  | some p => Predicate (Shelters s filters) p ∧ IsGuard s filters t p

/-- A context in which every guard is that of its target. -/
def Context.Keeps (ctx : Context) (s : Schema) (filters : ClassFilter) : Prop :=
  ∀ t, Upholds (Scope.Guarded s filters) (ctx.guard t) (GuardResult s filters t)

/-- Conditions on a target, with its guard among them. -/
structure Guarding (s : Schema) (filters : ClassFilter) (t : Target) (conditions : List Sql) :
    Prop where
  predicates : ∀ c ∈ conditions, Predicate (Shelters s filters) c
  guard : (filters t.className).simplify.isTruth ∨ ∃ p ∈ conditions, IsGuard s filters t p

variable {s : Schema} {filters : ClassFilter} {ctx : Context} {scope : Scope} {t : Target}

/-! ## Conditions -/

/-- The conditions on a target are closed. -/
theorem Guarding.closed {conditions : List Sql} (h : Guarding s filters t conditions) :
    ∀ c ∈ conditions, Closed (Shelters s filters) c :=
  fun c hc => (h.predicates c hc).closed

/-- More conditions leave the guard among them. -/
theorem Guarding.append {conditions more : List Sql} (h : Guarding s filters t conditions)
    (hmore : ∀ c ∈ more, Predicate (Shelters s filters) c) :
    Guarding s filters t (conditions ++ more) where
  predicates := List.forall_mem_append.mpr ⟨h.predicates, hmore⟩
  guard := h.guard.imp_right fun ⟨p, hp, hguard⟩ => ⟨p, List.mem_append_left _ hp, hguard⟩

/-- The guard of a target is a conjunct of its conditions. -/
theorem Guarding.restricts {conditions : List Sql} (h : Guarding s filters t conditions) :
    Restricts s filters (and conditions) t :=
  h.guard.imp_right fun ⟨p, hp, hguard⟩ =>
    ⟨p, conjunct_and hp (h.predicates p hp).written, hguard⟩

/-- Conditions and a guard beside them. -/
theorem guarding_toList {conditions : List Sql} {guard : Option Sql}
    (h : ∀ c ∈ conditions, Predicate (Shelters s filters) c)
    (hguard : GuardResult s filters t guard) :
    Guarding s filters t (conditions ++ guard.toList) := by
  cases guard with
  | none => exact ⟨by simpa using h, .inl hguard⟩
  | some p =>
    refine ⟨?_, .inr ⟨p, by simp, hguard.2⟩⟩
    simpa [or_imp, forall_and] using ⟨h, hguard.1⟩

/-! ## Queries -/

theorem Scope.guarded_nil : Scope.Guarded s filters [] := nofun

@[simp]
theorem Target.closed_column {G : Sql → Target → Prop} {name : String} : Closed G (t.column name) :=
  Sql.closed_column

@[simp]
theorem Target.closed_token {G : Sql → Target → Prop} : Closed G t.token := by
  simp [token]

/-- A target is the table it stands for, whether it carries the name of its class or an alias. -/
@[simp]
theorem Target.tables_table : t.table.tables = [t] := by
  unfold table
  split
  next h =>
    obtain ⟨className, label⟩ := t
    obtain rfl : label = className := h
    rfl
  next => rfl

@[simp]
theorem Target.dutiful_table {G : Sql → Target → Prop} : Dutiful G t.table := by
  unfold table
  split
  next => exact dutiful_root
  next => exact Sql.dutiful_table

/-- The tables of a joined scope are the root and those of the joins. -/
theorem Scope.tables_joined {table : Sql} :
    (scope.joined table).tables = table.tables ++ scope.flatMap fun j => j.sql.tables := by
  have hjoins : allTables (scope.flatMap fun j => [raw " ", j.sql]) =
      scope.flatMap fun j => j.sql.tables := by
    induction scope with
    | nil => rfl
    | cons j rest ih => simpa [allTables, Sql.tables] using ih
  simp only [joined, Sql.tables, allTables, hjoins]

/-- The tables of guarded joins are of classes without conditions. -/
theorem Scope.Guarded.isTruth (h : scope.Guarded s filters) :
    ∀ t ∈ scope.flatMap fun j => j.sql.tables, (filters t.className).simplify.isTruth :=
  List.forall_mem_flatMap.mpr fun j hj => (h j hj).2

/-- A table joined with a guarded scope does its duty. -/
theorem Scope.Guarded.dutiful_joined (h : scope.Guarded s filters) {table : Sql}
    (htable : Dutiful (Shelters s filters) table) :
    Dutiful (Shelters s filters) (scope.joined table) := by
  simp only [joined, dutiful_seq, List.forall_mem_cons, List.forall_mem_flatMap]
  exact ⟨htable, fun j hj => ⟨dutiful_raw, (h j hj).1, List.forall_mem_nil _⟩⟩

/-- A query does its duty if its condition restricts the target and its joins are guarded. -/
theorem dutifulBody_select {list condition tail : Sql} (hscope : scope.Guarded s filters)
    (hlist : Closed (Shelters s filters) list) (htail : Closed (Shelters s filters) tail)
    (hcondition : Closed (Shelters s filters) condition) (h : Restricts s filters condition t) :
    DutifulBody (Shelters s filters) (select list (scope.clause t) condition tail) := by
  refine ⟨fun u hu => ?_, ?_⟩
  · rw [tables_select hlist hcondition htail] at hu
    have hmem := hu
    rw [Scope.clause, Scope.tables_joined] at hmem
    obtain hroot | hjoin := List.mem_append.mp hmem
    · obtain rfl : u = t := by simpa using hroot
      exact .inr ⟨_, _, _, _, rfl, hu, h⟩
    · exact .inl (hscope.isTruth u hjoin)
  · exact dutiful_select hlist (hscope.dutiful_joined Target.dutiful_table) hcondition htail

/-- A query under conditions that guard its target does its duty. -/
theorem Guarding.dutifulBody {list tail : Sql} {conditions : List Sql}
    (h : Guarding s filters t conditions) (hscope : scope.Guarded s filters)
    (hlist : Closed (Shelters s filters) list)
    (htail : Closed (Shelters s filters) tail) :
    DutifulBody (Shelters s filters) (select list (scope.clause t) (and conditions) tail) :=
  dutifulBody_select hscope hlist htail (closed_and h.closed) h.restricts

/-! ## What is reached -/

/-- An element of an array is closed; the fields of an object always are. -/
def Frame.Closed (G : Sql → Target → Prop) : Frame → Prop
  | .table _ => True
  | .element o => Sql.Closed G o.sql

theorem Frame.closed_table {G : Sql → Target → Prop} {t : Target} : (Frame.table t).Closed G :=
  trivial

namespace Context

open Compile

/-! ## Pointers -/

/--
A join puts the target under its guard or has none to put it under, and lists no other table in the
open.
-/
theorem guarded_joinSql {owner target : Target} {column : String} {guard : Option Sql}
    {inner : Scope} (hinner : inner.Guarded s filters)
    (hguard : GuardResult s filters target guard) :
    Dutiful (Shelters s filters) (joinSql owner column target guard inner) ∧
      ∀ t ∈ (joinSql owner column target guard inner).tables,
        (filters t.className).simplify.isTruth := by
  have hcolumn : Closed (Shelters s filters) (owner.column column) := Target.closed_column
  have htoken : Closed (Shelters s filters) target.token := Target.closed_token
  cases guard with
  | none =>
    refine ⟨by simp [joinSql, hcolumn.dutiful, htoken.dutiful], fun t ht => ?_⟩
    obtain rfl : t = target := by
      simpa [joinSql, tables, allTables, hcolumn.tables, htoken.tables] using ht
    exact hguard
  | some p =>
    have hlist : Closed (Shelters s filters) (.star target.label) := closed_star
    have hbody := dutifulBody_select hinner hlist closed_empty hguard.1.closed
      (.inr ⟨p, .whole, hguard.2⟩)
    have hclosed : Closed (Shelters s filters) (joinSql owner column target (some p) inner) := by
      simp [joinSql, closed_block.mpr hbody]
    exact ⟨hclosed.dutiful, by simp [hclosed.tables]⟩

/-- Joining a pointer leaves the joins guarded. -/
theorem upholds_pointerJoin (hctx : ctx.Keeps s filters) {owner : Target}
    {column className : String} {label : Option String} :
    Upholds (Scope.Guarded s filters) (ctx.pointerJoin owner column className label)
      fun _ => True := by
  unfold pointerJoin
  refine .bind .get fun scope _ => ?_
  split
  next => exact .pure trivial
  next =>
    -- both ways to an alias go on alike
    cases label
    case' some => refine .bind (.pure (Q := fun _ => True) trivial) fun label _ => ?_
    case' none => refine .bind (.liftCompile .any) fun label _ => ?_
    all_goals
      refine .bind (.liftCompile (.inNewScope Scope.guarded_nil (hctx _))) ?_
      rintro ⟨guard, inner⟩ ⟨hinner, hguard⟩
      refine .bind (.modify fun scope hscope => ?_) fun _ _ => .pure trivial
      exact List.forall_mem_append.mpr
        ⟨hscope, List.forall_mem_singleton.mpr (guarded_joinSql hinner hguard)⟩

/-- Following pointers leaves the joins guarded. -/
theorem upholds_locate (hctx : ctx.Keeps s filters) {owner : Target} (route : Route) :
    Upholds (Scope.Guarded s filters) (ctx.locate owner route) fun _ => True := by
  induction route generalizing owner with
  | hop column className next ih =>
    unfold locate
    exact .bind (upholds_pointerJoin hctx) fun _ _ => ih
  | refused e => exact .throw
  | _ => exact .pure trivial

/-! ## Relations -/

/-- What is held of a list is closed. -/
theorem holding_closed {G : Sql → Target → Prop} (h : Holding) : Closed G h.sql := by
  cases h <;> simp [Holding.sql]

/-- The condition of membership is a predicate. -/
theorem predicate_contains {G : Sql → Target → Prop} {schema : Schema} {owner member : Target}
    {field : String} {sql : Sql} (h : schema.contains owner field member = .ok sql) :
    Predicate G sql := by
  obtain ⟨holding, -, rfl⟩ := Result.map_eq_ok.mp h
  exact ⟨holding_closed holding, by cases holding <;> rfl⟩

/-- The order of members is closed. -/
theorem memberOrder_closed {G : Sql → Target → Prop} {schema : Schema} {owner member : Target}
    {field : String} : Closed G (schema.memberOrder owner field member) := by
  unfold Schema.memberOrder
  split <;> simp

/-- The guard of the members is among the conditions on them. -/
theorem upholds_memberConditions (hctx : ctx.Keeps s filters) {owner member : Target}
    {field : String} :
    Upholds (Scope.Guarded s filters) (ctx.memberConditions owner field member)
      (Guarding s filters member) := by
  unfold memberConditions
  refine .bind (.lift (Q := Predicate (Shelters s filters)) fun _ h => predicate_contains h)
    fun contained hcontained => ?_
  refine .bind (hctx member) fun guard hguard => .pure ?_
  exact guarding_toList (List.forall_mem_singleton.mpr hcontained) hguard

/-- The tokens of a relation are read of a query under the guard of its class. -/
theorem yields_relationTokens (hctx : ctx.Keeps s filters) {owner : Target}
    {field className : String} :
    Yields (ctx.relationTokens owner field className) (Closed (Shelters s filters)) := by
  unfold relationTokens
  refine .bind .any fun member _ => ?_
  refine .bind (.inNewScope Scope.guarded_nil (upholds_memberConditions hctx)) ?_
  rintro ⟨conditions, inner⟩ ⟨hinner, hconditions⟩
  have htail : Closed (Shelters s filters)
      (.seq [" ORDER BY ", ctx.schema.memberOrder owner field member]) := by
    simp [memberOrder_closed]
  have hbody := hconditions.dutifulBody hinner (Target.closed_token (t := member)) htail
  exact .pure (by simp [closed_block.mpr hbody])

/-! ## Values -/

/-- The value at the end of a route is closed. -/
theorem upholds_operandAt (hctx : ctx.Keeps s filters) {owner : Target} (route : Route) :
    Upholds (Scope.Guarded s filters) (ctx.operandAt owner route)
      fun o => Closed (Shelters s filters) o.sql := by
  induction route generalizing owner with
  | refused e => exact .throw
  | hop column className next ih =>
    unfold operandAt
    exact .bind (upholds_pointerJoin hctx) fun _ _ => ih
  | column name ty =>
    unfold operandAt
    split
    next =>
      exact .bind (.liftCompile (yields_relationTokens hctx)) fun _ h => .pure h
    next =>
      exact .lift fun o h => by simp [Operand.ofColumn_sql h]
  | json column keys =>
    unfold operandAt
    exact .pure (by simp)
  | vectorElement column position =>
    unfold operandAt
    exact .pure (by simp)
  | relationElement column className position next ih =>
    unfold operandAt
    refine .bind (.liftCompile .any) fun member _ => ?_
    refine .bind (.liftCompile (.inNewScope (I := Scope.Guarded s filters)
      (Q := fun r : Operand × List Sql =>
        Closed (Shelters s filters) r.1.sql ∧ Guarding s filters member r.2)
      Scope.guarded_nil ?_)) ?_
    · refine .bind ih fun value hvalue => ?_
      refine .bind (upholds_memberConditions hctx) fun conditions hconditions => ?_
      exact .pure ⟨hvalue, hconditions⟩
    · rintro ⟨⟨value, conditions⟩, inner⟩ ⟨hinner, hvalue, hconditions⟩
      have htail : Closed (Shelters s filters)
          (oneRow (ctx.schema.memberOrder owner column member) position) := by
        simp [oneRow, memberOrder_closed]
      have hbody := hconditions.dutifulBody hinner hvalue htail
      exact .pure (by simp [closed_block.mpr hbody])

/-- An operand is closed, and every join it asks for is guarded. -/
theorem upholds_operand (hctx : ctx.Keeps s filters) {frame : Frame}
    (hframe : frame.Closed (Shelters s filters)) {path : String} :
    Upholds (Scope.Guarded s filters) (ctx.operand frame path)
      fun o => Closed (Shelters s filters) o.sql := by
  unfold operand
  split
  next element => exact .lift fun o h => elementOperand_closed hframe h
  next owner =>
    split
    next => exact .pure Target.closed_token
    next => exact upholds_operandAt hctx _

end Context

end ObjectQuery
