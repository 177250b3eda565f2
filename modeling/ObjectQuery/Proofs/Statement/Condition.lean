import Mathlib.Order.CompleteBooleanAlgebra
import Mathlib.Order.CompletePartialOrder
import ObjectQuery.Proofs.Statement.Depth
import ObjectQuery.Proofs.Statement.Discipline
import ObjectQuery.Proofs.Statement.Guard
import ObjectQuery.Statement.Projection

/-!
# Guards of what a statement reads and returns

Expressions and filters read other classes only through operands and through subqueries over the
members of relations. What they compile to is closed, at every depth of the filters for elements; so
are the guards themselves, whose own joins are guarded in turn.

A plan is compiled node by node. The columns of a pointer come from its join, the members of a
relation and its groups from subqueries with the guard among their conditions, and so does a group
that is a sort key. Every entry of the result is closed, whatever the plan.
-/

namespace ObjectQuery

open Sql InScope Compile

namespace Context

variable {s : Schema} {filters : ClassFilter} {ctx : Context} {frame : Frame}

/-! ## Filters for elements -/

/-- Over the members of a relation the guard stands beside the filter. -/
theorem upholds_overMembers (hctx : ctx.Keeps s filters) {owner : Target} {field className : String}
    {every : Bool} {filter : Frame → InScope Sql}
    (hfilter : ∀ frame : Frame, frame.Closed (Shelters s filters) →
      Upholds (Scope.Guarded s filters) (filter frame) (Predicate (Shelters s filters))) :
    Upholds (Scope.Guarded s filters) (ctx.overMembers owner field className every filter)
      (Predicate (Shelters s filters)) := by
  unfold overMembers
  refine .bind (.liftCompile .any) fun member _ => ?_
  refine .bind (.liftCompile (.inNewScope (I := Scope.Guarded s filters)
    (Q := fun r : Sql × List Sql =>
      Predicate (Shelters s filters) r.1 ∧ Guarding s filters member r.2)
    Scope.guarded_nil ?_)) ?_
  · refine .bind (hfilter (.table member) Frame.closed_table) fun condition hcondition => ?_
    refine .bind (upholds_memberConditions hctx) fun conditions hconditions => ?_
    exact .pure ⟨hcondition, hconditions⟩
  · rintro ⟨⟨condition, conditions⟩, inner⟩ ⟨hinner, hcondition, hconditions⟩
    refine .pure (predicate_quantified hcondition fun extra hextra => ?_)
    have hguarding := hconditions.append (List.forall_mem_singleton.mpr hextra)
    exact closed_block.mpr (hguarding.dutifulBody hinner closed_raw closed_empty)

theorem upholds_overElements {o : Operand} (ho : Closed (Shelters s filters) o.sql) {path : String}
    {every : Bool} {filter : Frame → InScope Sql}
    (hfilter : ∀ frame : Frame, frame.Closed (Shelters s filters) →
      Upholds (Scope.Guarded s filters) (filter frame) (Predicate (Shelters s filters))) :
    Upholds (Scope.Guarded s filters) (overElements o path every filter)
      (Predicate (Shelters s filters)) := by
  unfold overElements
  refine .bind (.liftCompile .any) fun label _ => ?_
  split
  next rows type helements =>
    have hrows := elementsOf?_closed ho helements
    refine .bind (.liftCompile (.inNewScope Scope.guarded_nil
      (hfilter (.element ⟨.column label elementColumn, type⟩) closed_column))) ?_
    rintro ⟨condition, inner⟩ ⟨-, hcondition⟩
    dsimp only at hcondition ⊢
    have htest : Predicate (Shelters s filters) (quantified every
        (.seq [rows, " AS ", .binder label, "(", .ident elementColumn, ")"]) [] condition) :=
      predicate_quantified hcondition fun extra hextra =>
        Closed.block (by simp [hrows, hextra.closed])
    split
    next =>
      split
      next => exact .pure (predicate_and (by simp [isListOrNull, ho, htest.closed]))
      next => exact .pure htest
    next => exact .pure htest
  next => exact .throw

theorem upholds_quantify (hctx : ctx.Keeps s filters) (hframe : frame.Closed (Shelters s filters))
    {path : String} {every : Bool} {filter : Frame → InScope Sql}
    (hfilter : ∀ frame : Frame, frame.Closed (Shelters s filters) →
      Upholds (Scope.Guarded s filters) (filter frame) (Predicate (Shelters s filters))) :
    Upholds (Scope.Guarded s filters) (ctx.quantify frame path every filter)
      (Predicate (Shelters s filters)) := by
  unfold quantify
  split
  next owner =>
    split
    next =>
      exact .bind (upholds_operand hctx hframe) fun o ho => upholds_overElements ho hfilter
    next =>
      refine .bind (upholds_locate hctx _) ?_
      rintro ⟨owner, route⟩ -
      dsimp only
      split
      next => exact upholds_overMembers hctx hfilter
      next =>
        exact .bind (upholds_operandAt hctx _) fun o ho => upholds_overElements ho hfilter
  next element =>
    exact .bind (.lift fun o h => elementOperand_closed hframe h) fun o ho =>
      upholds_overElements ho hfilter

/-! ## Expressions and filters -/

/-- The discipline of guards: what is compiled is closed, and the joins stay guarded. -/
def guardDiscipline (s : Schema) (filters : ClassFilter) : Discipline Unit where
  sense _ := Shelters s filters
  Admits _ frame := frame.Closed (Shelters s filters)
  Ensures _ x Q := Upholds (Scope.Guarded s filters) x (Q ())
  closed_mono _ hsql := hsql
  admits_mono _ hframe := hframe
  pure h := .pure h
  bind hx hf := .bind hx fun a ha => hf () le_rfl a ha
  throw _ := .throw
  lift h := .lift h

/-- A context that keeps its guards obeys their discipline. -/
theorem Keeps.obeys (hctx : ctx.Keeps s filters) : ctx.Obeys (guardDiscipline s filters) where
  operand hframe := upholds_operand hctx hframe
  quantify hframe hfilter :=
    upholds_quantify hctx hframe fun inner hinner => hfilter () inner hinner

theorem upholds_term (hctx : ctx.Keeps s filters) (hframe : frame.Closed (Shelters s filters))
    (e : Expr) : Upholds (Scope.Guarded s filters) (ctx.term frame e)
      (Term.Closed (Shelters s filters)) :=
  hctx.obeys.term (w := ()) hframe e

/-- A condition is never empty, and its subqueries do their duty. -/
theorem upholds_condition (hctx : ctx.Keeps s filters) (hframe : frame.Closed (Shelters s filters))
    (f : Filter) : Upholds (Scope.Guarded s filters) (ctx.condition frame f)
      (Predicate (Shelters s filters)) :=
  hctx.obeys.condition (w := ()) hframe f

/-! ## Guards -/

/-- The guards of a context are those of its classes, however far they may lead. -/
theorem keeps_guardWithin (depth : Nat) (hdepth : depth ≤ s.classes.length) :
    Context.Keeps ⟨s, guardWithin s (some filters) depth⟩ s filters := by
  induction depth with
  | zero =>
    intro t
    dsimp only
    rw [guardWithin_zero]
    split
    next htruth => exact .pure htruth
    next => exact .throw
  | succ depth ih =>
    intro t
    dsimp only
    rw [guardWithin_succ]
    split
    next htruth => exact .pure htruth
    next =>
      have hle := Nat.le_of_succ_le hdepth
      have hcondition := upholds_condition (ih hle) (Frame.closed_table (t := t))
        (filters t.className).simplify
      refine .bind hcondition.given fun p hp => .pure ⟨hp.1, ?_⟩
      -- the context of a query reaches further, but compiles to the same
      exact (condition_refines (guardWithin_refines hle) _).gives hp.2

theorem keeps_of : (Context.of s (some filters)).Keeps s filters :=
  keeps_guardWithin _ (Nat.le_refl _)

end Context

end ObjectQuery

/-! ## What a plan returns -/

namespace ObjectQuery

open Sql InScope Compile

namespace Context

variable {s : Schema} {filters : ClassFilter} {ctx : Context} {frame : Frame}

/-! ## Groups -/

theorem upholds_aggregate (hctx : ctx.Keeps s filters) (hframe : frame.Closed (Shelters s filters))
    (a : Accumulator) :
    Upholds (Scope.Guarded s filters) (ctx.aggregate frame a) (Closed (Shelters s filters)) :=
  hctx.obeys.aggregate (w := ()) hframe a

theorem upholds_memberFilter (hctx : ctx.Keeps s filters) {frame : Frame}
    (hframe : frame.Closed (Shelters s filters)) {query : BaseQuery} :
    Upholds (Scope.Guarded s filters) (ctx.memberFilter frame query)
      fun asked => ∀ c ∈ asked, Predicate (Shelters s filters) c :=
  hctx.obeys.memberFilter (w := ()) hframe

/-- A group reads the members with the guard among its conditions. -/
theorem upholds_group (hctx : ctx.Keeps s filters) {owner : Target} {relation : String}
    {accumulator : Accumulator} {query : BaseQuery} :
    Upholds (Scope.Guarded s filters) (ctx.group owner relation accumulator query)
      (Closed (Shelters s filters)) := by
  unfold group
  refine .bind (upholds_locate hctx _) ?_
  rintro ⟨owner, route⟩ -
  dsimp only
  split
  next field className foreign =>
    refine .bind (.liftCompile .any) fun member _ => ?_
    refine .bind (.liftCompile (.inNewScope (Q := fun rows : Sql → Sql => ∀ inner : Scope,
      inner.Guarded s filters → Closed (Shelters s filters) (rows (inner.clause member)))
      Scope.guarded_nil ?_)) fun r hr => .pure (hr.2 r.2 hr.1)
    refine .bind (upholds_memberConditions hctx) fun contained hcontained => ?_
    refine .bind (upholds_memberFilter hctx Frame.closed_table) fun asked hasked => ?_
    have hbody (inner : Scope) (hinner : inner.Guarded s filters) (list tail : Sql)
        (hlist : Closed (Shelters s filters) list) (htail : Closed (Shelters s filters) tail) :
        DutifulBody (Shelters s filters)
          (select list (inner.clause member) (Sql.and (contained ++ asked)) tail) :=
      (hcontained.append hasked).dutifulBody hinner hlist htail
    split
    next key value =>
      refine .bind (upholds_term hctx Frame.closed_table key) fun key hkey => ?_
      refine .bind (upholds_aggregate hctx Frame.closed_table value) fun value hvalue => ?_
      refine .bind (.liftCompile .any) fun label _ => .pure fun inner hinner => ?_
      exact groupRows_closed (fun _ => closed_column) (fun list tail hlist htail =>
        closed_block.mpr (hbody inner hinner list tail hlist htail)) (Term.document_closed hkey) hvalue
    next =>
      refine .bind (upholds_aggregate hctx Frame.closed_table _) fun value hvalue => ?_
      refine .pure fun inner hinner => ?_
      have hselect := hbody inner hinner value .empty hvalue closed_empty
      simp [closed_block.mpr hselect]
  next => exact .throw

/-- The keys of an order are closed, groups among them. -/
theorem upholds_sortKeys (hctx : ctx.Keeps s filters) {owner : Target} {query : BaseQuery}
    {sort : SortSpec} :
    Upholds (Scope.Guarded s filters) (ctx.sortKeys owner query sort)
      (Closed (Shelters s filters)) :=
  have howner : (Frame.table owner).Closed (Shelters s filters) := Frame.closed_table
  hctx.obeys.sortKeys (w := ()) howner fun _ _ _ _ => upholds_group hctx

/-! ## Entries -/

theorem columnEntries_closed {G : Sql → Target → Prop} {owner : Target} {lead : String}
    {columns : List (String × FieldType)} : (columnEntries owner lead columns).Closed G :=
  List.forall_mem_map.mpr fun _ _ => FieldType.project_closed Target.closed_column

/-- A node's entries are closed if those below it are. -/
theorem upholds_nodeEntries (hctx : ctx.Keeps s filters) {owner : Target} {lead : String}
    {columns : List (String × FieldType)} {query : BaseQuery} {below : InScope Entries}
    (hbelow : Upholds (Scope.Guarded s filters) below (Entries.Closed (Shelters s filters))) :
    Upholds (Scope.Guarded s filters) (ctx.nodeEntries owner lead columns query below)
      (Entries.Closed (Shelters s filters)) :=
  (guardDiscipline s filters).nodeEntries (w := ()) columnEntries_closed hbelow
    fun _ _ _ _ => upholds_group hctx

/-- The array of a relation reads the members with the guard among its conditions. -/
theorem upholds_relationArray (hctx : ctx.Keeps s filters) {owner member : Target} {field : String}
    {query : BaseQuery} {entries : InScope Entries}
    (hentries : Upholds (Scope.Guarded s filters) entries (Entries.Closed (Shelters s filters))) :
    Upholds (Scope.Guarded s filters) (ctx.relationArray owner field member query entries)
      (Closed (Shelters s filters)) := by
  unfold relationArray
  refine .bind (.liftCompile (.inNewScope (I := Scope.Guarded s filters)
    (Q := fun r : Entries × Sql × Sql => ∀ inner : Scope, inner.Guarded s filters →
      ∀ tail, Closed (Shelters s filters) tail →
        DutifulBody (Shelters s filters) (select (Sql.object r.1) (inner.clause member) r.2.1
          (.seq [" ORDER BY ", r.2.2, tail]))) Scope.guarded_nil ?_)) ?_
  · refine .bind hentries fun entries hentries => ?_
    refine .bind (upholds_memberConditions hctx) fun contained hcontained => ?_
    refine .bind (upholds_memberFilter hctx Frame.closed_table) fun asked hasked => ?_
    cases sortOf? query
    case' some sort => refine .bind (upholds_sortKeys hctx) fun order horder => ?_
    case' none =>
      refine .bind (.pure (memberOrder_closed (G := Shelters s filters))) fun order horder => ?_
    all_goals
      refine .pure fun inner hinner tail htail => ?_
      exact (hcontained.append hasked).dutifulBody hinner (Sql.object_closed hentries)
        (by simp [horder, htail])
  · rintro ⟨⟨entries, condition, order⟩, inner⟩ ⟨hinner, hbody⟩
    have hselect := hbody inner hinner (Sql.bounds query.limit query.skip) Sql.bounds_closed
    exact .pure (by simp [closed_block.mpr hselect])

mutual

/-- What a plan's references return is closed. -/
theorem upholds_childEntries (hctx : ctx.Keeps s filters) {owner : Target} {lead : String} :
    ∀ plan : Plan, Upholds (Scope.Guarded s filters) (ctx.childEntries owner lead plan)
      (Entries.Closed (Shelters s filters))
  | ⟨node, .pointer field, columns, children, query⟩ => by
    unfold childEntries
    refine .bind (upholds_pointerJoin hctx) fun target _ => ?_
    exact upholds_nodeEntries hctx (upholds_allEntries hctx children)
  | ⟨node, .relation field foreign, columns, children, query⟩ => by
    unfold childEntries
    refine .bind (upholds_relationArray hctx ?_) fun array harray => ?_
    · exact upholds_nodeEntries hctx (upholds_allEntries hctx children)
    · exact .pure (List.forall_mem_singleton.mpr harray)
  | ⟨node, .root, columns, children, query⟩ => by
    unfold childEntries
    exact .pure nofun

theorem upholds_allEntries (hctx : ctx.Keeps s filters) {owner : Target} {lead : String} :
    ∀ plans : List Plan, Upholds (Scope.Guarded s filters) (ctx.allEntries owner lead plans)
      (Entries.Closed (Shelters s filters))
  | [] => by
    unfold allEntries
    exact .pure nofun
  | plan :: plans => by
    unfold allEntries
    refine .bind (upholds_childEntries hctx plan) fun entries hentries => ?_
    refine .bind (upholds_allEntries hctx plans) fun rest hrest => ?_
    exact .pure (List.forall_mem_append.mpr ⟨hentries, hrest⟩)

end

/-- What a plan returns is closed. -/
theorem upholds_entries (hctx : ctx.Keeps s filters) (plan : Plan) :
    Upholds (Scope.Guarded s filters) (ctx.entries plan) (Entries.Closed (Shelters s filters)) :=
  upholds_nodeEntries hctx (upholds_allEntries hctx plan.children)

end Context

end ObjectQuery
