import ObjectQuery.Proofs.Columns.Routes
import ObjectQuery.Proofs.Scoping.Draws
import ObjectQuery.Proofs.Statement.Depth

/-!
# Clauses on the way

Reaching a value joins pointers to the clause it is compiled in, and opens clauses of their own for
members and elements. A pointer's owner has to be an alias of the clause, and what it leads to is
one afterwards. The guard of a joined class is compiled in a clause that stands outside the one it
is joined to, since a subquery with an alias does not see what it is joined to.
-/

namespace ObjectQuery

open Sql

variable {root : String} {S : Site root} {w v : FromClause root} {rest : List String} {t : Target}
  {name : String}

/-! ## Targets -/

theorem Target.closed_column_of_visible (h : t.label ∈ S.visible) :
    Closed S.closedness (t.column name) :=
  Site.closed_column h

theorem Target.closed_token_of_visible (h : t.label ∈ S.visible) : Closed S.closedness t.token := by
  simp [token, t.closed_column_of_visible h]

/-- A context whose guards fit the clauses that they are compiled in. -/
def Context.Fits (ctx : Context) (root : String) : Prop :=
  ∀ ⦃rest : List String⦄ ⦃w : FromClause root⦄ ⦃t : Target⦄, (Frame.table t).ReadIn w →
    InScope.Draws rest rest w (ctx.guard t) fun v guard => ∀ p ∈ guard, Closed v.site.closedness p

namespace Context

variable {ctx : Context} {owner member target : Target} {column className field path : String}

/-! ## Pointers -/

section Join

variable {guard : Option Sql} {inner : Scope}

theorem introduced_joinSql :
    (joinSql owner column target guard inner).introduced = [target.label] := by
  cases guard <;> rfl

theorem reads_joinSql :
    (joinSql owner column target guard inner).reads = [owner.label, target.label] := by
  cases guard <;> rfl

theorem joins_joinSql : (joinSql owner column target guard inner).joins = [] := by
  cases guard <;> rfl

theorem mem_mentions_joinSql :
    .column owner.label column ∈ (joinSql owner column target guard inner).mentions := by
  simp [joinSql, mentions, allMentions, Target.column]

/-- A join with a guard that fits the clause of its own stands in the clause around that. -/
theorem placed_joinSql {label : String} (htable : v.table = label) (hgiven : label ∈ v.outside.used)
    (hguard : ∀ p ∈ guard, Closed v.site.closedness p) :
    Join.Placed v.outside
      ⟨owner.label, column, label, joinSql owner column ⟨className, label⟩ guard v.scope⟩ where
  given := hgiven
  join := rfl
  single := joins_joinSql
  levels around here haround := by
    cases guard with
    | none => exact List.forall_mem_nil _
    | some p =>
      have hlist : Closed v.site.closedness (.star label) :=
        Site.closed_star (htable ▸ FromClause.mem_site_of_own List.mem_cons_self)
      have hrows : v.Rows (v.scope.clause ⟨className, label⟩) := FromClause.rows_clause htable
      have hquery := FromClause.Rows.closed_select hrows hlist (hguard p rfl) closed_empty
      simpa [joinSql, levelsIn, partLevels, isDerived, Target.column, Target.token] using
        hquery.levels around around haround

end Join

/-- A clause with one more join, for a pointer that has not been joined, under a new alias. -/
theorem exists_joined (hctx : ctx.Fits root) (howner : (Frame.table owner).ReadIn w)
    (hkey : w.scope.label? owner.label column = none) {label : String}
    (hnew : label ∉ w.outside.used) (hdrawn : ∃ k, label = aliasOf (k + 1)) {n n' : Nat}
    (hspare : Spare (label :: w.outside.used) rest n) {guard : Option Sql} {inner : Scope}
    (hrun : InScope.Runs (ctx.guard ⟨className, label⟩) [] n guard inner n') :
    ∃ v, w ≤ v ∧ v.scope = w.scope ++
        [⟨owner.label, column, label, joinSql owner column ⟨className, label⟩ guard inner⟩] ∧
      Spare v.outside.used rest n' ∧ (Frame.table ⟨className, label⟩).ReadIn v := by
  have hspent := List.subset_cons_self label w.outside.used
  have hall : ∀ l ∈ label :: w.outside.used, ∃ k, l = aliasOf (k + 1) :=
    List.forall_mem_cons.mpr ⟨hdrawn, w.outside.drawn⟩
  have hroot : Unreserved root → label ≠ root := fun hplain heq =>
    hdrawn.elim fun k hk => hplain.drawn k (heq.symm.trans hk)
  have hhidden : Unreserved root → label ∉ w.site.visible := fun hplain hmem =>
    (w.site.taken label hmem).elim (hroot hplain) hnew
  have hfresh : (w.outside.spend _ hspent hall).Fresh label :=
    ⟨List.mem_cons_self, fun hplain hmem =>
      hhidden hplain (FromClause.mem_site_of_outside hmem)⟩
  have hown : (Frame.table ⟨className, label⟩).ReadIn
      ((w.outside.spend _ hspent hall).query label false hfresh) := ⟨rfl, List.mem_cons_self⟩
  obtain ⟨v, hle, rfl, hspare, hguard⟩ := hctx hown hspare hrun
  have hgrown : w.outside.spend _ hspent hall ≤ v.outside := FromClause.outside_mono hle
  have hout : w.outside ≤ v.outside := Site.le_spend.trans hgrown
  have hvisible : w.outside.visible = v.outside.visible := hle.visible
  have hgiven : label ∈ v.outside.used := hle.used List.mem_cons_self
  have happart : label ∉ w.scope.map (·.label) := fun hmem => by
    obtain ⟨j, hj, rfl⟩ := List.mem_map.mp hmem
    exact hnew (w.placed j hj).given
  refine ⟨{
    outside := v.outside
    table := w.table
    elements := w.elements
    scope := w.scope ++
      [⟨owner.label, column, label, joinSql owner column ⟨className, label⟩ guard v.scope⟩]
    taken := w.taken.imp_right (hout.2.1 ·)
    placed := List.forall_mem_append.mpr ⟨fun j hj => (w.placed j hj).mono hout,
      List.forall_mem_singleton.mpr (placed_joinSql hle.table.symm hgiven hguard)⟩
    joined := w.joined.concat hkey happart introduced_joinSql mem_mentions_joinSql ?reads
    distinct := fun hplain => ?distinct }, ?le, rfl, hspare, howner.1, ?own⟩
  case reads =>
    rw [reads_joinSql]
    exact List.forall_mem_cons.mpr
      ⟨.inr (List.mem_cons.mp howner.2), List.forall_mem_singleton.mpr (.inl rfl)⟩
  case distinct =>
    rw [← hvisible]
    simpa [FromClause.own] using (w.distinct hplain).insert (hhidden hplain)
  case le =>
    exact ⟨hvisible, hout.2.1, rfl, rfl, _, rfl,
      List.forall_mem_singleton.mpr ⟨howner.1, hnew, hroot⟩⟩
  case own => simp [FromClause.own]

/-- A pointer leads to an alias of the clause; one that was set aside may be used for it. -/
theorem draws_pointerJoin (hctx : ctx.Fits root) (howner : (Frame.table owner).ReadIn w)
    {label : Option String} (hlabel : ∀ l ∈ label, l ∉ rest) :
    InScope.Draws (label.toList ++ rest) rest w (ctx.pointerJoin owner column className label)
      fun v target => (Frame.table target).ReadIn v := by
  intro n target scope' n' hspare hrun
  unfold pointerJoin at hrun
  obtain ⟨current, mid, m, hget, hjoin⟩ := InScope.runs_bind.mp hrun
  cases hget
  split at hjoin
  next found hfound =>
    obtain ⟨rfl, rfl, rfl⟩ := InScope.runs_pure.mp hjoin
    refine ⟨w, le_rfl, rfl, hspare.of_subset (List.subset_append_right _ _), howner.1, ?_⟩
    obtain ⟨j, hj, -, -, hsame⟩ := w.joined.label?_eq_some.mp hfound
    exact hsame ▸ List.mem_cons_of_mem _ (List.mem_map_of_mem hj)
  next hkey =>
    -- both ways to an alias go on alike
    cases label
    case' some label =>
      obtain ⟨given, mid, m, hgiven, hjoin⟩ := InScope.runs_bind.mp hjoin
      obtain ⟨rfl, rfl, rfl⟩ := InScope.runs_pure.mp hgiven
      obtain ⟨hnew, hdrawn⟩ := hspare.unused label List.mem_cons_self
      have hspent := hspare.take (hlabel label rfl)
    case' none =>
      obtain ⟨label, mid, m, hgiven, hjoin⟩ := InScope.runs_bind.mp hjoin
      obtain ⟨hgiven, rfl⟩ := InScope.runs_liftCompile.mp hgiven
      cases hgiven
      have hnew := (hspare.undrawn n (Nat.le_refl n)).1
      have hdrawn : ∃ k, aliasOf (n + 1) = aliasOf (k + 1) := ⟨n, rfl⟩
      have hspent := hspare.next
    all_goals
      obtain ⟨⟨guard, inner⟩, mid, m', hscoped, hlast⟩ := InScope.runs_bind.mp hjoin
      obtain ⟨hguard, rfl⟩ := InScope.runs_liftCompile.mp hscoped
      obtain ⟨v, hle, hscope, hspare', hown⟩ := exists_joined hctx howner hkey hnew hdrawn hspent
        (Compile.runs_inNewScope.mp hguard)
      obtain ⟨_, mid, m'', hmodify, hend⟩ := InScope.runs_bind.mp hlast
      cases hmodify
      obtain ⟨rfl, rfl, rfl⟩ := InScope.runs_pure.mp hend
      exact ⟨v, hle, hscope, hspare', hown⟩

/-- A pointer is joined under an alias of the counter, unless it has been joined. -/
theorem draws_hop (hctx : ctx.Fits root) (howner : (Frame.table owner).ReadIn w) :
    InScope.Draws rest rest w (ctx.pointerJoin owner column className none)
      fun v target => (Frame.table target).ReadIn v := by
  have hlabel : ∀ l ∈ (none : Option String), l ∉ rest := nofun
  exact draws_pointerJoin hctx howner hlabel

/-- Following pointers ends at an alias of the clause. -/
theorem draws_locate (hctx : ctx.Fits root) (route : Route)
    (howner : (Frame.table owner).ReadIn w) :
    InScope.Draws rest rest w (ctx.locate owner route) fun v r => (Frame.table r.1).ReadIn v := by
  induction route generalizing owner w with
  | hop column className next ih =>
    unfold locate
    exact .bind (draws_hop hctx howner) fun v hwv target htarget => ih htarget
  | refused e => exact .throw
  | _ => exact .pure howner

/-! ## Relations -/

section Relations

variable {s : Schema} (howner : owner.label ∈ S.visible) (hmember : member.label ∈ S.visible)
include howner hmember

/-- The condition of membership reads its owner and its member only. -/
theorem closed_contains_of_visible {sql : Sql} (h : s.contains owner field member = .ok sql) :
    Closed S.closedness sql := by
  obtain ⟨decides, hdecides, rfl⟩ := Result.map_eq_ok.mp h
  have hboth : decides.holder.label ∈ S.visible ∧ decides.other.label ∈ S.visible := by
    rcases Schema.holding_sides hdecides with ⟨hholder, hother⟩ | ⟨hholder, hother⟩
    · exact ⟨hholder ▸ howner, hother ▸ hmember⟩
    · exact ⟨hholder ▸ hmember, hother ▸ howner⟩
  cases decides with
  | pointer holder column other =>
    have htoken := other.closed_token_of_visible hboth.2
    simp [Holding.sql, holder.closed_column_of_visible hboth.1, htoken]
  | tokens holder column other =>
    have htoken := other.closed_token_of_visible hboth.2
    simp [Holding.sql, holder.closed_column_of_visible hboth.1, htoken]

/-- The order of members reads its owner and its member only. -/
theorem closed_memberOrder : Closed S.closedness (s.memberOrder owner field member) := by
  unfold Schema.memberOrder
  split
  next => simp [owner.closed_column_of_visible howner, member.closed_token_of_visible hmember]
  next => exact member.closed_column_of_visible hmember

end Relations

/-- A target whose columns may be read is visible. -/
theorem visible_of_readIn (h : (Frame.table t).ReadIn w) : t.label ∈ w.site.visible :=
  FromClause.mem_site_of_own h.2

/-- The owner of members is outside the clause over them. -/
theorem draws_memberConditions (hctx : ctx.Fits root) (howner : owner.label ∈ w.outside.visible)
    (hmember : (Frame.table member).ReadIn w) :
    InScope.Draws rest rest w (ctx.memberConditions owner field member)
      fun v conditions => ∀ c ∈ conditions, Closed v.site.closedness c := by
  unfold memberConditions
  refine .bind (.lift (Q := fun v sql => Closed v.site.closedness sql) fun _ h =>
    closed_contains_of_visible (FromClause.mem_site_of_outside howner)
      (visible_of_readIn hmember) h)
    fun v hwv contained hcontained => ?_
  refine .bind (hctx (hmember.mono hwv)) fun u hvu guard hguard => .pure ?_
  exact List.forall_mem_cons.mpr
    ⟨FromClause.closed_mono hvu hcontained, fun c hc => hguard c (by simpa using hc)⟩

/-- The tokens of a relation are read of a query of their own, which sees the owner. -/
theorem draws_relationTokens (hctx : ctx.Fits root) (howner : owner.label ∈ S.visible) :
    Compile.Draws rest rest S (ctx.relationTokens owner field className)
      fun T sql => Closed T.closedness sql := by
  unfold relationTokens
  refine .bind .freshTarget ?_
  rintro T hST member ⟨hfresh, -, -⟩
  have howner : owner.label ∈ (T.query member.label false hfresh).outside.visible := hST.1 howner
  have hmember := Site.readIn_query hfresh
  refine .bind (.query hfresh false (draws_memberConditions hctx howner hmember)) ?_
  rintro _ - ⟨conditions, _⟩ ⟨v, hle, rfl, rfl, hconditions⟩
  have howner := FromClause.mem_site_of_outside (hle.visible ▸ howner)
  have hmember := visible_of_readIn (hmember.mono hle)
  have htail : Closed v.site.closedness
      (.seq [" ORDER BY ", ctx.schema.memberOrder owner field member]) := by
    simp [closed_memberOrder howner hmember]
  have hquery := FromClause.Rows.closed_select (FromClause.rows_clause hle.table.symm)
    (member.closed_token_of_visible hmember) (closed_and hconditions) htail
  exact .pure (by simp [hquery])

/-! ## Values -/

/-- The value at the end of a route can be read where its owner is an alias of the clause. -/
theorem draws_operandAt (hctx : ctx.Fits root) (route : Route)
    (howner : (Frame.table owner).ReadIn w) :
    InScope.Draws rest rest w (ctx.operandAt owner route)
      fun v o => Closed v.site.closedness o.sql := by
  induction route generalizing owner w with
  | refused e => exact .throw
  | hop column className next ih =>
    unfold operandAt
    exact .bind (draws_hop hctx howner) fun v hwv target htarget => ih htarget
  | column name ty =>
    unfold operandAt
    split
    next =>
      exact .bind (.liftCompile (draws_relationTokens hctx (visible_of_readIn howner)))
        fun _ _ sql hsql => .pure hsql
    next =>
      refine .lift fun o h => ?_
      rw [Operand.ofColumn_sql h]
      exact owner.closed_column_of_visible (visible_of_readIn howner)
  | json column keys =>
    unfold operandAt
    exact .pure (by simp [owner.closed_column_of_visible (visible_of_readIn howner)])
  | vectorElement column position =>
    unfold operandAt
    exact .pure (by simp [owner.closed_column_of_visible (visible_of_readIn howner)])
  | relationElement column className position next ih =>
    unfold operandAt
    refine .bind (.liftCompile .freshTarget) ?_
    rintro v hwv member ⟨hfresh, -, -⟩
    have howner : owner.label ∈ (v.site.query member.label false hfresh).outside.visible :=
      visible_of_readIn (howner.mono hwv)
    have hmember := Site.readIn_query hfresh
    refine .bind (.liftCompile (.query hfresh false (Q := fun u (r : Operand × List Sql) =>
      Closed u.site.closedness r.1.sql ∧ ∀ c ∈ r.2, Closed u.site.closedness c) ?_)) ?_
    · refine .bind (ih hmember) fun u hu value hvalue => ?_
      refine .bind (draws_memberConditions hctx (hu.visible ▸ howner) (hmember.mono hu))
        fun x hx conditions hconditions => ?_
      exact .pure ⟨FromClause.closed_mono hx hvalue, hconditions⟩
    · rintro u - ⟨⟨value, conditions⟩, _⟩ ⟨x, hle, hout, rfl, hvalue, hconditions⟩
      have howner := FromClause.mem_site_of_outside (hle.visible ▸ howner)
      have hmember := visible_of_readIn (hmember.mono hle)
      have htail : Closed x.site.closedness
          (oneRow (ctx.schema.memberOrder owner column member) position) := by
        simp [oneRow, closed_memberOrder howner hmember]
      have hquery := FromClause.Rows.closed_select (FromClause.rows_clause hle.table.symm) hvalue
        (closed_and hconditions) htail
      rw [hout] at hquery
      exact .pure (by simp [hquery])

/-- An operand reads what is visible once its pointers have been joined. -/
theorem draws_operand (hctx : ctx.Fits root) {frame : Frame} (hframe : frame.ReadIn w) :
    InScope.Draws rest rest w (ctx.operand frame path)
      fun v o => Closed v.site.closedness o.sql := by
  unfold operand
  split
  next element => exact .lift fun o h => elementOperand_closed (Frame.readIn_element.mp hframe) h
  next owner =>
    split
    next => exact .pure (owner.closed_token_of_visible (visible_of_readIn hframe))
    next => exact draws_operandAt hctx _ hframe

/-! ## Filters for elements -/

section Elements

variable {every : Bool} {filter : Frame → InScope Sql}
  (hfilter : ∀ v : FromClause root, ∀ frame : Frame, frame.ReadIn v →
    InScope.Draws rest rest v (filter frame) fun u sql => Predicate u.site.closedness sql)
include hfilter

/-- A test of the members of a relation is a subquery on a fresh alias, which sees the owner. -/
theorem draws_overMembers (hctx : ctx.Fits root) (howner : (Frame.table owner).ReadIn w) :
    InScope.Draws rest rest w (ctx.overMembers owner field className every filter)
      fun v sql => Predicate v.site.closedness sql := by
  unfold overMembers
  refine .bind (.liftCompile .freshTarget) ?_
  rintro v hwv member ⟨hfresh, -, -⟩
  have howner : owner.label ∈ (v.site.query member.label false hfresh).outside.visible :=
    visible_of_readIn (howner.mono hwv)
  have hmember := Site.readIn_query hfresh
  refine .bind (.liftCompile (.query hfresh false (Q := fun u (r : Sql × List Sql) =>
    Predicate u.site.closedness r.1 ∧ ∀ c ∈ r.2, Closed u.site.closedness c) ?_)) ?_
  · refine .bind (hfilter _ (.table member) hmember) fun u hu condition hcondition => ?_
    refine .bind (draws_memberConditions hctx (hu.visible ▸ howner) (hmember.mono hu))
      fun x hx conditions hconditions => .pure ⟨⟨?_, hcondition.written⟩, hconditions⟩
    exact FromClause.closed_mono hx hcondition.closed
  · rintro u - ⟨⟨condition, conditions⟩, _⟩ ⟨x, hle, hout, rfl, hcondition, hconditions⟩
    have hmember := hmember.mono hle
    have htest : ∀ extra, Predicate x.site.closedness extra →
        Closed u.site.closedness (.block (select "1" (x.scope.clause member)
          (Sql.and (conditions ++ [extra])) .empty)) := by
      intro extra hextra
      have hall := List.forall_mem_append.mpr
        ⟨hconditions, List.forall_mem_singleton.mpr hextra.closed⟩
      exact hout ▸ FromClause.Rows.closed_select (FromClause.rows_clause hle.table.symm) closed_raw
        (closed_and hall) closed_empty
    exact .pure (predicate_quantified hcondition htest)

/-- Over elements nothing is joined, so what is compiled there is all that is printed. -/
theorem draws_overElements {o : Operand} (ho : Closed w.site.closedness o.sql) :
    InScope.Draws rest rest w (overElements o path every filter)
      fun v sql => Predicate v.site.closedness sql := by
  unfold overElements
  refine .bind (.liftCompile .freshAlias) ?_
  rintro v hwv label ⟨hfresh, hnew, hroot⟩
  split
  next rows type helements =>
    have hin : w.site ≤ (v.site.query label true hfresh).site :=
      Site.le_query (FromClause.site_mono hwv) hnew hroot
    have hcolumn : (Frame.element ⟨.column label elementColumn, type⟩).ReadIn
        (v.site.query label true hfresh) :=
      Frame.readIn_element.mpr
        (Site.closed_column (FromClause.mem_site_of_own List.mem_cons_self))
    refine .bind (.liftCompile (.query hfresh true (hfilter _ _ hcolumn))) ?_
    rintro u hvu ⟨condition, _⟩ ⟨x, hle, hout, -, hcondition⟩
    dsimp only at hcondition ⊢
    have hrows := elementsOf?_closed ho helements
    have hsource : x.Rows (.seq [rows, " AS ", .binder x.table, "(", .ident elementColumn, ")"]) :=
      FromClause.rows_elements hrows
        ((FromClause.site_mono hwv).trans (FromClause.outside_mono hle))
        (hin.trans (FromClause.site_mono hle)) (FromClause.scope_eq_nil hle rfl rfl)
    rw [← hle.table] at hsource
    have htest : Predicate u.site.closedness (quantified every
        (.seq [rows, " AS ", .binder label, "(", .ident elementColumn, ")"]) [] condition) :=
      predicate_quantified hcondition fun extra hextra => hout ▸
        FromClause.Rows.closed_select hsource closed_raw
          (closed_and (List.forall_mem_singleton.mpr hextra.closed)) closed_empty
    have ho := FromClause.closed_mono (hwv.trans hvu) ho
    split
    next =>
      split
      next => exact .pure (predicate_and (by simp [isListOrNull, ho, htest.closed]))
      next => exact .pure htest
    next => exact .pure htest
  next => exact .throw

/-- A quantified test reads what is visible, over members as over elements. -/
theorem draws_quantify (hctx : ctx.Fits root) {frame : Frame} (hframe : frame.ReadIn w) :
    InScope.Draws rest rest w (ctx.quantify frame path every filter)
      fun v sql => Predicate v.site.closedness sql := by
  unfold quantify
  split
  next owner =>
    split
    next =>
      exact .bind (draws_operand hctx hframe) fun v hwv o ho => draws_overElements hfilter ho
    next =>
      refine .bind (draws_locate hctx _ hframe) ?_
      rintro v hwv ⟨owner, route⟩ howner
      dsimp only
      split
      next => exact draws_overMembers hfilter hctx howner
      next =>
        exact .bind (draws_operandAt hctx _ howner) fun u hvu o ho => draws_overElements hfilter ho
  next element =>
    exact .bind (.lift (Q := fun v (o : Operand) => Closed v.site.closedness o.sql)
      fun o h => elementOperand_closed (Frame.readIn_element.mp hframe) h)
      fun v hwv o ho => draws_overElements hfilter ho

end Elements

/-! ## Guards -/

/-- A context whose guards fit their clauses obeys the discipline of clauses. -/
theorem Fits.obeys (hctx : ctx.Fits root) : ctx.Obeys (clauseDiscipline root rest) where
  operand hframe := draws_operand hctx hframe
  quantify hframe hfilter := draws_quantify hfilter hctx hframe

/-- The guards of a schema fit their clauses, however far they may lead. -/
theorem fits_guardWithin (s : Schema) (filters : Option ClassFilter) (depth : Nat) :
    Context.Fits ⟨s, guardWithin s filters depth⟩ root := by
  cases filters with
  | none =>
    intro rest w t _
    simp only [guardWithin]
    exact .pure nofun
  | some filters =>
    induction depth with
    | zero =>
      intro rest w t _
      dsimp only
      rw [guardWithin_zero]
      split
      next => exact .pure nofun
      next => exact .throw
    | succ depth ih =>
      intro rest w t ht
      dsimp only
      rw [guardWithin_succ]
      split
      next => exact .pure nofun
      next =>
        exact .bind (ih.obeys.condition ht.admits (filters t.className).simplify)
          fun v _ p hp => .pure fun q hq => Option.some.inj hq ▸ hp.closed

/-- A context fits whatever class the root is of. -/
theorem fits_of (s : Schema) (filters : Option ClassFilter) : (Context.of s filters).Fits root :=
  fits_guardWithin s filters _

end Context

end ObjectQuery
