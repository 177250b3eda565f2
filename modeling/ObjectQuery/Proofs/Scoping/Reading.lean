import ObjectQuery.Proofs.Scoping.Projection
import ObjectQuery.Proofs.Statement.Shelter

/-!
# Statements that read

The clause of a statement starts with the root, under the name of its class, and nothing stands
around it. What is returned, what is asked of the rows and how they are ordered is compiled in that
clause, and the clause is printed after that. Beside the query itself only the object that rows are
related to, and the objects that may refer to a row, are read, in clauses of their own.
-/

namespace ObjectQuery

open Sql

variable {root : String} {S : Site root} {w v : FromClause root} {s : Schema} {q : Query}

/-! ## The clause of the root -/

/-- Around a statement no alias is visible. -/
def Site.bare (root : String) : Site root where
  visible := []
  used := []
  drawn := nofun
  taken := nofun
  distinct _ := .nil

/-- The clause that a statement starts with. -/
def FromClause.ofRoot (root : String) : FromClause root where
  outside := .bare root
  table := root
  elements := false
  scope := []
  taken := .inl rfl
  placed := nofun
  joined := Scope.wellJoined_nil
  distinct _ := distinct_singleton

/-- The root may be read in its own clause. -/
theorem FromClause.readIn_ofRoot : (Frame.table (Target.root root)).ReadIn (ofRoot root) :=
  ⟨rfl, List.mem_cons_self⟩

/-- Where no alias is visible, none turns out to be. -/
theorem Site.sees_nil (h : S.visible = []) : S.Sees [] where
  kept label hlabel := by rw [h] at hlabel; exact hlabel
  named := nofun
  later _ := nofun
  distinct _ := .nil

/-- Nothing is visible around the root's query. -/
theorem FromClause.sees_nil (h : ofRoot root ≤ v) : v.outside.Sees [] :=
  Site.sees_nil h.visible.symm

/--
The query of a statement may be compiled wherever the counter is, for nothing has been used before.
-/
theorem Compile.Yields.ofRoot {x : InScope α} {Q : FromClause root → α → Prop}
    (hx : InScope.Draws [] [] (FromClause.ofRoot root) x Q) :
    Yields (ObjectQuery.inNewScope x) fun r =>
      ∃ v, FromClause.ofRoot root ≤ v ∧ v.scope = r.2 ∧ Q v r.1 := by
  intro n r n' hrun
  obtain ⟨v, hle, hscope, -, hQ⟩ := hx ⟨fun _ _ => ⟨nofun, nofun⟩, nofun⟩ (runs_inNewScope.mp hrun)
  exact ⟨v, hle, hscope, hQ⟩

/-! ## Parts of a query -/

namespace Query

theorem fits_context : (q.context s).Fits root := Context.fits_of s q.extraFilter

/-- What a query returns takes the aliases that its plan draws. -/
theorem draws_entries (hroot : (Frame.table q.root).ReadIn w) :
    InScope.Draws [] [] w (q.entries s) fun v entries => entries.Closed v.site.closedness := by
  intro n entries scope' n' hspare hrun
  obtain ⟨plan, mid, m, hlifted, hentries⟩ := InScope.runs_bind.mp hrun
  obtain ⟨hplan, rfl⟩ := InScope.runs_liftCompile.mp hlifted
  obtain ⟨htarget, count, rfl, hlabels⟩ := Plan.drawn_of_ofParts hplan
  have hspare : Spare w.outside.used (Plan.allLabels plan.children) (n + count) :=
    hlabels ▸ hspare.setAside count
  have hnodup : (Plan.allLabels plan.children).Nodup := hlabels ▸ nodup_drawn
  exact Context.draws_entries fits_context (htarget ▸ hroot) hnodup hspare hentries

/-- The object that rows are related to is read in a clause of its own. -/
theorem draws_relatedCondition (hroot : q.root.label ∈ S.visible) {r : RelatedBy} :
    Compile.Draws [] [] S (q.relatedCondition s r) fun T sql => Closed T.closedness sql := by
  unfold relatedCondition
  refine .bind .freshTarget ?_
  rintro T hST parent ⟨hfresh, -, -⟩
  have hparent := Site.readIn_query hfresh
  refine .bindLift fun contained hcontained => ?_
  refine .bind (.query hfresh false (fits_context hparent)) ?_
  rintro _ - ⟨guard, _⟩ ⟨v, hle, rfl, rfl, hguard⟩
  have hparent := Context.visible_of_readIn (hparent.mono hle)
  have hroot : q.root.label ∈ v.site.visible :=
    FromClause.mem_site_of_outside (hle.visible ▸ hST.1 hroot)
  have hcontained : Closed v.site.closedness contained :=
    Context.closed_contains_of_visible hparent hroot hcontained
  have hnamed : Closed v.site.closedness
      (.seq [parent.column Field.id, " = ", .param (.text r.objectId)]) := by
    simp [parent.closed_column_of_visible hparent]
  have hconditions : ∀ p ∈ guard.toList, Closed v.site.closedness p :=
    fun p hp => hguard p (by simpa using hp)
  have hall := List.forall_mem_cons.mpr
    ⟨hnamed, List.forall_mem_cons.mpr ⟨hcontained, hconditions⟩⟩
  exact .pure (predicate_existsIn ((FromClause.rows_clause hle.table.symm).closed_select closed_raw
    (closed_and hall) closed_empty)).closed

/-- The condition on the rows of a query fits their clause. -/
theorem draws_condition (hroot : (Frame.table q.root).ReadIn w) :
    InScope.Draws [] [] w (q.condition s) fun v sql => Closed v.site.closedness sql := by
  unfold condition
  refine .bind (fits_context.obeys.condition hroot.admits q.base.filter)
    fun v hwv filter hfilter => ?_
  refine .bind ((clauseDiscipline root []).mapM (w := v)
    (Q := fun u sql => Closed u.site.closedness sql) (fun _ _ _ => FromClause.closed_mono)
    fun u hvu r _ => .liftCompile (draws_relatedCondition
      (Context.visible_of_readIn (hroot.mono (hwv.trans hvu)))))
    fun u hvu related hrelated => .pure ?_
  exact closed_and (List.forall_mem_cons.mpr ⟨FromClause.closed_mono hvu hfilter.closed, hrelated⟩)

/-- The order of the rows fits their clause. -/
theorem draws_order (hroot : (Frame.table q.root).ReadIn w) :
    InScope.Draws [] [] w (q.order s) fun v sql => Closed v.site.closedness sql := by
  unfold order
  split
  next =>
    exact .bind (Context.draws_sortKeys fits_context hroot) fun v _ keys hkeys =>
      .pure (by simp [hkeys])
  next => exact .pure closed_empty

/-- What a query returns of rows that were written is compiled for itself. -/
theorem yields_refetch_scoped :
    Compile.Yields (q.refetch s) fun r => ∃ v, FromClause.ofRoot q.className ≤ v ∧ v.scope = r.2 ∧
      Closed v.site.closedness r.1 := by
  unfold refetch
  refine .bind (.ofRoot (draws_entries FromClause.readIn_ofRoot)) ?_
  rintro ⟨entries, _⟩ ⟨v, hle, rfl, hentries⟩
  exact .pure ⟨v, hle, rfl, resultList_closed hentries⟩

end Query

/-! ## Statements -/

/-- A statement is one query, on the clause of a query's objects. -/
structure Query.Reads (q : Query) (sql : Sql) : Prop where
  rows : ∃ v, FromClause.ofRoot q.className ≤ v ∧ v.Rows sql
  single : sql.levels = queryLevels sql

/-- Every query in a statement on one clause is sound. -/
theorem Query.Reads.sound {sql : Sql} (h : q.Reads sql) :
    ∀ level ∈ sql.levels, level.Sound q.className := by
  obtain ⟨v, hle, hrows⟩ := h.rows
  rw [h.single]
  exact hrows.closed_block.levels [] [] (FromClause.sees_nil hle)

/-- A query of the root, under the joins of its clause, reads what is visible there. -/
theorem Query.reads_select {v : FromClause q.className} {list condition tail : Sql}
    (hle : FromClause.ofRoot q.className ≤ v) (hlist : Closed v.site.closedness list)
    (hcondition : Closed v.site.closedness condition) (htail : Closed v.site.closedness tail) :
    q.Reads (select list (v.scope.clause q.root) condition tail) where
  rows := by
    refine ⟨v, hle, .within [list, " FROM "] [" WHERE ", condition, tail] ?_ (by simp [hlist])
      (by simp [hcondition, htail])⟩
    exact FromClause.rows_clause hle.table.symm
  single := levels_select

namespace Read

/-- A find is one query, on the clause of the root. -/
theorem reads_find {lock : Option RowLock} : Compile.Yields (find s q lock) q.Reads := by
  unfold find
  refine .bind (.ofRoot (Q := fun (v : FromClause q.className) (r : Entries × Sql × Sql) =>
    r.1.Closed v.site.closedness ∧ Closed v.site.closedness r.2.1 ∧
      Closed v.site.closedness r.2.2) ?_) ?_
  · have hroot : (Frame.table q.root).ReadIn (.ofRoot q.className) := FromClause.readIn_ofRoot
    refine .bind (Query.draws_entries hroot) fun v hv entries hentries => ?_
    refine .bind (Query.draws_condition (hroot.mono hv)) fun u hu condition hcondition => ?_
    refine .bind (Query.draws_order (hroot.mono (hv.trans hu))) fun x hx order horder => ?_
    exact .pure ⟨FromClause.entries_mono (hu.trans hx) hentries,
      FromClause.closed_mono hx hcondition, horder⟩
  · rintro ⟨⟨entries, condition, order⟩, _⟩ ⟨v, hle, rfl, hentries, hcondition, horder⟩
    refine .pure (Query.reads_select hle (resultList_closed hentries) hcondition ?_)
    cases lock <;> simp [horder, Query.bounds, bounds_closed, RowLock.sql_closed]

/-- A count is one query, on the clause of the root. -/
theorem reads_count : Compile.Yields (count s q) q.Reads := by
  unfold count
  refine .bind (.ofRoot (Query.draws_condition FromClause.readIn_ofRoot)) ?_
  rintro ⟨condition, _⟩ ⟨v, hle, rfl, hcondition⟩
  exact .pure (Query.reads_select hle (by simp) hcondition closed_empty)

/-- A random choice is one query, on the clause of the root. -/
theorem reads_random {weight : Option String} : Compile.Yields (random s q weight) q.Reads := by
  unfold random
  refine .bind (.ofRoot (Q := fun (v : FromClause q.className)
    (r : Entries × Sql × Option Operand) => r.1.Closed v.site.closedness ∧
      Closed v.site.closedness r.2.1 ∧ ∀ o ∈ r.2.2, Closed v.site.closedness o.sql) ?_) ?_
  · have hroot : (Frame.table q.root).ReadIn (.ofRoot q.className) := FromClause.readIn_ofRoot
    refine .bind (Query.draws_entries hroot) fun v hv entries hentries => ?_
    refine .bind (Query.draws_condition (hroot.mono hv)) fun u hu condition hcondition => ?_
    refine .bind (R := fun x (w : Option Operand) => ∀ o ∈ w, Closed x.site.closedness o.sql) ?_
      fun x hx w hw => .pure ⟨FromClause.entries_mono (hu.trans hx) hentries,
        FromClause.closed_mono hx hcondition, hw⟩
    cases weight with
    | none => exact .pure nofun
    | some path =>
      refine .bind (Context.draws_operand Query.fits_context (hroot.mono (hv.trans hu)))
        fun x hx o ho => .pure ?_
      exact fun o' ho' => Option.mem_some.mp ho' ▸ ho
  · rintro ⟨⟨entries, condition, weight⟩, _⟩ ⟨v, hle, rfl, hentries, hcondition, hweight⟩
    have hkey : Closed v.site.closedness (randomKey (weight.map (·.sql))) := by
      refine randomKey_closed fun w hw => ?_
      obtain ⟨o, ho, rfl⟩ := Option.map_eq_some_iff.mp hw
      exact hweight o ho
    exact .pure (Query.reads_select hle (resultList_closed hentries) hcondition
      (by simp [hkey, Query.bounds, bounds_closed]))

/-- The plan of a find is one query, as the find is. -/
theorem reads_explain : Compile.Yields (explain s q) q.Reads := by
  unfold explain
  refine .bind reads_find fun body hbody => .pure ⟨?_, rfl⟩
  obtain ⟨v, hle, hrows⟩ := hbody.rows
  exact ⟨v, hle, hrows.within [] [] (List.forall_mem_nil _) (List.forall_mem_nil _)⟩

/-- The objects that may refer to a row are read in a clause of their own. -/
theorem draws_unreferenced {owner : Target} (howner : owner.label ∈ S.visible) {r : Referrer} :
    Compile.Draws [] [] S (unreferenced owner r) fun T sql => Closed T.closedness sql := by
  unfold unreferenced
  refine .bind .freshTarget ?_
  rintro T hST source ⟨hfresh, -, -⟩
  have hsource : source.label ∈ (T.query source.label false hfresh).site.visible :=
    FromClause.mem_site_of_own List.mem_cons_self
  have howner : owner.label ∈ (T.query source.label false hfresh).site.visible :=
    FromClause.mem_site_of_outside (hST.1 howner)
  have hholding : Closed (T.query source.label false hfresh).site.closedness
      (r.holding source owner).sql := by
    have htoken := owner.closed_token_of_visible howner
    unfold Referrer.holding
    split <;> simp [Holding.sql, source.closed_column_of_visible hsource, htoken]
  have hrows : (T.query source.label false hfresh).Rows source.table :=
    FromClause.rows_table source.goesBy_table rfl
  have hexists : Predicate T.closedness (existsIn source.table [(r.holding source owner).sql]) :=
    predicate_existsIn (hrows.closed_select closed_raw
      (closed_and (List.forall_mem_singleton.mpr hholding)) closed_empty)
  exact .pure (by simp [hexists.closed])

/-- The query for unreferenced objects is one query, on the clause of the root. -/
theorem reads_nonrefs : Compile.Yields (nonrefs s q) q.Reads := by
  unfold nonrefs
  refine .bind (.ofRoot (Q := fun (v : FromClause q.className) (r : Entries × List Sql × Sql) =>
    r.1.Closed v.site.closedness ∧ (∀ c ∈ r.2.1, Closed v.site.closedness c) ∧
      Closed v.site.closedness r.2.2) ?_) ?_
  · have hroot : (Frame.table q.root).ReadIn (.ofRoot q.className) := FromClause.readIn_ofRoot
    refine .bind (Query.draws_entries hroot) fun v hv entries hentries => ?_
    refine .bind (Query.draws_condition (hroot.mono hv)) fun u hu condition hcondition => ?_
    have hroot := hroot.mono (hv.trans hu)
    refine .bind ((clauseDiscipline q.className []).mapM (w := u)
      (Q := fun x sql => Closed x.site.closedness sql) (fun _ _ _ => FromClause.closed_mono)
      fun x hx r _ => .liftCompile (draws_unreferenced (Context.visible_of_readIn (hroot.mono hx))))
      fun x hx free hfree => ?_
    refine .bind (Query.draws_order (hroot.mono hx)) fun y hy order horder => .pure ?_
    exact ⟨FromClause.entries_mono (hu.trans (hx.trans hy)) hentries,
      List.forall_mem_cons.mpr ⟨FromClause.closed_mono (hx.trans hy) hcondition,
        FromClause.all_closed_mono hy hfree⟩, horder⟩
  · rintro ⟨⟨entries, conditions, order⟩, _⟩ ⟨v, hle, rfl, hentries, hconditions, horder⟩
    exact .pure (Query.reads_select hle (resultList_closed hentries) (closed_and hconditions)
      (by simp [horder, Query.bounds, bounds_closed]))

/-! ## Referring objects -/

/--
The query for the objects of one class that refer to some: its one alias is the name of the class.
-/
theorem levels_referring {tokens : List String} {r : Referrer} {around here : List String} :
    levelsIn around here (referring tokens r) =
      [⟨[r.className], here, [r.className, r.className], []⟩] := by
  cases r with
  | mk className column single =>
    cases single <;> simp [referring, levelsIn, partLevels, isDerived, select, level,
      referrerList, Target.root, Target.table, Target.column, Referrer.refersToOne, joins, gather,
      joinedTo, empty]

/-- Where such queries are put together at most one alias is visible anywhere. -/
theorem levels_union {tokens : List String} {referrers : List Referrer} :
    ∀ level ∈ (Sql.join (referrers.map (referring tokens)) " UNION ALL ").levels,
      level.Bound ∧ level.joins = [] ∧ level.visible.length ≤ 1 := by
  have hnone : ∀ p ∈ referrers.map (referring tokens), p.introduced = [] ∧ p.reads = [] :=
    List.forall_mem_map.mpr fun r _ => by simp [referring]
  have hintroduced : (Sql.join (referrers.map (referring tokens)) " UNION ALL ").introduced = [] :=
    introduced_join.trans (List.flatMap_eq_nil_iff.mpr fun p hp => (hnone p hp).1)
  have hreads : (Sql.join (referrers.map (referring tokens)) " UNION ALL ").reads = [] :=
    reads_join.trans (List.flatMap_eq_nil_iff.mpr fun p hp => (hnone p hp).2)
  refine List.forall_mem_cons.mpr ⟨⟨?_, joins_eq_nil hintroduced, ?_⟩, fun level hlevel => ?_⟩
  · rw [Level.Bound, level, hreads]
    exact List.forall_mem_nil _
  · rw [Level.visible, level, hintroduced]
    exact Nat.zero_le 1
  · obtain ⟨p, hp, hmem⟩ := (mem_partLevels_iff
      (not_binder_of_introduced fun p hp => (hnone p hp).1)).mp hlevel
    obtain ⟨r, -, rfl⟩ := List.mem_map.mp hp
    rw [levels_referring, hintroduced] at hmem
    obtain rfl := List.mem_singleton.mp hmem
    exact ⟨by simp [Level.Bound, Level.visible], rfl, Nat.le_refl 1⟩

/-- The query for references has levels of one table each, without joins. -/
theorem yields_refs {className : String} {ids : List String} :
    Compile.Yields (refs s className ids) fun sql =>
      ∀ level ∈ sql.levels, level.Bound ∧ level.joins = [] ∧ level.visible.length ≤ 1 := by
  unfold refs
  refine .bind .any fun _ _ => ?_
  split
  next => exact .pure (by simp [levels, queryLevels, levelsIn, partLevels, level, referrerList,
    joins, gather, joinedTo, Level.Bound, Level.visible])
  next => exact .pure levels_union

end Read

end ObjectQuery
