import ObjectQuery.Proofs.Access.Admission
import ObjectQuery.Proofs.Columns.Projection
import ObjectQuery.Proofs.Statement.Shelter

/-!
# What a statement reads

The root goes by the name of its class, every other table by an alias that was given out for it. From
there on each part of a statement is closed under the aliases: what it returns, its condition, its
order. The object that rows are related to has a relation to them, which admission has made sure of;
the columns that refer to a class hold tokens, and what holds tokens has a column.
-/

namespace ObjectQuery

open Sql

variable {s : Schema} {A B : Aliases s} {q : Query}

/-! ## Queries -/

namespace Query

/-- The root has an alias, and what its rows are related to has a relation to them. -/
structure Resolved (A : Aliases s) (q : Query) : Prop where
  root : A.Has q.root
  related : ∀ r ∈ q.relatedBy, ∃ foreign,
    s.field? r.className r.key = some (.relation q.className foreign)

theorem Resolved.mono (h : A ≤ B) (hq : q.Resolved A) : q.Resolved B :=
  ⟨hq.root.mono h, hq.related⟩

theorem resolved_context (hs : s.Complete) : (q.context s).Resolved s :=
  Context.resolved_of hs _

/-- The entries of a query read columns that exist. -/
theorem resolves_entries (hs : s.Complete) (hq : q.Resolved A) :
    InScope.Resolves A (q.entries s) fun B entries => entries.Closed B.closedness := by
  unfold entries
  refine .bind (.liftCompile (Plan.resolves_ofIncludes hs hq.root)) ?_
  rintro B hAB plan ⟨-, -, hplan⟩
  exact Context.resolves_entries hs (resolved_context hs) hplan

/-- The condition to be related to some object reads columns that exist. -/
theorem resolves_relatedCondition (hs : s.Complete) (hq : q.Resolved A) {r : RelatedBy}
    (hr : r ∈ q.relatedBy) :
    Compile.Resolves A (q.relatedCondition s r) fun B sql => Closed B.closedness sql := by
  obtain ⟨foreign, hfield⟩ := hq.related r hr
  obtain ⟨c, hc, -⟩ := Schema.field?_eq_some.mp hfield
  unfold relatedCondition
  refine .bind (.freshTarget (hc ▸ rfl)) ?_
  rintro B hAB parent ⟨hclass, hparent⟩
  have htype := hs.accepted.typeIn?_of_field? (hclass ▸ hfield)
  have hleads : Context.Leads s parent r.key q.root := Context.leads_of_typeIn? hs htype
  refine .bind (.lift (Q := fun B sql => Closed B.closedness sql) fun sql h =>
    Context.closed_contains hs hparent (hq.root.mono hAB) hleads h) fun C hBC contained hcontained => ?_
  refine .bind (.inNewScope ((resolved_context hs).guard (hparent.mono hBC))) ?_
  rintro D hCD ⟨guard, inner⟩ ⟨hinner, hguard⟩
  have hparent := hparent.mono (hBC.trans hCD)
  have hnamed : Closed D.closedness
      (.seq [parent.column Field.id, " = ", .param (.text r.objectId)]) := by
    simp [hparent.closed_id hs]
  have hconditions : ∀ p ∈ guard.toList, Closed D.closedness p :=
    fun p hp => hguard p (by simpa using hp)
  have hall := List.forall_mem_cons.mpr ⟨hnamed, List.forall_mem_cons.mpr
    ⟨Aliases.closed_mono hCD hcontained, hconditions⟩⟩
  refine .pure (predicate_existsIn (Closed.block (closed_select.mpr
    ⟨closed_raw, hinner.closed_clause hparent, closed_and hall, closed_empty⟩))).closed

/-- The condition of a query reads columns that exist. -/
theorem resolves_condition (hs : s.Complete) (hq : q.Resolved A) :
    InScope.Resolves A (q.condition s) fun B sql => Closed B.closedness sql := by
  unfold condition
  refine .bind (((resolved_context hs).obeys hs).condition hq.root.admits q.base.filter)
    fun B hAB filter hfilter => ?_
  refine .bind ((aliasDiscipline s).mapM (w := B) (Q := fun C sql => Closed C.closedness sql)
    (fun _ _ _ => Aliases.closed_mono) fun C hBC r hr => .liftCompile
      (resolves_relatedCondition hs (hq.mono (hAB.trans hBC)) (by simpa using hr)))
    fun C hBC related hrelated => .pure ?_
  exact closed_and (List.forall_mem_cons.mpr ⟨Aliases.closed_mono hBC hfilter.closed, hrelated⟩)

/-- The order of a query reads columns that exist. -/
theorem resolves_order (hs : s.Complete) (hq : q.Resolved A) :
    InScope.Resolves A (q.order s) fun B sql => Closed B.closedness sql := by
  unfold order
  split
  next =>
    exact .bind (Context.resolves_sortKeys hs (resolved_context hs) hq.root) fun B _ keys hkeys =>
      .pure (by simp [hkeys])
  next => exact .pure closed_empty

/-- Reading the root again reads columns that exist, under an alias of its class. -/
theorem resolves_refetch (hs : s.Complete) (hq : q.Resolved A) :
    Compile.Resolves A (q.refetch s)
      fun B r => Closed B.closedness r.1 ∧ r.2.Resolved B := by
  unfold refetch
  refine .bind (.inNewScope (resolves_entries hs hq)) ?_
  rintro B hAB ⟨entries, scope⟩ ⟨hscope, hentries⟩
  exact .pure ⟨resultList_closed hentries, hscope⟩

end Query

namespace Gate

/-- What rows are asked to be related to has a relation to their class. -/
theorem checkRelatedBy_ok {g : Gate} {className : String} {r r' : RelatedBy}
    (hchecked : g.checkRelatedBy className r = .ok r') :
    r' = r ∧ ∃ foreign, g.schema.field? r.className r.key = some (.relation className foreign) := by
  obtain ⟨parent, hparent, h⟩ := Result.bind_eq_ok.mp hchecked
  obtain ⟨c, hc, hopen⟩ := Result.bind_eq_ok.mp hparent
  obtain ⟨_, -, hsame⟩ := Result.bind_eq_ok.mp hopen
  obtain rfl := Result.pure_eq_ok.mp hsame
  dsimp only at h
  split at h
  next target foreign hfield =>
    split at h
    next => cases h
    next htarget =>
      obtain ⟨_, -, hsame⟩ := Result.bind_eq_ok.mp h
      obtain rfl := not_not.mp htarget
      exact ⟨(Result.pure_eq_ok.mp hsame).symm, foreign,
        Schema.field?_eq_some.mpr ⟨c, Schema.getClass_eq_ok.mp hc, hfield⟩⟩
  next => cases h

/-- An admitted query is on a class of the schema, and so is what its rows are related to. -/
theorem accept_related {g : Gate} {className : String} {options : FindOptions}
    {action : QueryAction} (h : g.accept className options action = .ok q) :
    q.className = className ∧ (g.schema.class? className).isSome = true ∧
      ∀ r ∈ q.relatedBy, ∃ foreign,
        g.schema.field? r.className r.key = some (.relation className foreign) := by
  obtain ⟨c, _, _, _, relatedBy, hc, -, -, -, -, -, hrelated, rfl⟩ := accept_ok h
  refine ⟨rfl, Schema.getClass_eq_ok.mp hc ▸ rfl, fun r hr => ?_⟩
  cases hasked : options.relatedBy with
  | none =>
    rw [hasked] at hrelated
    cases hrelated
    cases hr
  | some asked =>
    rw [hasked] at hrelated
    obtain ⟨r', hr', hsame⟩ := Result.bind_eq_ok.mp hrelated
    obtain rfl := Option.some.inj ((Result.pure_eq_ok.mp hsame).trans hr)
    obtain ⟨rfl, hfield⟩ := checkRelatedBy_ok hr'
    exact hfield

end Gate

/-! ## Reading -/

/-- A class that refers to another does so through a column. -/
theorem Schema.Complete.columnType_of_referrer (hs : s.Complete) {target : String} {r : Referrer}
    (h : r ∈ s.referrers target) :
    ∃ ty, s.typeIn? r.className r.column = some ty ∧ ty.columnType?.isSome = true := by
  obtain ⟨⟨className, c⟩, hc, h⟩ := List.mem_flatMap.mp h
  obtain ⟨f, hf, h⟩ := List.mem_flatMap.mp h
  obtain ⟨⟨column, leaf⟩, hleaf, hstores⟩ := List.mem_filterMap.mp h
  obtain ⟨single, hsingle, rfl⟩ := Option.map_eq_some_iff.mp hstores
  have hclass : s.class? className = some c := hs.accepted.ordered.find?_eq_some_iff.mpr hc
  have hbelow := (hs.accepted.mem_leaves_iff hclass).mp (List.mem_flatMap.mpr ⟨f, hf, hleaf⟩)
  refine ⟨leaf, Schema.typeIn?_eq_some.mpr ⟨c, hclass, hbelow.1⟩, ?_⟩
  unfold FieldType.storesTokensOf? at hsingle
  split at hsingle
  · rfl
  · rfl
  · cases hsingle

namespace Read

/-- A find reads columns that exist. -/
theorem resolves_find (hs : s.Complete) (hq : q.Resolved A) {lock : Option RowLock} :
    Compile.Resolves A (find s q lock) fun B sql => Closed B.closedness sql := by
  unfold find
  refine .bind (.inNewScope (Q := fun B (r : Entries × Sql × Sql) =>
    r.1.Closed B.closedness ∧ Closed B.closedness r.2.1 ∧ Closed B.closedness r.2.2) ?_) ?_
  · refine .bind (Query.resolves_entries hs hq) fun B hAB entries hentries => ?_
    refine .bind (Query.resolves_condition hs (hq.mono hAB)) fun C hBC condition hcondition => ?_
    refine .bind (Query.resolves_order hs (hq.mono (hAB.trans hBC))) fun D hCD order horder => ?_
    exact .pure ⟨Aliases.entries_mono (hBC.trans hCD) hentries, Aliases.closed_mono hCD hcondition,
      horder⟩
  · rintro B hAB ⟨⟨entries, condition, order⟩, scope⟩ ⟨hscope, hentries, hcondition, horder⟩
    refine .pure (closed_select.mpr ⟨resultList_closed hentries,
      hscope.closed_clause (hq.root.mono hAB), hcondition, ?_⟩)
    cases lock <;> simp [horder, Query.bounds, bounds_closed, RowLock.sql_closed]

/-- A count reads columns that exist. -/
theorem resolves_count (hs : s.Complete) (hq : q.Resolved A) :
    Compile.Resolves A (count s q) fun B sql => Closed B.closedness sql := by
  unfold count
  refine .bind (.inNewScope (Query.resolves_condition hs hq)) ?_
  rintro B hAB ⟨condition, scope⟩ ⟨hscope, hcondition⟩
  exact .pure (closed_select.mpr ⟨by simp, hscope.closed_clause (hq.root.mono hAB), hcondition,
    closed_empty⟩)

/-- A random choice reads columns that exist, its weight included. -/
theorem resolves_random (hs : s.Complete) (hq : q.Resolved A) {weight : Option String} :
    Compile.Resolves A (random s q weight) fun B sql => Closed B.closedness sql := by
  unfold random
  refine .bind (.inNewScope (Q := fun B (r : Entries × Sql × Option Operand) =>
    r.1.Closed B.closedness ∧ Closed B.closedness r.2.1 ∧
      ∀ o ∈ r.2.2, Closed B.closedness o.sql) ?_) ?_
  · refine .bind (Query.resolves_entries hs hq) fun B hAB entries hentries => ?_
    refine .bind (Query.resolves_condition hs (hq.mono hAB)) fun C hBC condition hcondition => ?_
    refine .bind (R := fun D (w : Option Operand) => ∀ o ∈ w, Closed D.closedness o.sql) ?_
      fun D hCD w hw => .pure ⟨Aliases.entries_mono (hBC.trans hCD) hentries,
        Aliases.closed_mono hCD hcondition, hw⟩
    cases weight with
    | none => exact .pure nofun
    | some path =>
      refine .bind (((Query.resolved_context hs).obeys hs).operand
        (hq.root.mono (hAB.trans hBC)).admits) fun D hCD o ho => .pure ?_
      intro o' ho'
      obtain rfl := Option.mem_some.mp ho'
      exact ho
  · rintro B hAB ⟨⟨entries, condition, weight⟩, scope⟩ ⟨hscope, hentries, hcondition, hweight⟩
    have hkey : Closed B.closedness (randomKey (weight.map (·.sql))) := by
      refine randomKey_closed fun w hw => ?_
      obtain ⟨o, ho, rfl⟩ := Option.map_eq_some_iff.mp hw
      exact hweight o ho
    exact .pure (closed_select.mpr ⟨resultList_closed hentries,
      hscope.closed_clause (hq.root.mono hAB), hcondition,
      by simp [hkey, Query.bounds, bounds_closed]⟩)

/-- The plan of a find reads columns that exist. -/
theorem resolves_explain (hs : s.Complete) (hq : q.Resolved A) :
    Compile.Resolves A (explain s q) fun B sql => Closed B.closedness sql := by
  unfold explain
  exact .bind (resolves_find hs hq) fun B _ body hbody => .pure (by simp [hbody])

/-- The condition to be unreferenced reads the columns that refer to the root. -/
theorem resolves_unreferenced (hs : s.Complete) (hq : q.Resolved A) {r : Referrer}
    (hr : r ∈ s.referrers q.className) :
    Compile.Resolves A (unreferenced q.root r) fun B sql => Closed B.closedness sql := by
  obtain ⟨ty, htype, hty⟩ := hs.columnType_of_referrer hr
  obtain ⟨c, hc, -⟩ := Schema.typeIn?_eq_some.mp htype
  unfold unreferenced
  refine .bind (.freshTarget (hc ▸ rfl)) ?_
  rintro B hAB source ⟨hclass, hsource⟩
  have hcolumn := hsource.closed_typed hs (hclass ▸ htype) hty
  have htoken := (hq.root.mono hAB).closed_token hs
  have hholding : Closed B.closedness (r.holding source q.root).sql := by
    unfold Referrer.holding
    split <;> simp [Holding.sql, hcolumn, htoken]
  have hexists : Predicate B.closedness (existsIn source.table [(r.holding source q.root).sql]) :=
    predicate_existsIn (Closed.block (closed_select.mpr ⟨closed_raw, hsource.closed_table,
      closed_and (List.forall_mem_singleton.mpr hholding), closed_empty⟩))
  exact .pure (by simp [hexists.closed])

/-- The query for unreferenced objects reads columns that exist. -/
theorem resolves_nonrefs (hs : s.Complete) (hq : q.Resolved A) :
    Compile.Resolves A (nonrefs s q) fun B sql => Closed B.closedness sql := by
  unfold nonrefs
  refine .bind (.inNewScope (Q := fun B (r : Entries × List Sql × Sql) =>
    r.1.Closed B.closedness ∧ (∀ c ∈ r.2.1, Closed B.closedness c) ∧
      Closed B.closedness r.2.2) ?_) ?_
  · refine .bind (Query.resolves_entries hs hq) fun B hAB entries hentries => ?_
    refine .bind (Query.resolves_condition hs (hq.mono hAB)) fun C hBC condition hcondition => ?_
    refine .bind ((aliasDiscipline s).mapM (w := C) (Q := fun D sql => Closed D.closedness sql)
      (fun _ _ _ => Aliases.closed_mono) fun D hCD r hr => .liftCompile
        (resolves_unreferenced hs (hq.mono (hAB.trans (hBC.trans hCD))) hr))
      fun D hCD free hfree => ?_
    refine .bind (Query.resolves_order hs (hq.mono (hAB.trans (hBC.trans hCD))))
      fun E hDE order horder => .pure ⟨Aliases.entries_mono (hBC.trans (hCD.trans hDE)) hentries,
        List.forall_mem_cons.mpr ⟨Aliases.closed_mono (hCD.trans hDE) hcondition,
          Aliases.all_closed_mono hDE hfree⟩, horder⟩
  · rintro B hAB ⟨⟨entries, conditions, order⟩, scope⟩ ⟨hscope, hentries, hconditions, horder⟩
    exact .pure (closed_select.mpr ⟨resultList_closed hentries,
      hscope.closed_clause (hq.root.mono hAB), closed_and hconditions,
      by simp [horder, Query.bounds, bounds_closed]⟩)

end Read

end ObjectQuery
