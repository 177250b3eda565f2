import ObjectQuery.Proofs.Columns.Reads
import ObjectQuery.Proofs.Renumbering.Projection

/-!
# Two statements

The root is the same in both runs, and goes by the name of its class, whether the schema knows it or
not. The object that rows are related to takes its alias before its class is looked at: where that is
unknown, both runs are refused for it. The objects that refer to others are of classes of the schema.

What a write assigns is computed before an alias is drawn, from the root and the values that it is
given, so both runs are refused for the same value or write the same. Its named subqueries go by the
same names in both.
-/

namespace ObjectQuery

open Offset

variable {ν : Offset} {q : Query}

namespace Schema

variable {s : Schema}

/-- No relation of an unknown class contains anything. -/
theorem contains_of_unknown {owner member : Target} {field : String}
    (h : s.class? owner.className = none) :
    s.contains owner field member = .error (.path (.unknownClass owner.className)) := by
  have hclass : s.getClass owner.className = .error (.path (.unknownClass owner.className)) := by
    simp only [getClass, h]
  rw [contains, holding, dif_neg List.not_mem_nil]
  simp only [hclass, Except.map]

/-- What may refer to a class is of a class of the schema. -/
theorem Accepted.known_of_referrer (hs : s.Accepted) {target : String} {r : Referrer}
    (h : r ∈ s.referrers target) : (s.class? r.className).isSome = true := by
  obtain ⟨⟨className, c⟩, hc, h⟩ := List.mem_flatMap.mp h
  obtain ⟨f, -, h⟩ := List.mem_flatMap.mp h
  obtain ⟨leaf, -, hstores⟩ := List.mem_filterMap.mp h
  obtain ⟨single, -, rfl⟩ := Option.map_eq_some_iff.mp hstores
  have hclass : s.class? className = some c := hs.ordered.find?_eq_some_iff.mpr hc
  exact hclass ▸ rfl

end Schema

namespace Query

/-- A query is compiled in a context whose guards agree in both runs. -/
theorem guards_context : ν.Guards (q.context ν.schema) := guards_of _

/-! ## Parts of a statement -/

/-- What a query returns agrees in both runs. -/
theorem agree_entries (hq : q.className ∈ ν.root) :
    ν.AgreeIn ν.Results (q.entries ν.schema) (q.entries ν.schema) := by
  unfold entries
  refine .bind (.liftCompile (ofParts _ (.root hq))) ?_
  rintro plan plan' ⟨-, -, -, hplan⟩
  exact guards_context.entries hplan

/-- What is read back of changed objects agrees in both runs. -/
theorem agree_refetch (hq : q.className ∈ ν.root) :
    ν.Agree (fun r r' => ν.Fragments r.1 r'.1 ∧ ν.Scopes r.2 r'.2) (q.refetch ν.schema)
      (q.refetch ν.schema) := by
  unfold refetch
  refine .bind (.inNewScope (agree_entries hq)) ?_
  rintro ⟨entries, scope⟩ ⟨entries', scope'⟩ ⟨hentries, hscope⟩
  exact .pure ⟨Sql.alike_resultList hentries, hscope⟩

/--
The condition on objects related to another agrees in both runs, or is refused for its class in both.
-/
theorem agree_relatedCondition (hq : q.className ∈ ν.root) {r : RelatedBy} :
    ν.Agree ν.Fragments (q.relatedCondition ν.schema r) (q.relatedCondition ν.schema r) := by
  unfold relatedCondition
  refine .bind .drawnTarget ?_
  rintro _ _ ⟨label, label', rfl, rfl, hlabel⟩
  cases hknown : ν.schema.class? r.className with
  | none =>
    rw [Schema.contains_of_unknown hknown, Schema.contains_of_unknown hknown]
    exact .throw
  | some c =>
    have hparent : ν.Targets ⟨r.className, label⟩ ⟨r.className, label'⟩ :=
      .drawn (hknown ▸ rfl) hlabel
    refine .bind (.lift (agree_contains hparent (.root hq))) fun _ _ hcontained => ?_
    refine .bind (.inNewScope (guards_context.guard hparent)) ?_
    rintro ⟨guard, inner⟩ ⟨guard', inner'⟩ ⟨hguard, hinner⟩
    refine .pure (Sql.alike_existsIn (hinner.clause hparent) ?_)
    refine List.rel_append (.cons (by simp [hparent.column]) (.cons hcontained .nil)) ?_
    cases hguard with
    | none => exact .nil
    | some h => exact .cons h .nil

/-- The condition of a query agrees in both runs. -/
theorem agree_condition (hq : q.className ∈ ν.root) :
    ν.AgreeIn ν.Fragments (q.condition ν.schema) (q.condition ν.schema) := by
  unfold condition
  refine .bind (guards_context.condition (.table (.root hq)) _) fun _ _ hfilter => ?_
  refine .bind (.mapM fun r _ => .liftCompile (agree_relatedCondition hq)) fun _ _ hrelated => ?_
  exact .pure (Sql.alike_and (.cons hfilter hrelated))

/-- The order of a query agrees in both runs. -/
theorem agree_order (hq : q.className ∈ ν.root) :
    ν.AgreeIn ν.Fragments (q.order ν.schema) (q.order ν.schema) := by
  unfold order
  split
  next =>
    exact .bind (guards_context.sortKeys (.root hq) _) fun _ _ hkeys => .pure (by simp [hkeys])
  next => exact .pure Sql.alike_empty

theorem alike_bounds : ν.Fragments q.bounds q.bounds := Sql.alike_bounds

end Query

/-- A lock is on the root, under the same name. -/
theorem RowLock.alike_sql {lock : RowLock} {root : Target} :
    ν.Fragments (lock.sql root) (lock.sql root) := by
  simp [RowLock.sql]

namespace Read

/-! ## Statements -/

/-- A find agrees in both runs. -/
theorem agree_find (hq : q.className ∈ ν.root) {lock : Option RowLock} :
    ν.Agree ν.Fragments (find ν.schema q lock) (find ν.schema q lock) := by
  unfold find
  refine .bind (.inNewScope (R := fun r r' : Entries × Sql × Sql =>
    ν.Results r.1 r'.1 ∧ ν.Fragments r.2.1 r'.2.1 ∧ ν.Fragments r.2.2 r'.2.2) ?_) ?_
  · refine .bind (Query.agree_entries hq) fun _ _ hentries => ?_
    refine .bind (Query.agree_condition hq) fun _ _ hcondition => ?_
    exact .bind (Query.agree_order hq) fun _ _ horder => .pure ⟨hentries, hcondition, horder⟩
  · rintro ⟨⟨entries, condition, order⟩, scope⟩ ⟨⟨entries', condition', order'⟩, scope'⟩
      ⟨⟨hentries, hcondition, horder⟩, hscope⟩
    refine .pure (Sql.alike_select.mpr ⟨Sql.alike_resultList hentries, hscope.clause (.root hq),
      hcondition, ?_⟩)
    cases lock <;> simp [horder, Query.alike_bounds, RowLock.alike_sql]

/-- A count agrees in both runs. -/
theorem agree_count (hq : q.className ∈ ν.root) :
    ν.Agree ν.Fragments (count ν.schema q) (count ν.schema q) := by
  unfold count
  refine .bind (.inNewScope (Query.agree_condition hq)) ?_
  rintro ⟨condition, scope⟩ ⟨condition', scope'⟩ ⟨hcondition, hscope⟩
  exact .pure (Sql.alike_select.mpr ⟨by simp, hscope.clause (.root hq), hcondition, Sql.alike_empty⟩)

/-- A random choice agrees in both runs. -/
theorem agree_random (hq : q.className ∈ ν.root) {weight : Option String} :
    ν.Agree ν.Fragments (random ν.schema q weight) (random ν.schema q weight) := by
  unfold random
  refine .bind (.inNewScope (R := fun r r' : Entries × Sql × Option Operand =>
    ν.Results r.1 r'.1 ∧ ν.Fragments r.2.1 r'.2.1 ∧
      Option.Rel (Operand.Alike ν.Labels) r.2.2 r'.2.2) ?_) ?_
  · refine .bind (Query.agree_entries hq) fun _ _ hentries => ?_
    refine .bind (Query.agree_condition hq) fun _ _ hcondition => ?_
    refine .bind (.optionMapM fun path _ => ?_) fun _ _ hweight =>
      .pure ⟨hentries, hcondition, hweight⟩
    exact Query.guards_context.operand (.table (.root hq))
  · rintro ⟨⟨entries, condition, weight⟩, scope⟩ ⟨⟨entries', condition', weight'⟩, scope'⟩
      ⟨⟨hentries, hcondition, hweight⟩, hscope⟩
    have hkey : ν.Fragments (Sql.randomKey (weight.map (·.sql)))
        (Sql.randomKey (weight'.map (·.sql))) := by
      refine Sql.alike_randomKey ?_
      cases hweight with
      | none => exact .none
      | some h => exact .some h.sql
    exact .pure (Sql.alike_select.mpr ⟨Sql.alike_resultList hentries, hscope.clause (.root hq),
      hcondition, by simp [hkey, Query.alike_bounds]⟩)

/-- An explanation agrees in both runs. -/
theorem agree_explain (hq : q.className ∈ ν.root) :
    ν.Agree ν.Fragments (explain ν.schema q) (explain ν.schema q) := by
  unfold explain
  exact .bind (agree_find hq) fun _ _ h => .pure (by simp [h])

/-- Whether something refers to the root is read off the same column. -/
theorem agree_unreferenced (hq : q.className ∈ ν.root) {r : Referrer}
    (hr : r ∈ ν.schema.referrers q.className) :
    ν.Agree ν.Fragments (unreferenced q.root r) (unreferenced q.root r) := by
  unfold unreferenced
  refine .bind (.freshTarget (ν.accepted.known_of_referrer hr)) ?_
  rintro source source' ⟨hsource, -⟩
  have hroot : ν.Targets q.root q.root := .root hq
  have hholding : ν.Fragments (r.holding source q.root).sql (r.holding source' q.root).sql := by
    unfold Referrer.holding
    split
    next => exact Holdings.sql (.pointer r.column hsource hroot)
    next => exact Holdings.sql (.tokens r.column hsource hroot)
  exact .pure (by simp [Sql.alike_existsIn hsource.table (.cons hholding .nil)])

/-- A search for objects that nothing refers to agrees in both runs. -/
theorem agree_nonrefs (hq : q.className ∈ ν.root) :
    ν.Agree ν.Fragments (nonrefs ν.schema q) (nonrefs ν.schema q) := by
  unfold nonrefs
  refine .bind (.inNewScope (R := fun r r' : Entries × List Sql × Sql =>
    ν.Results r.1 r'.1 ∧ List.Forall₂ ν.Fragments r.2.1 r'.2.1 ∧ ν.Fragments r.2.2 r'.2.2) ?_) ?_
  · refine .bind (Query.agree_entries hq) fun _ _ hentries => ?_
    refine .bind (Query.agree_condition hq) fun _ _ hcondition => ?_
    refine .bind (.mapM fun r hr => .liftCompile (agree_unreferenced hq hr)) fun _ _ hfree => ?_
    exact .bind (Query.agree_order hq) fun _ _ horder =>
      .pure ⟨hentries, .cons hcondition hfree, horder⟩
  · rintro ⟨⟨entries, conditions, order⟩, scope⟩ ⟨⟨entries', conditions', order'⟩, scope'⟩
      ⟨⟨hentries, hconditions, horder⟩, hscope⟩
    exact .pure (Sql.alike_select.mpr ⟨Sql.alike_resultList hentries, hscope.clause (.root hq),
      Sql.alike_and hconditions, by simp [horder, Query.alike_bounds]⟩)

/-- The objects that refer to others are read through the names of their classes. -/
theorem alike_referring {tokens : List String} {r : Referrer}
    (hknown : (ν.schema.class? r.className).isSome = true) :
    ν.Fragments (referring tokens r) (referring tokens r) := by
  have hcolumn (name : String) :
      ν.Fragments ((Target.root r.className).column name) ((Target.root r.className).column name) :=
    .column name (.fixed (.inr (ν.names _ hknown)))
  have htable : ν.Fragments (Target.root r.className).table (Target.root r.className).table := by
    simp [Target.table, Target.root]
  have hrefers : ν.Fragments (r.refersToOne (.root r.className) tokens)
      (r.refersToOne (.root r.className) tokens) := by
    unfold Referrer.refersToOne
    split <;> simp [hcolumn]
  simp [referring, referrerList, hcolumn, htable, hrefers]

/-- A search for references agrees in both runs, though it has no root. -/
theorem agree_refs {className : String} {ids : List String} :
    ν.Agree ν.Fragments (refs ν.schema className ids) (refs ν.schema className ids) := by
  unfold refs
  refine .bind (.lift (.refl _)) fun _ _ _ => ?_
  dsimp only
  split
  next => exact .pure (by simp [referrerList])
  next =>
    exact .pure (Sql.alike_join.mpr (Sql.alike_map fun r hr =>
      alike_referring (ν.accepted.known_of_referrer hr)))

end Read

end ObjectQuery

/-! ## Statements that write -/

namespace ObjectQuery

open Offset

variable {ν : Offset} {q : Query} {list list' : Sql} {scope scope' : Scope}

namespace Write

/-! ## Named subqueries -/

/-- A named subquery goes by its name in both runs. -/
theorem labels_name {name : String} (hname : name ∈ subqueryNames) : ν.Labels name name :=
  .fixed (.inr fun n heq => (AliasKind.aliasOf_unreserved (n + 1)).2 (heq ▸ hname))

/-- Named queries are alike if their bodies are, for they go by one name. -/
@[simp]
theorem alike_named {name : String} {body body' : Sql} :
    ν.Fragments (named name body) (named name body') ↔ ν.Fragments body body' := by
  simp [named]

/-- The choice of the rows to change agrees in both runs. -/
theorem agree_candidateRows (hq : q.className ∈ ν.root) :
    ν.Agree ν.Fragments (candidateRows ν.schema q) (candidateRows ν.schema q) := by
  unfold candidateRows
  refine .bind (.inNewScope (R := fun r r' : Sql × Sql =>
    ν.Fragments r.1 r'.1 ∧ ν.Fragments r.2 r'.2) ?_) ?_
  · refine .bind (Query.agree_condition hq) fun _ _ hcondition => ?_
    exact .bind (Query.agree_order hq) fun _ _ horder => .pure ⟨hcondition, horder⟩
  · rintro ⟨⟨condition, order⟩, scope⟩ ⟨⟨condition', order'⟩, scope'⟩ ⟨⟨hcondition, horder⟩, hscope⟩
    have hroot : ν.Targets q.root q.root := .root hq
    refine .pure (alike_named.mpr (Sql.alike_select.mpr
      ⟨hroot.column, hscope.clause hroot, hcondition, ?_⟩))
    simp [horder, Query.alike_bounds, RowLock.alike_sql]

/-- Whether a row has been chosen is asked alike. -/
theorem alike_isCandidate (hq : q.className ∈ ν.root) :
    ν.Fragments (isCandidate q.root) (isCandidate q.root) := by
  have hroot : ν.Targets q.root q.root := .root hq
  have hcandidates : ν.Labels candidates candidates := labels_name (by simp)
  simp [isCandidate, hroot.column, hcandidates]

/-- New values are read off the root. -/
theorem alike_updatedRows (hq : q.className ∈ ν.root) {document : List (String × Json)}
    {changed : Sql} (h : updatedRows ν.schema q.root document = .ok changed) :
    ν.Fragments changed changed := by
  obtain ⟨sets, hsets, hpure⟩ := Result.bind_eq_ok.mp h
  cases hpure
  have hroot : ν.Targets q.root q.root := .root hq
  have hclosed := assignments_closed (K := Sql.selfAlike ν.Labels) (fun _ _ => hroot.column) hsets
  have hown : ν.Fragments (q.root.column Field.version) (q.root.column Field.version) := hroot.column
  have hstar : ν.Fragments (.star q.root.className) (.star q.root.className) := .star hroot.label
  have hcandidates : ν.Labels candidates candidates := labels_name (by simp)
  have hasked : List.Forall₂ ν.Fragments (sets.map fun set => .seq [.ident set.1, " = ", set.2])
      (sets.map fun set => .seq [.ident set.1, " = ", set.2]) :=
    Sql.alike_map fun set hset => by
      have hvalue : ν.Fragments set.2 set.2 := (hclosed set hset).2
      simp [hvalue]
  simpa [hown, hstar, hcandidates, alike_isCandidate hq] using hasked

/-- New rows are inserted alike if they are. -/
theorem alike_insertInto {className : String} {row : List (String × Sql)} {rows rows' : Sql}
    (h : ν.Fragments rows rows') :
    ν.Fragments (insertInto className row rows) (insertInto className row rows') := by
  have hcolumns : ν.Fragments (columnList row) (columnList row) :=
    columnList_closed (K := Sql.selfAlike ν.Labels)
  simp [insertInto, hcolumns, h]

/-- Rows are deleted alike where they have been chosen. -/
theorem alike_deletedRows (hq : q.className ∈ ν.root) :
    ν.Fragments (deletedRows q.root) (deletedRows q.root) := by
  have hstar : ν.Fragments (.star q.root.className) (.star q.root.className) :=
    .star (.fixed (.inl hq))
  have hcandidates : ν.Labels candidates candidates := labels_name (by simp)
  simp [deletedRows, hstar, hcandidates, alike_isCandidate hq]

/-- What was written is read back alike. -/
theorem alike_readBack (hq : q.className ∈ ν.root) {name : String} (hlist : ν.Fragments list list')
    (hscope : ν.Scopes scope scope') :
    ν.Fragments (readBack q list scope name) (readBack q list' scope' name) := by
  have hsource : ν.Fragments (scope.joined (.source name q.root.label))
      (scope'.joined (.source name q.root.label)) :=
    hscope.joined (.source name (.fixed (.inl hq)))
  simp [readBack, Scope.sourceClause, hlist, hsource]

/-- A query behind named ones is alike if it is and they are, one by one. -/
theorem alike_withSubqueries {subqueries subqueries' : List Sql} {query query' : Sql}
    (hsubqueries : List.Forall₂ ν.Fragments subqueries subqueries')
    (hquery : ν.Fragments query query') :
    ν.Fragments (withSubqueries subqueries query) (withSubqueries subqueries' query') := by
  simp [withSubqueries, hsubqueries, hquery]

/-! ## Statements -/

/-- The values of a new row are bound, so they are the same in both runs. -/
theorem alike_valueList {className : String} {attributes : List (String × Json)}
    {row : List (String × Sql)} (h : Write.row ν.schema className attributes = .ok row) :
    ν.Fragments (valueList row) (valueList row) :=
  valueList_closed (K := Sql.selfAlike ν.Labels) h

/-- An insertion agrees in both runs. -/
theorem agree_insert (hq : q.className ∈ ν.root) {objects : List (List (String × Json))} :
    ν.Agree ν.Fragments (insert ν.schema q objects) (insert ν.schema q objects) := by
  unfold insert
  refine .bind (.lift (.refl _)) ?_
  rintro rows _ ⟨rfl, hrows⟩
  split
  next first rest =>
    refine .bind (Query.agree_refetch hq) ?_
    rintro ⟨list, scope⟩ ⟨list', scope'⟩ ⟨hlist, hscope⟩
    have hvalues : List.Forall₂ ν.Fragments
        ((first :: rest).map fun r => .seq ["(", valueList r, ")"])
        ((first :: rest).map fun r => .seq ["(", valueList r, ")"]) :=
      Sql.alike_map fun row hrow => by
        obtain ⟨object, -, hobject⟩ := Result.exists_of_mapM_eq_ok hrows row hrow
        simp [alike_valueList hobject]
    refine .pure (alike_withSubqueries (.cons (alike_insertInto ?_) .nil)
      (alike_readBack hq hlist hscope))
    simpa using hvalues
  next => exact .throw

/-- An update agrees in both runs. -/
theorem agree_update (hq : q.className ∈ ν.root) {document : List (String × Json)} :
    ν.Agree ν.Fragments (update ν.schema q document) (update ν.schema q document) := by
  unfold update
  refine .bind (agree_candidateRows hq) fun _ _ hcandidates => ?_
  refine .bind (.lift (.refl _)) ?_
  rintro changed _ ⟨rfl, hchanged⟩
  refine .bind (Query.agree_refetch hq) ?_
  rintro ⟨list, scope⟩ ⟨list', scope'⟩ ⟨hlist, hscope⟩
  exact .pure (alike_withSubqueries (.cons hcandidates (.cons (alike_updatedRows hq hchanged) .nil))
    (alike_readBack hq hlist hscope))

/-- The row of a new object that is written if nothing has been changed. -/
theorem alike_otherwise {row : List (String × Sql)} (h : ν.Fragments (valueList row) (valueList row)) :
    ν.Fragments (otherwise row) (otherwise row) := by
  have hupdated : ν.Labels updated updated := labels_name (by simp)
  simp [otherwise, h, hupdated]

/-- An upsert agrees in both runs. -/
theorem agree_upsert (hq : q.className ∈ ν.root) {document object : List (String × Json)} :
    ν.Agree ν.Fragments (upsert ν.schema q document object) (upsert ν.schema q document object) := by
  unfold upsert
  refine .bind (agree_candidateRows hq) fun _ _ hcandidates => ?_
  refine .bind (.lift (.refl _)) ?_
  rintro changed _ ⟨rfl, hchanged⟩
  refine .bind (.lift (.refl _)) ?_
  rintro row _ ⟨rfl, hrow⟩
  refine .bind (Query.agree_refetch hq) ?_
  rintro ⟨list, scope⟩ ⟨list', scope'⟩ ⟨hlist, hscope⟩
  have hbranch (name : String) :
      ν.Fragments (readBack q list scope name) (readBack q list' scope' name) :=
    alike_readBack hq hlist hscope
  have hinserted : ν.Fragments (insertInto q.className row (otherwise row))
      (insertInto q.className row (otherwise row)) :=
    alike_insertInto (alike_otherwise (alike_valueList hrow))
  refine .pure (alike_withSubqueries
    (.cons hcandidates (.cons (alike_updatedRows hq hchanged) (.cons hinserted .nil))) ?_)
  simp [hbranch]

/-- A deletion agrees in both runs. -/
theorem agree_delete (hq : q.className ∈ ν.root) :
    ν.Agree ν.Fragments (delete ν.schema q) (delete ν.schema q) := by
  unfold delete
  refine .bind (agree_candidateRows hq) fun _ _ hcandidates => ?_
  refine .bind (Query.agree_refetch hq) ?_
  rintro ⟨list, scope⟩ ⟨list', scope'⟩ ⟨hlist, hscope⟩
  exact .pure (alike_withSubqueries (.cons hcandidates (.cons (alike_deletedRows hq) .nil))
    (alike_readBack hq hlist hscope))

end Write

end ObjectQuery
