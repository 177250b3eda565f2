import ObjectQuery.Proofs.Scoping.Reading

/-!
# Statements that write

A write names its rows in subqueries before its query, and each of them is a clause of its own: the
root, and with it the named subquery that the rows are taken from, if there is one. The query reads
what was written through the name of a subquery that stands in for the root, so it is compiled as
any query is.
-/

namespace ObjectQuery

open Sql

variable {root : String} {s : Schema} {q : Query}

namespace Write

/-! ## Bodies -/

/-- What a write sees: the root, and named subqueries. -/
structure Visible (root : String) (names : List String) : Prop where
  rooted : root ∈ names
  others : ∀ name ∈ names, name = root ∨ name ∈ subqueryNames
  distinct : Unreserved root → names.Nodup

/-- A write that names no subquery sees the root alone. -/
theorem visible_root : Visible root [root] where
  rooted := List.mem_cons_self
  others := List.forall_mem_singleton.mpr (.inl rfl)
  distinct _ := List.nodup_singleton root

/-- The root may be seen with a named subquery. -/
theorem visible_pair {name : String} (hname : name ∈ subqueryNames) :
    Visible root [root, name] where
  rooted := List.mem_cons_self
  others := List.forall_mem_cons.mpr ⟨.inl rfl, List.forall_mem_singleton.mpr (.inr hname)⟩
  distinct hroot := by
    refine List.nodup_cons.mpr ⟨fun hmem => ?_, List.nodup_singleton name⟩
    exact hroot.named (List.mem_singleton.mp hmem ▸ hname)

/-- It does not matter in which order names are seen. -/
theorem Visible.perm {names names' : List String} (h : Visible root names)
    (hperm : names.Perm names') : Visible root names' where
  rooted := hperm.mem_iff.mp h.rooted
  others name hname := h.others name (hperm.mem_iff.mpr hname)
  distinct hroot := hperm.nodup_iff.mp (h.distinct hroot)

/-- What fits the clause of the root fits where a write sees its names. -/
theorem Visible.sees {names : List String} (h : Visible root names) :
    (FromClause.ofRoot root).site.Sees names where
  kept label hlabel := List.mem_singleton.mp hlabel ▸ h.rooted
  named label hlabel :=
    (h.others label hlabel).elim (fun heq => ⟨.root, heq⟩) fun hname => ⟨.named, hname⟩
  later hroot label hlabel := by
    rcases h.others label hlabel with rfl | hname
    · exact .inr (.inl List.mem_cons_self)
    · exact .inr (.inr ⟨fun heq => hroot.named (heq ▸ hname), nofun⟩)
  distinct hroot := (h.distinct hroot).filter _

/--
A part of a body that sees some names: it joins nothing, reads through these, and its subqueries are
sound.
-/
structure Part (root : String) (names : List String) (p : Sql) : Prop where
  compound : ∀ body, p ≠ .block body
  joins : p.joins = []
  reads : ∀ label ∈ p.reads, label ∈ names
  levels : ∀ level ∈ levelsIn [] names p, level.Sound root

/-- What fits the clause of the root may be a part. -/
theorem part_of_closed {names : List String} {p : Sql} (hnames : Visible root names)
    (h : Closed (FromClause.ofRoot root).site.closedness p) (hp : ∀ body, p ≠ .block body) :
    Part root names p where
  compound := hp
  joins := joins_eq_nil h.introduced
  reads label hlabel := hnames.sees.kept label (h.reads label hlabel)
  levels := h.levels [] names hnames.sees

/-- A body that introduces the names it sees is sound. -/
theorem sound_body {parts : List Sql} {names : List String} (hnames : Visible root names)
    (hintroduced : (Sql.seq parts).introduced = names) (hjoined : joinedTo (.seq parts) = [])
    (hparts : ∀ p ∈ parts, Part root names p) :
    ∀ level ∈ queryLevels (.seq parts), level.Sound root := by
  have hsees : (FromClause.ofRoot root).site.Sees (level [] (.seq parts)).visible := by
    rw [Level.visible, level, hintroduced, List.append_nil]
    exact hnames.sees
  have hreads : ∀ label ∈ (Sql.seq parts).reads, label ∈ (level [] (.seq parts)).own := by
    intro label hlabel
    obtain ⟨p, hp, hread⟩ := List.mem_flatMap.mp (reads_seq ▸ hlabel)
    rw [level, hintroduced]
    exact (hparts p hp).reads label hread
  unfold queryLevels levelsIn
  rw [hintroduced, List.append_nil]
  refine List.forall_mem_cons.mpr ⟨⟨fun label hlabel => ?bound, .inl ?joins,
    hsees.unambiguous (fun hroot => ?nodup) fun _ label hlabel _ => hreads label hlabel⟩,
    fun inner hinner => ?below⟩
  case bound => exact List.mem_append_left _ (hreads label hlabel)
  case joins =>
    rw [level, joins_seq, hjoined, List.nil_append]
    exact List.flatMap_eq_nil_iff.mpr fun p hp => (hparts p hp).joins
  case nodup =>
    rw [level, hintroduced]
    exact hnames.distinct hroot
  case below =>
    obtain ⟨p, hp, hmem⟩ := mem_partLevels hinner
    rcases hmem with hmem | ⟨⟨body, hblock⟩, -⟩
    · exact (hparts p hp).levels inner hmem
    · exact ((hparts p hp).compound body hblock).elim

/-- A named subquery whose body is sound, with the queries in it. -/
def IsSound (root : String) (sub : Sql) : Prop :=
  ∃ name body, sub = named name body ∧ ∀ level ∈ queryLevels body, level.Sound root

/-- The queries in a named subquery are those of its body. -/
theorem levelsIn_named {name : String} {body : Sql} :
    levelsIn [] [] (named name body) = queryLevels body := by
  simp [named, levelsIn, partLevels, isDerived, queryLevels]

/-- A statement is sound if its named subqueries and its query are. -/
theorem sound_withSubqueries {subqueries : List Sql} {query : Sql}
    (hsubqueries : ∀ sub ∈ subqueries, IsSound root sub)
    (hquery : ∀ level ∈ queryLevels query, level.Sound root) :
    ∀ level ∈ (withSubqueries subqueries query).levels, level.Sound root := by
  have hlevels : (withSubqueries subqueries query).levels =
      subqueries.flatMap (levelsIn [] []) ++ queryLevels query := rfl
  rw [hlevels]
  refine List.forall_mem_append.mpr ⟨fun level hlevel => ?_, hquery⟩
  obtain ⟨sub, hsub, hmem⟩ := List.mem_flatMap.mp hlevel
  obtain ⟨name, body, rfl, hbody⟩ := hsubqueries sub hsub
  rw [levelsIn_named] at hmem
  exact hbody level hmem

/-! ## Named subqueries -/

/-- The subquery of candidates is a query of the root, and sound. -/
theorem yields_candidateRows_sound :
    Compile.Yields (candidateRows s q) (IsSound q.className) := by
  unfold candidateRows
  refine .bind (.ofRoot (Q := fun (v : FromClause q.className) (r : Sql × Sql) =>
    Closed v.site.closedness r.1 ∧ Closed v.site.closedness r.2) ?_) ?_
  · have hroot : (Frame.table q.root).ReadIn (.ofRoot q.className) := FromClause.readIn_ofRoot
    refine .bind (Query.draws_condition hroot) fun v hv condition hcondition => ?_
    refine .bind (Query.draws_order (hroot.mono hv)) fun u hu order horder => .pure ?_
    exact ⟨FromClause.closed_mono hu hcondition, horder⟩
  · rintro ⟨⟨condition, order⟩, _⟩ ⟨v, hle, rfl, hcondition, horder⟩
    have hroot := Context.visible_of_readIn (FromClause.readIn_ofRoot.mono hle)
    have hlist : Closed v.site.closedness (q.root.column Field.id) :=
      q.root.closed_column_of_visible hroot
    have hreads := Query.reads_select hle hlist hcondition
      (show Closed v.site.closedness (.seq [order, q.bounds, RowLock.update.sql q.root]) by
        simp [horder, Query.bounds, bounds_closed, RowLock.sql_closed])
    exact .pure ⟨_, _, rfl, hreads.single ▸ hreads.sound⟩

section Bodies

variable {names : List String}

theorem part_raw {text : String} : Part root names (.raw text) :=
  ⟨by simp, rfl, List.forall_mem_nil _, List.forall_mem_nil _⟩

theorem part_root {className : String} : Part root names (.root className) :=
  ⟨by simp, rfl, List.forall_mem_nil _, List.forall_mem_nil _⟩

theorem part_binder {label : String} : Part root names (.binder label) :=
  ⟨by simp, rfl, List.forall_mem_nil _, List.forall_mem_nil _⟩

theorem part_star (hnames : Visible root names) : Part root names (.star root) :=
  ⟨by simp, rfl, List.forall_mem_singleton.mpr hnames.rooted, List.forall_mem_nil _⟩

theorem part_isCandidate : Part root [root, candidates] (isCandidate (.root root)) where
  compound := nofun
  joins := rfl
  reads := by simp [isCandidate, Target.column, Target.root]
  levels := nofun

end Bodies

/-- The root is changed where it is a candidate; the new values read the root only. -/
theorem sound_changing {values : Sql} (hcompound : ∀ body, values ≠ .block body)
    (hvalues : Closed (FromClause.ofRoot root).site.closedness values) :
    ∀ level ∈ queryLevels (.seq ["UPDATE ", .root root, " SET ", values, " FROM ",
      .binder candidates, " WHERE ", isCandidate (.root root), " RETURNING ", .star root]),
      level.Sound root := by
  have hnames : Visible root [root, candidates] := visible_pair (by simp)
  refine sound_body hnames (by simp [hvalues.introduced, isCandidate, Target.column]) rfl ?_
  have hpart := part_of_closed hnames hvalues hcompound
  simp only [List.forall_mem_cons, part_raw, part_root, part_binder, part_star hnames, hpart,
    part_isCandidate, true_and]
  exact List.forall_mem_nil _

/-- The root is removed where it is a candidate. -/
theorem sound_removing :
    ∀ level ∈ queryLevels (.seq ["DELETE FROM ", .root root, " USING ", .binder candidates,
      " WHERE ", isCandidate (.root root), " RETURNING ", .star root]), level.Sound root := by
  have hnames : Visible root [root, candidates] := visible_pair (by simp)
  refine sound_body hnames (by simp [isCandidate, Target.column]) rfl ?_
  simp only [List.forall_mem_cons, part_raw, part_root, part_binder, part_star hnames,
    part_isCandidate, true_and]
  exact List.forall_mem_nil _

/-- The subquery of an update is sound: it changes the root where it is a candidate. -/
theorem isSound_updatedRows {document : List (String × Json)} {changed : Sql}
    (h : updatedRows s q.root document = .ok changed) : IsSound q.root.className changed := by
  obtain ⟨sets, hsets, hchanged⟩ := Result.bind_eq_ok.mp h
  cases hchanged
  have hroot : q.root.label ∈ (FromClause.ofRoot q.root.className).site.visible :=
    List.mem_cons_self
  have hclosed := assignments_closed (K := (FromClause.ofRoot q.root.className).site.closedness)
    (fun _ _ => Target.closed_column_of_visible hroot) hsets
  refine ⟨_, _, rfl, sound_changing nofun (closed_join.mpr (List.forall_mem_append.mpr
    ⟨?_, List.forall_mem_map.mpr fun set hset => ?_⟩))⟩
  · simp [q.root.closed_column_of_visible hroot]
  · simp [(hclosed set hset).2]

/-- The subquery of a deletion is sound. -/
theorem isSound_deletedRows : IsSound q.className (deletedRows q.root) :=
  ⟨_, _, rfl, sound_removing⟩

/-- What is written is given by values, or read where nothing else stands around it but the root. -/
theorem isSound_insertInto {row : List (String × Sql)} {rows : Sql} (hrows : Part root [root] rows)
    (hnone : rows.introduced = []) : IsSound root (insertInto root row rows) := by
  have hlist : Closed (FromClause.ofRoot root).site.closedness (columnList row) := columnList_closed
  refine ⟨_, _, rfl, sound_body visible_root (by simp [hlist.introduced, hnone]) rfl ?_⟩
  have hcolumns := part_of_closed visible_root hlist nofun
  simp only [List.forall_mem_cons, part_raw, part_root, hcolumns, hrows, true_and]
  exact List.forall_mem_nil _

/-- A row that is written if nothing has been changed. -/
theorem part_otherwise {row : List (String × Sql)}
    (hrow : Closed (FromClause.ofRoot root).site.closedness (valueList row)) :
    Part root [root] (otherwise row) where
  compound := by simp [otherwise]
  joins := joins_eq_nil (by simp [otherwise, hrow.introduced])
  reads label hlabel := by
    have hread : label ∈ (valueList row).reads := by simpa [otherwise] using hlabel
    exact visible_root.sees.kept label (hrow.reads label hread)
  levels level hlevel := by
    have hnames : ∀ label, binder label ∉ [raw " SELECT ", valueList row, raw " WHERE NOT EXISTS (",
        .block (.seq ["SELECT 1 FROM ", .binder updated]), raw ")"] :=
      not_binder_of_introduced (by simp [hrow.introduced])
    obtain ⟨p, hp, hmem⟩ := (mem_partLevels_iff hnames).mp hlevel
    simp only [List.mem_cons, List.not_mem_nil, or_false] at hp
    rcases hp with rfl | rfl | rfl | rfl | rfl
    · cases hmem
    · exact hrow.levels [] [root] visible_root.sees level hmem
    · cases hmem
    · have hnames : Visible root [updated, root] :=
        (visible_pair (by simp)).perm (List.Perm.swap _ _ _)
      obtain rfl : level = ⟨[updated], [root], [], []⟩ := by
        simpa [levelsIn, partLevels, isDerived, Sql.level, joins, gather, joinedTo] using hmem
      exact ⟨List.forall_mem_nil _, .inl rfl,
        hnames.sees.unambiguous (fun _ => List.nodup_singleton _) fun _ => by simp⟩
    · cases hmem

/-! ## Statements -/

/-- What was written is read through a named subquery in place of the root. -/
theorem rows_readBack {v : FromClause q.className} (hle : FromClause.ofRoot q.className ≤ v)
    {list : Sql} (hlist : Closed v.site.closedness list) {name : String} :
    v.Rows (readBack q list v.scope name) := by
  have hsource : (Sql.source name q.root.label).GoesBy v.table := hle.table ▸ .source name
  exact (FromClause.rows_joined hsource).within [list, " FROM "] [] (by simp [hlist])
    (List.forall_mem_nil _)

/-- What is read back is a query of the root's clause under another name, and sound. -/
theorem sound_readBack {v : FromClause q.className} (hle : FromClause.ofRoot q.className ≤ v)
    {list : Sql} (hlist : Closed v.site.closedness list) {name : String} :
    ∀ level ∈ queryLevels (readBack q list v.scope name), level.Sound q.className :=
  (rows_readBack hle hlist).closed_block.levels [] [] (FromClause.sees_nil hle)

/-- All queries in an insertion are sound. -/
theorem yields_insert_sound {objects : List (List (String × Json))} :
    Compile.Yields (insert s q objects)
      fun sql => ∀ level ∈ sql.levels, level.Sound q.className := by
  unfold insert
  refine .bind (.lift (Q := fun rows => ∀ row ∈ rows,
    Closed (FromClause.ofRoot q.className).site.closedness (valueList row))
    fun rows hrows row hrow => ?_) fun rows hrows => ?_
  · obtain ⟨object, -, hobject⟩ := Result.exists_of_mapM_eq_ok hrows row hrow
    exact valueList_closed hobject
  · split
    next first rest =>
      refine .bind Query.yields_refetch_scoped ?_
      rintro ⟨list, _⟩ ⟨v, hle, rfl, hlist⟩
      refine .pure (sound_withSubqueries (List.forall_mem_singleton.mpr ?_)
        (sound_readBack hle hlist))
      have hvalues : Closed (FromClause.ofRoot q.className).site.closedness
          (.seq [" VALUES ",
            .join ((first :: rest).map fun r => .seq ["(", valueList r, ")"]) ", "]) := by
        simpa [closed_join] using hrows
      exact isSound_insertInto (part_of_closed visible_root hvalues (by simp)) hvalues.introduced
    next => exact .throw

/-- All queries in an update are sound. -/
theorem yields_update_sound {document : List (String × Json)} :
    Compile.Yields (update s q document)
      fun sql => ∀ level ∈ sql.levels, level.Sound q.className := by
  unfold update
  refine .bind yields_candidateRows_sound fun candidates hcandidates => ?_
  refine .bind (.lift (Q := IsSound q.className) fun changed h => isSound_updatedRows h)
    fun changed hchanged => ?_
  refine .bind Query.yields_refetch_scoped ?_
  rintro ⟨list, _⟩ ⟨v, hle, rfl, hlist⟩
  exact .pure (sound_withSubqueries (List.forall_mem_cons.mpr
    ⟨hcandidates, List.forall_mem_singleton.mpr hchanged⟩) (sound_readBack hle hlist))

/-- All queries in an upsert are sound. -/
theorem yields_upsert_sound {document object : List (String × Json)} :
    Compile.Yields (upsert s q document object)
      fun sql => ∀ level ∈ sql.levels, level.Sound q.className := by
  unfold upsert
  refine .bind yields_candidateRows_sound fun candidates hcandidates => ?_
  refine .bind (.lift (Q := IsSound q.className) fun changed h => isSound_updatedRows h)
    fun changed hchanged => ?_
  refine .bind (.lift (Q := fun row =>
    Closed (FromClause.ofRoot q.className).site.closedness (valueList row))
    fun row h => valueList_closed h) fun row hrow => ?_
  refine .bind Query.yields_refetch_scoped ?_
  rintro ⟨list, _⟩ ⟨v, hle, rfl, hlist⟩
  have hbranch : ∀ name, Closed v.outside.closedness (.block (readBack q list v.scope name)) :=
    fun name => (rows_readBack hle hlist).closed_block
  have hinserted : IsSound q.className (insertInto q.className row (otherwise row)) :=
    isSound_insertInto (part_otherwise hrow) (by simp [otherwise, hrow.introduced])
  refine .pure (sound_withSubqueries (List.forall_mem_cons.mpr ⟨hcandidates,
    List.forall_mem_cons.mpr ⟨hchanged, List.forall_mem_singleton.mpr hinserted⟩⟩) ?_)
  -- the branches stand in a query that has no clause of its own
  have hunion : Closed v.outside.closedness
      (.seq [.seq ["(", .block (readBack q list v.scope updated), ")"], " UNION ALL ",
        .seq ["(", .block (readBack q list v.scope inserted), ")"]]) := by
    simp [hbranch]
  exact hunion.block.levels [] [] (FromClause.sees_nil hle)

/-- All queries in a deletion are sound. -/
theorem yields_delete_sound :
    Compile.Yields (delete s q) fun sql => ∀ level ∈ sql.levels, level.Sound q.className := by
  unfold delete
  refine .bind yields_candidateRows_sound fun candidates hcandidates => ?_
  refine .bind Query.yields_refetch_scoped ?_
  rintro ⟨list, _⟩ ⟨v, hle, rfl, hlist⟩
  exact .pure (sound_withSubqueries (List.forall_mem_cons.mpr
    ⟨hcandidates, List.forall_mem_singleton.mpr isSound_deletedRows⟩) (sound_readBack hle hlist))

end Write

end ObjectQuery
