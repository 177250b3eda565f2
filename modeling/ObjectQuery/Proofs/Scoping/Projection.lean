import ObjectQuery.Proofs.Scoping.Reach
import ObjectQuery.Statement.Read

/-!
# Clauses for a result

A plan draws the aliases of all its nodes before anything is compiled, in the order in which its
tree is walked. They are set aside, and each is used once: for the join of its pointer, or for the
members of its relation. What a group or an order draws in between comes from the counter.
-/

namespace ObjectQuery

open Sql

variable {root : String} {S : Site root} {w v : FromClause root} {rest rest' : List String}

/-! ## The aliases of a plan -/

/-- The next aliases of the counter, so many of them. -/
def drawn (n count : Nat) : List String := (List.range' n count).map fun k => aliasOf (k + 1)

theorem drawn_append {n first second : Nat} :
    drawn n first ++ drawn (n + first) second = drawn n (first + second) := by
  rw [drawn, drawn, drawn, ← List.map_append, List.range'_append_1]

theorem nodup_drawn {n count : Nat} : (drawn n count).Nodup := by
  refine (List.nodup_range' 1).map fun k m heq => ?_
  exact Nat.succ_injective (Aliases.aliasOf_injective heq)

/-- What a plan has drawn may be set aside. -/
theorem Spare.setAside {used : List String} {n : Nat} (h : Spare used [] n) (count : Nat) :
    Spare used (drawn n count) (n + count) where
  undrawn k hk := by
    refine ⟨(h.undrawn k (by omega)).1, fun hmem => ?_⟩
    obtain ⟨m, hm, heq⟩ := List.mem_map.mp hmem
    have := Aliases.aliasOf_injective heq
    have := List.mem_range'_1.mp hm
    omega
  unused label hlabel := by
    obtain ⟨m, hm, rfl⟩ := List.mem_map.mp hlabel
    exact ⟨(h.undrawn m (List.mem_range'_1.mp hm).1).1, m, rfl⟩

namespace Plan

mutual

/-- The aliases of a plan and of what is below it, in the order in which it is walked. -/
def labels : Plan → List String
  | ⟨node, _, _, children, _⟩ => node.label :: allLabels children

def allLabels : List Plan → List String
  | [] => []
  | plan :: plans => labels plan ++ allLabels plans

end

/-- A loop over what draws its aliases one after the other does so, too. -/
theorem drawn_of_mapM {f : α → Compile Plan}
    (hf : ∀ a n plan n', Compile.Runs (f a) n plan n' →
      ∃ count, n' = n + count ∧ plan.labels = drawn n count)
    {as : List α} {n n' : Nat} {plans : List Plan} (h : Compile.Runs (as.mapM f) n plans n') :
    ∃ count, n' = n + count ∧ allLabels plans = drawn n count := by
  induction as generalizing n plans with
  | nil =>
    obtain ⟨rfl, rfl⟩ := Compile.runs_pure.mp h
    exact ⟨0, rfl, rfl⟩
  | cons a as ih =>
    rw [List.mapM_cons] at h
    obtain ⟨plan, m, hplan, h⟩ := Compile.runs_bind.mp h
    obtain ⟨more, m', hmore, h⟩ := Compile.runs_bind.mp h
    obtain ⟨rfl, rfl⟩ := Compile.runs_pure.mp h
    obtain ⟨first, rfl, hfirst⟩ := hf a n plan m hplan
    obtain ⟨second, rfl, hsecond⟩ := ih hmore
    refine ⟨first + second, Nat.add_assoc _ _ _, ?_⟩
    rw [allLabels, hfirst, hsecond, drawn_append]

/-- Below its root a plan has the aliases that the counter has given out for it. -/
theorem drawn_of_ofParts {s : Schema} {depth : Nat} {target : Target} {reach : Reach}
    {paths : List Parts} {query : BaseQuery} {n n' : Nat} {plan : Plan}
    (h : Compile.Runs (ofParts s depth target reach paths query) n plan n') :
    plan.target = target ∧ ∃ count, n' = n + count ∧ allLabels plan.children = drawn n count := by
  induction depth generalizing target reach paths query n plan n' with
  | zero =>
    unfold ofParts at h
    obtain ⟨c, m, hc, hafter⟩ := Compile.runs_bind.mp h
    obtain ⟨level, m', hlevel, hbelow⟩ := Compile.runs_bind.mp hafter
    obtain ⟨children, m'', hchildren, hlast⟩ := Compile.runs_bind.mp hbelow
    obtain ⟨-, rfl⟩ := Compile.runs_lift.mp hc
    obtain ⟨-, rfl⟩ := Compile.runs_lift.mp hlevel
    obtain ⟨rfl, rfl⟩ := Compile.runs_pure.mp hchildren
    obtain ⟨rfl, rfl⟩ := Compile.runs_pure.mp hlast
    exact ⟨rfl, 0, rfl, rfl⟩
  | succ depth ih =>
    unfold ofParts at h
    obtain ⟨c, m, hc, hafter⟩ := Compile.runs_bind.mp h
    obtain ⟨level, m', hlevel, hbelow⟩ := Compile.runs_bind.mp hafter
    obtain ⟨children, m'', hchildren, hlast⟩ := Compile.runs_bind.mp hbelow
    obtain ⟨-, rfl⟩ := Compile.runs_lift.mp hc
    obtain ⟨-, rfl⟩ := Compile.runs_lift.mp hlevel
    obtain ⟨rfl, rfl⟩ := Compile.runs_pure.mp hlast
    refine ⟨rfl, drawn_of_mapM ?_ hchildren⟩
    rintro ⟨field, paths⟩ n child n' hchild
    dsimp only at hchild
    split at hchild
    next reach className hreach =>
      obtain ⟨t, m, ht, hchild⟩ := Compile.runs_bind.mp hchild
      cases ht
      obtain ⟨htarget, count, rfl, hlabels⟩ := ih hchild
      obtain ⟨node, reach, columns, children, query⟩ := child
      obtain rfl : node = _ := htarget
      refine ⟨count + 1, by omega, ?_⟩
      rw [labels, hlabels, Nat.add_comm count, ← drawn_append]
      rfl
    next => exact (Compile.not_runs_throw hchild).elim

end Plan

namespace Context

variable {ctx : Context} {owner member : Target} {field : String} {query : BaseQuery}

/-! ## Groups -/

/--
The rows of groups stand under an alias of their own, and the rows they are made of do not see it.
-/
theorem closed_groupRows {label : String} {key value source condition : Sql}
    (hlabel : w.site.Fresh label) (hsource : w.Rows source) (hkey : Closed w.site.closedness key)
    (hvalue : Closed w.site.closedness value) (hcondition : Closed w.site.closedness condition) :
    Closed w.outside.closedness (groupRows label key value source condition) := by
  have hlist : Closed w.site.closedness
      (.seq [key, " AS ", .ident "key", ", to_jsonb(", value, ") AS ", .ident "value"]) := by
    simp [hkey, hvalue]
  have hquery := FromClause.Rows.closed_select hsource hlist hcondition
    (show Closed w.site.closedness " GROUP BY 1" from closed_raw)
  simp only [groupRows, closed_seq, List.forall_mem_cons, closed_raw, true_and]
  refine ⟨⟨rfl, by simp, fun around here hsees => ?_⟩, List.forall_mem_nil _⟩
  have hfresh : w.outside.Fresh label := ⟨hlabel.given, fun hroot hmem =>
    hlabel.hidden hroot (FromClause.mem_site_of_outside hmem)⟩
  have hseen : (w.outside.query label true hfresh).site.Sees ([label] ++ here) :=
    FromClause.sees_own hsees
  have hlevel : (Sql.Level.mk [label] here [label, label] []).Sound root :=
    ⟨by simp [Level.Bound, Level.visible], .inl rfl,
      Seen.unambiguous hseen (fun _ => List.nodup_singleton _) fun _ _ h _ => by simpa using h⟩
  have hbelow := hquery.levels here here hsees
  rw [levelsIn, List.forall_mem_cons] at hbelow
  simpa [levelsIn, partLevels, isDerived, level, joins_seq, joinedTo] using ⟨hlevel, hbelow⟩

/-- A group goes over the members of a relation in a clause of its own. -/
theorem draws_group (hctx : ctx.Fits root) (howner : (Frame.table owner).ReadIn w)
    {relation : String} {accumulator : Accumulator} :
    InScope.Draws rest rest w (ctx.group owner relation accumulator query)
      fun v sql => Closed v.site.closedness sql := by
  unfold group
  refine .bind (draws_locate hctx _ howner) ?_
  rintro v hwv ⟨owner, route⟩ howner
  dsimp only at howner ⊢
  split
  next field className foreign =>
    refine .bind (.liftCompile .freshTarget) ?_
    rintro u hvu member ⟨hfresh, -, -⟩
    have howner : owner.label ∈ (u.site.query member.label false hfresh).outside.visible :=
      visible_of_readIn (howner.mono hvu)
    have hmember := Site.readIn_query hfresh
    refine .bind (.liftCompile (.query hfresh false (Q := fun x (rows : Sql → Sql) =>
      ∀ source, x.Rows source → Closed x.outside.closedness (rows source)) ?_)) ?_
    · refine .bind (draws_memberConditions hctx howner hmember) fun x hx contained hcontained => ?_
      refine .bind (hctx.obeys.memberFilter (hmember.mono hx).admits) fun y hy asked hasked => ?_
      have hmember := hmember.mono (hx.trans hy)
      have hconditions := closed_members (FromClause.all_closed_mono hy hcontained) hasked
      split
      next key value =>
        refine .bind (hctx.obeys.term hmember.admits key) fun z hz key hkey => ?_
        refine .bind (hctx.obeys.aggregate (hmember.mono hz).admits value)
          fun a ha value hvalue => ?_
        refine .bind (.liftCompile .freshAlias) ?_
        rintro b hb label ⟨hlabel, -, -⟩
        refine .pure fun source hsource => closed_groupRows hlabel hsource
          (FromClause.closed_mono (ha.trans hb) (Term.document_closed hkey))
          (FromClause.closed_mono hb hvalue)
          (FromClause.closed_mono (hz.trans (ha.trans hb)) hconditions)
      next =>
        refine .bind (hctx.obeys.aggregate hmember.admits _) fun z hz value hvalue =>
          .pure fun source hsource => ?_
        have hquery := FromClause.Rows.closed_select hsource hvalue
          (FromClause.closed_mono hz hconditions) closed_empty
        simp only [closed_seq, List.forall_mem_cons, closed_raw, true_and]
        exact ⟨hquery, List.forall_mem_nil _⟩
    · rintro x - ⟨rows, _⟩ ⟨y, hle, hout, rfl, hrows⟩
      exact .pure (hout ▸ hrows _ (FromClause.rows_clause hle.table.symm))
  next => exact .throw

/-- The keys of an order fit their clause, groups among them. -/
theorem draws_sortKeys (hctx : ctx.Fits root) (howner : (Frame.table owner).ReadIn w)
    {sort : SortSpec} :
    InScope.Draws rest rest w (ctx.sortKeys owner query sort)
      fun v sql => Closed v.site.closedness sql :=
  hctx.obeys.sortKeys howner.admits fun _ h _ _ => draws_group hctx (howner.mono h)

/-! ## Entries -/

theorem draws_nodeEntries (hctx : ctx.Fits root) (howner : (Frame.table owner).ReadIn w)
    {lead : String} {columns : List (String × FieldType)} {below : InScope Entries}
    (hbelow : InScope.Draws rest rest' w below fun v entries => entries.Closed v.site.closedness) :
    InScope.Draws rest rest' w (ctx.nodeEntries owner lead columns query below)
      fun v entries => entries.Closed v.site.closedness := by
  have hcolumns : (columnEntries owner lead columns).Closed w.site.closedness :=
    List.forall_mem_map.mpr fun column _ =>
      FieldType.project_closed (owner.closed_column_of_visible (visible_of_readIn howner))
  unfold nodeEntries
  refine .bindRest hbelow fun v hwv below hbelow => ?_
  refine .bindRest ((clauseDiscipline root rest').groupEntries fun u h _ _ =>
    draws_group hctx (howner.mono (hwv.trans h))) fun u hvu groups hgroups => .pure ?_
  exact List.forall_mem_append.mpr ⟨List.forall_mem_append.mpr
    ⟨FromClause.entries_mono (hwv.trans hvu) hcolumns, FromClause.entries_mono hvu hbelow⟩, hgroups⟩

/-- The members of a relation are read in a clause under the alias that the plan gave them. -/
theorem draws_relationArray (hctx : ctx.Fits root) (howner : (Frame.table owner).ReadIn w)
    (hfresh : w.site.Fresh member.label) {entries : InScope Entries}
    (hentries : InScope.Draws rest rest' (w.site.query member.label false hfresh) entries
      fun v entries => entries.Closed v.site.closedness) :
    InScope.Draws rest rest' w (ctx.relationArray owner field member query entries)
      fun v sql => Closed v.site.closedness sql := by
  unfold relationArray
  have howner : owner.label ∈ (w.site.query member.label false hfresh).outside.visible :=
    visible_of_readIn howner
  have hmember := Site.readIn_query hfresh
  refine .bindFirst (.liftCompile (.query hfresh false (Q := fun v (r : Entries × Sql × Sql) =>
    r.1.Closed v.site.closedness ∧ Closed v.site.closedness r.2.1 ∧
      Closed v.site.closedness r.2.2) ?_)) ?_
  · refine .bindFirst hentries fun v hv entries hentries => ?_
    refine .bind (draws_memberConditions hctx (hv.visible ▸ howner) (hmember.mono hv))
      fun u hvu contained hcontained => ?_
    refine .bind (hctx.obeys.memberFilter (hmember.mono (hv.trans hvu)).admits)
      fun x hux asked hasked => ?_
    have hx := hv.trans (hvu.trans hux)
    have hconditions := closed_members (FromClause.all_closed_mono hux hcontained) hasked
    cases sortOf? query
    case' some sort =>
      refine .bind (draws_sortKeys hctx (hmember.mono hx)) fun y hxy order horder => ?_
    case' none =>
      refine .bind (.pure (Q := fun y order => Closed y.site.closedness order)
        (closed_memberOrder (FromClause.mem_site_of_outside (hx.visible ▸ howner))
          (visible_of_readIn (hmember.mono hx)))) fun y hxy order horder => ?_
    all_goals
      exact .pure ⟨FromClause.entries_mono (hvu.trans (hux.trans hxy)) hentries,
        FromClause.closed_mono hxy hconditions, horder⟩
  · rintro v - ⟨⟨entries, condition, order⟩, _⟩ ⟨u, hle, hout, rfl, hentries, hcondition, horder⟩
    have htail : Closed u.site.closedness
        (.seq [" ORDER BY ", order, Sql.bounds query.limit query.skip]) := by
      simp [horder, bounds_closed]
    have hquery := FromClause.Rows.closed_select (FromClause.rows_clause hle.table.symm)
      (object_closed hentries) hcondition htail
    rw [hout] at hquery
    exact .pure (by simp [hquery])

mutual

/-- What a plan's references return uses the aliases of the plan, each of them once. -/
theorem draws_childEntries (hctx : ctx.Fits root) {owner : Target} (lead : String)
    {w : FromClause root} {rest : List String} (howner : (Frame.table owner).ReadIn w) :
    ∀ plan : Plan, (plan.labels ++ rest).Nodup →
      InScope.Draws (plan.labels ++ rest) rest w (ctx.childEntries owner lead plan)
        fun v entries => entries.Closed v.site.closedness
  | ⟨node, .pointer field, columns, children, query⟩, hnodup => by
    obtain ⟨hnode, hbelow⟩ := List.nodup_cons.mp hnodup
    have hlabel : ∀ l ∈ some node.label, l ∉ Plan.allLabels children ++ rest :=
      fun l hl => Option.some.inj hl ▸ hnode
    unfold childEntries
    refine .bindRest (draws_pointerJoin hctx howner hlabel) fun v hwv target htarget => ?_
    exact draws_nodeEntries hctx htarget (draws_allEntries hctx _ htarget children hbelow)
  | ⟨node, .relation field foreign, columns, children, query⟩, hnodup => by
    obtain ⟨hnode, hbelow⟩ := List.nodup_cons.mp hnodup
    unfold childEntries
    refine .take hnode fun v hwv hfresh => ?_
    have hmember := Site.readIn_query hfresh
    refine .bindRest (draws_relationArray hctx (howner.mono hwv) hfresh
      (draws_nodeEntries hctx hmember (draws_allEntries hctx _ hmember children hbelow)))
      fun u _ array harray => .pure (List.forall_mem_singleton.mpr harray)
  | ⟨node, .root, columns, children, query⟩, _ => by
    unfold childEntries
    exact .of_subset (.pure nofun) (List.subset_append_right _ _)

theorem draws_allEntries (hctx : ctx.Fits root) {owner : Target} (lead : String)
    {w : FromClause root} {rest : List String} (howner : (Frame.table owner).ReadIn w) :
    ∀ plans : List Plan, (Plan.allLabels plans ++ rest).Nodup →
      InScope.Draws (Plan.allLabels plans ++ rest) rest w (ctx.allEntries owner lead plans)
        fun v entries => entries.Closed v.site.closedness
  | [], _ => by
    unfold allEntries
    exact .pure nofun
  | plan :: plans, hnodup => by
    rw [Plan.allLabels, List.append_assoc] at hnodup ⊢
    unfold allEntries
    refine .bindRest (draws_childEntries hctx lead howner plan hnodup)
      fun v hwv entries hentries => ?_
    refine .bindRest (draws_allEntries hctx lead (howner.mono hwv) plans hnodup.of_append_right)
      fun u hvu more hmore => .pure ?_
    exact List.forall_mem_append.mpr ⟨FromClause.entries_mono hvu hentries, hmore⟩

end

/-- What a plan returns uses the aliases below its root. -/
theorem draws_entries (hctx : ctx.Fits root) {plan : Plan}
    (htarget : (Frame.table plan.target).ReadIn w) (hnodup : (Plan.allLabels plan.children).Nodup) :
    InScope.Draws (Plan.allLabels plan.children) [] w (ctx.entries plan)
      fun v entries => entries.Closed v.site.closedness := by
  have hall : (Plan.allLabels plan.children ++ []).Nodup := by rwa [List.append_nil]
  have hbelow := draws_allEntries hctx "" htarget plan.children hall
  rw [List.append_nil] at hbelow
  exact draws_nodeEntries hctx htarget hbelow

end Context

end ObjectQuery
