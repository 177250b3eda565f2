import ObjectQuery.Proofs.Columns.Reach
import ObjectQuery.Proofs.Statement.Plan

/-!
# What is read for a result

A plan is made before what it asks for is compiled. So every node of it has its alias by then, lists
columns of its class, and is reached by a field that leads to that class; the entries are compiled
along the tree. A group goes over members under an alias of their own, and the rows it makes of them
under one for rows of no class.
-/

namespace ObjectQuery

open Sql

variable {s : Schema} {A B : Aliases s}

/-! ## Plans -/

/-- A field of a class is reached through, and leads to another. -/
def Reach.Leads (s : Schema) (className target : String) : Reach → Prop
  | .root => True
  | .pointer field => s.typeIn? className field = some (.pointer target)
  | .relation field foreign => s.typeIn? className field = some (.relation target foreign)

namespace Plan

/-- Every node of a plan has an alias, and its columns; its children are reached by its fields. -/
inductive Resolved (A : Aliases s) : Plan → Prop
  | intro {plan : Plan} (target : A.Has plan.target)
      (columns : ∀ column ∈ plan.columns, s.Provides plan.target.className column.1)
      (reached : ∀ child ∈ plan.children,
        child.reach.Leads s plan.target.className child.target.className)
      (below : ∀ child ∈ plan.children, Resolved A child) : Resolved A plan

theorem Resolved.mono {plan : Plan} (h : A ≤ B) (hplan : plan.Resolved A) : plan.Resolved B := by
  induction hplan with
  | intro target columns reached _ ih => exact .intro (target.mono h) columns reached ih

/-- What is reached of a plan from a node of a class. -/
def ReachedFrom (A : Aliases s) (className : String) (child : Plan) : Prop :=
  child.reach.Leads s className child.target.className ∧ child.Resolved A

theorem leads_of_reachOf (hs : s.Accepted) {className field target : String} {c : Class} {reach : Reach}
    (hc : s.class? className = some c)
    (h : (c.field? field).bind (reachOf field) = some (reach, target)) :
    reach.Leads s className target ∧ (s.class? target).isSome = true := by
  obtain ⟨ty, hf, hreach⟩ := Option.bind_eq_some_iff.mp h
  have htype := hs.typeIn?_of_field? (Schema.field?_eq_some.mpr ⟨c, hc, hf⟩)
  cases ty <;> cases hreach <;> exact ⟨htype, hs.known_of_typeIn? htype rfl⟩

/-- A plan of paths on a class gives every node below its alias. -/
theorem resolves_ofParts (hs : s.Complete) (depth : Nat) {A : Aliases s} {target : Target}
    {reach : Reach} {paths : List Parts} {query : BaseQuery} (htarget : A.Has target) :
    Compile.Resolves A (ofParts s depth target reach paths query)
      fun B plan => plan.target = target ∧ plan.reach = reach ∧ plan.Resolved B := by
  unfold ofParts
  refine .bind (.lift (Q := fun _ c => s.class? target.className = some c)
    fun c hc => Schema.getClass_eq_ok.mp hc) fun B hAB c hc => ?_
  refine .bind (.lift (Q := fun _ level => Level.Covers c ([] ++ paths) level)
    fun level hlevel => Level.covers_nil.foldlM hs.accepted hc hlevel) fun C hBC level hcovers => ?_
  have hcolumns : ∀ column ∈ level.columns, s.Provides target.className column.1 :=
    fun column hcolumn => hs.provides_of_isColumn hc (hcovers.columns column hcolumn)
  have hplan : ∀ D, C ≤ D → ∀ children, (∀ child ∈ children, ReachedFrom D target.className child) →
      Resolved D { target, reach, columns := level.columns, children, query } :=
    fun D hCD children hchildren => .intro (htarget.mono (hAB.trans (hBC.trans hCD))) hcolumns
      (fun child hchild => (hchildren child hchild).1) fun child hchild => (hchildren child hchild).2
  cases depth with
  | zero =>
    refine .bind (.pure (Q := fun _ children => children = []) rfl) fun D hCD children hchildren => ?_
    exact .pure ⟨rfl, rfl, hplan D hCD children (hchildren ▸ List.forall_mem_nil _)⟩
  | succ depth =>
    refine .bind (.mapM (Q := fun D child => ReachedFrom D target.className child)
      (fun _ _ _ h hchild => ⟨hchild.1, hchild.2.mono h⟩) fun D hCD group _ => ?_)
      fun D hCD children hchildren => .pure ⟨rfl, rfl, hplan D hCD children hchildren⟩
    dsimp only
    split
    next reach className hreach =>
      obtain ⟨hleads, hknown⟩ := leads_of_reachOf hs.accepted hc hreach
      refine .bind (.freshTarget hknown) ?_
      rintro E hDE child ⟨rfl, hchild⟩
      intro n plan n' hE hrun
      obtain ⟨F, hEF, hF, rfl, rfl, hplan⟩ := resolves_ofParts hs depth hchild hE hrun
      exact ⟨F, hEF, hF, hleads, hplan⟩
    next => exact .throw

theorem resolves_ofIncludes (hs : s.Complete) {target : Target} {includes : List String}
    {query : BaseQuery} (htarget : A.Has target) :
    Compile.Resolves A (ofIncludes s target includes query)
      fun B plan => plan.target = target ∧ plan.reach = .root ∧ plan.Resolved B :=
  resolves_ofParts hs _ htarget

end Plan

namespace Context

variable {ctx : Context} {owner member : Target} {field : String} {query : BaseQuery}

/-! ## Groups -/

/-- A group goes over the members of a relation of the class it is asked for on. -/
theorem resolves_group (hs : s.Complete) (hctx : ctx.Resolved s) (howner : A.Has owner)
    {relation : String} {accumulator : Accumulator} :
    InScope.Resolves A (ctx.group owner relation accumulator query)
      fun B sql => Closed B.closedness sql := by
  have hobeys := hctx.obeys hs
  unfold group
  rw [hctx.schema]
  refine .bind (resolves_locate hs hctx _ howner hs.accepted.route_fits) ?_
  rintro B hAB ⟨owner, route⟩ ⟨howner, hroute⟩
  dsimp only at howner hroute ⊢
  split
  next field className foreign =>
    refine .bind (.liftCompile (.freshTarget (hs.accepted.known_of_typeIn? hroute rfl))) ?_
    rintro C hBC member ⟨rfl, hmember⟩
    have hleads := leads_of_typeIn? hs hroute
    refine .bind (.liftCompile (.inNewScope (Q := fun D (rows : Sql → Sql) =>
      ∀ source, Closed D.closedness source → Closed D.closedness (rows source)) ?_)) ?_
    · refine .bind (resolves_memberConditions hs hctx (howner.mono hBC) hmember hleads)
        fun D hCD contained hcontained => ?_
      refine .bind (hobeys.memberFilter (hmember.mono hCD).admits) fun E hDE asked hasked => ?_
      have hmember := hmember.mono (hCD.trans hDE)
      have hconditions := closed_members (Aliases.all_closed_mono hDE hcontained) hasked
      split
      next key value =>
        refine .bind (hobeys.term hmember.admits key) fun F hEF key hkey => ?_
        refine .bind (hobeys.aggregate (hmember.mono hEF).admits value) fun G hFG value hvalue => ?_
        refine .bind (.liftCompile .freshOther) fun H hGH label hlabel =>
          .pure fun source hsource => ?_
        have hkey := Aliases.closed_mono (hFG.trans hGH) (Term.document_closed hkey)
        have hconditions := Aliases.closed_mono (hEF.trans (hFG.trans hGH)) hconditions
        refine groupRows_closed (fun name => Aliases.closed_other hlabel) ?_ hkey
          (Aliases.closed_mono hGH hvalue)
        exact fun list tail hlist htail =>
          Closed.block (closed_select.mpr ⟨hlist, hsource, hconditions, htail⟩)
      next =>
        refine .bind (hobeys.aggregate hmember.admits _) fun F hEF value hvalue =>
          .pure fun source hsource => ?_
        have hquery := Closed.block (closed_select.mpr
          ⟨hvalue, hsource, Aliases.closed_mono hEF hconditions, closed_empty⟩)
        simp only [closed_seq, List.forall_mem_cons, closed_raw, true_and]
        exact ⟨hquery, List.forall_mem_nil _⟩
    · rintro D hCD ⟨rows, inner⟩ ⟨hinner, hrows⟩
      exact .pure (hrows _ (hinner.closed_clause (hmember.mono hCD)))
  next => exact .throw

/-- The keys of an order are closed, groups among them. -/
theorem resolves_sortKeys (hs : s.Complete) (hctx : ctx.Resolved s) (howner : A.Has owner)
    {sort : SortSpec} :
    InScope.Resolves A (ctx.sortKeys owner query sort) fun B sql => Closed B.closedness sql :=
  (hctx.obeys hs).sortKeys howner.admits fun _ h _ _ => resolves_group hs hctx (howner.mono h)

/-! ## Entries -/

theorem resolves_nodeEntries (hs : s.Complete) (hctx : ctx.Resolved s) (howner : A.Has owner)
    {lead : String} {columns : List (String × FieldType)} {below : InScope Entries}
    (hcolumns : ∀ column ∈ columns, s.Provides owner.className column.1)
    (hbelow : InScope.Resolves A below fun B entries => entries.Closed B.closedness) :
    InScope.Resolves A (ctx.nodeEntries owner lead columns query below)
      fun B entries => entries.Closed B.closedness := by
  have hown : (columnEntries owner lead columns).Closed A.closedness :=
    List.forall_mem_map.mpr fun column hcolumn =>
      FieldType.project_closed (howner.closed_column (hcolumns column hcolumn))
  exact (aliasDiscipline s).nodeEntries (w := A) hown hbelow
    fun _ h _ _ => resolves_group hs hctx (howner.mono h)

/-- The members of a relation are read under the alias that the plan gave them. -/
theorem resolves_relationArray (hs : s.Complete) (hctx : ctx.Resolved s) (howner : A.Has owner)
    (hmember : A.Has member) (hleads : Leads s owner field member) {entries : InScope Entries}
    (hentries : InScope.Resolves A entries fun B entries => entries.Closed B.closedness) :
    InScope.Resolves A (ctx.relationArray owner field member query entries)
      fun B sql => Closed B.closedness sql := by
  unfold relationArray
  rw [hctx.schema]
  refine .bind (.liftCompile (.inNewScope (Q := fun B (r : Entries × Sql × Sql) =>
    r.1.Closed B.closedness ∧ Closed B.closedness r.2.1 ∧ Closed B.closedness r.2.2) ?_)) ?_
  · refine .bind hentries fun B hAB entries hentries => ?_
    refine .bind (resolves_memberConditions hs hctx (howner.mono hAB) (hmember.mono hAB) hleads)
      fun C hBC contained hcontained => ?_
    refine .bind ((hctx.obeys hs).memberFilter (hmember.mono (hAB.trans hBC)).admits)
      fun D hCD asked hasked => ?_
    have hAD := hAB.trans (hBC.trans hCD)
    have hconditions := closed_members (Aliases.all_closed_mono hCD hcontained) hasked
    cases sortOf? query
    case' some sort =>
      refine .bind (resolves_sortKeys hs hctx (hmember.mono hAD)) fun E hDE order horder => ?_
    case' none =>
      refine .bind (.pure (Q := fun E order => Closed E.closedness order)
        (memberOrder_resolved field hs (howner.mono hAD) (hmember.mono hAD)))
        fun E hDE order horder => ?_
    all_goals
      exact .pure ⟨Aliases.entries_mono (hBC.trans (hCD.trans hDE)) hentries,
        Aliases.closed_mono hDE hconditions, horder⟩
  · rintro B hAB ⟨⟨entries, condition, order⟩, inner⟩ ⟨hinner, hentries, hcondition, horder⟩
    exact .pure (by simp [object_closed hentries, hinner.closed_clause (hmember.mono hAB), hcondition,
      horder, bounds_closed])

mutual

/-- What a plan's references return is closed under the aliases of the plan. -/
theorem resolves_childEntries (hs : s.Complete) (hctx : ctx.Resolved s) {owner : Target}
    {lead : String} {A : Aliases s} (howner : A.Has owner) :
    ∀ plan : Plan, plan.ReachedFrom A owner.className →
      InScope.Resolves A (ctx.childEntries owner lead plan)
        fun B entries => entries.Closed B.closedness
  | ⟨node, .pointer field, columns, children, query⟩, ⟨htype, hplan⟩ => by
    cases hplan with | intro hnode hcolumns hreached hbelow
    unfold childEntries
    refine .bind (resolves_pointerJoin hs hctx howner htype
      fun label hlabel => by cases hlabel; exact hnode) ?_
    rintro B hAB target ⟨hclass, htarget⟩
    refine resolves_nodeEntries hs hctx htarget (hclass ▸ hcolumns) ?_
    exact resolves_allEntries hs hctx htarget children fun child hchild =>
      ⟨hclass ▸ hreached child hchild, (hbelow child hchild).mono hAB⟩
  | ⟨node, .relation field foreign, columns, children, query⟩, ⟨htype, hplan⟩ => by
    cases hplan with | intro hnode hcolumns hreached hbelow
    unfold childEntries
    refine .bind (resolves_relationArray hs hctx howner hnode (leads_of_typeIn? hs htype)
      (resolves_nodeEntries hs hctx hnode hcolumns ?_)) fun B _ array harray =>
        .pure (List.forall_mem_singleton.mpr harray)
    exact resolves_allEntries hs hctx hnode children fun child hchild =>
      ⟨hreached child hchild, hbelow child hchild⟩
  | ⟨node, .root, columns, children, query⟩, _ => by
    unfold childEntries
    exact .pure nofun

theorem resolves_allEntries (hs : s.Complete) (hctx : ctx.Resolved s) {owner : Target}
    {lead : String} {A : Aliases s} (howner : A.Has owner) :
    ∀ plans : List Plan, (∀ plan ∈ plans, plan.ReachedFrom A owner.className) →
      InScope.Resolves A (ctx.allEntries owner lead plans)
        fun B entries => entries.Closed B.closedness
  | [], _ => by
    unfold allEntries
    exact .pure nofun
  | plan :: plans, hplans => by
    obtain ⟨hplan, hplans⟩ := List.forall_mem_cons.mp hplans
    unfold allEntries
    refine .bind (resolves_childEntries hs hctx howner plan hplan) fun B hAB entries hentries => ?_
    refine .bind (resolves_allEntries hs hctx (howner.mono hAB) plans fun plan hplan =>
      ⟨(hplans plan hplan).1, (hplans plan hplan).2.mono hAB⟩) fun C hBC rest hrest => .pure ?_
    exact List.forall_mem_append.mpr ⟨Aliases.entries_mono hBC hentries, hrest⟩

end

/-- What a plan returns is closed under its aliases. -/
theorem resolves_entries (hs : s.Complete) (hctx : ctx.Resolved s) {plan : Plan}
    (hplan : plan.Resolved A) :
    InScope.Resolves A (ctx.entries plan) fun B entries => entries.Closed B.closedness := by
  obtain ⟨htarget, hcolumns, hreached, hbelow⟩ := hplan
  exact resolves_nodeEntries hs hctx htarget hcolumns
    (resolves_allEntries hs hctx htarget plan.children fun child hchild =>
      ⟨hreached child hchild, hbelow child hchild⟩)

end Context

end ObjectQuery
