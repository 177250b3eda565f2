import ObjectQuery.Proofs.Columns.Projection
import ObjectQuery.Proofs.Renumbering.Conditions

/-!
# Two results

The plans of the same paths are the same tree, whose nodes go by aliases that correspond; each node
below the root has drawn its own. So their entries stand under the same keys, and a group or a relation
reads the same members in both runs.
-/

namespace ObjectQuery

namespace Offset

variable {ν : Offset} {ctx : Context} {frame frame' : Frame} {owner owner' member member' : Target}

/-! ## Plans -/

/-- A reference of a class leads to the class of its node, which has drawn its alias. -/
def Reached (ν : Offset) (className : String) (child child' : Plan) : Prop :=
  child.reach.Leads ν.schema className child.target.className ∧
    DrawnApart ν.shift child.target.label child'.target.label

/-- Plans that differ in the aliases of their nodes alone. -/
inductive Plans (ν : Offset) : Plan → Plan → Prop where
  | intro {target target' : Target} {reach : Reach} {columns : List (String × FieldType)}
    {children children' : List Plan} {query : BaseQuery} (htarget : ν.Targets target target')
    (hreached : List.Forall₂ (ν.Reached target.className) children children')
    (hbelow : List.Forall₂ (Plans ν) children children') :
    Plans ν ⟨target, reach, columns, children, query⟩ ⟨target', reach, columns, children', query⟩

/-- The plans of the same paths. -/
theorem ofParts (depth : Nat) {target target' : Target} (h : ν.Targets target target')
    {reach : Reach} {paths : List Plan.Parts} {query : BaseQuery} :
    ν.Agree (fun plan plan' => plan.target = target ∧ plan'.target = target' ∧ plan.reach = reach ∧
        ν.Plans plan plan')
      (Plan.ofParts ν.schema depth target reach paths query)
      (Plan.ofParts ν.schema depth target' reach paths query) := by
  induction depth generalizing target target' reach paths query with
  | zero =>
    unfold Plan.ofParts
    rw [← h.className_eq]
    refine .bind (.lift (.refl _)) ?_
    rintro c _ ⟨rfl, -⟩
    refine .bind (.lift (.refl _)) ?_
    rintro level _ ⟨rfl, -⟩
    exact .pure ⟨rfl, rfl, rfl, .intro h .nil .nil⟩
  | succ depth ih =>
    unfold Plan.ofParts
    rw [← h.className_eq]
    refine .bind (.lift (.refl _)) ?_
    rintro c _ ⟨rfl, hc⟩
    refine .bind (.lift (.refl _)) ?_
    rintro level _ ⟨rfl, -⟩
    refine .bind (.mapM (R := fun child child' =>
      ν.Reached target.className child child' ∧ ν.Plans child child') ?_) fun _ _ hchildren =>
        .pure ⟨rfl, rfl, rfl,
          .intro h (hchildren.imp fun _ _ h => h.1) (hchildren.imp fun _ _ h => h.2)⟩
    rintro ⟨field, paths⟩ -
    dsimp only
    split
    next reach className hreach =>
      obtain ⟨hleads, hknown⟩ :=
        Plan.leads_of_reachOf ν.accepted (Schema.getClass_eq_ok.mp hc) hreach
      refine .bind .drawnTarget ?_
      rintro _ _ ⟨label, label', rfl, rfl, hlabel⟩
      refine (ih (.drawn hknown hlabel)).imp ?_
      rintro child child' ⟨htarget, htarget', rfl, hchild⟩
      refine ⟨⟨?_, ?_⟩, hchild⟩
      · rw [htarget]
        exact hleads
      · rw [htarget, htarget']
        exact hlabel
    next => exact .throw

/-- Entries of the two runs that correspond. -/
abbrev Results (ν : Offset) : Entries → Entries → Prop := Entries.Alike ν.Labels

namespace Guards

variable {query : BaseQuery}

/-! ## Groups -/

theorem aggregate (hctx : ν.Guards ctx) (hframe : ν.Frames frame frame') (accumulator : Accumulator) :
    ν.AgreeIn ν.Fragments (ctx.aggregate frame accumulator) (ctx.aggregate frame' accumulator) := by
  cases accumulator with
  | count => exact .pure (.raw _)
  | unary op input =>
    refine .bind (hctx.term hframe input) fun _ _ hterm => ?_
    refine .bind (.lift (Context.alike_aggregateInput hterm)) fun _ _ hvalue => ?_
    cases op with
    | most => exact .pure (Context.alike_withinGroup (.raw _) hvalue)
    | _ => exact .pure (by simp [hvalue])
  | percentile input p mode =>
    refine .bind (hctx.term hframe input) fun _ _ hterm => ?_
    refine .bind (.lift (Context.alike_aggregateInput hterm)) fun _ _ hvalue => ?_
    exact .pure (Context.alike_withinGroup (by simp) hvalue)
  | group key value => exact .throw

/-- A group over the visible members of a relation. -/
theorem group (hctx : ν.Guards ctx) (howner : ν.Targets owner owner') {relation : String}
    {accumulator : Accumulator} :
    ν.AgreeIn ν.Fragments (ctx.group owner relation accumulator query)
      (ctx.group owner' relation accumulator query) := by
  unfold Context.group
  rw [← howner.className_eq, hctx.schema]
  refine .bind (hctx.locate howner _ ν.accepted.route_fits) ?_
  rintro ⟨owner, route⟩ ⟨owner', _⟩ ⟨howner, rfl, hroute⟩
  dsimp only at howner hroute ⊢
  split
  next field className foreign =>
    refine .bind (.liftCompile (.freshTarget (ν.accepted.known_of_typeIn? hroute rfl))) ?_
    rintro member member' ⟨hmember, -⟩
    refine .bind (.inNewScope (R := fun rows rows' : Sql → Sql =>
      ∀ source source', ν.Fragments source source' → ν.Fragments (rows source) (rows' source')) ?_) ?_
    · refine .bind (hctx.memberConditions howner hmember) fun _ _ hcontained => ?_
      refine .bind (hctx.memberFilter (.table hmember)) fun _ _ hasked => ?_
      have hcondition := Sql.alike_and (List.rel_append hcontained hasked)
      split
      next key value =>
        refine .bind (hctx.term (.table hmember) key) fun _ _ hkey => ?_
        refine .bind (hctx.aggregate (.table hmember) value) fun _ _ hvalue => ?_
        refine .bind (.liftCompile .freshAlias) fun _ _ hlabel => .pure fun _ _ hsource => ?_
        exact Context.alike_groupRows (.drawn hlabel) (Term.alike_document hkey) hvalue hsource
          hcondition
      next =>
        refine .bind (hctx.aggregate (.table hmember) _) fun _ _ hvalue =>
          .pure fun _ _ hsource => ?_
        simp [hvalue, hsource, hcondition]
    · rintro ⟨rows, inner⟩ ⟨rows', inner'⟩ ⟨hrows, hinner⟩
      exact .pure (hrows _ _ (hinner.clause hmember))
  next => exact .throw

/-! ## Orders -/

theorem pathKey (hctx : ν.Guards ctx) (howner : ν.Targets owner owner') {path : String} :
    ν.AgreeIn ν.Fragments (ctx.pathKey owner query path) (ctx.pathKey owner' query path) := by
  unfold Context.pathKey
  split
  next =>
    unfold Context.groupKey
    split
    next => exact hctx.group howner
    next => exact .throw
  next => exact .bind (hctx.operand (.table howner)) fun _ _ ho => .pure ho.sql

theorem exprKey (hctx : ν.Guards ctx) (howner : ν.Targets owner owner') (e : Expr) :
    ν.AgreeIn ν.Fragments (ctx.exprKey owner query e) (ctx.exprKey owner' query e) := by
  unfold Context.exprKey
  split
  next => exact hctx.pathKey howner
  next =>
    refine .bind (hctx.term (.table howner) _) fun _ _ hterm => ?_
    cases hterm with
    | operand ho => exact .pure ho.sql
    | constant v => exact .pure (.param _)

theorem sortKeys (hctx : ν.Guards ctx) (howner : ν.Targets owner owner') (sort : SortSpec) :
    ν.AgreeIn ν.Fragments (ctx.sortKeys owner query sort) (ctx.sortKeys owner' query sort) := by
  cases sort with
  | paths keys =>
    refine .bind (.mapM (R := ν.Fragments) fun key _ => ?_) fun _ _ hkeys => .pure (.join _ hkeys)
    exact .bind (hctx.pathKey howner) fun _ _ hkey => .pure (by simp [hkey])
  | expressions keys =>
    refine .bind (.mapM (R := ν.Fragments) fun key _ => ?_) fun _ _ hkeys => .pure (.join _ hkeys)
    exact .bind (hctx.exprKey howner _) fun _ _ hkey => .pure (by simp [hkey])

/-! ## Entries -/

theorem groupEntries (hctx : ν.Guards ctx) (howner : ν.Targets owner owner') {lead : String} :
    ν.AgreeIn ν.Results (ctx.groupEntries owner lead query) (ctx.groupEntries owner' lead query) := by
  unfold Context.groupEntries
  refine .bind (.mapM (R := ν.Results) ?_) fun _ _ hentries => .pure (List.rel_flatten hentries)
  rintro ⟨relation, named⟩ -
  refine .mapM ?_
  rintro ⟨name, accumulator⟩ -
  refine .bind (hctx.group howner) fun _ _ hvalue => .pure ⟨rfl, ?_⟩
  dsimp only
  split
  next => exact hvalue
  next => simp [hvalue]

theorem columnEntries (howner : ν.Targets owner owner') {lead : String}
    {columns : List (String × FieldType)} :
    ν.Results (Context.columnEntries owner lead columns)
      (Context.columnEntries owner' lead columns) := by
  refine List.rel_map (R := Eq) ?_ (List.forall₂_refl columns)
  rintro ⟨column, ty⟩ _ rfl
  exact ⟨rfl, FieldType.alike_project howner.column⟩

theorem nodeEntries (hctx : ν.Guards ctx) (howner : ν.Targets owner owner') {lead : String}
    {columns : List (String × FieldType)} {below below' : InScope Entries}
    (hbelow : ν.AgreeIn ν.Results below below') :
    ν.AgreeIn ν.Results (ctx.nodeEntries owner lead columns query below)
      (ctx.nodeEntries owner' lead columns query below') := by
  unfold Context.nodeEntries
  refine .bind hbelow fun _ _ hbelow => .bind (hctx.groupEntries howner) fun _ _ hgroups => .pure ?_
  exact List.rel_append (List.rel_append (columnEntries howner) hbelow) hgroups

/-- The members of a relation, in the same order, with entries that correspond. -/
theorem relationArray (hctx : ν.Guards ctx) (howner : ν.Targets owner owner')
    (hmember : ν.Targets member member') {field : String} {entries entries' : InScope Entries}
    (hentries : ν.AgreeIn ν.Results entries entries') :
    ν.AgreeIn ν.Fragments (ctx.relationArray owner field member query entries)
      (ctx.relationArray owner' field member' query entries') := by
  unfold Context.relationArray
  rw [hctx.schema]
  refine .bind (.inNewScope (R := fun r r' : Entries × Sql × Sql =>
    ν.Results r.1 r'.1 ∧ ν.Fragments r.2.1 r'.2.1 ∧ ν.Fragments r.2.2 r'.2.2) ?_) ?_
  · refine .bind hentries fun _ _ hentries => ?_
    refine .bind (hctx.memberConditions howner hmember) fun _ _ hcontained => ?_
    refine .bind (hctx.memberFilter (.table hmember)) fun _ _ hasked => ?_
    have hcondition := Sql.alike_and (List.rel_append hcontained hasked)
    split
    next =>
      exact .bind (hctx.sortKeys hmember _) fun _ _ horder =>
        .pure ⟨hentries, hcondition, horder⟩
    next =>
      exact .bind (.pure (memberOrder howner hmember)) fun _ _ horder =>
        .pure ⟨hentries, hcondition, horder⟩
  · rintro ⟨⟨entries, condition, order⟩, inner⟩ ⟨⟨entries', condition', order'⟩, inner'⟩
      ⟨⟨hentries, hcondition, horder⟩, hinner⟩
    exact .pure (by simp [Sql.alike_object hentries, hinner.clause hmember, hcondition, horder,
      Sql.alike_bounds])

mutual

/-- The entries of plans that correspond. -/
theorem childEntries (hctx : ν.Guards ctx) {owner owner' : Target} (howner : ν.Targets owner owner')
    {lead : String} : ∀ child child' : Plan, ν.Reached owner.className child child' →
      ν.Plans child child' →
        ν.AgreeIn ν.Results (ctx.childEntries owner lead child) (ctx.childEntries owner' lead child')
  | ⟨node, .pointer field, columns, children, query⟩, _, ⟨hleads, hlabel⟩,
      .intro hnode hreached hbelow => by
    unfold Context.childEntries
    rw [← hnode.className_eq]
    refine .bind (hctx.pointerJoin howner hleads (.some hlabel)) ?_
    rintro target target' ⟨htarget, hclass⟩
    exact hctx.nodeEntries htarget (allEntries hctx htarget _ _ (hclass ▸ hreached) hbelow)
  | ⟨node, .relation field foreign, columns, children, query⟩, _, _,
      .intro hnode hreached hbelow => by
    unfold Context.childEntries
    refine .bind (hctx.relationArray howner hnode (hctx.nodeEntries hnode ?_)) fun _ _ harray =>
      .pure (.cons ⟨rfl, harray⟩ .nil)
    exact allEntries hctx hnode _ _ hreached hbelow
  | ⟨node, .root, columns, children, query⟩, _, _, .intro .. => by
    unfold Context.childEntries
    exact .pure .nil

theorem allEntries (hctx : ν.Guards ctx) {owner owner' : Target} (howner : ν.Targets owner owner')
    {lead : String} : ∀ children children' : List Plan,
      List.Forall₂ (ν.Reached owner.className) children children' →
        List.Forall₂ ν.Plans children children' →
          ν.AgreeIn ν.Results (ctx.allEntries owner lead children)
            (ctx.allEntries owner' lead children')
  | [], _, .nil, .nil => by
    unfold Context.allEntries
    exact .pure .nil
  | child :: rest, _, .cons hreached hrest, .cons hchild hbelow => by
    unfold Context.allEntries
    refine .bind (childEntries hctx howner child _ hreached hchild) fun _ _ hentries => ?_
    refine .bind (allEntries hctx howner rest _ hrest hbelow) fun _ _ hothers => ?_
    exact .pure (List.rel_append hentries hothers)

end

/-- What plans that correspond return. -/
theorem entries (hctx : ν.Guards ctx) {plan plan' : Plan} (h : ν.Plans plan plan') :
    ν.AgreeIn ν.Results (ctx.entries plan) (ctx.entries plan') := by
  obtain ⟨htarget, hreached, hbelow⟩ := h
  exact hctx.nodeEntries htarget (hctx.allEntries htarget _ _ hreached hbelow)

end Guards

end Offset

end ObjectQuery
