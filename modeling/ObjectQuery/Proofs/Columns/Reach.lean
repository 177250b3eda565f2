import ObjectQuery.Proofs.Columns.Aliases
import ObjectQuery.Proofs.Columns.Routes
import ObjectQuery.Proofs.Statement.Depth

/-!
# What is read on the way

Every step of a route reads a column of the class it is at, and goes on under an alias of the class the
column leads to. So in a context whose guards are closed, what is reached is closed, and the context
obeys the discipline of aliases; then the guards of a schema are closed at every depth.
-/

namespace ObjectQuery

open Sql

variable {s : Schema} {A B : Aliases s} {t : Target} {name : String}

/-! ## Targets -/

namespace Aliases.Has

/-- A column is closed where its alias stands for a class that provides it. -/
theorem closed_column (h : A.Has t) (hname : s.Provides t.className name) :
    Closed A.closedness (t.column name) :=
  Aliases.closed_column h hname

/-- A column is closed where the field it names has a column. -/
theorem closed_typed (hs : s.Complete) (h : A.Has t) {ty : FieldType}
    (htype : s.typeIn? t.className name = some ty) (hty : ty.columnType?.isSome = true) :
    Closed A.closedness (t.column name) :=
  h.closed_column (.inl (hs.creates htype hty))

/-- The id is a column of every class. -/
theorem closed_id (hs : s.Complete) (h : A.Has t) : Closed A.closedness (t.column Field.id) :=
  h.closed_column (.inl (hs.creates_id (A.known _ _ h)))

/-- The token of an object is written around its id. -/
theorem closed_token (hs : s.Complete) (h : A.Has t) : Closed A.closedness t.token := by
  simp [Target.token, h.closed_id hs]

/-- The table of a target whose alias is known is closed. -/
theorem closed_table (h : A.Has t) : Closed A.closedness t.table := by
  unfold Target.table
  split
  next hroot =>
    obtain ⟨className, label⟩ := t
    obtain rfl : label = className := hroot
    exact List.forall_mem_singleton.mpr h
  next => exact List.forall_mem_singleton.mpr h

end Aliases.Has

/-- A table joined with a resolved scope is closed. -/
theorem Scope.Resolved.closed_joined {scope : Scope} (h : scope.Resolved A) {table : Sql}
    (htable : Closed A.closedness table) : Closed A.closedness (scope.joined table) := by
  simp only [joined, closed_seq, List.forall_mem_cons, List.forall_mem_flatMap]
  exact ⟨htable, fun j hj => ⟨closed_raw, (h j hj).1, List.forall_mem_nil _⟩⟩

/-- The clause of a target with its resolved scope is closed. -/
theorem Scope.Resolved.closed_clause {scope : Scope} (h : scope.Resolved A) (ht : A.Has t) :
    Closed A.closedness (scope.clause t) :=
  h.closed_joined ht.closed_table

/-- A context of a schema whose guards are closed. -/
structure Context.Resolved (ctx : Context) (s : Schema) : Prop where
  schema : ctx.schema = s
  guard {A : Aliases s} {t : Target} (h : A.Has t) :
    InScope.Resolves A (ctx.guard t) fun B guard => ∀ p ∈ guard, Closed B.closedness p

namespace Context

variable {ctx : Context} {owner member : Target} {className field path : String}

/-! ## Pointers -/

/-- A pointer is joined on its own column and the id of its target, and both exist. -/
theorem closed_joinSql (hs : s.Complete) {target : Target} (howner : A.Has owner)
    (htarget : A.Has target) (htype : s.typeIn? owner.className name = some (.pointer target.className))
    {guard : Option Sql} (hguard : ∀ p ∈ guard, Closed A.closedness p) {inner : Scope}
    (hinner : inner.Resolved A) : Closed A.closedness (joinSql owner name target guard inner) := by
  have hcolumn := howner.closed_typed hs htype rfl
  have htoken := htarget.closed_token hs
  cases guard with
  | none =>
    have htable : Closed A.closedness (.table target.className target.label) :=
      List.forall_mem_singleton.mpr htarget
    simp [joinSql, hcolumn, htoken, htable]
  | some p =>
    simp [joinSql, hcolumn, htoken, hinner.closed_clause htarget, hguard p rfl]

/-- The alias under which a pointer has been joined stands for the class it leads to. -/
theorem has_of_label? (howner : A.Has owner)
    (htype : s.typeIn? owner.className name = some (.pointer className)) {scope : Scope}
    (hscope : scope.Resolved A) {label : String} (h : scope.label? owner.label name = some label) :
    A.Has ⟨className, label⟩ := by
  obtain ⟨j, hfound, rfl⟩ := Option.map_eq_some_iff.mp h
  have hsame := List.find?_some hfound
  obtain ⟨howns, hnames⟩ := Bool.and_eq_true_iff.mp hsame
  obtain ⟨-, other, target, hother, hpointer, htarget⟩ := hscope j (List.mem_of_find?_eq_some hfound)
  rw [eq_of_beq howns, howner] at hother
  cases hother
  rw [eq_of_beq hnames, htype] at hpointer
  cases hpointer
  exact htarget

/-- A pointer leads to its class under an alias; the alias to use may have been given out before. -/
theorem resolves_pointerJoin (hs : s.Complete) (hctx : ctx.Resolved s) (howner : A.Has owner)
    (htype : s.typeIn? owner.className name = some (.pointer className)) {label : Option String}
    (hlabel : ∀ l ∈ label, A.Has ⟨className, l⟩) :
    InScope.Resolves A (ctx.pointerJoin owner name className label)
      fun B target => target.className = className ∧ B.Has target := by
  unfold pointerJoin
  refine .bind .get fun B hAB scope hscope => ?_
  split
  next label hfound =>
    exact .pure ⟨rfl, has_of_label? (howner.mono hAB) htype hscope hfound⟩
  next =>
    have hknown : ∀ name, Rows.objects className = .objects name →
        (s.class? name).isSome = true := by
      rintro _ ⟨⟩
      exact hs.accepted.known_of_typeIn? htype rfl
    -- both ways to an alias go on alike
    cases label
    case' some label =>
      refine .bind (.pure (Q := fun B l => B.Has ⟨className, l⟩)
        ((hlabel label rfl).mono hAB)) fun C hBC label hlabel => ?_
    case' none =>
      refine .bind (.liftCompile (.freshAlias hknown)) fun C hBC label hlabel => ?_
    all_goals
      have htarget : C.Has ⟨className, label⟩ := hlabel
      refine .bind (.liftCompile (.inNewScope (hctx.guard htarget))) ?_
      rintro D hCD ⟨guard, inner⟩ ⟨hinner, hguard⟩
      have howner := howner.mono (hAB.trans (hBC.trans hCD))
      have htarget := htarget.mono hCD
      refine .bind (.modify fun scope hscope => ?_) fun E hDE _ _ =>
        .pure ⟨rfl, htarget.mono hDE⟩
      exact List.forall_mem_append.mpr ⟨hscope, List.forall_mem_singleton.mpr
        ⟨closed_joinSql hs howner htarget htype hguard hinner, _, _, howner, htype, htarget⟩⟩

/-- Following pointers ends at a class of the schema, where the rest of the route fits. -/
theorem resolves_locate (hs : s.Complete) (hctx : ctx.Resolved s) (route : Route)
    (howner : A.Has owner) (hroute : route.Fits s owner.className) :
    InScope.Resolves A (ctx.locate owner route)
      fun B r => B.Has r.1 ∧ r.2.Fits s r.1.className := by
  induction route generalizing owner A with
  | hop column className next ih =>
    obtain ⟨htype, hnext⟩ := hroute
    unfold locate
    refine .bind (resolves_pointerJoin hs hctx howner htype (by simp)) ?_
    rintro B hAB target ⟨rfl, htarget⟩
    exact ih htarget hnext
  | refused e => exact .throw
  | _ => exact .pure ⟨howner, hroute⟩

/-! ## Relations -/

/-- A field of the owner, if the relation is one, leads to the class of the member. -/
def Leads (s : Schema) (owner : Target) (field : String) (member : Target) : Prop :=
  ∀ ty, s.field? owner.className field = some ty → ty.target? = some member.className

/-- A field that is a relation leads to the class of its members. -/
theorem leads_of_typeIn? (hs : s.Complete) {foreign : Option String}
    (htype : s.typeIn? owner.className field = some (.relation member.className foreign)) :
    Leads s owner field member := by
  intro ty hty
  rw [hs.accepted.eq_of_field? htype hty]
  rfl

/-- The condition of membership reads columns that exist, on either side of the relation. -/
theorem closed_contains (hs : s.Complete) (howner : A.Has owner) (hmember : A.Has member)
    (hleads : Leads s owner field member) {sql : Sql} (h : s.contains owner field member = .ok sql) :
    Closed A.closedness sql := by
  obtain ⟨decides, hdecides, rfl⟩ := Result.map_eq_ok.mp h
  obtain ⟨ty, hstored, hty⟩ := hs.accepted.holding_stored hleads hdecides
  have htype := hs.accepted.typeIn?_of_field? hstored
  have hboth : A.Has decides.holder ∧ A.Has decides.other := by
    rcases Schema.holding_sides hdecides with ⟨hholder, hother⟩ | ⟨hholder, hother⟩
    · exact ⟨hholder ▸ howner, hother ▸ hmember⟩
    · exact ⟨hholder ▸ hmember, hother ▸ howner⟩
  have hcolumn := hboth.1.closed_typed hs htype hty
  have htoken := hboth.2.closed_token hs
  cases decides with
  | pointer holder column other =>
    simpa [Holding.sql, Holding.holder, Holding.column, Holding.other] using ⟨hcolumn, htoken⟩
  | tokens holder column other =>
    simpa [Holding.sql, Holding.holder, Holding.column, Holding.other] using ⟨htoken, hcolumn⟩

/-- Members are ordered by columns of their own class and of their owner's. -/
theorem memberOrder_resolved (field : String) (hs : s.Complete) (howner : A.Has owner)
    (hmember : A.Has member) :
    Closed A.closedness (s.memberOrder owner field member) := by
  unfold Schema.memberOrder
  split
  next hfield =>
    have hcolumn := howner.closed_typed hs (hs.accepted.typeIn?_of_field? hfield) rfl
    simp [hcolumn, hmember.closed_token hs]
  next => exact hmember.closed_id hs

/-- The conditions on a member are membership and the guard of its class, and both are closed. -/
theorem resolves_memberConditions (hs : s.Complete) (hctx : ctx.Resolved s) (howner : A.Has owner)
    (hmember : A.Has member) (hleads : Leads s owner field member) :
    InScope.Resolves A (ctx.memberConditions owner field member)
      fun B conditions => ∀ c ∈ conditions, Closed B.closedness c := by
  unfold memberConditions
  rw [hctx.schema]
  refine .bind (.lift (Q := fun B sql => Closed B.closedness sql)
    fun _ h => closed_contains hs howner hmember hleads h) fun B hAB contained hcontained => ?_
  refine .bind (hctx.guard (hmember.mono hAB)) fun C hBC guard hguard => .pure ?_
  exact List.forall_mem_cons.mpr
    ⟨Aliases.closed_mono hBC hcontained, fun c hc => hguard c (by simpa using hc)⟩

/-- The tokens of a relation are read of a query that is closed. -/
theorem resolves_relationTokens (hs : s.Complete) (hctx : ctx.Resolved s) (howner : A.Has owner)
    {foreign : Option String}
    (htype : s.typeIn? owner.className field = some (.relation className foreign)) :
    Compile.Resolves A (ctx.relationTokens owner field className)
      fun B sql => Closed B.closedness sql := by
  unfold relationTokens
  refine .bind (.freshTarget (hs.accepted.known_of_typeIn? htype rfl)) ?_
  rintro B hAB member ⟨rfl, hmember⟩
  have hleads := leads_of_typeIn? hs htype
  refine .bind (.inNewScope (resolves_memberConditions hs hctx (howner.mono hAB) hmember hleads)) ?_
  rintro C hBC ⟨conditions, inner⟩ ⟨hinner, hconditions⟩
  have hmember := hmember.mono hBC
  have horder := memberOrder_resolved field hs (howner.mono (hAB.trans hBC)) hmember
  rw [hctx.schema]
  exact .pure (by simp [hmember.closed_token hs, hinner.closed_clause hmember, closed_and hconditions,
    horder])

/-! ## Values -/

/-- The value at the end of a route that fits is closed. -/
theorem resolves_operandAt (hs : s.Complete) (hctx : ctx.Resolved s) (route : Route)
    (howner : A.Has owner) (hroute : route.Fits s owner.className) :
    InScope.Resolves A (ctx.operandAt owner route) fun B o => Closed B.closedness o.sql := by
  induction route generalizing owner A with
  | refused e => exact .throw
  | hop column className next ih =>
    obtain ⟨htype, hnext⟩ := hroute
    unfold operandAt
    refine .bind (resolves_pointerJoin hs hctx howner htype (by simp)) ?_
    rintro B hAB target ⟨rfl, htarget⟩
    exact ih htarget hnext
  | column name ty =>
    unfold operandAt
    split
    next =>
      exact .bind (.liftCompile (resolves_relationTokens hs hctx howner hroute))
        fun _ _ sql hsql => .pure hsql
    next hderived =>
      refine .lift fun o h => ?_
      have hty : ty.columnType?.isSome = true := by
        cases ty with
        | relation className foreign =>
          cases foreign with
          | some foreign => exact (hderived _ _ rfl).elim
          | none => rfl
        | shape fields => cases h
        | primitive | vector | pointer => rfl
      rw [Operand.ofColumn_sql h]
      exact howner.closed_typed hs hroute hty
  | json column keys =>
    obtain ⟨ty, htype, hty⟩ := hroute
    unfold operandAt
    exact .pure (by simpa using howner.closed_typed hs htype hty)
  | vectorElement column position =>
    obtain ⟨ty, htype, hty⟩ := hroute
    unfold operandAt
    exact .pure (by simpa using howner.closed_typed hs htype hty)
  | relationElement column className position next ih =>
    obtain ⟨⟨foreign, htype⟩, hnext⟩ := hroute
    unfold operandAt
    refine .bind (.liftCompile (.freshTarget (hs.accepted.known_of_typeIn? htype rfl))) ?_
    rintro B hAB member ⟨rfl, hmember⟩
    have hleads := leads_of_typeIn? hs htype
    refine .bind (.liftCompile (.inNewScope
      (Q := fun C (r : Operand × List Sql) =>
        Closed C.closedness r.1.sql ∧ ∀ c ∈ r.2, Closed C.closedness c) ?_)) ?_
    · refine .bind (ih hmember hnext) fun C hBC value hvalue => ?_
      refine .bind (resolves_memberConditions hs hctx (howner.mono (hAB.trans hBC))
        (hmember.mono hBC) hleads) fun D hCD conditions hconditions => ?_
      exact .pure ⟨Aliases.closed_mono hCD hvalue, hconditions⟩
    · rintro C hBC ⟨⟨value, conditions⟩, inner⟩ ⟨hinner, hvalue, hconditions⟩
      have hmember := hmember.mono hBC
      have horder := memberOrder_resolved column hs (howner.mono (hAB.trans hBC)) hmember
      rw [hctx.schema]
      exact .pure (by simp [oneRow, hvalue, hinner.closed_clause hmember, closed_and hconditions,
        horder])

/-- An operand reads columns that exist, whatever the path. -/
theorem resolves_operand (hs : s.Complete) (hctx : ctx.Resolved s) {frame : Frame}
    (hframe : frame.Resolved A) :
    InScope.Resolves A (ctx.operand frame path) fun B o => Closed B.closedness o.sql := by
  unfold operand
  split
  next element => exact .lift fun o h => elementOperand_closed hframe h
  next owner =>
    have howner : A.Has owner := hframe
    split
    next => exact .pure (howner.closed_token hs)
    next =>
      rw [hctx.schema]
      exact resolves_operandAt hs hctx _ howner hs.accepted.route_fits

/-! ## Filters for elements -/

section Elements

variable {every : Bool} {filter : Frame → InScope Sql}

/-- A test of the members of a relation is closed when what it asks of a member is. -/
theorem resolves_overMembers (hs : s.Complete) (hctx : ctx.Resolved s) (howner : A.Has owner)
    {foreign : Option String}
    (htype : s.typeIn? owner.className field = some (.relation className foreign))
    (hfilter : ∀ B, A ≤ B → ∀ frame : Frame, frame.Resolved B →
      InScope.Resolves B (filter frame) fun C sql => Predicate C.closedness sql) :
    InScope.Resolves A (ctx.overMembers owner field className every filter)
      fun B sql => Predicate B.closedness sql := by
  unfold overMembers
  refine .bind (.liftCompile (.freshTarget (hs.accepted.known_of_typeIn? htype rfl))) ?_
  rintro B hAB member ⟨rfl, hmember⟩
  have hleads := leads_of_typeIn? hs htype
  refine .bind (.liftCompile (.inNewScope
    (Q := fun C (r : Sql × List Sql) =>
      Predicate C.closedness r.1 ∧ ∀ c ∈ r.2, Closed C.closedness c) ?_)) ?_
  · refine .bind (hfilter B hAB (.table member) hmember) fun C hBC condition hcondition => ?_
    refine .bind (resolves_memberConditions hs hctx (howner.mono (hAB.trans hBC))
      (hmember.mono hBC) hleads) fun D hCD conditions hconditions => ?_
    exact .pure ⟨⟨Aliases.closed_mono hCD hcondition.closed, hcondition.written⟩, hconditions⟩
  · rintro C hBC ⟨⟨condition, conditions⟩, inner⟩ ⟨hinner, hcondition, hconditions⟩
    refine .pure (predicate_quantified hcondition fun extra hextra => Closed.block ?_)
    have hall : ∀ c ∈ conditions ++ [extra], Closed C.closedness c :=
      List.forall_mem_append.mpr ⟨hconditions, List.forall_mem_singleton.mpr hextra.closed⟩
    simp [hinner.closed_clause (hmember.mono hBC), closed_and hall]

/-- A test of the elements of an array is closed when what it asks of an element is. -/
theorem resolves_overElements {o : Operand} (ho : Closed A.closedness o.sql)
    (hfilter : ∀ B, A ≤ B → ∀ frame : Frame, frame.Resolved B →
      InScope.Resolves B (filter frame) fun C sql => Predicate C.closedness sql) :
    InScope.Resolves A (overElements o path every filter)
      fun B sql => Predicate B.closedness sql := by
  unfold overElements
  refine .bind (.liftCompile .freshOther) fun B hAB label hlabel => ?_
  split
  next rows type helements =>
    have hcolumn : Closed B.closedness (.column label elementColumn) :=
      Aliases.closed_other hlabel
    refine .bind (.liftCompile (.inNewScope
      (hfilter B hAB (.element ⟨.column label elementColumn, type⟩) hcolumn))) ?_
    rintro C hBC ⟨condition, inner⟩ ⟨-, hcondition⟩
    dsimp only at hcondition ⊢
    have ho := Aliases.closed_mono (hAB.trans hBC) ho
    have hrows := elementsOf?_closed ho helements
    have htest : Predicate C.closedness (quantified every
        (.seq [rows, " AS ", .binder label, "(", .ident elementColumn, ")"]) [] condition) :=
      predicate_quantified hcondition fun extra hextra =>
        Closed.block (by simp [hrows, hextra.closed])
    split
    next =>
      split
      next => exact .pure (predicate_and (by simp [isListOrNull, ho, htest.closed]))
      next => exact .pure htest
    next => exact .pure htest
  next => exact .throw

/-- A quantified test is closed when what it asks of any frame is, under any aliases given out since. -/
theorem resolves_quantify (hs : s.Complete) (hctx : ctx.Resolved s) {frame : Frame}
    (hframe : frame.Resolved A)
    (hfilter : ∀ B, A ≤ B → ∀ frame : Frame, frame.Resolved B →
      InScope.Resolves B (filter frame) fun C sql => Predicate C.closedness sql) :
    InScope.Resolves A (ctx.quantify frame path every filter)
      fun B sql => Predicate B.closedness sql := by
  have hlater : ∀ B, A ≤ B → ∀ C, B ≤ C → ∀ frame : Frame, frame.Resolved C →
      InScope.Resolves C (filter frame) fun C sql => Predicate C.closedness sql :=
    fun B hAB C hBC => hfilter C (hAB.trans hBC)
  unfold quantify
  split
  next owner =>
    split
    next =>
      exact .bind (resolves_operand hs hctx hframe) fun B hAB o ho =>
        resolves_overElements ho (hlater B hAB)
    next =>
      rw [hctx.schema]
      refine .bind (resolves_locate hs hctx _ hframe hs.accepted.route_fits) ?_
      rintro B hAB ⟨owner, route⟩ ⟨howner, hroute⟩
      dsimp only
      split
      next => exact resolves_overMembers hs hctx howner hroute (hlater B hAB)
      next =>
        exact .bind (resolves_operandAt hs hctx _ howner hroute) fun C hBC o ho =>
          resolves_overElements ho (hlater C (hAB.trans hBC))
  next element =>
    exact .bind (.lift (Q := fun B (o : Operand) => Closed B.closedness o.sql)
      fun o h => elementOperand_closed hframe h) fun B hAB o ho =>
        resolves_overElements ho (hlater B hAB)

end Elements

/-! ## Guards -/

/-- A context of a schema whose guards are closed obeys the discipline of aliases. -/
theorem Resolved.obeys (hs : s.Complete) (hctx : ctx.Resolved s) : ctx.Obeys (aliasDiscipline s) where
  operand hframe := resolves_operand hs hctx hframe
  quantify hframe hfilter := resolves_quantify hs hctx hframe fun B _ => hfilter B

/-- The guards of a schema are closed, however far they may lead. -/
theorem resolved_guardWithin (hs : s.Complete) (filters : Option ClassFilter) (depth : Nat) :
    Context.Resolved ⟨s, guardWithin s filters depth⟩ s := by
  cases filters with
  | none =>
    refine ⟨rfl, fun {A t} _ => ?_⟩
    simp only [guardWithin]
    exact .pure nofun
  | some filters =>
    induction depth with
    | zero =>
      refine ⟨rfl, fun {A t} _ => ?_⟩
      dsimp only
      rw [guardWithin_zero]
      split
      next => exact .pure nofun
      next => exact .throw
    | succ depth ih =>
      refine ⟨rfl, fun {A t} ht => ?_⟩
      dsimp only
      rw [guardWithin_succ]
      split
      next => exact .pure nofun
      next =>
        have hcondition := (ih.obeys hs).condition ht.admits (filters t.className).simplify
        exact .bind hcondition fun B _ p hp => .pure fun q hq => Option.some.inj hq ▸ hp.closed

/-- The context of a schema has guards that read columns of the schema. -/
theorem resolved_of (hs : s.Complete) (filters : Option ClassFilter) :
    (Context.of s filters).Resolved s :=
  resolved_guardWithin hs filters _

end Context

end ObjectQuery
