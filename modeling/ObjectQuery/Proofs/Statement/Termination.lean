import ObjectQuery.Proofs.Access.Admission
import ObjectQuery.Proofs.Statement.Depth
import ObjectQuery.Proofs.Statement.Operations

/-!
# Conditions that lead nowhere back

The guards of an admitted query add to the host's conditions on a class only such on default fields,
which lead nowhere. So if the host's conditions on no class lead back to that class, every statement
ends, however the classes of the schema refer to one another.

Where they do lead back no depth is enough, and the query itself is admitted all the same: a guard that
begins with a test behind a pointer asks for the guard of the pointer's class first. If that is the class
of the guard itself, it asks for itself once more, and so on.
-/

namespace ObjectQuery

/-- A compilation is refused when the counter stands at `n`. -/
def Compile.Fails (x : Compile α) (n : Nat) (e : Error) : Prop := (x.run.run n).1 = .error e

/-- A compilation inside a query is refused behind some joins. -/
def InScope.Fails (x : InScope α) (scope : Scope) (n : Nat) (e : Error) : Prop :=
  Compile.Fails (x.run scope) n e

/-! ## Refusals -/

/-- Behind a refusal nothing is compiled. -/
theorem Compile.Fails.bind {x : Compile α} {f : α → Compile β} {n : Nat} {e : Error}
    (h : Fails x n e) : Fails (x >>= f) n e := by
  unfold Fails at h ⊢
  rw [run_bind]
  split
  next hrun =>
    rw [hrun] at h
    cases h
  next hrun =>
    rw [hrun] at h
    cases h
    rfl

/-- What has gone through before a refusal does not take it back. -/
theorem Compile.Runs.fails {x : Compile α} {f : α → Compile β} {n m : Nat} {a : α} {e : Error}
    (h : Runs x n a m) (hf : Fails (f a) m e) : Fails (x >>= f) n e := by
  unfold Fails
  rw [run_bind, show x.run.run n = (.ok a, m) from h]
  exact hf

namespace InScope

variable {scope scope' : Scope} {n n' : Nat} {e : Error}

theorem Fails.bind {x : InScope α} {f : α → InScope β} (h : Fails x scope n e) :
    Fails (x >>= f) scope n e :=
  Compile.Fails.bind h

theorem Runs.fails {x : InScope α} {f : α → InScope β} {a : α} (h : Runs x scope n a scope' n')
    (hf : Fails (f a) scope' n' e) : Fails (x >>= f) scope n e :=
  Compile.Runs.fails h hf

theorem Fails.liftCompile {x : Compile α} (h : Compile.Fails x n e) :
    Fails (liftM x : InScope α) scope n e :=
  Compile.Fails.bind h

end InScope

/-! ## Pointers -/

namespace Context

open InScope (Fails)

variable {ctx : Context} {owner : Target} {column className path : String} {next : Route}
  {scope : Scope} {n : Nat} {e : Error}

/-- The alias that is given out when the counter stands at `n`. -/
def aliasAt (n : Nat) : String := "_p" ++ toString (n + 1)

/-- The guard of a class refuses the join of a pointer to it, unless it has been joined. -/
theorem pointerJoin_fails (hscope : scope.label? owner.label column = none)
    (hguard : Compile.Fails (inNewScope (ctx.guard ⟨className, aliasAt n⟩)) (n + 1) e) :
    Fails (ctx.pointerJoin owner column className none) scope n e := by
  have hget : InScope.Runs get scope n scope scope n := rfl
  have halias : InScope.Runs (liftM freshAlias) scope n (aliasAt n) scope (n + 1) := rfl
  unfold pointerJoin
  refine hget.fails ?_
  rw [hscope]
  exact halias.fails (InScope.Fails.liftCompile hguard).bind

/-- So it refuses a conjunction that begins with a comparison behind the pointer. -/
theorem condition_fails (hself : path ≠ Filter.selfKey)
    (hroute : ctx.schema.route owner.className path = .hop column className next)
    (hscope : scope.label? owner.label column = none)
    (hguard : Compile.Fails (inNewScope (ctx.guard ⟨className, aliasAt n⟩)) (n + 1) e)
    {op : Comparison} {v : Json} {rest : List Filter} :
    Fails (ctx.condition (.table owner) (.connective .and (.field path (.compare op v) :: rest)))
      scope n e := by
  have hoperand : Fails (ctx.operand (.table owner) path) scope n e := by
    unfold operand
    dsimp only
    rw [if_neg hself, hroute]
    unfold operandAt
    exact (pointerJoin_fails hscope hguard).bind
  have htest : Fails (ctx.test (.table owner) path (.compare op v)) scope n e := by
    unfold test
    exact hoperand.bind
  unfold condition conditions condition
  exact htest.bind.bind

end Context

/-- Conditions on a class begin with a test behind a pointer to the class itself. -/
def Schema.LeadsStraightBack (s : Schema) (filter : Filter) (className : String) : Prop :=
  ∃ path op v rest column next,
    filter.simplify = .connective .and (.field path (.compare op v) :: rest) ∧
      path ≠ Filter.selfKey ∧ s.route className path = .hop column className next

/-- No depth is enough for the guard of such a class, by induction on the depth. -/
theorem Schema.guardWithin_fails {s : Schema} {filters : ClassFilter} {className : String}
    (h : s.LeadsStraightBack (filters className) className) (depth : Nat) (label : String)
    (n : Nat) :
    Compile.Fails (inNewScope (guardWithin s (some filters) depth ⟨className, label⟩)) n
      .endlessConditions := by
  obtain ⟨path, op, v, rest, column, next, hfilter, hself, hroute⟩ := h
  have htruth : ¬ (filters className).simplify.isTruth = true := by
    rw [hfilter]
    exact Bool.false_ne_true
  induction depth generalizing label n with
  | zero =>
    rw [Context.guardWithin_zero, if_neg htruth]
    rfl
  | succ depth ih =>
    rw [Context.guardWithin_succ, if_neg htruth, hfilter]
    exact (Context.condition_fails hself hroute rfl (ih _ _)).bind

namespace Gate

variable {g : Gate} {className : String}

/-- What the conditions on a class reach, the host's conditions on it reach. -/
theorem reached_visible {document : Json} (hs : Schema.ofJson document = .ok g.schema) :
    (g.visible className).reached g.schema className ⊆
      (g.hostConditions className).flatMap (Filter.reached g.schema className) := by
  have hreaders : g.schema.reached className Field.readers = [] :=
    Schema.reached_default hs .stringArray (by simp [Field.defaults])
  have hexpired : g.schema.reached className Field.expiredAt = [] :=
    Schema.reached_default hs .date (by simp [Field.defaults])
  have halive : (Filter.alive g.now).reached g.schema className = [] := by
    simp [Filter.alive, Filter.reached, FieldTest.reached, hexpired]
  have hlists : (Filter.grantsOne Field.readers g.auth.tokens).reached g.schema className = [] := by
    simp [Filter.grantsOne, Filter.reached, FieldTest.reached, hreaders]
  unfold visible Filter.all
  refine List.Subset.trans (Filter.reached_simplify_subset _) ?_
  rw [Filter.reached_connective, List.flatMap_append, List.flatMap_append]
  split <;> simp [halive, hlists]

/-- Conditions lead back to their class only if the host's do. -/
theorem acyclic_visible {document : Json} (hs : Schema.ofJson document = .ok g.schema)
    (h : ∀ host ∈ g.extraFilter, g.schema.Acyclic host) : g.schema.Acyclic g.visible := by
  cases hextra : g.extraFilter with
  | none =>
    intro className hback
    obtain ⟨target, hleads, -⟩ := Relation.TransGen.head'_iff.mp hback
    have hmem := reached_visible hs hleads
    simp [hostConditions, hextra] at hmem
  | some host =>
    refine (h host hextra).of_subset fun className => ?_
    have hsub : (g.visible className).reached g.schema className ⊆
        (g.hostConditions className).flatMap (Filter.reached g.schema className) :=
      reached_visible hs
    simpa [hostConditions, hextra] using hsub

/--
If the host's conditions on no class lead back to that class, every statement of an admitted query
ends: none is cut off, whatever the schema and whichever aliases have been given out.
-/
theorem accept_compile_ends {document : Json} (hs : Schema.ofJson document = .ok g.schema)
    (hacyclic : ∀ host ∈ g.extraFilter, g.schema.Acyclic host) {options : FindOptions}
    {action : QueryAction} {q : Query} (h : g.accept className options action = .ok q) :
    (∀ op : Operation, Compile.Ends (op.compile g.schema q)) ∧
      Compile.Ends (Read.nonrefs g.schema q) ∧
      Compile.Ends (Plan.ofIncludes g.schema q.root q.includes q.base) ∧
      (∀ target ids, Compile.Ends (Read.refs g.schema target ids)) ∧
      (Tables.prepare g.schema).Ends := by
  obtain ⟨c, _, _, _, _, hc, -, -, -, -, -, -, rfl⟩ := accept_ok h
  have hnonempty : 0 < g.schema.classes.length :=
    List.length_pos_of_mem (Table.mem_of_find?_eq_some (Schema.getClass_eq_ok.mp hc))
  have hall : (Context.of g.schema (some g.visible)).AllEnd := fun t =>
    Schema.guardWithin_ends (Schema.accepted_of_ofJson hs) (acyclic_visible hs hacyclic) .nil
      (Nat.le_add_left _ _) (.inl hnonempty)
  exact ⟨Operation.compile_ends hall, Read.nonrefs_ends hall, Plan.ofIncludes_ends,
    fun _ _ => Read.refs_ends, Tables.prepare_ends⟩

/-- Notes have an author, and users a note: each class refers to the other. -/
def authoredNotes : Json :=
  .obj [
    ("Note", .obj [("fields", .obj [
      ("author", .obj [("type", .str "pointer"), ("target", .str "User")])])]),
    ("User", .obj [("fields", .obj [
      ("active", .str "boolean"),
      ("first", .obj [("type", .str "pointer"), ("target", .str "Note")])])])]

/-- The classes as a schema. -/
def authoredSchema : Schema where
  classes := [
    ("Note", {
      fields := Field.defaults.foldl (fun t f => t.insert f.1 f.2) [("author", .pointer "User")] }),
    ("User", {
      fields := Field.defaults.foldl (fun t f => t.insert f.1 f.2)
        [("active", .primitive .boolean none), ("first", .pointer "Note")] })]

/-- Only the notes of active authors. -/
def activeAuthors : ClassFilter := fun className =>
  if className = "Note" then .field "author.active" (.compare .eq (.bool true)) else .truth

/-- The host's own access to the notes of active authors. -/
def authoredGate : Gate where
  schema := authoredSchema
  auth := { Auth.anonymous with master := true }
  extraFilter := some activeAuthors
  maxDepth := 8
  now := ⟨0, 0⟩

/-- The notes lead to users, and users nowhere. -/
theorem leadsTo_activeAuthors {className target : String}
    (h : authoredSchema.LeadsTo activeAuthors className target) :
    className = "Note" ∧ target = "User" := by
  unfold Schema.LeadsTo activeAuthors at h
  by_cases hnote : className = "Note"
  · subst hnote
    have hreached : (Filter.field "author.active" (.compare .eq (.bool true))).reached
        authoredSchema "Note" = ["User"] := by decide +kernel
    rw [if_pos rfl, hreached] at h
    exact ⟨rfl, List.mem_singleton.mp h⟩
  · rw [if_neg hnote] at h
    exact (List.not_mem_nil h).elim

/-- Notes are counted, although their authors refer to notes. -/
theorem accept_compile_ends_of_activeAuthors :
    ∃ q, Schema.ofJson authoredNotes = .ok authoredGate.schema ∧
      authoredGate.schema.Acyclic activeAuthors ∧
      authoredGate.accept "Note" {} .count = .ok q ∧
      Compile.Ends (Operation.count.compile authoredGate.schema q) := by
  have hschema : Schema.ofJson authoredNotes = .ok authoredGate.schema := by rfl
  have hacyclic : authoredGate.schema.Acyclic activeAuthors := by
    intro className hback
    obtain ⟨_, hfirst, -⟩ := Relation.TransGen.head'_iff.mp hback
    obtain ⟨_, -, hlast⟩ := Relation.TransGen.tail'_iff.mp hback
    have hnote := (leadsTo_activeAuthors hfirst).1
    have huser := (leadsTo_activeAuthors hlast).2
    rw [hnote] at huser
    exact absurd huser (by decide)
  obtain ⟨q, hq⟩ := Result.exists_of_toBool
    (show (authoredGate.accept "Note" {} .count).toBool = true by decide +kernel)
  have hends := accept_compile_ends hschema
    (fun host hhost => Option.some.inj hhost ▸ hacyclic) hq
  exact ⟨q, hschema, hacyclic, hq, hends.1 .count⟩

/-- Notes have a title, and a parent that is a note again. -/
def titledNotes : Json :=
  .obj [("Note", .obj [("fields", .obj [
    ("parent", .obj [("type", .str "pointer"), ("target", .str "Note")]),
    ("title", .str "string")])])]

/-- The notes as a schema. -/
def titledSchema : Schema where
  classes := [("Note", {
    fields := Field.defaults.foldl (fun t f => t.insert f.1 f.2)
      [("parent", .pointer "Note"), ("title", .primitive .string none)] })]

/-- Only the notes whose parents have one title. -/
def titledParents : ClassFilter := fun className =>
  if className = "Note" then .field "parent.title" (.compare .eq (.str "x")) else .truth

/-- The host's own access to the notes of such parents. -/
def titledGate : Gate where
  schema := titledSchema
  auth := { Auth.anonymous with master := true }
  extraFilter := some titledParents
  maxDepth := 8
  now := ⟨0, 0⟩

/-- The title of a parent is behind the pointer to it. -/
theorem route_titledNotes : titledSchema.route "Note" "parent.title" =
    .hop "parent" "Note" (.column "title" (.primitive .string none)) := by
  have hparse : Path.parse "parent.title" = .ok [.field "parent", .field "title"] := rfl
  have hparent : titledSchema.columnOf "Note" "parent.title" [.field "parent", .field "title"] =
      .ok ⟨"parent", .pointer "Note", .pointer [.field "title"]⟩ := rfl
  have htitle : titledSchema.columnOf "Note" "title" [.field "title"] =
      .ok ⟨"title", .primitive .string none, .column⟩ := rfl
  rw [Schema.route, hparse]
  dsimp only
  rw [Schema.routeOf_of_pointer hparent]
  exact congrArg (Route.hop "parent" "Note") (Schema.routeOf_of_column htitle)

/-- A parent is seen if its own parent is, and so on: the query is admitted and never compiled. -/
theorem accept_compile_endless :
    ∃ q, Schema.ofJson titledNotes = .ok titledGate.schema ∧
      Filter.decode false (.obj [("parent.title", .str "x")]) = .ok (titledParents "Note") ∧
      titledGate.extraFilter = some titledParents ∧
      titledGate.accept "Note" {} .count = .ok q ∧
      (∀ depth label n, Compile.Fails (inNewScope
        (guardWithin titledGate.schema q.extraFilter depth ⟨"Note", label⟩)) n .endlessConditions) ∧
      ∀ n, Compile.Fails (Operation.count.compile titledGate.schema q) n .endlessConditions := by
  have hschema : Schema.ofJson titledNotes = .ok titledGate.schema := by rfl
  have hself : "parent.title" ≠ Filter.selfKey := by decide
  have hback : titledGate.schema.LeadsStraightBack (titledGate.visible "Note") "Note" :=
    ⟨"parent.title", .eq, .str "x", [Filter.alive ⟨0, 0⟩], "parent", _, rfl, hself,
      route_titledNotes⟩
  obtain ⟨q, hq⟩ := Result.exists_of_toBool
    (show (titledGate.accept "Note" {} .count).toBool = true by decide +kernel)
  refine ⟨q, hschema, rfl, rfl, hq, ?_⟩
  obtain ⟨c, _, base, _, _, hc, -, -, hbase, -, -, -, rfl⟩ := accept_ok hq
  have hguard := Schema.guardWithin_fails hback
  refine ⟨hguard, fun n => ?_⟩
  have hfilter : base.filter = .truth := by
    rcases readFilter_ok (acceptFilter_ok (acceptBase_ok hbase).1).1 with ⟨-, htruth⟩ | ⟨_, _, hraw, -⟩
    · exact htruth
    · cases hraw
  rw [hfilter]
  refine Compile.Fails.bind (InScope.Fails.bind ?_)
  exact Context.condition_fails hself route_titledNotes rfl (hguard _ _ _)

end Gate

end ObjectQuery
