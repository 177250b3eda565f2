import Mathlib.Data.List.Perm.Subperm
import ObjectQuery.Proofs.Statement.Depth
import ObjectQuery.Proofs.Statement.Reached
import ObjectQuery.Proofs.Statement.Ends

/-!
# Guards that do not lead back to themselves end

A condition ends if the guards of the classes that it reaches do. Where the conditions on no class
lead back to that class, the classes that guards are asked for one after another are all different,
so there are no more of them than the schema has: that is the depth to which guards are compiled.
-/

namespace ObjectQuery

open InScope (Ends Gives)

/-! ## Routes -/

/-- No refusal on the way is of a computation that was cut off. -/
def Route.Ends : Route → Prop
  | .refused e => e ≠ .endlessConditions
  | .hop _ _ next => next.Ends
  | .relationElement _ _ _ next => next.Ends
  | _ => True

/-- A route refused for its path is not cut off. -/
theorem Route.Refuses.ends {route : Route} (h : route.Refuses Error.OfPath) : route.Ends := by
  induction route with
  | refused e =>
    obtain ⟨_, rfl⟩ := h
    exact nofun
  | hop _ _ _ ih | relationElement _ _ _ _ ih => exact ih h
  | column | json | vectorElement => trivial

/-- No route of a schema is cut off: a path that leads nowhere is refused as such. -/
theorem Schema.route_ends {s : Schema} {className path : String} :
    (s.route className path).Ends :=
  route_refuses.ends

/-! ## What is reached in a frame -/

/-- What is reached on the class of an object; an element of an array has no class. -/
def Frame.reached (frame : Frame) (reach : String → List String) : List String :=
  match frame with
  | .table t => reach t.className
  | .element _ => []

/-- More is reached in a frame where more is reached on each class. -/
theorem Frame.reached_subset {frame : Frame} {reach reach' : String → List String}
    (h : ∀ className, reach className ⊆ reach' className) :
    frame.reached reach ⊆ frame.reached reach' := by
  cases frame with
  | table t => exact h t.className
  | element o => exact List.Subset.refl _

/-- The value of a key is asked for by every test of it. -/
theorem FieldTest.subset_reached {s : Schema} {className path : String} (t : FieldTest) :
    s.reached className path ⊆ t.reached s className path := by
  intro target htarget
  cases t with
  | not t => exact subset_reached t htarget
  | every f | any f => exact Schema.mem_reachedBelow.mpr (.inl htarget)
  | _ => exact htarget

namespace Context

variable {ctx : Context}

/-- The guards of some classes end, whatever the alias. -/
def GuardsEnd (ctx : Context) (classes : List String) : Prop :=
  ∀ className ∈ classes, ∀ label, Ends (ctx.guard ⟨className, label⟩)

theorem guardsEnd_nil : ctx.GuardsEnd [] := nofun

/-- Fewer classes have guards that end. -/
theorem GuardsEnd.of_subset {classes classes' : List String} (h : ctx.GuardsEnd classes')
    (hsub : classes ⊆ classes') : ctx.GuardsEnd classes :=
  fun className hmem => h className (hsub hmem)

/-! ## Values -/

/-- A pointer is joined with the guard of the class it leads to, whatever its alias. -/
theorem pointerJoin_ends {owner : Target} {column className : String} {label : Option String}
    (h : ∀ label, Ends (ctx.guard ⟨className, label⟩)) :
    Ends (ctx.pointerJoin owner column className label) := by
  unfold pointerJoin
  refine .bind .get fun scope => ?_
  split
  next => exact .pure
  next =>
    cases label
    case' some => refine .bind .pure fun label => ?_
    case' none => refine .bind .freshAlias fun label => ?_
    all_goals exact .bind (.inNewScope (h label)) fun _ => .bind .modify fun _ => .pure

/-- A route is followed to its end when the guards of the classes it reaches end. -/
theorem locate_ends {owner : Target} (route : Route) (hroute : route.Ends)
    (h : ctx.GuardsEnd route.reached) : Ends (ctx.locate owner route) := by
  induction route generalizing owner with
  | hop column className next ih =>
    obtain ⟨hclass, hnext⟩ := List.forall_mem_cons.mp h
    unfold locate
    exact .bind (pointerJoin_ends hclass) fun _ => ih hroute hnext
  | refused e => exact .throw hroute
  | _ => exact .pure

/-- Where pointers lead nothing else is reached than was on the whole way. -/
theorem locate_given {owner : Target} {route : Route} {located : Target × Route}
    (h : Gives (ctx.locate owner route) located) :
    (route.Ends → located.2.Ends) ∧ located.2.reached ⊆ route.reached ∧
      located.2.members? = route.members? := by
  obtain ⟨scope, n, scope', n', hrun⟩ := h
  induction route generalizing owner scope n with
  | hop column className next ih =>
    obtain ⟨target, mid, m, -, hnext⟩ := InScope.runs_bind.mp hrun
    obtain ⟨hends, hreached, hmembers⟩ := ih mid m hnext
    exact ⟨hends, List.subset_cons_of_subset _ hreached, hmembers⟩
  | refused e => exact (InScope.not_runs_throw hrun).elim
  | _ =>
    obtain ⟨rfl, -, -⟩ := InScope.runs_pure.mp hrun
    exact ⟨id, List.Subset.refl _, rfl⟩

/-- The conditions on a member are the link to its owner and the guard of its class. -/
theorem memberConditions_ends {owner member : Target} {field : String}
    (h : Ends (ctx.guard member)) : Ends (ctx.memberConditions owner field member) := by
  unfold memberConditions
  exact .bind (.lift Schema.contains_ends) fun _ => .bind h fun _ => .pure

/-- The tokens of a relation end with the guard of its member class. -/
theorem relationTokens_ends {owner : Target} {field className : String}
    (h : ∀ label, Ends (ctx.guard ⟨className, label⟩)) :
    Compile.Ends (ctx.relationTokens owner field className) := by
  unfold relationTokens
  refine .freshTarget fun label => ?_
  exact .bind (.inNewScope (memberConditions_ends (h label))) fun _ => .pure

/-- The operand of a route is found when the guards of the classes it reaches end. -/
theorem operandAt_ends {owner : Target} (route : Route) (hroute : route.Ends)
    (h : ctx.GuardsEnd route.reached) : Ends (ctx.operandAt owner route) := by
  induction route generalizing owner with
  | refused e => exact .throw hroute
  | hop column className next ih =>
    obtain ⟨hclass, hnext⟩ := List.forall_mem_cons.mp h
    unfold operandAt
    exact .bind (pointerJoin_ends hclass) fun _ => ih hroute hnext
  | column name ty =>
    unfold operandAt
    split
    next className foreign =>
      have hclass := List.forall_mem_singleton.mp h
      exact .bind (.liftCompile (relationTokens_ends hclass)) fun _ => .pure
    next => exact .lift Operand.ofColumn_ends
  | json column keys => exact .pure
  | vectorElement column position => exact .pure
  | relationElement column className position next ih =>
    obtain ⟨hclass, hnext⟩ := List.forall_mem_cons.mp h
    unfold operandAt
    refine .freshTarget fun label => .bind (.inNewScope ?_) fun _ => .pure
    exact .bind (ih hroute hnext) fun _ => .bind (memberConditions_ends (hclass label)) fun _ => .pure

/-- The value of a key ends with the guards on the way to it. -/
theorem operand_ends {frame : Frame} {path : String}
    (h : ctx.GuardsEnd (frame.reached fun className => ctx.schema.reached className path)) :
    Ends (ctx.operand frame path) := by
  unfold operand
  split
  next => exact .lift elementOperand_ends
  next owner =>
    split
    next => exact .pure
    next hself =>
      have hreached : ctx.schema.reached owner.className path =
          (ctx.schema.route owner.className path).reached := if_neg hself
      exact operandAt_ends _ Schema.route_ends (hreached ▸ h)

/-! ## Expressions -/

mutual

/-- An expression ends with the values of its keys. -/
theorem term_ends {frame : Frame} : ∀ e : Expr, (∀ path ∈ e.keys, Ends (ctx.operand frame path)) →
    Ends (ctx.term frame e)
  | .key path, h => by
    unfold term
    exact .bind (h path List.mem_cons_self) fun _ => .pure
  | .value v, _ => by
    unfold term
    exact .pure
  | .array items, h => by
    unfold term
    exact .bind (terms_ends items h) fun _ => .pure
  | .not e, h => by
    unfold term
    exact .bind (term_ends e h) fun _ => .pure
  | .connective op items, h => by
    unfold term
    exact .bind (terms_ends items h) fun _ => .pure
  | .comparison op l r, h => by
    obtain ⟨hl, hr⟩ := List.forall_mem_append.mp h
    unfold term
    exact .bind (term_ends l hl) fun _ => .bind (term_ends r hr) fun _ => .pure
  | .measure m l r, h => by
    obtain ⟨hl, hr⟩ := List.forall_mem_append.mp h
    unfold term
    exact .bind (vector_ends l hl) fun _ => .bind (vector_ends r hr) fun _ => .pure

/-- The terms of a list end when the operands of its keys do. -/
theorem terms_ends {frame : Frame} : ∀ es : List Expr,
    (∀ path ∈ Expr.itemKeys es, Ends (ctx.operand frame path)) → Ends (ctx.terms frame es)
  | [], _ => by
    unfold terms
    exact .pure
  | e :: es, h => by
    obtain ⟨he, hes⟩ := List.forall_mem_append.mp h
    unfold terms
    exact .bind (term_ends e he) fun _ => .bind (terms_ends es hes) fun _ => .pure

/-- The vector of a list ends when the operands of its keys do. -/
theorem vector_ends {frame : Frame} : ∀ es : List Expr,
    (∀ path ∈ Expr.itemKeys es, Ends (ctx.operand frame path)) → Ends (ctx.vector frame es)
  | [], h => by
    unfold vector
    exact .bind (elements_ends [] h) fun _ => .pure
  | [e], h => by
    obtain ⟨he, -⟩ := List.forall_mem_append.mp h
    unfold vector
    exact .bind (term_ends e he) fun _ => .lift Vector.ofTerm_ends
  | e₁ :: e₂ :: es, h => by
    unfold vector
    exact .bind (elements_ends (e₁ :: e₂ :: es) h) fun _ => .pure

/-- The elements of a list end when the operands of its keys do. -/
theorem elements_ends {frame : Frame} : ∀ es : List Expr,
    (∀ path ∈ Expr.itemKeys es, Ends (ctx.operand frame path)) → Ends (ctx.elements frame es)
  | [], _ => by
    unfold elements
    exact .pure
  | e :: es, h => by
    obtain ⟨he, hes⟩ := List.forall_mem_append.mp h
    unfold elements
    exact .bind (term_ends e he) fun _ => .bind (.lift Vector.elementOfTerm_ends) fun _ =>
      .bind (elements_ends es hes) fun _ => .pure

end

/-! ## Filters -/

/-- A test of the elements of an array ends when the test of each element does. -/
theorem overElements_ends {o : Operand} {path : String} {every : Bool}
    {filter : Frame → InScope Sql} (h : ∀ o, Ends (filter (.element o))) :
    Ends (overElements o path every filter) := by
  unfold overElements
  refine .bind .freshAlias fun label => ?_
  split
  next =>
    refine .bind (.inNewScope (h _)) fun _ => ?_
    dsimp only
    split
    next => split <;> exact .pure
    next => exact .pure
  next => exact .throw nofun

/-- A test of the members of a relation ends when their guard and the test of each member do. -/
theorem overMembers_ends {owner : Target} {field className : String} {every : Bool}
    {filter : Frame → InScope Sql} (hguard : ∀ label, Ends (ctx.guard ⟨className, label⟩))
    (hfilter : ∀ label, Ends (filter (.table ⟨className, label⟩))) :
    Ends (ctx.overMembers owner field className every filter) := by
  unfold overMembers
  refine .freshTarget fun label => .bind (.inNewScope ?_) fun _ => .pure
  exact .bind (hfilter label) fun _ => .bind (memberConditions_ends (hguard label)) fun _ => .pure

/-- A quantified test ends when the guards of what it reaches end and what it asks of a frame does. -/
theorem quantify_ends {frame : Frame} {path : String} {every : Bool}
    {filter : Frame → InScope Sql} {reach : String → List String}
    (h : ctx.GuardsEnd (frame.reached fun className =>
      ctx.schema.reachedBelow className path reach))
    (hmember : ∀ member : Target, ctx.GuardsEnd (reach member.className) →
      Ends (filter (.table member)))
    (helement : ∀ o, Ends (filter (.element o))) :
    Ends (ctx.quantify frame path every filter) := by
  unfold quantify
  split
  next owner =>
    have hvalue : ctx.GuardsEnd (ctx.schema.reached owner.className path) :=
      h.of_subset fun target htarget => Schema.mem_reachedBelow.mpr (.inl htarget)
    split
    next =>
      exact .bind (operand_ends hvalue) fun _ => overElements_ends helement
    next hself =>
      have hreached : ctx.schema.reached owner.className path =
          (ctx.schema.route owner.className path).reached := if_neg hself
      have hmembers : ctx.schema.members? owner.className path =
          (ctx.schema.route owner.className path).members? := if_neg hself
      rw [hreached] at hvalue
      refine .bind_given (locate_ends _ Schema.route_ends hvalue) ?_
      rintro ⟨located, route⟩ hgiven
      obtain ⟨hroute, hsub, hend⟩ := locate_given hgiven
      dsimp only at hroute hsub hend ⊢
      split
      next field className foreign =>
        have hrelated : ctx.schema.members? owner.className path = some className := by
          rw [hmembers, ← hend]
          rfl
        have hbelow : ∀ target, target = className ∨ target ∈ reach className →
            ∀ label, Ends (ctx.guard ⟨target, label⟩) := fun target htarget =>
          h target (Schema.mem_reachedBelow.mpr (.inr ⟨className, hrelated, htarget⟩))
        refine overMembers_ends (hbelow className (.inl rfl)) fun label => ?_
        exact hmember _ fun target htarget => hbelow target (.inr htarget)
      next =>
        refine .bind (operandAt_ends _ (hroute Schema.route_ends) (hvalue.of_subset hsub)) ?_
        exact fun _ => overElements_ends helement
  next => exact .bind (.lift elementOperand_ends) fun _ => overElements_ends helement

/-- A test other than of elements ends with the value it tests. -/
theorem operandTest_ends {frame : Frame} {path : String} {t : FieldTest}
    (h : ctx.GuardsEnd (frame.reached fun className => t.reached ctx.schema className path)) :
    Ends (do (← ctx.operand frame path).test t) := by
  have hvalue := h.of_subset (Frame.reached_subset fun className => t.subset_reached)
  exact .bind (operand_ends hvalue) fun o => .lift (o.test_ends t)

mutual

/-- A test ends when the guards of the classes it reaches end: the cases are those of the test. -/
theorem test_ends {frame : Frame} {path : String} : ∀ t : FieldTest,
    ctx.GuardsEnd (frame.reached fun className => t.reached ctx.schema className path) →
      Ends (ctx.test frame path t)
  | .every f, h => by
    unfold test
    exact quantify_ends h (fun _ h => condition_ends f h) fun _ => condition_ends f guardsEnd_nil
  | .any f, h => by
    unfold test
    exact quantify_ends h (fun _ h => condition_ends f h) fun _ => condition_ends f guardsEnd_nil
  | .not t, h => by
    unfold test
    split
    next => exact .bind (test_ends t h) fun _ => .pure
    next => exact operandTest_ends h
  | .compare .., h | .oneOf _, h | .noneOf _, h | .subset _, h | .superset _, h | .intersect _, h
  | .pattern .., h | .startsWith _, h | .endsWith _, h | .size _, h | .empty _, h => by
    unfold test
    exact operandTest_ends h

/-- A condition ends with the guards of the classes that it reaches. -/
theorem condition_ends {frame : Frame} : ∀ f : Filter,
    ctx.GuardsEnd (frame.reached fun className => f.reached ctx.schema className) →
      Ends (ctx.condition frame f)
  | .connective op items, h => by
    unfold condition
    exact .bind (conditions_ends items h) fun _ => .pure
  | .field path t, h => by
    unfold condition
    exact test_ends t h
  | .expr e, h => by
    unfold condition
    refine .bind (term_ends e fun path hpath => operand_ends ?_) fun _ => .pure
    refine h.of_subset (Frame.reached_subset fun className target htarget => ?_)
    exact List.mem_flatMap.mpr ⟨path, hpath, htarget⟩

/-- The parts of a connective end when the guards of the classes they reach end. -/
theorem conditions_ends {frame : Frame} : ∀ fs : List Filter,
    ctx.GuardsEnd (frame.reached fun className => Filter.itemsReached ctx.schema className fs) →
      Ends (ctx.conditions frame fs)
  | [], _ => by
    unfold conditions
    exact .pure
  | f :: fs, h => by
    have hf := h.of_subset (Frame.reached_subset fun className =>
      List.subset_append_left (f.reached ctx.schema className) _)
    have hfs := h.of_subset (Frame.reached_subset fun className =>
      List.subset_append_right (f.reached ctx.schema className) _)
    unfold conditions
    exact .bind (condition_ends f hf) fun _ => .bind (conditions_ends fs hfs) fun _ => .pure

end

end Context

/-! ## Guards -/

namespace Schema

open Relation (TransGen)

variable {s : Schema} {filters : ClassFilter}

/-- Conditions on no class lead back to it, through whatever other classes. -/
def Acyclic (s : Schema) (filters : ClassFilter) : Prop :=
  ∀ className, ¬TransGen (s.LeadsTo filters) className className

/-- If conditions lead to less, they do not lead back either. -/
theorem Acyclic.of_subset {filters' : ClassFilter} (h : s.Acyclic filters)
    (hsub : ∀ className, (filters' className).reached s className ⊆
      (filters className).reached s className) : s.Acyclic filters' := by
  have hmono : s.LeadsTo filters' ≤ s.LeadsTo filters := fun name target htarget => hsub name htarget
  intro className hback
  exact h className (TransGen.mono hmono _ _ hback)

/-- Classes that have led one to another, the last one to a class. -/
structure Trail (s : Schema) (filters : ClassFilter) (className : String)
    (passed : List String) : Prop where
  nodup : passed.Nodup
  exist : ∀ name ∈ passed, (s.class? name).isSome = true
  lead : ∀ name ∈ passed, TransGen (s.LeadsTo filters) name className

/-- At the start no class has been passed. -/
theorem Trail.nil {className : String} : s.Trail filters className [] :=
  ⟨List.nodup_nil, nofun, nofun⟩

namespace Trail

variable {className : String} {passed : List String}

/-- No class is passed twice where filters lead to no class again. -/
theorem not_mem (h : s.Trail filters className passed) (hacyclic : s.Acyclic filters) :
    className ∉ passed :=
  fun hmem => hacyclic className (h.lead className hmem)

/-- The class of a trail joins those passed once it leads on. -/
theorem step (h : s.Trail filters className passed) (hacyclic : s.Acyclic filters)
    (hclass : (s.class? className).isSome = true) {target : String}
    (htarget : s.LeadsTo filters className target) :
    s.Trail filters target (className :: passed) where
  nodup := List.nodup_cons.mpr ⟨h.not_mem hacyclic, h.nodup⟩
  exist := List.forall_mem_cons.mpr ⟨hclass, h.exist⟩
  lead := List.forall_mem_cons.mpr ⟨.single htarget, fun name hname =>
    (h.lead name hname).tail htarget⟩

/-- A trail to a class of the schema has not passed all classes. -/
theorem length_lt (h : s.Trail filters className passed) (hacyclic : s.Acyclic filters)
    (hclass : (s.class? className).isSome = true) : passed.length < s.classes.length := by
  have hnodup : (className :: passed).Nodup :=
    List.nodup_cons.mpr ⟨h.not_mem hacyclic, h.nodup⟩
  have hsub : className :: passed ⊆ s.classes.map (·.1) := by
    intro name hname
    have hexists : (s.class? name).isSome = true := by
      rcases List.mem_cons.mp hname with rfl | hname
      · exact hclass
      · exact h.exist name hname
    obtain ⟨c, hc⟩ := Option.isSome_iff_exists.mp hexists
    exact List.mem_map.mpr ⟨(name, c), Table.mem_of_find?_eq_some hc, rfl⟩
  have hle := (List.subperm_of_subset hnodup hsub).length_le
  rwa [List.length_cons, List.length_map] at hle

end Trail

/--
With as many steps left as there are classes that have not been passed, a guard ends: each step
passes one more.
-/
theorem guardWithin_ends (hs : s.Accepted) (hacyclic : s.Acyclic filters) {depth : Nat}
    {className label : String} {passed : List String} (htrail : s.Trail filters className passed)
    (hdepth : s.classes.length ≤ passed.length + depth)
    (hclass : 0 < depth ∨ (s.class? className).isSome = true) :
    InScope.Ends (guardWithin s (some filters) depth ⟨className, label⟩) := by
  induction depth generalizing className label passed with
  | zero =>
    have hexists := hclass.resolve_left (Nat.lt_irrefl 0)
    exact absurd (htrail.length_lt hacyclic hexists) (Nat.not_lt.mpr hdepth)
  | succ depth ih =>
    rw [Context.guardWithin_succ]
    split
    next => exact .pure
    next =>
      refine .bind (Context.condition_ends _ fun target htarget label => ?_) fun _ => .pure
      have hleads : s.LeadsTo filters className target :=
        Filter.reached_simplify_subset _ htarget
      obtain ⟨hexists, htarget⟩ := Filter.reaches_classes hs _ hleads
      refine ih (htrail.step hacyclic hexists hleads) ?_ (.inr htarget)
      rw [List.length_cons]
      omega

end Schema

end ObjectQuery
