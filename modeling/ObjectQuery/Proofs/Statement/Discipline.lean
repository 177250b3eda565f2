import Mathlib.Order.Basic
import ObjectQuery.Proofs.Statement.Terms

/-!
# Disciplines

What a compilation gives is closed, in one sense or another; `Discipline` is a way to show it. What is
known at a point of a compilation is a world: it may grow in a run, as more aliases are given out, and what
was closed stays so. A context obeys a discipline if the values at its paths, and the filters over the
elements at them, are as the discipline asks. From that alone follows that so are expressions, filters,
aggregates and orders, whatever the sense in which they are to be closed.
-/

namespace ObjectQuery

open Sql

/-! ## Disciplines -/

/-- A way to show that what is compiled is closed, in a sense that depends on a world. -/
structure Discipline (W : Type) [Preorder W] where
  sense : W → Closedness
  /-- What the keys of a filter may refer to. -/
  Admits : W → Frame → Prop
  /-- A run that starts in a world ends in a greater one, where what it gives is as stated. -/
  Ensures {α : Type} (w : W) (x : InScope α) (Q : W → α → Prop) : Prop
  closed_mono {w w' : W} {sql : Sql} (h : w ≤ w') (hsql : Closed (sense w) sql) : Closed (sense w') sql
  admits_mono {w w' : W} {frame : Frame} (h : w ≤ w') (hframe : Admits w frame) : Admits w' frame
  pure {α : Type} {w : W} {a : α} {Q : W → α → Prop} (h : Q w a) : Ensures w (pure a) Q
  bind {α β : Type} {w : W} {x : InScope α} {f : α → InScope β} {R : W → α → Prop}
    {Q : W → β → Prop} (hx : Ensures w x R) (hf : ∀ w', w ≤ w' → ∀ a, R w' a → Ensures w' (f a) Q) :
    Ensures w (x >>= f) Q
  throw {α : Type} {w : W} {Q : W → α → Prop} (e : Error) : Ensures w (throw e : InScope α) Q
  lift {α : Type} {w : W} {r : Result α} {Q : W → α → Prop} (h : ∀ a, r = .ok a → Q w a) :
    Ensures w (liftM r : InScope α) Q

namespace Discipline

variable {W : Type} [Preorder W] (D : Discipline W) {w w' : W}

/-- What a run gives is closed. -/
abbrev Closes (w : W) (x : InScope Sql) : Prop := D.Ensures w x fun w sql => Closed (D.sense w) sql

/-- What a run gives is closed and not empty. -/
abbrev Tests (w : W) (x : InScope Sql) : Prop := D.Ensures w x fun w sql => Predicate (D.sense w) sql

variable {D}

/-- A predicate stays one in any later world. -/
theorem predicate_mono {sql : Sql} (h : w ≤ w') (hsql : Predicate (D.sense w) sql) :
    Predicate (D.sense w') sql :=
  ⟨D.closed_mono h hsql.closed, hsql.written⟩

/-- A term that is closed stays so in any later world. -/
theorem term_mono {t : Term} (h : w ≤ w') (ht : t.Closed (D.sense w)) : t.Closed (D.sense w') := by
  cases t with
  | operand o => exact D.closed_mono h ht
  | constant v => trivial

/-- A loop gives results that are as stated, if that lasts. -/
theorem mapM {α β : Type} {f : α → InScope β} {xs : List α} {Q : W → β → Prop}
    (hmono : ∀ w w' y, w ≤ w' → Q w y → Q w' y)
    (hf : ∀ w', w ≤ w' → ∀ x ∈ xs, D.Ensures w' (f x) Q) :
    D.Ensures w (xs.mapM f) fun w ys => ∀ y ∈ ys, Q w y := by
  induction xs generalizing w with
  | nil => exact D.pure nofun
  | cons x xs ih =>
    rw [List.mapM_cons]
    refine D.bind (hf w le_rfl x List.mem_cons_self) fun w₁ h₁ y hy => ?_
    refine D.bind (ih fun w' h x hx => hf w' (h₁.trans h) x (List.mem_cons_of_mem _ hx))
      fun w₂ h₂ ys hys => ?_
    exact D.pure (List.forall_mem_cons.mpr ⟨hmono _ _ _ h₂ hy, hys⟩)

/-- What is given is closed whatever is done to it that keeps it closed. -/
theorem closes_map {α : Type} {x : InScope α} {f : α → Sql} {Q : W → α → Prop}
    (hx : D.Ensures w x Q) (hf : ∀ w' a, Q w' a → Closed (D.sense w') (f a)) :
    D.Closes w (do return f (← x)) :=
  D.bind hx fun w' _ a ha => D.pure (hf w' a ha)

/-! ## Entries -/

section Entries

variable {ctx : Context} {owner : Target} {lead : String} {query : BaseQuery}

/-- Entries that are closed stay so in any later world. -/
theorem entries_mono {entries : Entries} (h : w ≤ w') (hentries : entries.Closed (D.sense w)) :
    entries.Closed (D.sense w') :=
  fun entry hentry => D.closed_mono h (hentries entry hentry)

/-- The entries of a group are closed when each group is. -/
theorem groupEntries (hgroup : ∀ w', w ≤ w' → ∀ relation accumulator,
      D.Closes w' (ctx.group owner relation accumulator query)) :
    D.Ensures w (ctx.groupEntries owner lead query) fun w entries => entries.Closed (D.sense w) := by
  unfold Context.groupEntries
  refine D.bind (D.mapM (Q := fun w (entries : Entries) => entries.Closed (D.sense w))
    (fun _ _ _ => D.entries_mono) fun w₁ h₁ group _ => ?_) fun _ _ entries hentries => ?_
  · refine D.mapM (fun _ _ _ => D.closed_mono) fun w₂ h₂ named _ => ?_
    refine D.bind (hgroup w₂ (h₁.trans h₂) group.1 named.2) fun _ _ value hvalue => D.pure ?_
    dsimp only
    split <;> simp [hvalue]
  · refine D.pure fun entry hentry => ?_
    obtain ⟨group, hgroup, hmem⟩ := List.mem_flatten.mp hentry
    exact hentries group hgroup entry hmem

/-- A node's entries are closed if its columns are, what is below it and its groups. -/
theorem nodeEntries {columns : List (String × FieldType)} {below : InScope Entries}
    (hcolumns : (Context.columnEntries owner lead columns).Closed (D.sense w))
    (hbelow : D.Ensures w below fun w entries => entries.Closed (D.sense w))
    (hgroup : ∀ w', w ≤ w' → ∀ relation accumulator,
      D.Closes w' (ctx.group owner relation accumulator query)) :
    D.Ensures w (ctx.nodeEntries owner lead columns query below)
      fun w entries => entries.Closed (D.sense w) := by
  unfold Context.nodeEntries
  refine D.bind hbelow fun w₁ h₁ below hbelow => ?_
  refine D.bind (D.groupEntries fun w' h => hgroup w' (h₁.trans h)) fun w₂ h₂ groups hgroups => ?_
  exact D.pure (List.forall_mem_append.mpr ⟨List.forall_mem_append.mpr
    ⟨D.entries_mono (h₁.trans h₂) hcolumns, D.entries_mono h₂ hbelow⟩, hgroups⟩)

end Entries

end Discipline

/-- The values at paths are closed, and so are filters over the elements at them. -/
structure Context.Obeys {W : Type} [Preorder W] (ctx : Context) (D : Discipline W) : Prop where
  operand {w : W} {frame : Frame} {path : String} (hframe : D.Admits w frame) :
    D.Ensures w (ctx.operand frame path) fun w o => Closed (D.sense w) o.sql
  quantify {w : W} {frame : Frame} {path : String} {every : Bool} {filter : Frame → InScope Sql}
    (hframe : D.Admits w frame)
    (hfilter : ∀ w' inner, D.Admits w' inner → D.Tests w' (filter inner)) :
    D.Tests w (ctx.quantify frame path every filter)

namespace Context.Obeys

variable {W : Type} [Preorder W] {D : Discipline W} {ctx : Context} {w : W} {frame : Frame}

/-! ## Expressions -/

mutual

/-- The value of an expression is closed. -/
theorem term (h : ctx.Obeys D) {w : W} (hframe : D.Admits w frame) :
    ∀ e : Expr, D.Ensures w (ctx.term frame e) fun w t => t.Closed (D.sense w)
  | .key path => by
    unfold Context.term
    exact D.bind (h.operand hframe) fun _ _ o ho => D.pure ho
  | .value v => by
    unfold Context.term
    exact D.pure trivial
  | .array items => by
    unfold Context.term
    exact D.bind (terms h hframe items) fun _ _ ts hts => D.pure (Term.array_closed hts)
  | .not e => by
    unfold Context.term
    refine D.bind (term h hframe e) fun _ _ t ht => ?_
    have hnot := predicate_not (Term.predicate_truth ht).closed
    exact D.pure hnot.closed
  | .connective op items => by
    unfold Context.term
    refine D.bind (terms h hframe items) fun w' _ ts hts => D.pure ?_
    have htruths : ∀ sql ∈ ts.map Term.truth, Closed (D.sense w') sql :=
      List.forall_mem_map.mpr fun t ht => (Term.predicate_truth (hts t ht)).closed
    exact (Connective.predicate_sql htruths).closed
  | .comparison op l r => by
    unfold Context.term
    refine D.bind (term h hframe l) fun _ h₁ left hl => ?_
    refine D.bind (term h (D.admits_mono h₁ hframe) r) fun _ h₂ right hr => ?_
    exact D.pure (Term.compare_closed (D.term_mono h₂ hl) hr)
  | .measure m l r => by
    unfold Context.term
    refine D.bind (vector h hframe l) fun _ h₁ left hl => ?_
    refine D.bind (vector h (D.admits_mono h₁ hframe) r) fun _ h₂ right hr => ?_
    exact D.pure (Measure.sql_closed (D.closed_mono h₂ hl) hr)

/-- The terms of a list are closed when each of them is, in the world the ones before it leave. -/
theorem terms (h : ctx.Obeys D) {w : W} (hframe : D.Admits w frame) :
    ∀ es : List Expr, D.Ensures w (ctx.terms frame es) fun w ts => ∀ t ∈ ts, t.Closed (D.sense w)
  | [] => by
    unfold Context.terms
    exact D.pure nofun
  | e :: es => by
    unfold Context.terms
    refine D.bind (term h hframe e) fun _ h₁ t ht => ?_
    refine D.bind (terms h (D.admits_mono h₁ hframe) es) fun _ h₂ ts hts => ?_
    exact D.pure (List.forall_mem_cons.mpr ⟨D.term_mono h₂ ht, hts⟩)

/-- The vector of a list is closed. -/
theorem vector (h : ctx.Obeys D) {w : W} (hframe : D.Admits w frame) :
    ∀ es : List Expr, D.Closes w (ctx.vector frame es)
  | [] => by
    unfold Context.vector
    exact D.closes_map (elements h hframe []) fun _ sqls hsqls => by
      simpa [Vector.ofElements, closed_join] using hsqls
  | [e] => by
    unfold Context.vector
    refine D.bind (term h hframe e) fun _ _ t ht => ?_
    exact D.lift fun sql hsql => Vector.ofTerm_closed ht hsql
  | e₁ :: e₂ :: es => by
    unfold Context.vector
    exact D.closes_map (elements h hframe (e₁ :: e₂ :: es)) fun _ sqls hsqls => by
      simpa [Vector.ofElements, closed_join] using hsqls

/-- The elements of a list are closed, one by one. -/
theorem elements (h : ctx.Obeys D) {w : W} (hframe : D.Admits w frame) :
    ∀ es : List Expr, D.Ensures w (ctx.elements frame es)
      fun w sqls => ∀ sql ∈ sqls, Closed (D.sense w) sql
  | [] => by
    unfold Context.elements
    exact D.pure nofun
  | e :: es => by
    unfold Context.elements
    refine D.bind (term h hframe e) fun w₁ h₁ t ht => ?_
    refine D.bind (D.lift (Q := fun w sql => Closed (D.sense w) sql)
      fun sql hsql => Vector.elementOfTerm_closed ht hsql) fun w₂ h₂ sql hsql => ?_
    refine D.bind (elements h (D.admits_mono (h₁.trans h₂) hframe) es) fun _ h₃ sqls hsqls => ?_
    exact D.pure (List.forall_mem_cons.mpr ⟨D.closed_mono h₃ hsql, hsqls⟩)

end

/-! ## Filters -/

/-- A test of one operand is a predicate, since the operand is closed. -/
theorem operandTest (h : ctx.Obeys D) (hframe : D.Admits w frame) {path : String} (t : FieldTest) :
    D.Tests w (do (← ctx.operand frame path).test t) :=
  D.bind (h.operand hframe) fun _ _ _ ho => D.lift fun _ hsql => Operand.predicate_test ho hsql

mutual

/-- Every test is a predicate: the cases are those of the test. -/
theorem test (h : ctx.Obeys D) {w : W} {frame : Frame} (hframe : D.Admits w frame) {path : String} :
    ∀ t : FieldTest, D.Tests w (ctx.test frame path t)
  | .every f => by
    unfold Context.test
    exact h.quantify hframe fun _ inner hinner => condition h hinner f
  | .any f => by
    unfold Context.test
    exact h.quantify hframe fun _ inner hinner => condition h hinner f
  | .not t => by
    unfold Context.test
    split
    next =>
      exact D.bind (test h hframe t) fun _ _ sql hsql => D.pure (predicate_not hsql.closed)
    next => exact operandTest h hframe (.not t)
  | .compare .. | .oneOf _ | .noneOf _ | .subset _ | .superset _ | .intersect _ | .pattern ..
  | .startsWith _ | .endsWith _ | .size _ | .empty _ => by
    unfold Context.test
    exact operandTest h hframe _

/-- A condition is closed and never empty. -/
theorem condition (h : ctx.Obeys D) {w : W} {frame : Frame} (hframe : D.Admits w frame) :
    ∀ f : Filter, D.Tests w (ctx.condition frame f)
  | .connective op items => by
    unfold Context.condition
    refine D.bind (conditions h hframe items) fun _ _ sqls hsqls => ?_
    exact D.pure (Connective.predicate_sql fun sql hsql => (hsqls sql hsql).closed)
  | .field path t => by
    unfold Context.condition
    exact test h hframe t
  | .expr e => by
    unfold Context.condition
    exact D.bind (term h hframe e) fun _ _ t ht => D.pure (Term.predicate_truth ht)

/-- The parts of a connective are predicates, each in the world the ones before it leave. -/
theorem conditions (h : ctx.Obeys D) {w : W} {frame : Frame} (hframe : D.Admits w frame) :
    ∀ fs : List Filter, D.Ensures w (ctx.conditions frame fs)
      fun w sqls => ∀ sql ∈ sqls, Predicate (D.sense w) sql
  | [] => by
    unfold Context.conditions
    exact D.pure nofun
  | f :: fs => by
    unfold Context.conditions
    refine D.bind (condition h hframe f) fun _ h₁ sql hsql => ?_
    refine D.bind (conditions h (D.admits_mono h₁ hframe) fs) fun _ h₂ sqls hsqls => ?_
    exact D.pure (List.forall_mem_cons.mpr ⟨D.predicate_mono h₂ hsql, hsqls⟩)

end

/-- The filter that is asked for on members. -/
theorem memberFilter (h : ctx.Obeys D) (hframe : D.Admits w frame) {query : BaseQuery} :
    D.Ensures w (ctx.memberFilter frame query)
      fun w asked => ∀ c ∈ asked, Predicate (D.sense w) c := by
  unfold Context.memberFilter
  split
  next => exact D.pure (List.forall_mem_nil _)
  next =>
    exact D.bind (condition h hframe _) fun _ _ sql hsql =>
      D.pure (List.forall_mem_singleton.mpr hsql)

/-! ## Aggregates and orders -/

/-- An aggregate is closed in any frame that is admitted. -/
theorem aggregate (h : ctx.Obeys D) (hframe : D.Admits w frame) (a : Accumulator) :
    D.Closes w (ctx.aggregate frame a) := by
  unfold Context.aggregate
  split
  next => exact D.pure closed_raw
  next op input =>
    refine D.bind (term h hframe input) fun _ _ t ht => ?_
    refine D.bind (D.lift (Q := fun w value => Closed (D.sense w) value)
      fun value hvalue => aggregateInput_closed ht hvalue) fun _ _ value hvalue => ?_
    split
    next => exact D.pure (withinGroup_closed closed_raw hvalue)
    next => exact D.pure (by simp [hvalue])
  next input p mode =>
    refine D.bind (term h hframe input) fun _ _ t ht => ?_
    refine D.bind (D.lift (Q := fun w value => Closed (D.sense w) value)
      fun value hvalue => aggregateInput_closed ht hvalue) fun _ _ value hvalue => ?_
    exact D.pure (withinGroup_closed (by simp) hvalue)
  next => exact D.throw _

section Orders

variable {owner : Target} {query : BaseQuery}

/-- The key of a group is closed when its group is. -/
theorem groupKey (hgroup : ∀ w', w ≤ w' → ∀ relation accumulator,
      D.Closes w' (ctx.group owner relation accumulator query)) {name : String} :
    D.Closes w (ctx.groupKey owner name query) := by
  unfold Context.groupKey
  split
  next => exact hgroup w le_rfl _ _
  next => exact D.throw _

/-- The key at a path is closed, whether it is a group or an operand. -/
theorem pathKey (h : ctx.Obeys D) (howner : D.Admits w (.table owner))
    (hgroup : ∀ w', w ≤ w' → ∀ relation accumulator,
      D.Closes w' (ctx.group owner relation accumulator query)) {path : String} :
    D.Closes w (ctx.pathKey owner query path) := by
  unfold Context.pathKey
  split
  next => exact groupKey hgroup
  next => exact D.closes_map (h.operand howner) fun _ _ ho => ho

/-- The key of an expression is closed, whether it is a group or a term. -/
theorem exprKey (h : ctx.Obeys D) (howner : D.Admits w (.table owner))
    (hgroup : ∀ w', w ≤ w' → ∀ relation accumulator,
      D.Closes w' (ctx.group owner relation accumulator query)) {e : Expr} :
    D.Closes w (ctx.exprKey owner query e) := by
  unfold Context.exprKey
  split
  next => exact pathKey h howner hgroup
  next =>
    refine D.bind (term h howner e) fun _ _ t ht => ?_
    split
    next => exact D.pure ht
    next => exact D.pure closed_param

/-- The keys of an order are closed, groups among them. -/
theorem sortKeys (h : ctx.Obeys D) (howner : D.Admits w (.table owner))
    (hgroup : ∀ w', w ≤ w' → ∀ relation accumulator,
      D.Closes w' (ctx.group owner relation accumulator query)) {sort : SortSpec} :
    D.Closes w (ctx.sortKeys owner query sort) := by
  have hlater : ∀ w', w ≤ w' → ∀ w'', w' ≤ w'' → ∀ relation accumulator,
      D.Closes w'' (ctx.group owner relation accumulator query) :=
    fun _ h₁ _ h₂ => hgroup _ (h₁.trans h₂)
  unfold Context.sortKeys
  split
  next keys =>
    refine D.closes_map (D.mapM (Q := fun w sql => Closed (D.sense w) sql)
      (fun _ _ _ => D.closed_mono) fun w' hw key _ => ?_) fun _ _ hkeys => closed_join.mpr hkeys
    exact D.closes_map (pathKey h (D.admits_mono hw howner) (hlater w' hw)) fun _ _ hsql => by
      simp [hsql]
  next keys =>
    refine D.closes_map (D.mapM (Q := fun w sql => Closed (D.sense w) sql)
      (fun _ _ _ => D.closed_mono) fun w' hw key _ => ?_) fun _ _ hkeys => closed_join.mpr hkeys
    exact D.closes_map (exprKey h (D.admits_mono hw howner) (hlater w' hw)) fun _ _ hsql => by
      simp [hsql]

end Orders

end Context.Obeys

end ObjectQuery
