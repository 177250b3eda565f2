import ObjectQuery.Proofs.Result
import ObjectQuery.Proofs.Statement.Reached
import ObjectQuery.Proofs.Statement.Runs
import ObjectQuery.Statement.Condition

/-!
# What computations are refused with

A computation that follows a path is refused with an error about the path and no other. Of a
compilation it is said at once what it gives and what it is refused with, whatever has been joined and
whichever aliases have been given out; there is one rule for each way in which compilations are
composed.
-/

namespace ObjectQuery

/-- An error about a path, a name or a reference. -/
def Error.OfPath (e : Error) : Prop := ∃ fault, e = .path fault

@[simp]
theorem Error.ofPath_path {fault : PathFault} : OfPath (.path fault) := ⟨fault, rfl⟩

/-- What a computation is refused with satisfies `E`. -/
def Result.Refuses (E : Error → Prop) (r : Result α) : Prop := ∀ e, r = .error e → E e

namespace Result.Refuses

variable {α β : Type} {E : Error → Prop} {r : Result α}

@[simp]
theorem ok {a : α} : Refuses E (.ok a : Result α) := nofun

@[simp]
theorem pure {a : α} : Refuses E (pure a : Result α) := nofun

@[simp]
theorem error {e : Error} : Refuses E (.error e : Result α) ↔ E e := by
  simp [Refuses]

/-- A refusal may be passed on as one of another computation. -/
theorem of_eq_error {e : Error} (h : r.Refuses E) (he : r = .error e) :
    Refuses E (.error e : Result β) :=
  error.mpr (h e he)

/-- What follows may rely on what came before. -/
theorem bind_given {f : α → Result β} (h : r.Refuses E) (hf : ∀ a, r = .ok a → (f a).Refuses E) :
    (r >>= f).Refuses E := by
  cases r with
  | ok a => exact hf a rfl
  | error e => exact h.of_eq_error rfl

/-- What is refused with some errors only goes on with what is refused with these only. -/
theorem bind {f : α → Result β} (h : r.Refuses E) (hf : ∀ a, (f a).Refuses E) :
    (r >>= f).Refuses E :=
  h.bind_given fun a _ => hf a

/-- A traversal is refused with the errors of its items. -/
theorem mapM {f : α → Result β} (hf : ∀ a, (f a).Refuses E) (xs : List α) :
    (xs.mapM f).Refuses E := by
  induction xs with
  | nil => exact pure
  | cons x rest ih =>
    rw [List.mapM_cons]
    exact (hf x).bind fun _ => ih.bind fun _ => pure

/-- A fold is refused with the errors of its steps, whatever has been gathered. -/
theorem foldlM {f : β → α → Result β} (hf : ∀ b a, (f b a).Refuses E) (xs : List α) (b : β) :
    (xs.foldlM f b).Refuses E := by
  induction xs generalizing b with
  | nil => exact pure
  | cons x rest ih =>
    rw [List.foldlM_cons]
    exact (hf b x).bind fun b => ih b

/-- What is done to a result does not change what it is refused with. -/
theorem map {f : α → β} (h : r.Refuses E) : Refuses E (Except.map f r) := by
  cases r with
  | ok a => exact ok
  | error e => exact h.of_eq_error rfl

/-- Errors may be said to be of a larger kind. -/
theorem mono {F : Error → Prop} (h : r.Refuses E) (hEF : ∀ e, E e → F e) : r.Refuses F :=
  fun e he => hEF e (h e he)

end Result.Refuses

/-! ## Paths -/

open Error (OfPath)

/-- A path that cannot be read is refused as a path. -/
theorem Path.parse_refuses {path : String} : (Path.parse path).Refuses OfPath := by
  unfold parse
  split <;> simp

namespace Schema

variable {s : Schema} {className path : String}

/-- A class that is not there is refused as part of a path. -/
theorem getClass_refuses : (s.getClass className).Refuses OfPath := by
  unfold getClass
  split <;> simp

/-- A path that starts with no field of the class is refused as a path. -/
theorem startField_refuses {all : List Segment} {first : Option Segment} :
    (s.startField className all first).Refuses OfPath := by
  unfold startField
  split
  next he => exact getClass_refuses.of_eq_error he
  next => split <;> simp [unresolved]
  next => simp [unresolved]

/-- A walk that leads nowhere is refused as a path, by the recursion of the walk. -/
theorem walk_refuses {all segments : List Segment} {ty : FieldType} :
    (s.walk className all ty segments).Refuses OfPath := by
  fun_induction walk s className all ty segments with
  | case1 | case3 | case4 | case5 => simp [unresolved]
  | case2 _ _ _ _ _ _ _ ih => exact ih
  | case6 _ _ _ _ _ _ _ _ _ _ ih => exact ih
  | case8 _ _ _ _ _ _ _ _ _ ih => exact ih
  | case7 | case9 => exact startField_refuses.of_eq_error ‹s.startField _ _ _ = _›

/-- A path without a type is refused as a path. -/
theorem typeOf_refuses {segments : List Segment} :
    (s.typeOf className segments).Refuses OfPath := by
  unfold typeOf
  split
  next => exact walk_refuses
  next he => exact startField_refuses.of_eq_error he

/-- Below a column whatever is not there is refused as a path, in the words of the one who asks. -/
theorem columnBelow_refuses {refuse : PathReason → Error} (hrefuse : ∀ reason, OfPath (refuse reason))
    {name : String} {ty : FieldType} {segments : List Segment} :
    (s.columnBelow refuse name ty segments).Refuses OfPath := by
  fun_induction columnBelow s refuse name ty segments with
  | case2 _ _ _ _ _ _ ih => exact ih
  | case8 | case9 => exact typeOf_refuses.map
  | case1 | case6 | case10 => exact .ok
  | case3 | case4 | case5 | case7 | case11 | case12 => exact Result.Refuses.error.mpr (hrefuse _)

/-- A path without a column is refused as a path. -/
theorem columnOf_refuses {segments : List Segment} :
    (s.columnOf className path segments).Refuses OfPath := by
  unfold columnOf
  split
  next he => exact getClass_refuses.of_eq_error he
  next =>
    split
    next => exact columnBelow_refuses fun reason => ⟨_, rfl⟩
    next => simp
  next => simp

/-- The column of a path as text is refused as a path, whether it cannot be read or is not there. -/
theorem column_refuses : (s.column className path).Refuses OfPath :=
  Path.parse_refuses.bind fun _ => columnOf_refuses

/--
A relation whose other side is not there is refused as a path, and so is one that comes back to itself.
-/
theorem holding_refuses {owner member : Target} {field : String} {seen : List (String × String)} :
    (s.holding owner field member seen).Refuses OfPath := by
  fun_induction holding s owner field member seen with
  | case1 | case9 | case10 => exact Result.Refuses.error.mpr ⟨_, rfl⟩
  | case2 | case5 => exact getClass_refuses.of_eq_error ‹s.getClass _ = .error _›
  | case3 | case4 | case6 | case7 => exact .ok
  | case8 _ _ _ _ _ _ _ _ _ _ _ _ _ _ _ _ ih => exact ih

/-- Membership is refused as the search for the field that holds it. -/
theorem contains_refuses {owner member : Target} {field : String} :
    (s.contains owner field member).Refuses OfPath :=
  holding_refuses.map

end Schema

/-- The refusals on the way satisfy `E`. -/
def Route.Refuses (E : Error → Prop) : Route → Prop
  | .refused e => E e
  | .hop _ _ next => next.Refuses E
  | .relationElement _ _ _ next => next.Refuses E
  | _ => True

namespace Schema

variable {s : Schema} {className path : String}

/-- A route is refused as the path is. -/
theorem routeOf_refuses {segments : List Segment} :
    (s.routeOf className path segments).Refuses OfPath := by
  fun_induction routeOf s className path segments with
  | case1 _ _ _ e he => exact columnOf_refuses e he
  | case2 _ _ _ _ _ _ _ ih => exact ih
  | case3 _ _ _ _ _ _ _ _ _ ih => exact ih
  | case4 | case5 | case6 => trivial
  | case7 => exact ⟨_, rfl⟩

/-- A route by a path as text is refused as a path. -/
theorem route_refuses : (s.route className path).Refuses OfPath := by
  unfold route
  split
  next => exact routeOf_refuses
  next e he => exact Path.parse_refuses e he

end Schema

/-- A column whose type has no operands is refused as a path. -/
theorem Operand.ofColumn_refuses {sql : Sql} {ty : FieldType} :
    (ofColumn sql ty).Refuses OfPath := by
  unfold ofColumn
  split <;> simp

/-- Inside an element only paths are refused. -/
theorem Context.elementOperand_refuses {element : Operand} {path : String} :
    (elementOperand element path).Refuses OfPath := by
  unfold elementOperand
  split
  next => exact .ok
  next =>
    split
    next => exact Path.parse_refuses.bind fun _ => .pure
    next => simp

/-! ## Compilations -/

/-- What a compilation gives satisfies `Q`, and what it is refused with `E`. -/
def Compile.Answers (E : Error → Prop) (Q : α → Prop) (x : Compile α) : Prop :=
  ∀ n, match (x.run.run n).1 with
    | .ok a => Q a
    | .error e => E e

/-- What a compilation inside a query gives satisfies `Q`, and what it is refused with `E`. -/
def InScope.Answers (E : Error → Prop) (Q : α → Prop) (x : InScope α) : Prop :=
  ∀ scope, Compile.Answers E (fun r => Q r.1) (x.run scope)

namespace Compile.Answers

variable {E : Error → Prop} {Q : α → Prop}

theorem pure {a : α} (h : Q a) : Answers E Q (pure a) := fun _ => h

theorem throw {e : Error} (h : E e) : Answers E Q (throw e) := fun _ => h

/-- What gives results of some kind goes on with what is said of such results. -/
theorem bind {x : Compile α} {f : α → Compile β} {R : β → Prop} (hx : Answers E Q x)
    (hf : ∀ a, Q a → Answers E R (f a)) : Answers E R (x >>= f) := by
  intro n
  have hx := hx n
  rw [run_bind]
  split at hx
  next a hrun =>
    rw [show x.run.run n = (.ok a, (x.run.run n).2) from Prod.ext hrun rfl]
    exact hf a hx _
  next e hrun =>
    rw [show x.run.run n = (.error e, (x.run.run n).2) from Prod.ext hrun rfl]
    exact hx

/-- A computation without aliases answers inside a compilation as it does alone. -/
theorem lift {r : Result α} (hr : r.Refuses E) (h : ∀ a, r = .ok a → Q a) :
    Answers E Q (liftM r) := by
  intro n
  cases r with
  | ok a => exact h a rfl
  | error e => exact hr e rfl

theorem freshAlias : Answers E (fun _ => True) freshAlias := fun _ => trivial

/-- A new target is of the class that it was asked for. -/
theorem freshTarget {className : String} :
    Answers E (fun t => t.className = className) (freshTarget className) := fun _ => rfl

/-- A scope of its own is entered without any joins. -/
theorem inNewScope {x : InScope α} (h : x.Answers E Q) :
    Answers E (fun r => Q r.1) (inNewScope x) := h []

/-- Of a loop nothing is said but what it is refused with. -/
theorem mapM {f : α → Compile β} {xs : List α} (hf : ∀ x ∈ xs, Answers E (fun _ => True) (f x)) :
    Answers E (fun _ => True) (xs.mapM f) := by
  induction xs with
  | nil => exact pure trivial
  | cons x rest ih =>
    obtain ⟨hx, hrest⟩ := List.forall_mem_cons.mp hf
    rw [List.mapM_cons]
    exact hx.bind fun _ _ => (ih hrest).bind fun _ _ => pure trivial

end Compile.Answers

namespace InScope.Answers

variable {E : Error → Prop} {Q : α → Prop}

theorem pure {a : α} (h : Q a) : Answers E Q (pure a) := fun _ => Compile.Answers.pure h

theorem throw {e : Error} (h : E e) : Answers E Q (throw e) := fun _ => Compile.Answers.throw h

/-- What is said behind every scope is said of what goes on with it, behind the joins it has added. -/
theorem bind {x : InScope α} {f : α → InScope β} {R : β → Prop} (hx : Answers E Q x)
    (hf : ∀ a, Q a → Answers E R (f a)) : Answers E R (x >>= f) :=
  fun scope => (hx scope).bind fun r hr => hf r.1 hr r.2

/-- What does not look at the scope answers in every scope as it does without. -/
theorem liftCompile {x : Compile α} (h : x.Answers E Q) : Answers E Q (liftM x) :=
  fun _ => h.bind fun _ ha => Compile.Answers.pure ha

/-- A computation without aliases and joins answers in every scope as it does alone. -/
theorem lift {r : Result α} (hr : r.Refuses E) (h : ∀ a, r = .ok a → Q a) :
    Answers E Q (liftM r) :=
  liftCompile (.lift hr h)

theorem get : Answers E (fun _ => True) get := fun _ _ => trivial

theorem modify {f : Scope → Scope} : Answers E (fun _ => True) (modify f) := fun _ _ => trivial

/-- Less may be asked of what is given. -/
theorem any {x : InScope α} (h : Answers E Q x) : Answers E (fun _ => True) x := by
  intro scope n
  have h := h scope n
  revert h
  cases ((x.run scope).run.run n).1 with
  | ok r => exact fun _ => trivial
  | error e => exact id

end InScope.Answers

end ObjectQuery
