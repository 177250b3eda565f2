import ObjectQuery.Proofs.Result
import ObjectQuery.Proofs.Statement.Refusals
import ObjectQuery.Proofs.Statement.Runs
import ObjectQuery.Statement.Tables

/-!
# Compilations that end

The guard of a class may ask for further guards, and a compilation that would go on with that forever
is cut off with an error of its own, `endlessConditions`. Nothing takes that error back. So a
compilation ends by itself exactly if it is not refused with that error. There is one rule for each
way in which compilations are composed. Paths, values and updates are looked at without any guard, so
whatever is wrong with them, they are not refused as conditions without end.
-/

namespace ObjectQuery

/-- A result is none of a computation that was cut off. -/
def Result.Ends (r : Result α) : Prop := r ≠ .error .endlessConditions

/-- A compilation is not cut off, whichever aliases have been given out. -/
def Compile.Ends (x : Compile α) : Prop := ∀ n, Result.Ends (x.run.run n).1

/-- A compilation inside a query is not cut off, whatever has been joined. -/
def InScope.Ends (x : InScope α) : Prop := ∀ scope, Compile.Ends (x.run scope)

/-! ## Rules -/

namespace Result.Ends

variable {α β : Type} {r : Result α}

@[simp] theorem ok {a : α} : Ends (.ok a : Result α) := nofun

@[simp] theorem pure {a : α} : Ends (pure a : Result α) := nofun

@[simp] theorem error {e : Error} : Ends (.error e : Result α) ↔ e ≠ .endlessConditions := by
  simp [Ends]

@[simp] theorem throw {e : Error} : Ends (throw e : Result α) ↔ e ≠ .endlessConditions := error

/-- The error that an ending computation was refused with may be passed on. -/
theorem of_eq_error {e : Error} (h : r.Ends) (he : r = .error e) : Ends (.error e : Result β) := by
  rw [he] at h
  exact error.mpr (error.mp h)

/-- What ends goes on only with what it returns. -/
theorem bind {f : α → Result β} (h : r.Ends) (hf : ∀ a, r = .ok a → (f a).Ends) :
    (r >>= f).Ends := by
  cases r with
  | ok a => exact hf a rfl
  | error e => exact error.mpr (error.mp h)

/-- What is behind a refusal ends, if the refusal does. -/
theorem refuse {p : Prop} [Decidable p] {e : Error} {f : α → Result β} {x : Result β}
    (he : e ≠ .endlessConditions) (hx : x.Ends) :
    Ends (if p then (MonadExcept.throw e : Result α) >>= f else x) := by
  split
  · exact bind (throw.mpr he) fun _ h => (throw_eq_ok.mp h).elim
  · exact hx

/-- What is done to a result does not keep it from ending. -/
theorem map {f : α → β} (h : r.Ends) : Ends (Except.map f r) := by
  cases r with
  | ok a => exact ok
  | error e => exact error.mpr (error.mp h)

/-- A check of each of some items ends if each single one does. -/
theorem forM {f : α → Result Unit} (hf : ∀ a, (f a).Ends) (xs : List α) : (xs.forM f).Ends := by
  induction xs with
  | nil => exact pure
  | cons x rest ih => exact (hf x).bind fun _ _ => ih

/-- A traversal ends if it does at each item. -/
theorem mapM {f : α → Result β} (hf : ∀ a, (f a).Ends) (xs : List α) : (xs.mapM f).Ends := by
  induction xs with
  | nil => exact pure
  | cons x rest ih =>
    rw [List.mapM_cons]
    exact (hf x).bind fun _ _ => ih.bind fun _ _ => pure

/-- A fold ends if each of its steps does, whatever has been gathered. -/
theorem foldlM {f : β → α → Result β} (hf : ∀ b a, (f b a).Ends) (xs : List α) (b : β) :
    (xs.foldlM f b).Ends := by
  induction xs generalizing b with
  | nil => exact pure
  | cons x rest ih =>
    rw [List.foldlM_cons]
    exact (hf b x).bind fun _ _ => ih _

end Result.Ends

namespace Compile.Ends

variable {x : Compile α}

theorem pure {a : α} : Ends (pure a : Compile α) := fun _ => nofun

theorem throw {e : Error} (h : e ≠ .endlessConditions) : Ends (throw e : Compile α) :=
  fun _ => Result.Ends.error.mpr h

/-- What ends goes on only with what some run of it gives. -/
theorem bind_given {f : α → Compile β} (h : x.Ends)
    (hf : ∀ a, (∃ n n', Runs x n a n') → (f a).Ends) : (x >>= f).Ends := by
  intro n
  rw [run_bind]
  have hx := h n
  split
  next a m hrun => exact hf a ⟨n, m, hrun⟩ m
  next e m hrun =>
    rw [hrun] at hx
    exact Result.Ends.error.mpr (Result.Ends.error.mp hx)

/-- What ends may go on with whatever it returns, if that ends. -/
theorem bind {f : α → Compile β} (h : x.Ends) (hf : ∀ a, (f a).Ends) : (x >>= f).Ends :=
  h.bind_given fun a _ => hf a

/-- A computation without aliases ends inside a compilation as it does alone. -/
theorem lift {r : Result α} (h : r.Ends) : Ends (liftM r : Compile α) := by
  intro n
  cases r with
  | ok a => exact Result.Ends.ok
  | error e => exact h

theorem freshAlias : Ends freshAlias := fun _ => nofun

/-- A class under an alias, whichever it is. -/
theorem freshTarget {className : String} {f : Target → Compile α}
    (h : ∀ label, (f ⟨className, label⟩).Ends) : (ObjectQuery.freshTarget className >>= f).Ends := by
  have hfresh : Ends (ObjectQuery.freshTarget className) := fun _ => nofun
  refine hfresh.bind_given fun target hgiven => ?_
  obtain ⟨n, n', hrun⟩ := hgiven
  cases hrun
  exact h _

/-- A scope of its own is entered without any joins, and left with what was compiled. -/
theorem inNewScope {x : InScope α} (h : x.Ends) : Ends (ObjectQuery.inNewScope x) := h []

/-- A compilation of each of some items ends if each single one does. -/
theorem mapM {f : α → Compile β} (hf : ∀ a, (f a).Ends) (xs : List α) : (xs.mapM f).Ends := by
  induction xs with
  | nil => exact pure
  | cons x rest ih =>
    rw [List.mapM_cons]
    exact (hf x).bind fun _ => ih.bind fun _ => pure

end Compile.Ends

namespace InScope.Ends

variable {x : InScope α}

theorem pure {a : α} : Ends (pure a : InScope α) := fun _ => Compile.Ends.pure

theorem throw {e : Error} (h : e ≠ .endlessConditions) : Ends (throw e : InScope α) :=
  fun _ => Compile.Ends.throw h

/-- What ends goes on only with what some run of it gives. -/
theorem bind_given {f : α → InScope β} (h : x.Ends) (hf : ∀ a, Gives x a → (f a).Ends) :
    (x >>= f).Ends := by
  intro scope n
  rw [StateT.run_bind, Compile.run_bind]
  have hx := h scope n
  split
  next a m hrun => exact hf a.1 ⟨scope, n, a.2, m, hrun⟩ a.2 m
  next e m hrun =>
    rw [hrun] at hx
    exact Result.Ends.error.mpr (Result.Ends.error.mp hx)

/-- What ends in every scope may go on with whatever it returns, if that ends in every scope. -/
theorem bind {f : α → InScope β} (h : x.Ends) (hf : ∀ a, (f a).Ends) : (x >>= f).Ends :=
  h.bind_given fun a _ => hf a

/-- What does not look at the scope ends in every scope. -/
theorem liftCompile {x : Compile α} (h : x.Ends) : Ends (liftM x : InScope α) :=
  fun _ => h.bind fun _ => Compile.Ends.pure

/-- A computation without aliases and joins ends in every scope. -/
theorem lift {r : Result α} (h : r.Ends) : Ends (liftM r : InScope α) :=
  liftCompile (Compile.Ends.lift h)

/-- Giving out an alias ends. -/
theorem freshAlias : Ends (liftM ObjectQuery.freshAlias : InScope String) :=
  liftCompile Compile.Ends.freshAlias

/-- A scope that is entered inside another ends if it does by itself. -/
theorem inNewScope (h : x.Ends) :
    Ends (liftM (ObjectQuery.inNewScope x) : InScope (α × Scope)) :=
  liftCompile (Compile.Ends.inNewScope h)

/-- A class under an alias, whichever it is. -/
theorem freshTarget {className : String} {f : Target → InScope α}
    (h : ∀ label, (f ⟨className, label⟩).Ends) :
    Ends (liftM (ObjectQuery.freshTarget className) >>= f) := by
  have hfresh : Ends (liftM (ObjectQuery.freshTarget className) : InScope Target) :=
    liftCompile fun _ => nofun
  refine hfresh.bind_given fun target hgiven => ?_
  obtain ⟨scope, n, scope', n', hrun⟩ := hgiven
  cases hrun
  exact h _

theorem get : Ends (get : InScope Scope) := fun _ _ => nofun

theorem modify {f : Scope → Scope} : Ends (modify f : InScope Unit) := fun _ _ => nofun

/-- Each of some items is compiled behind the joins of those before it, and each of these ends. -/
theorem mapM {f : α → InScope β} (hf : ∀ a, (f a).Ends) (xs : List α) : (xs.mapM f).Ends := by
  induction xs with
  | nil => exact pure
  | cons x rest ih =>
    rw [List.mapM_cons]
    exact (hf x).bind fun _ => ih.bind fun _ => pure

/-- What may be missing ends if it does where it is there. -/
theorem optionMapM {f : α → InScope β} (hf : ∀ a, (f a).Ends) (o : Option α) :
    (o.mapM f).Ends := by
  cases o with
  | none => exact pure
  | some a => exact (hf a).bind fun _ => pure

end InScope.Ends

/-! ## Paths -/

/-- What is refused about a path ends. -/
theorem Result.Refuses.ends {r : Result α} (h : r.Refuses Error.OfPath) : r.Ends := by
  intro he
  obtain ⟨_, hpath⟩ := h _ he
  cases hpath

namespace Schema

variable {s : Schema} {className path : String}

/-- Looking for a class ends. -/
theorem getClass_ends : (s.getClass className).Ends := getClass_refuses.ends

/-- Looking for the column of a path ends. -/
theorem column_ends : (s.column className path).Ends := column_refuses.ends

/--
What decides whether an object is a member of another ends, for the search remembers where it was.
-/
theorem contains_ends {owner member : Target} {field : String} :
    (s.contains owner field member).Ends :=
  contains_refuses.ends

end Schema

/-! ## Values -/

namespace Operand

/-- Making an operand of a column ends. -/
theorem ofColumn_ends {sql : Sql} {ty : FieldType} : (ofColumn sql ty).Ends :=
  ofColumn_refuses.ends

/-- A test of an operand is refused for the operand's type or for its constant, never without end. -/
theorem test_ends (o : Operand) (t : FieldTest) : (o.test t).Ends := by
  cases t with
  | not t =>
    unfold test
    split
    next => exact .ok
    next he => exact (test_ends o t).of_eq_error he
  | every _ | any _ =>
    unfold test
    simp
  | compare | oneOf | noneOf | subset | superset | intersect | pattern | startsWith | endsWith
  | size | empty => exact .ok

end Operand

/-- Making a vector of a term ends. -/
theorem Vector.ofTerm_ends {dimension : Option Nat} {t : Term} : (ofTerm dimension t).Ends := by
  unfold ofTerm
  split
  case h_3 => split <;> simp [unfit]
  all_goals simp [unfit]

/-- Making an element of a vector of a term ends. -/
theorem Vector.elementOfTerm_ends {t : Term} : (elementOfTerm t).Ends := by
  unfold elementOfTerm
  split
  case h_2 => split <;> simp [unfit]
  all_goals simp [unfit]

/-- Looking inside an element ends. -/
theorem Context.elementOperand_ends {element : Operand} {path : String} :
    (elementOperand element path).Ends :=
  elementOperand_refuses.ends

/-- Making the input of an aggregate ends. -/
theorem Context.aggregateInput_ends {numeric : Bool} {t : Term} :
    (aggregateInput numeric t).Ends := by
  unfold aggregateInput
  split
  next =>
    split
    next => split <;> simp [notNumeric]
    next => exact .ok
  next =>
    split
    next => exact .ok
    next => split <;> simp [notNumeric]
    next => split <;> simp [notNumeric]

/-- Binding a value to a type ends. -/
theorem FieldType.bind_ends {ty : FieldType} {v : Json} : (ty.bind v).Ends := by
  unfold FieldType.bind
  split
  next => exact .ok
  next =>
    split
    next => simp
    next => split <;> simp

/-! ## Updates -/

namespace Update

variable {current : Sql} {ty : FieldType} {u : Update}

/-- Reading an update ends. -/
theorem decode_ends {raw : Json} : (decode raw).Ends := by
  unfold decode
  split
  next =>
    split
    next => split <;> simp
    next => exact .ok
  next => exact .ok

/-- Reading the operand of a computation ends. -/
theorem numericOperand_ends {v : Json} : (numericOperand v).Ends := by
  unfold numericOperand
  split <;> simp

/-- An update of a document ends. -/
theorem document_ends : (document current u).Ends := by
  have harithmetic {operator : String} {v : Json} :
      (documentArithmetic current operator v).Ends := numericOperand_ends.bind fun _ _ => .pure
  have hextreme {function : String} {v : Json} :
      (documentExtreme current function v).Ends := numericOperand_ends.bind fun _ _ => .pure
  unfold document
  split
  case h_5 =>
    split
    next => simp
    next => exact harithmetic
  all_goals first | exact harithmetic | exact hextreme | exact .ok

/-- A computation on a number column ends. -/
theorem nativeArithmetic_ends {operator : String} :
    (nativeArithmetic current ty u operator).Ends := by
  unfold nativeArithmetic
  split
  next =>
    split
    next => split <;> simp
    next => simp [mismatch]
  next => simp [mismatch]

/-- A shift of a date column ends. -/
theorem nativeShift_ends {operator : String} : (nativeShift current ty u operator).Ends := by
  unfold nativeShift
  split
  next =>
    unfold dateArithmetic
    split <;> simp
  next => exact nativeArithmetic_ends

/-- The greater or lesser of a column and a constant ends. -/
theorem nativeExtreme_ends {function : String} : (nativeExtreme current ty u function).Ends := by
  unfold nativeExtreme
  split
  next => exact FieldType.bind_ends.map
  next => simp [mismatch]

/-- An update of an array column ends. -/
theorem nativeArray_ends {op : UpdateOperator} : (nativeArray current ty op).Ends := by
  unfold nativeArray
  split <;> simp [mismatch]

/-- Reading the items for an array column ends. -/
theorem arrayItems_ends {operand : Json} {items : List Json} :
    (arrayItems ty operand items).Ends := by
  unfold arrayItems
  split <;> simp

/-- An update of a column of a type of its own ends. -/
theorem native_ends : (native current ty u).Ends := by
  unfold native
  split
  case h_1 => exact FieldType.bind_ends.map
  case h_5 =>
    split
    next => simp
    next => exact nativeArithmetic_ends
  case h_2 | h_3 => exact nativeShift_ends
  case h_4 => exact nativeArithmetic_ends
  case h_6 | h_7 => exact nativeExtreme_ends
  case h_8 | h_9 | h_10 =>
    exact nativeArray_ends.bind fun _ _ => arrayItems_ends.bind fun _ _ => .pure
  case h_11 | h_12 => exact nativeArray_ends.bind fun _ _ => .pure

/-- Every update ends. -/
theorem apply_ends {path : List String} : (u.apply current ty path).Ends := by
  unfold apply
  split
  next =>
    split
    next => exact document_ends
    next => exact native_ends
  next =>
    split
    next => exact document_ends.bind fun _ _ => .pure
    next => simp

end Update

end ObjectQuery
