import ObjectQuery.Expr

/-!
# Simplified expressions mean the same

An expression is read in one of two ways: for its value, as the operand of a comparison, an array or
a measure, or only for its truth, as the item of a connective or below a negation. Simplification
keeps the truth of an expression whose operands keep their values. It need not keep the value: of a
double negation and of a connective with one item only the inner expression is left, which no longer
turns its value into a truth value. What is proved here is where exactly that matters.
-/

namespace ObjectQuery

/-! ## Connectives -/

namespace Connective

/-- The connective that a connective absorbs. -/
def inner : Connective → Connective
  | and => and
  | or => or
  | nor => or

/-- A connective absorbs its own inner one, and no other. -/
theorem absorbs_iff {op child : Connective} : op.absorbs child = true ↔ child = op.inner := by
  cases op <;> cases child <;> simp [absorbs, inner]

@[simp] theorem join_inner_singleton (op : Connective) (b : Bool) : op.inner.join [b] = b := by
  cases op <;> simp [inner, join]

/-- Items may be replaced by lists that the absorbed connective joins to the same truth value. -/
theorem join_flatMap {α β : Type} (op : Connective) (items : List α) (expand : α → List β)
    (truthOf : β → Bool) (whole : α → Bool)
    (h : ∀ x ∈ items, op.inner.join ((expand x).map truthOf) = whole x) :
    op.join ((items.flatMap expand).map truthOf) = op.join (items.map whole) := by
  induction items with
  | nil => rfl
  | cons x rest ih =>
    have hx := h x List.mem_cons_self
    have hrest := ih fun y hy => h y (List.mem_cons_of_mem x hy)
    cases op <;>
      simp_all [inner, join, List.flatMap_cons, List.all_append, List.any_append]

end Connective

namespace Expr

/-! ## The nested syntax -/

@[simp] theorem simplifyItems_eq_map (items : List Expr) :
    simplifyItems items = items.map simplify := by
  induction items with
  | nil => rfl
  | cons e rest ih => simp [simplifyItems, ih]

@[simp] theorem evalItems_eq_map (object : Json) (items : List Expr) :
    evalItems object items = items.map (eval object) := by
  induction items with
  | nil => rfl
  | cons e rest ih => simp [evalItems, ih]

/-- Induction over expressions with the hypothesis for every item of a list. -/
@[elab_as_elim]
theorem nested_induction {motive : Expr → Prop}
    (key : ∀ path, motive (key path))
    (value : ∀ v, motive (value v))
    (array : ∀ items, (∀ x ∈ items, motive x) → motive (array items))
    (not : ∀ e, motive e → motive (not e))
    (connective : ∀ op items, (∀ x ∈ items, motive x) → motive (connective op items))
    (comparison : ∀ op l r, motive l → motive r → motive (comparison op l r))
    (measure : ∀ kind l r, (∀ x ∈ l, motive x) → (∀ x ∈ r, motive x) → motive (measure kind l r))
    (e : Expr) : motive e :=
  @Expr.rec motive (fun items => ∀ x ∈ items, motive x)
    key value array not connective comparison measure
    (fun _ hx => absurd hx List.not_mem_nil)
    (fun _ _ head tail => List.forall_mem_cons.mpr ⟨head, tail⟩) e

/-! ## Truth values -/

/-- The truth of an expression on an object. -/
def holdsOn (object : Json) (e : Expr) : Bool := Value.truthy (e.eval object)

@[simp] theorem holdsOn_not (object : Json) (e : Expr) :
    (not e).holdsOn object = !e.holdsOn object := rfl

@[simp] theorem holdsOn_connective (object : Json) (op : Connective) (items : List Expr) :
    (connective op items).holdsOn object = op.join (items.map (holdsOn object)) := by
  simp only [holdsOn, eval, evalItems_eq_map, List.map_map]
  rfl

/-- An expression that yields a truth value evaluates to whether it holds. -/
theorem eval_of_isBoolean {e : Expr} (h : e.isBoolean = true) (object : Json) :
    e.eval object = .bool (e.holdsOn object) := by
  cases e with
  | value v => cases v <;> simp_all [isBoolean, eval, holdsOn, Value.truthy]
  | not _ | connective _ _ | comparison _ _ _ => rfl
  | key _ | array _ | measure _ _ _ => simp [isBoolean] at h

private theorem getPath_empty (path : String) : Value.getPath (.obj []) path = .null := by
  have nothing : ∀ segments : List String, segments.foldl Value.step .null = Json.null := by
    intro segments
    induction segments with
    | nil => rfl
    | cons s rest ih => exact ih
  have hne : ∀ cs, Text.splitChars '.' cs ≠ [] := by
    intro cs
    fun_cases Text.splitChars '.' cs <;> simp
  unfold Value.getPath Text.split
  cases h : Text.splitChars '.' path.toList with
  | nil => exact absurd h (hne _)
  | cons first rest => exact nothing _

/-- The empty object tells an expression that yields truth values from any other. -/
theorem isBoolean_of_eval {e : Expr} {b : Bool} (h : e.eval (.obj []) = .bool b) :
    e.isBoolean = true := by
  cases e with
  | value v => simp only [eval] at h; subst h; rfl
  | not _ | connective _ _ | comparison _ _ _ => rfl
  | key path => simp [eval, getPath_empty] at h
  | array items => simp [eval] at h
  | measure kind l r =>
    simp only [eval] at h
    split at h
    · rename_i a b _ _
      cases hm : measureOf kind a b with
      | none => simp [hm] at h
      | some x =>
        simp only [hm, Option.map_some, Option.getD_some, Json.ofFloat] at h
        split at h <;> simp at h
    · simp at h

/-- An expression is boolean exactly when its value is a truth value whatever the object. -/
theorem isBoolean_iff {e : Expr} :
    e.isBoolean = true ↔ ∀ object, ∃ b, e.eval object = .bool b :=
  ⟨fun h object => ⟨_, eval_of_isBoolean h object⟩, fun h => isBoolean_of_eval (h _).choose_spec⟩

/-! ## Operands -/

mutual

/-- The expressions that are read for their values, at every depth. -/
def operands : Expr → List Expr
  | key _ | value _ => []
  | array items => items ++ itemOperands items
  | not e => operands e
  | connective _ items => itemOperands items
  | comparison _ l r => l :: r :: (operands l ++ operands r)
  | measure _ l r => l ++ r ++ (itemOperands l ++ itemOperands r)

def itemOperands : List Expr → List Expr
  | [] => []
  | e :: es => operands e ++ itemOperands es

end

@[simp] theorem itemOperands_eq_flatMap (items : List Expr) :
    itemOperands items = items.flatMap operands := by
  induction items with
  | nil => rfl
  | cons e rest ih => simp [itemOperands, ih]

/-- Simplified, a boolean expression is still boolean. -/
def KeepsKind (e : Expr) : Prop := e.isBoolean = true → e.simplify.isBoolean = true

instance (e : Expr) : Decidable e.KeepsKind := inferInstanceAs (Decidable (_ → _))

/-! ## Simplification -/

@[simp] theorem holdsOn_negate (object : Json) (e : Expr) :
    (negate e).holdsOn object = !e.holdsOn object := by
  cases e <;> simp [negate]

@[simp] theorem holdsOn_connect (object : Json) (op : Connective) (items : List Expr) :
    (connect op items).holdsOn object = op.join (items.map (holdsOn object)) := by
  fun_cases connect op items <;> simp [Connective.join]

/-- Splicing nested items in leaves what the connective joins. -/
theorem join_splice (object : Json) (op : Connective) (items : List Expr) :
    op.join ((splice op items).map (holdsOn object)) = op.join (items.map (holdsOn object)) := by
  refine Connective.join_flatMap op items _ _ _ fun x _ => ?_
  cases x with
  | connective child nested =>
    by_cases h : op.absorbs child = true
    · obtain rfl := Connective.absorbs_iff.mp h
      simp [h]
    · simp [h]
  | _ => simp

private theorem map_simplify_congr {β : Type} {f : Expr → β} {items : List Expr}
    (h : ∀ x ∈ items, f x.simplify = f x) : (items.map simplify).map f = items.map f := by
  rw [List.map_map]
  exact List.map_congr_left h

/-- Simplification keeps the value of an expression if it keeps its kind and its truth. -/
private theorem eval_simplify_of_truth {e : Expr} (hb : e.isBoolean = true) (hk : e.KeepsKind)
    {object : Json} (ht : e.simplify.holdsOn object = e.holdsOn object) :
    e.simplify.eval object = e.eval object := by
  rw [eval_of_isBoolean hb, eval_of_isBoolean (hk hb), ht]

/--
If every operand keeps its kind, then the truth of an expression is kept, and so is its value when
it keeps its own kind. Both are proved at once: the truth of a comparison rests on the values of its
sides, the value of a boolean expression on its truth.
-/
theorem simplify_sound (e : Expr) (h : ∀ x ∈ e.operands, x.KeepsKind) (object : Json) :
    e.simplify.holdsOn object = e.holdsOn object ∧
      (e.KeepsKind → e.simplify.eval object = e.eval object) := by
  induction e using nested_induction with
  | key path => exact ⟨rfl, fun _ => rfl⟩
  | value v => exact ⟨rfl, fun _ => rfl⟩
  | array items ih =>
    simp only [operands, itemOperands_eq_flatMap, List.mem_append, List.mem_flatMap] at h
    have hitems : ∀ x ∈ items, x.simplify.eval object = x.eval object := fun x hx =>
      (ih x hx fun y hy => h y (.inr ⟨x, hx, hy⟩)).2 (h x (.inl hx))
    have heval : (array items).simplify.eval object = (array items).eval object := by
      simp only [simplify, eval, simplifyItems_eq_map, evalItems_eq_map,
        map_simplify_congr hitems]
    exact ⟨congrArg Value.truthy heval, fun _ => heval⟩
  | not e ih =>
    have htruth : (not e).simplify.holdsOn object = (not e).holdsOn object := by
      simp [simplify, (ih h).1]
    exact ⟨htruth, fun hk => eval_simplify_of_truth rfl hk htruth⟩
  | connective op items ih =>
    simp only [operands, itemOperands_eq_flatMap, List.mem_flatMap] at h
    have hitems : ∀ x ∈ items, x.simplify.holdsOn object = x.holdsOn object := fun x hx =>
      (ih x hx fun y hy => h y ⟨x, hx, hy⟩).1
    have htruth : (connective op items).simplify.holdsOn object =
        (connective op items).holdsOn object := by
      rw [simplify, holdsOn_connect, join_splice, simplifyItems_eq_map,
        map_simplify_congr hitems, holdsOn_connective]
    exact ⟨htruth, fun hk => eval_simplify_of_truth rfl hk htruth⟩
  | comparison op l r ihl ihr =>
    simp only [operands, List.mem_cons, List.mem_append] at h
    have hl := (ihl fun y hy => h y (.inr (.inr (.inl hy)))).2 (h l (.inl rfl))
    have hr := (ihr fun y hy => h y (.inr (.inr (.inr hy)))).2 (h r (.inr (.inl rfl)))
    have heval : (comparison op l r).simplify.eval object = (comparison op l r).eval object := by
      simp only [simplify, eval, hl, hr]
    exact ⟨congrArg Value.truthy heval, fun _ => heval⟩
  | measure kind l r ihl ihr =>
    simp only [operands, itemOperands_eq_flatMap, List.mem_append, List.mem_flatMap] at h
    have hl : ∀ x ∈ l, x.simplify.eval object = x.eval object := fun x hx =>
      (ihl x hx fun y hy => h y (.inr (.inl ⟨x, hx, hy⟩))).2 (h x (.inl (.inl hx)))
    have hr : ∀ x ∈ r, x.simplify.eval object = x.eval object := fun x hx =>
      (ihr x hx fun y hy => h y (.inr (.inr ⟨x, hx, hy⟩))).2 (h x (.inl (.inr hx)))
    have heval : (measure kind l r).simplify.eval object = (measure kind l r).eval object := by
      simp only [simplify, eval, simplifyItems_eq_map, evalItems_eq_map, map_simplify_congr hl,
        map_simplify_congr hr]
    exact ⟨congrArg Value.truthy heval, fun _ => heval⟩

/-- The operands of an operand are operands. -/
theorem operands_trans (e : Expr) : ∀ x ∈ e.operands, ∀ y ∈ x.operands, y ∈ e.operands := by
  induction e using nested_induction with
  | key _ | value _ => simp [operands]
  | array items ih =>
    intro x hx y hy
    simp only [operands, itemOperands_eq_flatMap, List.mem_append, List.mem_flatMap] at hx ⊢
    rcases hx with hx | ⟨z, hz, hx⟩
    · exact .inr ⟨x, hx, hy⟩
    · exact .inr ⟨z, hz, ih z hz x hx y hy⟩
  | not e ih => exact ih
  | connective op items ih =>
    intro x hx y hy
    simp only [operands, itemOperands_eq_flatMap, List.mem_flatMap] at hx ⊢
    obtain ⟨z, hz, hx⟩ := hx
    exact ⟨z, hz, ih z hz x hx y hy⟩
  | comparison op l r ihl ihr =>
    intro x hx y hy
    simp only [operands, List.mem_cons, List.mem_append] at hx ⊢
    rcases hx with rfl | rfl | hx | hx
    · exact .inr (.inr (.inl hy))
    · exact .inr (.inr (.inr hy))
    · exact .inr (.inr (.inl (ihl x hx y hy)))
    · exact .inr (.inr (.inr (ihr x hx y hy)))
  | measure kind l r ihl ihr =>
    intro x hx y hy
    simp only [operands, itemOperands_eq_flatMap, List.mem_append, List.mem_flatMap] at hx ⊢
    rcases hx with (hx | hx) | ⟨z, hz, hx⟩ | ⟨z, hz, hx⟩
    · exact .inr (.inl ⟨x, hx, hy⟩)
    · exact .inr (.inr ⟨x, hx, hy⟩)
    · exact .inr (.inl ⟨z, hz, ihl z hz x hx y hy⟩)
    · exact .inr (.inr ⟨z, hz, ihr z hz x hx y hy⟩)

end Expr

end ObjectQuery
