import Mathlib.Data.List.Forall2
import ObjectQuery.Error

/-!
# Results that are not errors

What a computation that may fail did, read off from the fact that it did not.
-/

namespace ObjectQuery.Result

variable {α β : Type}

/-- A mapped result is there when the result it maps is. -/
theorem map_eq_ok {f : α → β} {x : Result α} {b : β} :
    Except.map f x = .ok b ↔ ∃ a, x = .ok a ∧ f a = b := by
  cases x <;> simp [Except.map]

/-- Two steps succeed when the first does and the second does with what the first gave. -/
theorem bind_eq_ok {x : Result α} {f : α → Result β} {b : β} :
    (x >>= f) = .ok b ↔ ∃ a, x = .ok a ∧ f a = .ok b := by
  cases x <;> simp [bind, Except.bind]

/-- What is returned is the result, and nothing else is. -/
theorem pure_eq_ok {a b : α} : (pure a : Result α) = .ok b ↔ a = b := by
  simp [pure, Except.pure]

theorem throw_eq_ok {e : Error} {b : α} : (throw e : Result α) = .ok b ↔ False := by
  simp [throw, throwThe, MonadExceptOf.throw]

/-- A result that is known to be there has a value. -/
theorem exists_of_toBool {x : Result α} (h : x.toBool = true) : ∃ a, x = .ok a := by
  cases x with
  | ok a => exact ⟨a, rfl⟩
  | error _ => cases h

/-- A computation that passes a test returns. -/
theorem exists_of_any {x : Result α} {p : α → Bool} (h : x.toOption.any p = true) :
    ∃ a, x = .ok a ∧ p a = true := by
  cases x with
  | ok a => exact ⟨a, rfl, h⟩
  | error _ => cases h

/-- What comes out of a choice comes out of one of its branches. -/
theorem of_ite_eq_ok {p : Prop} [Decidable p] {x y : Result α} {a : α}
    (h : (if p then x else y) = .ok a) : x = .ok a ∨ y = .ok a := by
  split at h
  · exact .inl h
  · exact .inr h

/-- A choice that returns is that of one side. -/
theorem exists_of_ite {p : Prop} [Decidable p] {x y : Result α}
    (h : ∃ a, (if p then x else y) = .ok a) : (p ∧ ∃ a, x = .ok a) ∨ (¬p ∧ ∃ a, y = .ok a) := by
  split at h
  next hp => exact .inl ⟨hp, h⟩
  next hp => exact .inr ⟨hp, h⟩

/-- A computation goes on behind a refusal exactly if there was none. -/
theorem refuse_eq_ok {p : Prop} [Decidable p] {e : Error} {f : α → Result β} {x : Result β} {b : β} :
    (if p then (throw e : Result α) >>= f else x) = .ok b ↔ ¬p ∧ x = .ok b := by
  by_cases h : p
  · simp [h, bind_eq_ok, throw_eq_ok]
  · simp [h]

/-! ## Loops -/

/-- Checking all items succeeds when the check of each does. -/
theorem forM_eq_ok {f : α → Result Unit} {xs : List α} :
    xs.forM f = .ok () ↔ ∀ x ∈ xs, f x = .ok () := by
  induction xs with
  | nil => simp [pure_eq_ok]
  | cons x rest ih =>
    have hstep : (x :: rest).forM f = (f x >>= fun _ => rest.forM f) := rfl
    rw [hstep, bind_eq_ok, List.forall_mem_cons, ih]
    exact ⟨fun ⟨_, hx, hrest⟩ => ⟨hx, hrest⟩, fun ⟨hx, hrest⟩ => ⟨(), hx, hrest⟩⟩

/-- Mapping over a list gives the results item by item. -/
theorem mapM_eq_ok {f : α → Result β} {xs : List α} {ys : List β} :
    xs.mapM f = .ok ys ↔ List.Forall₂ (fun x y => f x = .ok y) xs ys := by
  induction xs generalizing ys with
  | nil => rw [List.mapM_nil, pure_eq_ok, List.forall₂_nil_left_iff, eq_comm]
  | cons x rest ih =>
    simp only [List.mapM_cons, bind_eq_ok, pure_eq_ok, ih, List.forall₂_cons_left_iff]
    grind

/-- A loop of look-ups finds something for every item. -/
theorem optionMapM_eq_some {f : α → Option β} {xs : List α} {ys : List β} :
    xs.mapM f = some ys ↔ List.Forall₂ (fun x y => f x = some y) xs ys := by
  induction xs generalizing ys with
  | nil => simp [eq_comm]
  | cons x rest ih =>
    simp only [List.mapM_cons, Option.bind_eq_bind, Option.bind_eq_some_iff, Option.pure_def,
      Option.some.injEq, ih, List.forall₂_cons_left_iff]
    grind

/-- What stands in the second of two paired lists has its partner in the first. -/
theorem exists_left_of_forall₂ {R : α → β → Prop} {xs : List α} {ys : List β}
    (h : List.Forall₂ R xs ys) : ∀ y ∈ ys, ∃ x ∈ xs, R x y := by
  induction h with
  | nil => simp
  | cons hx _ ih =>
    refine List.forall_mem_cons.mpr ⟨⟨_, List.mem_cons_self, hx⟩, fun y hy => ?_⟩
    obtain ⟨x, hmem, hpair⟩ := ih y hy
    exact ⟨x, List.mem_cons_of_mem _ hmem, hpair⟩

/-- Items that each have a partner are paired with the list of these. -/
theorem exists_forall₂ {R : α → β → Prop} {xs : List α} (h : ∀ x ∈ xs, ∃ y, R x y) :
    ∃ ys, List.Forall₂ R xs ys := by
  induction xs with
  | nil => exact ⟨[], .nil⟩
  | cons x rest ih =>
    obtain ⟨⟨y, hy⟩, hrest⟩ := List.forall_mem_cons.mp h
    obtain ⟨ys, hys⟩ := ih hrest
    exact ⟨y :: ys, .cons hy hys⟩

/-- Each item on the left of two lists in step has one on the right. -/
theorem exists_right_of_forall₂ {R : α → β → Prop} {xs : List α} {ys : List β}
    (h : List.Forall₂ R xs ys) : ∀ x ∈ xs, ∃ y ∈ ys, R x y :=
  exists_left_of_forall₂ (R := flip R) h.flip

/-- What holds of each two in the first of two paired lists carries over to the second. -/
theorem pairwise_of_forall₂ {P : α → β → Prop} {R : α → α → Prop} {S : β → β → Prop}
    {xs : List α} {ys : List β} (h : List.Forall₂ P xs ys) (hxs : xs.Pairwise R)
    (hstep : ∀ a b c d, P a c → P b d → R a b → S c d) : ys.Pairwise S := by
  induction h with
  | nil => exact .nil
  | cons hfirst hrest ih =>
    obtain ⟨hall, hxs⟩ := List.pairwise_cons.mp hxs
    refine List.pairwise_cons.mpr ⟨fun d hd => ?_, ih hxs⟩
    obtain ⟨b, hb, hpair⟩ := exists_left_of_forall₂ hrest d hd
    exact hstep _ b _ d hfirst hpair (hall b hb)

/-- Every result of a loop is that of some item. -/
theorem exists_of_mapM_eq_ok {f : α → Result β} {xs : List α} {ys : List β}
    (h : xs.mapM f = .ok ys) : ∀ y ∈ ys, ∃ x ∈ xs, f x = .ok y :=
  exists_left_of_forall₂ (mapM_eq_ok.mp h)

/-- Every item of a loop that went through has a result. -/
theorem exists_of_mem_of_mapM_eq_ok {f : α → Result β} {xs : List α} {ys : List β}
    (h : xs.mapM f = .ok ys) : ∀ x ∈ xs, ∃ y, f x = .ok y := by
  intro x hx
  obtain ⟨y, -, hy⟩ := exists_right_of_forall₂ (mapM_eq_ok.mp h) x hx
  exact ⟨y, hy⟩

/-- What a step keeps, a loop that went through has kept. -/
theorem foldlM_invariant_of_mem {P : β → Prop} {f : β → α → Result β} {xs : List α}
    (hf : ∀ a ∈ xs, ∀ b b', P b → f b a = .ok b' → P b') {b b' : β} (hb : P b)
    (h : xs.foldlM f b = .ok b') : P b' := by
  induction xs generalizing b with
  | nil =>
    obtain rfl := pure_eq_ok.mp h
    exact hb
  | cons x rest ih =>
    rw [List.foldlM_cons] at h
    obtain ⟨mid, hmid, hrest⟩ := bind_eq_ok.mp h
    exact ih (fun a ha => hf a (List.mem_cons_of_mem _ ha))
      (hf x List.mem_cons_self b mid hb hmid) hrest

/-- What each step of a fold keeps, the fold keeps. -/
theorem foldlM_invariant {P : β → Prop} {f : β → α → Result β}
    (hf : ∀ b a b', P b → f b a = .ok b' → P b') {xs : List α} {b b' : β} (hb : P b)
    (h : xs.foldlM f b = .ok b') : P b' :=
  foldlM_invariant_of_mem (fun a _ b b' => hf b a b') hb h

/-! ## Refinement -/

/-- What one computation returns, another returns as well. -/
def Refines (x y : Result α) : Prop := ∀ a, x = .ok a → y = .ok a

namespace Refines

theorem refl {x : Result α} : Refines x x := fun _ h => h

/-- Steps may be refined one after the other. -/
theorem bind {x y : Result α} {f f' : α → Result β} (hx : Refines x y)
    (hf : ∀ a, Refines (f a) (f' a)) : Refines (x >>= f) (y >>= f') := by
  intro b h
  obtain ⟨a, ha, hb⟩ := bind_eq_ok.mp h
  exact bind_eq_ok.mpr ⟨a, hx a ha, hf a b hb⟩

/-- Each item may be mapped by a refinement. -/
theorem mapM {f f' : α → Result β} (hf : ∀ a, Refines (f a) (f' a)) (xs : List α) :
    Refines (xs.mapM f) (xs.mapM f') := by
  intro ys h
  exact mapM_eq_ok.mpr ((mapM_eq_ok.mp h).imp fun x y hxy => hf x y hxy)

/-- Each item may be checked by a refinement. -/
theorem forM {f f' : α → Result Unit} (hf : ∀ a, Refines (f a) (f' a)) (xs : List α) :
    Refines (xs.forM f) (xs.forM f') := by
  intro _ h
  exact forM_eq_ok.mpr fun x hx => hf x () (forM_eq_ok.mp h x hx)

/-- What may be there may be mapped by a refinement. -/
theorem optionMapM {f f' : α → Result β} (hf : ∀ a, Refines (f a) (f' a)) (x : Option α) :
    Refines (x.mapM f) (x.mapM f') := by
  cases x with
  | none => exact refl
  | some a => exact bind (hf a) fun _ => refl

end Refines

end ObjectQuery.Result
