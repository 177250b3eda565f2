import Mathlib.Algebra.GroupWithZero.Nat
import Mathlib.Algebra.Order.BigOperators.Group.List
import Mathlib.Algebra.Order.Group.Nat
import ObjectQuery.Proofs.Filter.Keys
import ObjectQuery.Proofs.Filter.Normal

/-!
# No redex is left at any depth

What the normal form says of a filter as a whole is here read off its parts: of every filter, test and
expression inside a simplified one, at any depth, those inside filters for elements included. A part is
reduced if it is none of what simplification takes away. Only what a filter reads can be lost on the
way, so a simplified filter reads no other paths.
-/

namespace ObjectQuery

/-! ## Parts at every depth -/

namespace Expr

mutual

/-- An expression and the expressions inside it. -/
def parts : Expr → List Expr
  | key path => [key path]
  | value v => [value v]
  | array items => array items :: itemParts items
  | not e => not e :: e.parts
  | connective op items => connective op items :: itemParts items
  | comparison op l r => comparison op l r :: (l.parts ++ r.parts)
  | measure kind l r => measure kind l r :: (itemParts l ++ itemParts r)

def itemParts : List Expr → List Expr
  | [] => []
  | e :: es => e.parts ++ itemParts es

end

/-- The parts of items are those of each. -/
@[simp] theorem itemParts_eq_flatMap (items : List Expr) : itemParts items = items.flatMap parts := by
  induction items with
  | nil => rfl
  | cons e rest ih => rw [itemParts, ih, List.flatMap_cons]

/-- The connective an expression is. -/
def connective? : Expr → Option Connective
  | connective op _ => some op
  | _ => none

end Expr

mutual

/-- A filter and the filters inside it. -/
def Filter.parts : Filter → List Filter
  | .connective op items => .connective op items :: Filter.itemParts items
  | .field path test => .field path test :: test.filters
  | .expr e => [.expr e]

def Filter.itemParts : List Filter → List Filter
  | [] => []
  | f :: fs => f.parts ++ Filter.itemParts fs

/-- The filters for elements inside a test, and those inside them. -/
def FieldTest.filters : FieldTest → List Filter
  | .every f => f.parts
  | .any f => f.parts
  | .not t => t.filters
  | _ => []

end

/-- A test and the tests it negates. -/
def FieldTest.parts : FieldTest → List FieldTest
  | .not t => .not t :: t.parts
  | t => [t]

/-- The connective a filter is. -/
def Filter.connective? : Filter → Option Connective
  | .connective op _ => some op
  | _ => none

/-! ## Reduced parts -/

/-- A connective over items of which some are connectives leaves nothing to flatten. -/
structure Connective.Flat (op : Connective) (items : List (Option Connective)) : Prop where
  noConjunction : op = .and → some .and ∉ items
  noDisjunction : op = .or ∨ op = .nor → some .or ∉ items
  notSingle : op = .and ∨ op = .or → items.length ≠ 1

/-- A connective with something to flatten is no part, and neither is the negation of a negation. -/
def Expr.Reduced : Expr → Prop
  | .connective op items => op.Flat (items.map Expr.connective?)
  | .not e => ∀ inner, e ≠ .not inner
  | _ => True

/-- No part of an expression can be simplified. -/
def Expr.Canonical (e : Expr) : Prop := ∀ part ∈ e.parts, part.Reduced

/--
A connective has nothing to flatten; but for a conjunction it has items, and no alternative accepts
everything. A test negates no negation, and an expression is canonical.
-/
def Filter.Reduced : Filter → Prop
  | .connective op items =>
    op.Flat (items.map Filter.connective?) ∧ (op = .or ∨ op = .nor → items ≠ []) ∧
      (op = .or → Filter.truth ∉ items)
  | .field _ test => ∀ part ∈ test.parts, ∀ inner, part ≠ .not (.not inner)
  | .expr e => e.Canonical

/-- No part of a filter can be simplified. -/
def Filter.Canonical (f : Filter) : Prop := ∀ part ∈ f.parts, part.Reduced

/-! ## Nothing is absorbed -/

/-- Where items stay as they are though each is expanded, each keeps its weight. -/
theorem weight_of_flatMap_eq {α : Type} (weight : α → Nat) {expand : α → List α} {items : List α}
    (hle : ∀ x ∈ items, ((expand x).map weight).sum ≤ weight x)
    (h : items.flatMap expand = items) :
    ∀ x ∈ items, ((expand x).map weight).sum = weight x := by
  intro x hx
  by_contra hne
  have hlt : (items.map fun y => ((expand y).map weight).sum).sum < (items.map weight).sum :=
    List.sum_lt_sum _ _ hle ⟨x, hx, Nat.lt_of_le_of_ne (hle x hx) hne⟩
  have hsum : ((items.flatMap expand).map weight).sum =
      (items.map fun y => ((expand y).map weight).sum).sum := by
    rw [List.map_flatMap, List.flatMap_def, List.sum_flatten, List.map_map]
    rfl
  rw [h] at hsum
  omega

/-- The sizes of the items add up to less than the size of the list. -/
theorem sum_sizeOf_lt {α : Type} [SizeOf α] (items : List α) :
    (items.map sizeOf).sum < sizeOf items := by
  induction items with
  | nil => simp
  | cons x rest ih =>
    simp only [List.map_cons, List.sum_cons, List.cons.sizeOf_spec]
    omega

/--
Where splicing changes nothing, no item is a connective that is absorbed: it would be larger than what
it is spliced into.
-/
theorem Expr.not_absorbs_of_splice {op child : Connective} {items nested : List Expr}
    (h : splice op items = items) (hmem : connective child nested ∈ items) :
    op.absorbs child = false := by
  have hless : ∀ other inner, (inner.map sizeOf).sum < sizeOf (connective other inner) := by
    intro other inner
    have hlt := sum_sizeOf_lt inner
    rw [connective.sizeOf_spec]
    omega
  refine Bool.eq_false_iff.mpr fun habsorbs => ?_
  have hkept := weight_of_flatMap_eq sizeOf (fun e _ => ?_) h _ hmem
  · simp only [habsorbs, ↓reduceIte] at hkept
    exact Nat.ne_of_lt (hless child nested) hkept
  · split
    · next other inner _ =>
      split
      · exact (hless other inner).le
      · simp
    · simp

/-- Where splicing changes nothing, no item is a connective that is absorbed. -/
theorem Filter.not_absorbs_of_splice {op child : Connective} {items nested : List Filter}
    (h : splice op items = items) (hmem : .connective child nested ∈ items) :
    op.absorbs child = false := by
  have hless : ∀ other inner, (inner.map sizeOf).sum < sizeOf (Filter.connective other inner) := by
    intro other inner
    have hlt := sum_sizeOf_lt inner
    rw [Filter.connective.sizeOf_spec]
    omega
  refine Bool.eq_false_iff.mpr fun habsorbs => ?_
  have hkept := weight_of_flatMap_eq sizeOf (fun f _ => ?_) h _ hmem
  · simp only [habsorbs, ↓reduceIte] at hkept
    exact Nat.ne_of_lt (hless child nested) hkept
  · split
    · next other inner _ =>
      split
      · exact (hless other inner).le
      · simp
    · simp

/-- Where no item is absorbed and a single one is that of a negated disjunction, nothing is flat. -/
theorem Connective.flat_of_not_absorbs {op : Connective} {items : List (Option Connective)}
    (h : ∀ child, some child ∈ items → op.absorbs child = false)
    (hlength : op = .nor ∨ items.length ≠ 1) : op.Flat items where
  noConjunction := by
    rintro rfl hmem
    exact Bool.noConfusion (h _ hmem)
  noDisjunction := by
    rintro (rfl | rfl) hmem <;> exact Bool.noConfusion (h _ hmem)
  notSingle := by
    rintro (rfl | rfl) <;> exact hlength.resolve_left nofun

/-! ## The parts of a normal form -/

namespace Expr

/-- A normal expression is reduced at its head. -/
theorem reduced_of_normal {e : Expr} (h : e.Normal) : e.Reduced := by
  cases e with
  | not e => exact h.2
  | connective op items =>
    obtain ⟨-, hsplice, hlength⟩ := h
    refine Connective.flat_of_not_absorbs (fun child hchild => ?_) (by simpa using hlength)
    obtain ⟨e, he, hconnective⟩ := List.mem_map.mp hchild
    cases e with
    | connective other nested =>
      cases hconnective
      exact not_absorbs_of_splice hsplice he
    | _ => cases hconnective
  | _ => trivial

/-- The parts of a normal form are in normal form. -/
theorem normal_of_mem_parts {e : Expr} (h : e.Normal) : ∀ part ∈ e.parts, part.Normal := by
  have hitems : ∀ {items : List Expr}, ItemsNormal items →
      (∀ x ∈ items, x.Normal → ∀ part ∈ x.parts, part.Normal) →
        ∀ part ∈ items.flatMap parts, part.Normal := by
    intro items hnormal ih part hpart
    obtain ⟨x, hx, hmem⟩ := List.mem_flatMap.mp hpart
    exact ih x hx (itemsNormal_iff.mp hnormal x hx) part hmem
  induction e using nested_induction with
  | key _ | value _ => exact List.forall_mem_singleton.mpr h
  | array items ih =>
    rw [parts, itemParts_eq_flatMap]
    exact List.forall_mem_cons.mpr ⟨h, hitems h ih⟩
  | not e ih => exact List.forall_mem_cons.mpr ⟨h, ih h.1⟩
  | connective op items ih =>
    rw [parts, itemParts_eq_flatMap]
    exact List.forall_mem_cons.mpr ⟨h, hitems h.1 ih⟩
  | comparison op l r ihl ihr =>
    exact List.forall_mem_cons.mpr ⟨h, List.forall_mem_append.mpr ⟨ihl h.1, ihr h.2⟩⟩
  | measure kind l r ihl ihr =>
    rw [parts, itemParts_eq_flatMap, itemParts_eq_flatMap]
    exact List.forall_mem_cons.mpr
      ⟨h, List.forall_mem_append.mpr ⟨hitems h.1 ihl, hitems h.2 ihr⟩⟩

/-- A normal expression is canonical at every depth. -/
theorem canonical_of_normal {e : Expr} (h : e.Normal) : e.Canonical :=
  fun part hpart => reduced_of_normal (normal_of_mem_parts h part hpart)

end Expr

/-- A normal test negates no negation. -/
theorem FieldTest.ne_double_negation {t : FieldTest} (h : t.Normal) :
    ∀ part ∈ t.parts, ∀ inner, part ≠ .not (.not inner) := by
  intro part hpart inner
  fun_induction FieldTest.parts t with
  | case1 t ih =>
    rcases List.mem_cons.mp hpart with rfl | hpart
    · intro heq
      cases heq
      exact h.2 inner rfl
    · exact ih h.1 hpart
  | case2 t hnot =>
    obtain rfl := List.mem_singleton.mp hpart
    rintro rfl
    exact hnot _ rfl

/-- A normal filter is reduced at its head. -/
theorem Filter.reduced_of_normal {f : Filter} (h : f.Normal) : f.Reduced := by
  cases f with
  | connective op items =>
    obtain ⟨-, hsplice, hlength, hne, htruth⟩ := h
    refine ⟨Connective.flat_of_not_absorbs (fun child hchild => ?_) (by simpa using hlength), ?_, htruth⟩
    · obtain ⟨f, hf, hconnective⟩ := List.mem_map.mp hchild
      cases f with
      | connective other nested =>
        cases hconnective
        exact not_absorbs_of_splice hsplice hf
      | field | expr => cases hconnective
    · rintro (rfl | rfl) <;> exact hne.resolve_left nofun
  | field path test => exact FieldTest.ne_double_negation h
  | expr e => exact e.canonical_of_normal h

mutual

/-- The parts of a normal form are in normal form. -/
theorem Filter.normal_of_mem_parts : ∀ {f : Filter}, f.Normal → ∀ part ∈ f.parts, part.Normal
  | .connective _ _, h => List.forall_mem_cons.mpr ⟨h, Filter.normal_of_mem_itemParts h.1⟩
  | .field _ _, h => List.forall_mem_cons.mpr ⟨h, FieldTest.normal_of_mem_filters h⟩
  | .expr _, h => List.forall_mem_singleton.mpr h

/-- Every part of normal items is normal. -/
theorem Filter.normal_of_mem_itemParts : ∀ {items : List Filter}, Filter.ItemsNormal items →
    ∀ part ∈ Filter.itemParts items, part.Normal
  | [], _ => nofun
  | _ :: _, h => List.forall_mem_append.mpr
    ⟨Filter.normal_of_mem_parts h.1, Filter.normal_of_mem_itemParts h.2⟩

/-- Every part of the filters of a normal test is normal. -/
theorem FieldTest.normal_of_mem_filters : ∀ {t : FieldTest}, t.Normal →
    ∀ part ∈ t.filters, part.Normal
  | .every f, h => Filter.normal_of_mem_parts (f := f) h
  | .any f, h => Filter.normal_of_mem_parts (f := f) h
  | .not t, h => FieldTest.normal_of_mem_filters (t := t) h.1
  | .compare .., _ | .oneOf _, _ | .noneOf _, _ | .subset _, _ | .superset _, _ | .intersect _, _
  | .pattern .., _ | .startsWith _, _ | .endsWith _, _ | .size _, _ | .empty _, _ => nofun

end

/-- A normal filter is canonical at every depth. -/
theorem Filter.canonical_of_normal {f : Filter} (h : f.Normal) : f.Canonical :=
  fun part hpart => reduced_of_normal (normal_of_mem_parts h part hpart)

/-! ## Paths -/

/-- The keys of a connective are those of its items. -/
theorem Filter.keysBy_connective (f : String → String) (op : Connective) (items : List Filter) :
    (Filter.connective op items).keysBy f = items.flatMap (keysBy f) := by
  rw [keysBy, itemKeysBy_eq_flatMap]

/-- A negated test has the keys of the test. -/
theorem FieldTest.keysBy_negate (owner : String) (t : FieldTest) :
    t.negate.keysBy owner = t.keysBy owner := by
  cases t <;> rfl

mutual

/-- A simplified filter has no key that the filter itself has not. -/
theorem Filter.keysBy_simplify_subset : ∀ (rename : String → String) (f : Filter),
    f.simplify.keysBy rename ⊆ f.keysBy rename
  | rename, .connective op items => by
    rw [Filter.simplify, Filter.keysBy]
    refine List.Subset.trans (Filter.connect_subset (Filter.keysBy_connective rename)) ?_
    rw [← Filter.itemKeysBy_eq_flatMap]
    exact Filter.itemKeysBy_simplify_subset rename items
  | rename, .field path test =>
    List.cons_subset_cons _ (FieldTest.keysBy_simplify_subset (rename path) test)
  | rename, .expr e => List.map_subset rename e.keys_simplify_subset

/-- Simplified items have no keys beyond those of the items. -/
theorem Filter.itemKeysBy_simplify_subset : ∀ (rename : String → String) (items : List Filter),
    Filter.itemKeysBy rename (Filter.simplifyItems items) ⊆ Filter.itemKeysBy rename items
  | _, [] => List.Subset.refl _
  | rename, f :: fs => append_subset_append (Filter.keysBy_simplify_subset rename f)
      (Filter.itemKeysBy_simplify_subset rename fs)

/-- A simplified test has no keys beyond those of the test. -/
theorem FieldTest.keysBy_simplify_subset : ∀ (owner : String) (t : FieldTest),
    t.simplify.keysBy owner ⊆ t.keysBy owner
  | owner, .not t => by
    rw [FieldTest.simplify, FieldTest.keysBy_negate, FieldTest.keysBy]
    exact FieldTest.keysBy_simplify_subset owner t
  | owner, .every f => Filter.keysBy_simplify_subset (Filter.fromOwner owner) f
  | owner, .any f => Filter.keysBy_simplify_subset (Filter.fromOwner owner) f
  | _, .compare .. | _, .oneOf _ | _, .noneOf _ | _, .subset _ | _, .superset _
  | _, .intersect _ | _, .pattern .. | _, .startsWith _ | _, .endsWith _ | _, .size _
  | _, .empty _ => List.Subset.refl _

end

/-- A simplified filter names no path beyond those of the filter. -/
theorem Filter.keyPaths_simplify_subset (f : Filter) : f.simplify.keyPaths ⊆ f.keyPaths := by
  intro path hpath
  obtain ⟨hkey, hself⟩ := List.mem_filter.mp (List.mem_eraseDups.mp hpath)
  exact List.mem_eraseDups.mpr
    (List.mem_filter.mpr ⟨Filter.keysBy_simplify_subset id f hkey, hself⟩)

/-- A simplified expression is its own simplification. -/
@[simp] theorem Expr.simplify_simplify (e : Expr) : e.simplify.simplify = e.simplify :=
  e.simplify.simplify_of_normal e.simplify_normal

/--
A simplified filter is canonical at every depth, is its own simplification, and reads no path that the
filter does not. Expressions are simplified to canonical ones as well, once and for all.
-/
theorem simplify_canonical :
    (∀ f : Filter, f.simplify.Canonical ∧ f.simplify.simplify = f.simplify ∧
      f.simplify.keyPaths ⊆ f.keyPaths) ∧
      ∀ e : Expr, e.simplify.Canonical ∧ e.simplify.simplify = e.simplify := by
  refine ⟨fun f => ⟨?_, f.simplify_simplify, f.keyPaths_simplify_subset⟩, fun e => ⟨?_, ?_⟩⟩
  · exact Filter.canonical_of_normal f.simplify_normal
  · exact Expr.canonical_of_normal e.simplify_normal
  · exact e.simplify_simplify

end ObjectQuery
