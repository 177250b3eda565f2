import Mathlib.Data.List.Basic
import ObjectQuery.Proofs.Filter.Simplify

/-!
# Simplified filters are in normal form

In a normal form no connective stands directly inside one that absorbs it, none joins a single item
but a negated one, and no negation is negated. Simplification reaches a normal form at once and
leaves every normal form as it is.
-/

namespace ObjectQuery

/-- What a connective absorbs is absorbed inside it as well. -/
theorem Connective.absorbs_inner (op : Connective) : op.inner.absorbs = op.absorbs := by
  funext child
  cases op <;> cases child <;> rfl

/-! ## Expressions -/

namespace Expr

mutual

/-- No connective is absorbed or without effect, and no negation negated. -/
def Normal : Expr → Prop
  | key _ | value _ => True
  | array items => ItemsNormal items
  | not e => e.Normal ∧ ∀ inner, e ≠ not inner
  | connective op items =>
    ItemsNormal items ∧ splice op items = items ∧ (op = .nor ∨ items.length ≠ 1)
  | comparison _ l r => l.Normal ∧ r.Normal
  | measure _ l r => ItemsNormal l ∧ ItemsNormal r

def ItemsNormal : List Expr → Prop
  | [] => True
  | e :: es => e.Normal ∧ ItemsNormal es

end

/-- The predicate of the recursion says that every item is normal. -/
theorem itemsNormal_iff {items : List Expr} : ItemsNormal items ↔ ∀ e ∈ items, e.Normal := by
  induction items with
  | nil => simp [ItemsNormal]
  | cons e rest ih => simp [ItemsNormal, ih]

/-- Splicing for the inner connective is splicing for the connective. -/
theorem splice_inner (op : Connective) (items : List Expr) :
    splice op.inner items = splice op items := by
  unfold splice
  rw [Connective.absorbs_inner]

/-- The items of an absorbed normal connective hold nothing more to absorb. -/
theorem splice_splice {op : Connective} {items : List Expr} (h : ∀ e ∈ items, e.Normal) :
    splice op (splice op items) = splice op items := by
  unfold splice
  rw [List.flatMap_assoc]
  refine List.flatMap_congr fun e he => ?_
  cases e with
  | connective child nested =>
    by_cases habsorbs : op.absorbs child = true
    · obtain rfl := Connective.absorbs_iff.mp habsorbs
      have hnested := (h _ he).2.1
      rw [splice_inner, splice] at hnested
      simp only [habsorbs, ↓reduceIte]
      exact hnested
    · simp [habsorbs]
  | _ => rfl

/-- Splicing normal items gives normal items. -/
theorem mem_splice_normal {op : Connective} {items : List Expr} (h : ∀ e ∈ items, e.Normal) :
    ∀ e ∈ splice op items, e.Normal := by
  intro g hg
  obtain ⟨e, he, hg⟩ := List.mem_flatMap.mp hg
  split at hg
  · split at hg
    · exact itemsNormal_iff.mp (h _ he).1 g hg
    · rw [List.mem_singleton.mp hg]
      exact h _ he
  · rw [List.mem_singleton.mp hg]
    exact h _ he

/-- Connecting normal items that are spliced already gives a normal expression. -/
theorem connect_normal {op : Connective} {items : List Expr} (h : ∀ e ∈ items, e.Normal)
    (hs : splice op items = items) : (connect op items).Normal := by
  have hnormal : (op = .nor ∨ items.length ≠ 1) → (connective op items).Normal :=
    fun hlength => ⟨itemsNormal_iff.mpr h, hs, hlength⟩
  unfold connect
  split
  · exact h _ List.mem_cons_self
  · exact h _ List.mem_cons_self
  · next hand hor =>
    refine hnormal ?_
    cases op with
    | nor => exact .inl rfl
    | and => exact .inr fun hone => (List.length_eq_one_iff.mp hone).elim fun e he => hand e rfl he
    | or => exact .inr fun hone => (List.length_eq_one_iff.mp hone).elim fun e he => hor e rfl he

/-- The negation of a normal expression is normal. -/
theorem negate_normal {e : Expr} (h : e.Normal) : (negate e).Normal := by
  cases e with
  | not e => exact h.1
  | _ => exact ⟨h, fun _ => nofun⟩

/-- What `simplify` returns is normal, by its own recursion. -/
theorem simplify_normal (e : Expr) : e.simplify.Normal := by
  have hmap : ∀ {items : List Expr}, (∀ x ∈ items, x.simplify.Normal) →
      ∀ x ∈ items.map simplify, x.Normal :=
    fun h => List.forall_mem_map.mpr h
  induction e using nested_induction with
  | key _ | value _ => trivial
  | array items ih =>
    rw [simplify, simplifyItems_eq_map]
    exact itemsNormal_iff.mpr (hmap ih)
  | not e ih => exact negate_normal ih
  | connective op items ih =>
    rw [simplify, simplifyItems_eq_map]
    exact connect_normal (mem_splice_normal (hmap ih)) (splice_splice (hmap ih))
  | comparison op l r ihl ihr => exact ⟨ihl, ihr⟩
  | measure kind l r ihl ihr =>
    rw [simplify, simplifyItems_eq_map, simplifyItems_eq_map]
    exact ⟨itemsNormal_iff.mpr (hmap ihl), itemsNormal_iff.mpr (hmap ihr)⟩

/-- Where nothing collapses, connecting is the connective itself. -/
theorem connect_of_normal {op : Connective} {items : List Expr}
    (h : op = .nor ∨ items.length ≠ 1) : connect op items = connective op items := by
  unfold connect
  split <;> simp_all

/-- A normal expression is left as it is. -/
theorem simplify_of_normal (e : Expr) (h : e.Normal) : e.simplify = e := by
  have hmap : ∀ {items : List Expr}, ItemsNormal items →
      (∀ x ∈ items, x.Normal → x.simplify = x) → simplifyItems items = items := by
    intro items hn ih
    rw [simplifyItems_eq_map]
    exact (List.map_congr_left fun x hx => ih x hx (itemsNormal_iff.mp hn x hx)).trans items.map_id
  induction e using nested_induction with
  | key _ | value _ => rfl
  | array items ih => rw [simplify, hmap h ih]
  | not e ih =>
    rw [simplify, ih h.1]
    cases e with
    | not inner => exact absurd rfl (h.2 inner)
    | _ => rfl
  | connective op items ih => rw [simplify, hmap h.1 ih, h.2.1, connect_of_normal h.2.2]
  | comparison op l r ihl ihr => rw [simplify, ihl h.1, ihr h.2]
  | measure kind l r ihl ihr => rw [simplify, hmap h.1 ihl, hmap h.2 ihr]

end Expr

/-! ## Filters -/

mutual

/--
Besides what holds of expressions: a connective but a conjunction has items, and no alternative
accepts everything.
-/
def Filter.Normal : Filter → Prop
  | .connective op items =>
    Filter.ItemsNormal items ∧ Filter.splice op items = items ∧ (op = .nor ∨ items.length ≠ 1) ∧
      (op = .and ∨ items ≠ []) ∧ (op = .or → Filter.truth ∉ items)
  | .field _ test => test.Normal
  | .expr e => e.Normal

def Filter.ItemsNormal : List Filter → Prop
  | [] => True
  | f :: fs => f.Normal ∧ Filter.ItemsNormal fs

def FieldTest.Normal : FieldTest → Prop
  | .every f | .any f => f.Normal
  | .not t => t.Normal ∧ ∀ inner, t ≠ .not inner
  | _ => True

end

namespace Filter

/-- The predicate of the recursion says that every item is normal. -/
theorem itemsNormal_iff {items : List Filter} : ItemsNormal items ↔ ∀ f ∈ items, f.Normal := by
  induction items with
  | nil => simp [ItemsNormal]
  | cons f rest ih => simp [ItemsNormal, ih]

/-- Splicing for the inner connective is splicing for the connective. -/
theorem splice_inner (op : Connective) (items : List Filter) :
    splice op.inner items = splice op items := by
  unfold splice
  rw [Connective.absorbs_inner]

/-- The items of an absorbed normal connective hold nothing more to absorb. -/
theorem splice_splice {op : Connective} {items : List Filter} (h : ∀ f ∈ items, f.Normal) :
    splice op (splice op items) = splice op items := by
  unfold splice
  rw [List.flatMap_assoc]
  refine List.flatMap_congr fun f hf => ?_
  cases f with
  | connective child nested =>
    by_cases habsorbs : op.absorbs child = true
    · obtain rfl := Connective.absorbs_iff.mp habsorbs
      have hnested := (h _ hf).2.1
      rw [splice_inner, splice] at hnested
      simp only [habsorbs, ↓reduceIte]
      exact hnested
    · simp [habsorbs]
  | _ => rfl

/-- Splicing normal filters gives normal filters. -/
theorem mem_splice_normal {op : Connective} {items : List Filter} (h : ∀ f ∈ items, f.Normal) :
    ∀ f ∈ splice op items, f.Normal := by
  intro g hg
  rcases mem_splice hg with hmem | ⟨nested, hf, hmem⟩
  · exact h g hmem
  · exact itemsNormal_iff.mp (h _ hf).1 g hmem

/-- Splicing alternatives brings up none that accepts everything. -/
theorem truth_not_mem_splice {items : List Filter} (h : ∀ f ∈ items, f.Normal)
    (hnone : truth ∉ items) : truth ∉ splice .or items := by
  intro hg
  rcases mem_splice hg with hmem | ⟨nested, hf, hmem⟩
  · exact hnone hmem
  · exact (h _ hf).2.2.2.2 rfl hmem

/-- Connecting normal filters gives a normal filter. -/
theorem connect_normal {op : Connective} {items : List Filter} (h : ∀ f ∈ items, f.Normal) :
    (connect op items).Normal := by
  have hitems : ∀ f ∈ splice op items, f.Normal := mem_splice_normal h
  rcases connect_cases op items with ⟨hc, -⟩ | ⟨⟨f, hc, hone⟩, -⟩ | ⟨hc, hne, hlength, hnone⟩
  · rw [hc]
    exact ⟨trivial, rfl, .inr (by simp), .inl rfl, nofun⟩
  · rw [hc]
    exact hitems f (hone ▸ List.mem_cons_self)
  · rw [hc]
    refine ⟨itemsNormal_iff.mpr hitems, splice_splice h, hlength, .inr hne, ?_⟩
    rintro rfl
    exact truth_not_mem_splice h (hnone rfl)

/-- Where the connective is normal with its items, nothing collapses. -/
theorem connect_of_normal {op : Connective} {items : List Filter}
    (h : (connective op items).Normal) : connect op items = connective op items := by
  obtain ⟨-, hsplice, hlength, hne, hnone⟩ := h
  rcases connect_cases op items with ⟨hc, ⟨rfl, hmem⟩ | hnil⟩ | ⟨⟨f, hc, hone⟩, hop⟩ | ⟨hc, -⟩
  · exact absurd hmem (hnone rfl)
  · rw [hsplice] at hnil
    rw [hc, hnil, hne.resolve_right (not_not_intro hnil)]
    rfl
  · rw [hsplice] at hone
    exact absurd (congrArg List.length hone) (hlength.resolve_left hop)
  · rw [hc, hsplice]

end Filter

/-- The negation of a normal test is normal. -/
theorem FieldTest.negate_normal {t : FieldTest} (h : t.Normal) : t.negate.Normal := by
  cases t with
  | not t => exact h.1
  | _ => exact ⟨h, fun _ => nofun⟩

mutual

/-- What `simplify` returns of a filter is normal. -/
theorem Filter.simplify_normal : (f : Filter) → f.simplify.Normal
  | .connective _ items => Filter.connect_normal (Filter.simplifyItems_normal items)
  | .field _ test => FieldTest.simplify_normal test
  | .expr e => e.simplify_normal
termination_by structural f => f

/-- Each of the simplified items is normal. -/
theorem Filter.simplifyItems_normal :
    (items : List Filter) → ∀ f ∈ Filter.simplifyItems items, f.Normal
  | [] => fun _ hf => absurd hf List.not_mem_nil
  | f :: fs => List.forall_mem_cons.mpr ⟨Filter.simplify_normal f, Filter.simplifyItems_normal fs⟩
termination_by structural items => items

/-- What `simplify` returns of a test is normal. -/
theorem FieldTest.simplify_normal : (t : FieldTest) → t.simplify.Normal
  | .not t => FieldTest.negate_normal (FieldTest.simplify_normal t)
  | .every f => Filter.simplify_normal f
  | .any f => Filter.simplify_normal f
  | .compare .. | .oneOf _ | .noneOf _ | .subset _ | .superset _ | .intersect _ | .pattern ..
  | .startsWith _ | .endsWith _ | .size _ | .empty _ => trivial
termination_by structural t => t

end

mutual

/-- A normal filter is left as it is. -/
theorem Filter.simplify_of_normal : (f : Filter) → f.Normal → f.simplify = f
  | .connective op items, h => by
    rw [Filter.simplify, Filter.simplifyItems_of_normal items h.1, Filter.connect_of_normal h]
  | .field path test, h => by rw [Filter.simplify, FieldTest.simplify_of_normal test h]
  | .expr e, h => by rw [Filter.simplify, e.simplify_of_normal h]
termination_by structural f => f

/-- Normal items are left as they are. -/
theorem Filter.simplifyItems_of_normal : (items : List Filter) → Filter.ItemsNormal items →
    Filter.simplifyItems items = items
  | [], _ => rfl
  | f :: fs, h => by
    rw [Filter.simplifyItems, Filter.simplify_of_normal f h.1,
      Filter.simplifyItems_of_normal fs h.2]
termination_by structural items => items

/-- A normal test is left as it is. -/
theorem FieldTest.simplify_of_normal : (t : FieldTest) → t.Normal → t.simplify = t
  | .not t, h => by
    rw [FieldTest.simplify, FieldTest.simplify_of_normal t h.1]
    cases t with
    | not inner => exact absurd rfl (h.2 inner)
    | _ => rfl
  | .every f, h => by rw [FieldTest.simplify, Filter.simplify_of_normal f h]
  | .any f, h => by rw [FieldTest.simplify, Filter.simplify_of_normal f h]
  | .compare .., _ | .oneOf _, _ | .noneOf _, _ | .subset _, _ | .superset _, _ | .intersect _, _
  | .pattern .., _ | .startsWith _, _ | .endsWith _, _ | .size _, _ | .empty _, _ => rfl
termination_by structural t => t

end

/-- A simplified filter is its own simplification. -/
@[simp] theorem Filter.simplify_simplify (f : Filter) : f.simplify.simplify = f.simplify :=
  f.simplify.simplify_of_normal f.simplify_normal

end ObjectQuery
