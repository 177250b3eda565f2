import Mathlib.Data.List.Forall2
import ObjectQuery.Accumulator
import ObjectQuery.Proofs.Expr.Simplify
import ObjectQuery.SortSpec

/-!
# What an expression reads

Nothing of an object reaches the value of an expression but what stands at its keys. So two objects
may be told apart only by what they have there, and the keys may be rewritten together with the
object. The order that a sort makes of two rows is settled by its keys in the same way. Of each row an
accumulator sees only what stands at its keys: rows that agree there fall into the same groups, and the
members of each group agree in turn on the keys of the inner accumulator.
-/

namespace ObjectQuery

/-- One object has at the rewritten paths what another has at the paths themselves. -/
def Value.Agree (f : String → String) (paths : List String) (a b : Json) : Prop :=
  ∀ path ∈ paths, getPath b (f path) = getPath a path

namespace Value.Agree

variable {f : String → String} {paths : List String} {a b : Json}

/-- Rows that agree on more paths agree on fewer. -/
theorem of_subset {more : List String} (h : Agree f more a b) (hsub : paths ⊆ more) :
    Agree f paths a b :=
  fun path hpath => h path (hsub hpath)

/-- To report each path once is to report the same paths. -/
theorem of_eraseDups (h : Agree f paths.eraseDups a b) : Agree f paths a b := by
  intro path hpath
  exact h path (List.mem_eraseDups.mpr hpath)

end Value.Agree

/-! ## Expressions -/

theorem append_subset_append {α : Type} {xs ys xs' ys' : List α} (hx : xs ⊆ xs') (hy : ys ⊆ ys') :
    xs ++ ys ⊆ xs' ++ ys' :=
  List.append_subset.mpr ⟨List.Subset.trans hx (List.subset_append_left _ _),
    List.Subset.trans hy (List.subset_append_right _ _)⟩

namespace Expr

variable {f : String → String} {a b : Json}

@[simp] theorem itemKeys_eq_flatMap (items : List Expr) : itemKeys items = items.flatMap keys := by
  induction items with
  | nil => rfl
  | cons e rest ih => rw [itemKeys, ih, List.flatMap_cons]

@[simp] theorem mapItemKeys_eq_map (items : List Expr) :
    mapItemKeys f items = items.map (mapKey f) := by
  induction items with
  | nil => rfl
  | cons e rest ih => rw [mapItemKeys, ih, List.map_cons]

/-- The values of some expressions stay if that of each does. -/
private theorem evalItems_mapKey {items : List Expr}
    (ih : ∀ e ∈ items, Value.Agree f e.keys a b → (e.mapKey f).eval b = e.eval a)
    (h : Value.Agree f (itemKeys items) a b) :
    evalItems b (mapItemKeys f items) = evalItems a items := by
  rw [evalItems_eq_map, evalItems_eq_map, mapItemKeys_eq_map, List.map_map]
  apply List.map_congr_left
  intro e he
  apply ih e he
  apply h.of_subset
  intro path hpath
  rw [itemKeys_eq_flatMap]
  exact List.mem_flatMap.mpr ⟨e, he, hpath⟩

/-- An expression with its keys rewritten has the value it had before the keys were rewritten. -/
theorem eval_mapKey (e : Expr) (h : Value.Agree f e.keys a b) : (e.mapKey f).eval b = e.eval a := by
  induction e using nested_induction with
  | key path => exact h path List.mem_cons_self
  | value v => rfl
  | array items ih => rw [mapKey, eval, eval, evalItems_mapKey ih h]
  | not e ih => rw [mapKey, eval, eval, ih h]
  | connective op items ih => rw [mapKey, eval, eval, evalItems_mapKey ih h]
  | comparison op l r ihl ihr =>
    have hl : Value.Agree f l.keys a b := h.of_subset (List.subset_append_left l.keys r.keys)
    have hr : Value.Agree f r.keys a b := h.of_subset (List.subset_append_right l.keys r.keys)
    rw [mapKey, eval, eval, ihl hl, ihr hr]
  | measure kind l r ihl ihr =>
    have hl : Value.Agree f (itemKeys l) a b := h.of_subset (List.subset_append_left _ _)
    have hr : Value.Agree f (itemKeys r) a b := h.of_subset (List.subset_append_right _ _)
    rw [mapKey, eval, eval, evalItems_mapKey ihl hl, evalItems_mapKey ihr hr]

@[simp] theorem mapKey_id (e : Expr) : e.mapKey id = e := by
  have hitems : ∀ {items : List Expr}, (∀ x ∈ items, x.mapKey id = x) →
      mapItemKeys id items = items := by
    intro items ih
    rw [mapItemKeys_eq_map]
    exact (List.map_congr_left ih).trans items.map_id
  induction e using nested_induction with
  | key _ | value _ => rfl
  | array items ih => rw [mapKey, hitems ih]
  | not e ih => rw [mapKey, ih]
  | connective op items ih => rw [mapKey, hitems ih]
  | comparison op l r ihl ihr => rw [mapKey, ihl, ihr]
  | measure kind l r ihl ihr => rw [mapKey, hitems ihl, hitems ihr]

/-! ## Simplification -/

/-- Splicing takes no key from anywhere else. -/
theorem keys_splice_subset {op : Connective} {items : List Expr} :
    (splice op items).flatMap keys ⊆ items.flatMap keys := by
  intro path hpath
  obtain ⟨e, he, hkey⟩ := List.mem_flatMap.mp hpath
  obtain ⟨item, hitem, hspliced⟩ := List.mem_flatMap.mp he
  refine List.mem_flatMap.mpr ⟨item, hitem, ?_⟩
  split at hspliced
  next child nested =>
    split at hspliced
    next =>
      rw [keys, itemKeys_eq_flatMap]
      exact List.mem_flatMap.mpr ⟨e, hspliced, hkey⟩
    next => rwa [List.mem_singleton.mp hspliced] at hkey
  next => rwa [List.mem_singleton.mp hspliced] at hkey

/-- Connecting leaves the keys of the items. -/
theorem keys_connect (op : Connective) (items : List Expr) :
    (connect op items).keys = items.flatMap keys := by
  unfold connect
  split <;> simp [keys]

/-- A negation reads the keys of what it negates. -/
theorem keys_negate (e : Expr) : (negate e).keys = e.keys := by
  cases e <;> rfl

/-- A simplified expression has no key that the expression itself has not. -/
theorem keys_simplify_subset (e : Expr) : e.simplify.keys ⊆ e.keys := by
  have hitems : ∀ {items : List Expr}, (∀ x ∈ items, x.simplify.keys ⊆ x.keys) →
      (simplifyItems items).flatMap keys ⊆ items.flatMap keys := by
    intro items ih path hpath
    rw [simplifyItems_eq_map, List.flatMap_map] at hpath
    obtain ⟨x, hx, hkey⟩ := List.mem_flatMap.mp hpath
    exact List.mem_flatMap.mpr ⟨x, hx, ih x hx hkey⟩
  induction e using nested_induction with
  | key _ | value _ => exact List.Subset.refl _
  | array items ih =>
    rw [simplify, keys, keys, itemKeys_eq_flatMap, itemKeys_eq_flatMap]
    exact hitems ih
  | not e ih =>
    rw [simplify, keys_negate, keys]
    exact ih
  | connective op items ih =>
    rw [simplify, keys_connect, keys, itemKeys_eq_flatMap]
    exact List.Subset.trans keys_splice_subset (hitems ih)
  | comparison op l r ihl ihr =>
    rw [simplify, keys, keys]
    exact append_subset_append ihl ihr
  | measure kind l r ihl ihr =>
    rw [simplify, keys, keys]
    simp only [itemKeys_eq_flatMap]
    exact append_subset_append (hitems ihl) (hitems ihr)

end Expr

/-! ## Sorts -/

namespace SortSpec

variable {f : String → String} {a b a' b' : Json}

/-- A row's values under the keys of a sort. -/
theorem keyValues_mapKey (sort : SortSpec) (h : Value.Agree f sort.keyPaths a b) :
    (sort.mapKey f).keyValues b = sort.keyValues a := by
  cases sort with
  | paths keys =>
    have hkeys : Value.Agree f (keys.map (·.1)) a b := h.of_eraseDups
    rw [mapKey, keyValues, keyValues, List.map_map]
    apply List.map_congr_left
    intro key hkey
    have hvalue := hkeys key.1 (List.mem_map_of_mem hkey)
    simp only [Function.comp, hvalue]
  | expressions keys =>
    have hkeys : Value.Agree f (keys.flatMap (·.1.keys)) a b := h.of_eraseDups
    rw [mapKey, keyValues, keyValues, List.map_map]
    apply List.map_congr_left
    intro key hkey
    have hvalue : (key.1.mapKey f).eval b = key.1.eval a := by
      apply key.1.eval_mapKey
      apply hkeys.of_subset
      intro path hpath
      exact List.mem_flatMap.mpr ⟨key, hkey, hpath⟩
    simp only [Function.comp, hvalue]

/-- Renamed keys compare renamed rows as the keys compare the rows. -/
theorem compare_mapKey (sort : SortSpec) (h : Value.Agree f sort.keyPaths a b)
    (h' : Value.Agree f sort.keyPaths a' b') :
    (sort.mapKey f).compare b b' = sort.compare a a' := by
  rw [compare, compare, sort.keyValues_mapKey h, sort.keyValues_mapKey h']

@[simp] theorem mapKey_id (sort : SortSpec) : sort.mapKey id = sort := by
  cases sort <;> simp [mapKey]

end SortSpec

/-! ## Accumulators -/

namespace Accumulator

variable {f : String → String}

/-- What is read from items one by one is read alike from items that correspond. -/
private theorem map_eq_map {α β : Type} {R : α → α → Prop} {g h : α → β}
    (hitem : ∀ a b, R a b → h b = g a) {xs ys : List α} (hall : List.Forall₂ R xs ys) :
    ys.map h = xs.map g := by
  induction hall with
  | nil => rfl
  | cons hab _ ih => rw [List.map_cons, List.map_cons, hitem _ _ hab, ih]

/-- Groups with the same keys, whose members correspond one to one. -/
def GroupsAgree (R : Json → Json → Prop) (groups groups' : List (Json × List Json)) : Prop :=
  List.Forall₂ (fun g g' => g'.1 = g.1 ∧ List.Forall₂ R g.2 g'.2) groups groups'

/-- A row and its counterpart go into corresponding groups. -/
theorem insertRow_agree {R : Json → Json → Prop} {groups groups' : List (Json × List Json)}
    {key row row' : Json} (hrow : R row row') (h : GroupsAgree R groups groups') :
    GroupsAgree R (insertRow key row groups) (insertRow key row' groups') := by
  unfold GroupsAgree at h
  induction h with
  | nil => exact .cons ⟨rfl, .cons hrow .nil⟩ .nil
  | @cons g g' rest rest' hg hrest ih =>
    obtain ⟨k, members⟩ := g
    obtain ⟨k', members'⟩ := g'
    obtain ⟨rfl, hmembers⟩ := hg
    unfold insertRow
    split
    · refine .cons ⟨rfl, ?_⟩ hrest
      exact List.rel_append hmembers (.cons hrow .nil)
    · exact .cons ⟨rfl, hmembers⟩ ih

/-- Rows that agree on the key of a group form the same groups. -/
theorem groups_agree {R : Json → Json → Prop} {key key' : Expr}
    (hkey : ∀ a b, R a b → key'.eval b = key.eval a) {rows rows' : List Json}
    (hrows : List.Forall₂ R rows rows') : GroupsAgree R (groups key rows) (groups key' rows') := by
  have hstep : ∀ {acc acc' : List (Json × List Json)}, GroupsAgree R acc acc' →
      GroupsAgree R (rows.foldl (fun acc row => insertRow (key.eval row) row acc) acc)
        (rows'.foldl (fun acc row => insertRow (key'.eval row) row acc) acc') := by
    induction hrows with
    | nil => exact fun h => h
    | @cons a b _ _ hab _ ih =>
      intro acc acc' hacc
      rw [List.foldl_cons, List.foldl_cons, hkey a b hab]
      exact ih (insertRow_agree hab hacc)
  exact hstep .nil

/-- An accumulator with its keys rewritten makes of rows what it made before of theirs. -/
theorem eval_mapKey (acc : Accumulator) {rows rows' : List Json}
    (h : List.Forall₂ (Value.Agree f acc.keys) rows rows') :
    (acc.mapKey f).eval rows' = acc.eval rows := by
  have hvalues : ∀ {e : Expr} {rows rows' : List Json},
      List.Forall₂ (Value.Agree f e.keys) rows rows' →
        rows'.map (fun row => (e.mapKey f).eval row) = rows.map fun row => e.eval row :=
    fun {e} _ _ h => map_eq_map (fun _ _ hab => e.eval_mapKey hab) h
  induction acc generalizing rows rows' with
  | count => rw [mapKey, eval, eval, h.length_eq]
  | unary op input => rw [mapKey, eval, eval, hvalues h]
  | percentile input p mode =>
    have hdoubles := congrArg (List.filterMap Value.asDouble?) (hvalues h)
    rw [List.filterMap_map, List.filterMap_map] at hdoubles
    rw [mapKey, eval, eval]
    exact congrArg (percentileOf p mode) hdoubles
  | group key value ih =>
    have hkey : ∀ a b, Value.Agree f (group key value).keys a b →
        (key.mapKey f).eval b = key.eval a := by
      intro a b hab
      exact key.eval_mapKey (hab.of_subset (List.subset_append_left _ _))
    have hmembers : ∀ members members',
        List.Forall₂ (Value.Agree f (group key value).keys) members members' →
          (value.mapKey f).eval members' = value.eval members := by
      intro members members' hall
      exact ih (hall.imp fun a b hab => hab.of_subset (List.subset_append_right _ _))
    rw [mapKey, eval, eval]
    refine congrArg Json.arr (map_eq_map (fun g g' hg => ?_) (groups_agree hkey h))
    show Json.obj [("key", g'.1), ("value", (value.mapKey f).eval g'.2)] = _
    rw [hg.1, hmembers g.2 g'.2 hg.2]

@[simp] theorem mapKey_id (acc : Accumulator) : acc.mapKey id = acc := by
  induction acc with
  | count => rfl
  | unary _ _ | percentile _ _ _ => rw [mapKey, Expr.mapKey_id]
  | group key value ih => rw [mapKey, Expr.mapKey_id, ih]

end Accumulator

end ObjectQuery
