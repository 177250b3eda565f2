import Mathlib.Logic.Relation
import ObjectQuery.Access.Query
import ObjectQuery.Proofs.Expr.Keys
import ObjectQuery.Proofs.Filter.Simplify
import ObjectQuery.Proofs.Path
import ObjectQuery.Proofs.Schema.Accepted
import ObjectQuery.Schema.Route

/-!
# Classes that conditions reach

A condition on the objects of a class asks for the guards of the classes that its paths lead
through, and of those whose members it quantifies over. These are classes of the schema; default
fields lead to none, and the simplified condition reaches none but those of the condition itself.
-/

namespace ObjectQuery

namespace Route

/-- The classes whose guards are asked for on the way to a value. -/
def reached : Route → List String
  | .hop _ target next => target :: next.reached
  | .column _ (.relation target (some _)) => [target]
  | .relationElement _ target _ next => target :: next.reached
  | _ => []

/-- The class of the members of the relation at the end of pointers. -/
def members? : Route → Option String
  | .hop _ _ next => next.members?
  | .column _ (.relation target _) => some target
  | _ => none

end Route

namespace Schema

/-- The classes whose guards are asked for by the value of a key. -/
def reached (s : Schema) (className path : String) : List String :=
  if path = Filter.selfKey then [] else (s.route className path).reached

/-- The class of the members that a key names. -/
def members? (s : Schema) (className path : String) : Option String :=
  if path = Filter.selfKey then none else (s.route className path).members?

/-- The classes whose guards are asked for by a filter for the elements at a key; only the members
of a relation are objects, on whose class `reach` tells what the filter reaches. -/
def reachedBelow (s : Schema) (className path : String) (reach : String → List String) :
    List String :=
  s.reached className path ++
    match s.members? className path with
    | some target => target :: reach target
    | none => []

/-- A class is reached below a key by the key itself, as the class of its members, or from there. -/
theorem mem_reachedBelow {s : Schema} {className path target : String}
    {reach : String → List String} :
    target ∈ s.reachedBelow className path reach ↔ target ∈ s.reached className path ∨
      ∃ related, s.members? className path = some related ∧
        (target = related ∨ target ∈ reach related) := by
  unfold reachedBelow
  cases s.members? className path <;> simp

/-- More is reached below a key where more is reached from each class. -/
theorem reachedBelow_subset {s : Schema} {className path : String}
    {reach reach' : String → List String} (h : ∀ target, reach target ⊆ reach' target) :
    s.reachedBelow className path reach ⊆ s.reachedBelow className path reach' := by
  intro target htarget
  refine mem_reachedBelow.mpr ((mem_reachedBelow.mp htarget).imp_right ?_)
  rintro ⟨related, hrelated, htarget⟩
  exact ⟨related, hrelated, htarget.imp_right fun htarget => h related htarget⟩

end Schema

mutual

/-- The classes whose guards are asked for by a filter on the objects of a class. -/
def Filter.reached (s : Schema) (className : String) : Filter → List String
  | .connective _ items => Filter.itemsReached s className items
  | .field path test => test.reached s className path
  | .expr e => e.keys.flatMap (s.reached className)

def Filter.itemsReached (s : Schema) (className : String) : List Filter → List String
  | [] => []
  | f :: fs => f.reached s className ++ Filter.itemsReached s className fs

/-- The classes whose guards are asked for by the test of a key. -/
def FieldTest.reached (s : Schema) (className path : String) : FieldTest → List String
  | .every f | .any f => s.reachedBelow className path fun target => f.reached s target
  | .not t => t.reached s className path
  | _ => s.reached className path

end

/-- The conditions on a class ask for the guard of another. -/
def Schema.LeadsTo (s : Schema) (filters : ClassFilter) (className target : String) : Prop :=
  target ∈ (filters className).reached s className

namespace Filter

variable {s : Schema} {className : String}

/-- The items of a list reach what each of them does. -/
@[simp] theorem itemsReached_eq_flatMap (items : List Filter) :
    itemsReached s className items = items.flatMap (reached s className) := by
  induction items with
  | nil => rfl
  | cons f rest ih => rw [itemsReached, ih, List.flatMap_cons]

/-- A connective reaches what its items do. -/
@[simp] theorem reached_connective (op : Connective) (items : List Filter) :
    (connective op items).reached s className = items.flatMap (reached s className) := by
  rw [reached, itemsReached_eq_flatMap]

end Filter

/-! ## Classes of the schema -/

namespace Schema

variable {s : Schema} {className path : String}

/-- Below a column of a type that holds up there are only such columns. -/
theorem wellTyped_of_columnBelow {refuse : PathReason → Error} {name : String} {ty : FieldType}
    {segments : List Segment} {column : Column} (hty : s.WellTyped ty)
    (h : s.columnBelow refuse name ty segments = .ok column) : s.WellTyped column.type := by
  fun_induction columnBelow s refuse name ty segments with
  | case2 name fields sub rest sub_ty hfind ih =>
    obtain ⟨-, hmembers⟩ := hty
    exact ih (membersWellTyped_iff.mp hmembers _ (Table.mem_of_find?_eq_some hfind)).2 h
  | case8 | case9 =>
    obtain ⟨_, -, rfl⟩ := Result.map_eq_ok.mp h
    exact hty
  | case1 | case6 | case10 =>
    cases h
    exact hty
  | case3 | case4 | case5 | case7 | case11 | case12 => cases h

/-- A resolved column is of a class that exists, and its type is well typed. -/
theorem Accepted.columnOf_ok (hs : s.Accepted) {segments : List Segment} {column : Column}
    (h : s.columnOf className path segments = .ok column) :
    (s.class? className).isSome = true ∧ s.WellTyped column.type := by
  unfold columnOf at h
  split at h
  next => cases h
  next c first rest hc =>
    have hclass := getClass_eq_ok.mp hc
    split at h
    next ty hty =>
      have hwell := (hs.wellTyped hclass hty).2
      exact ⟨isSome_class?_of_getClass hc, wellTyped_of_columnBelow hwell h⟩
    next => cases h
  next => cases h

/-- A class that a route comes to and the class it starts from. -/
theorem Accepted.routeOf_reaches (hs : s.Accepted) {segments : List Segment} {target : String}
    (h : target ∈ (s.routeOf className path segments).reached ∨
      (s.routeOf className path segments).members? = some target) :
    (s.class? className).isSome = true ∧ (s.class? target).isSome = true := by
  fun_induction routeOf s className path segments with
  | case1 => simp [Route.reached, Route.members?] at h
  | case2 className path segments name pointee rest hcolumn ih =>
    obtain ⟨hclass, hpointee⟩ := hs.columnOf_ok hcolumn
    refine ⟨hclass, ?_⟩
    simp only [Route.reached, Route.members?, List.mem_cons, or_assoc] at h
    rcases h with rfl | h
    · exact hpointee
    · exact (ih h).2
  | case3 className path segments name related foreign position rest hcolumn ih =>
    obtain ⟨hclass, hrelated⟩ := hs.columnOf_ok hcolumn
    refine ⟨hclass, ?_⟩
    simp only [Route.reached, Route.members?, List.mem_cons, or_false, reduceCtorEq] at h
    rcases h with rfl | h
    · exact hrelated
    · exact (ih (.inl h)).2
  | case4 className path segments name ty hcolumn =>
    obtain ⟨hclass, hty⟩ := hs.columnOf_ok hcolumn
    refine ⟨hclass, ?_⟩
    cases ty with
    | relation related foreign =>
      have heq : related = target := by
        cases foreign <;> simpa [Route.reached, Route.members?, eq_comm] using h
      exact heq ▸ hty
    | _ => simp [Route.reached, Route.members?] at h
  | case5 | case6 | case7 => simp [Route.reached, Route.members?] at h

/-- A class that a key leads to and the class it is read on. -/
theorem Accepted.key_reaches (hs : s.Accepted) {target : String}
    (h : target ∈ s.reached className path ∨ s.members? className path = some target) :
    (s.class? className).isSome = true ∧ (s.class? target).isSome = true := by
  unfold reached members? at h
  by_cases hself : path = Filter.selfKey
  · simp [hself] at h
  · rw [if_neg hself, if_neg hself] at h
    unfold route at h
    split at h
    next => exact hs.routeOf_reaches h
    next => simp [Route.reached, Route.members?] at h

/-- A class that a filter for elements leads to and the class of the elements' owner. -/
theorem Accepted.elements_reach (hs : s.Accepted) {reach : String → List String} {target : String}
    (hreach : ∀ {related}, target ∈ reach related →
      (s.class? related).isSome = true ∧ (s.class? target).isSome = true)
    (h : target ∈ s.reachedBelow className path reach) :
    (s.class? className).isSome = true ∧ (s.class? target).isSome = true := by
  rcases mem_reachedBelow.mp h with h | ⟨related, hrelated, rfl | h⟩
  · exact hs.key_reaches (.inl h)
  · exact hs.key_reaches (.inr hrelated)
  · exact ⟨(hs.key_reaches (.inr hrelated)).1, (hreach h).2⟩

end Schema

mutual

/-- A filter reaches classes of the schema, and only from one. -/
theorem Filter.reaches_classes {s : Schema} (hs : s.Accepted) {target : String} :
    ∀ {className : String} (f : Filter), target ∈ f.reached s className →
      (s.class? className).isSome = true ∧ (s.class? target).isSome = true
  | _, .connective op items, h => Filter.items_reach_classes hs items h
  | _, .field path test, h => FieldTest.reaches_classes hs test h
  | _, .expr e, h => by
    obtain ⟨path, -, htarget⟩ := List.mem_flatMap.mp h
    exact hs.key_reaches (.inl htarget)

/-- The items of a list reach classes that exist. -/
theorem Filter.items_reach_classes {s : Schema} (hs : s.Accepted) {target : String} :
    ∀ {className : String} (items : List Filter), target ∈ Filter.itemsReached s className items →
      (s.class? className).isSome = true ∧ (s.class? target).isSome = true
  | _, f :: fs, h => by
    rcases List.mem_append.mp h with h | h
    · exact Filter.reaches_classes hs f h
    · exact Filter.items_reach_classes hs fs h

/-- A test reaches classes that exist. -/
theorem FieldTest.reaches_classes {s : Schema} (hs : s.Accepted) {target : String} :
    ∀ {className path : String} (t : FieldTest), target ∈ t.reached s className path →
      (s.class? className).isSome = true ∧ (s.class? target).isSome = true
  | _, _, .every f, h => hs.elements_reach (fun h => Filter.reaches_classes hs f h) h
  | _, _, .any f, h => hs.elements_reach (fun h => Filter.reaches_classes hs f h) h
  | _, _, .not t, h => FieldTest.reaches_classes hs t h
  | _, _, .compare .., h | _, _, .oneOf _, h | _, _, .noneOf _, h | _, _, .subset _, h
  | _, _, .superset _, h | _, _, .intersect _, h | _, _, .pattern .., h | _, _, .startsWith _, h
  | _, _, .endsWith _, h | _, _, .size _, h | _, _, .empty _, h => hs.key_reaches (.inl h)

end

/-! ## Routes by their columns -/

namespace Schema

variable {s : Schema} {className path : String}

/-- A path with no column is refused with the error of its resolution. -/
theorem routeOf_of_error {segments : List Segment} {e : Error}
    (h : s.columnOf className path segments = .error e) :
    s.routeOf className path segments = .refused e := by
  rw [routeOf]
  split <;> simp_all

/-- A path that is a column leads to it. -/
theorem routeOf_of_column {segments : List Segment} {name : String} {ty : FieldType}
    (h : s.columnOf className path segments = .ok ⟨name, ty, .column⟩) :
    s.routeOf className path segments = .column name ty := by
  rw [routeOf]
  split <;> simp_all

/-- A path through a pointer goes on at the class the pointer leads to. -/
theorem routeOf_of_pointer {segments rest : List Segment} {name target : String}
    (h : s.columnOf className path segments = .ok ⟨name, .pointer target, .pointer rest⟩) :
    s.routeOf className path segments =
      .hop name target (s.routeOf target (Path.render rest) rest) := by
  rw [routeOf]
  split <;> simp_all

/-- A path to an element of a relation goes on at the class of its members. -/
theorem routeOf_of_relationElement {segments rest : List Segment} {name target : String}
    {foreign : Option String} {i : Nat}
    (h : s.columnOf className path segments =
      .ok ⟨name, .relation target foreign, .relationElement i rest⟩) :
    s.routeOf className path segments =
      .relationElement name target i (s.routeOf target (Path.render rest) rest) := by
  rw [routeOf]
  split <;> grind

/-! ## Default fields -/

/-- A default field holds no reference, so to read it asks for no guard. -/
theorem reached_default {document : Json} (hs : ofJson document = .ok s) {field : String}
    (kind : PrimitiveKind) (hfield : (field, .primitive kind none) ∈ Field.defaults) :
    s.reached className field = [] := by
  have hname : isName field = true :=
    (show ∀ f ∈ Field.defaults, isName f.1 = true by decide) _ hfield
  unfold reached
  split
  next => rfl
  next =>
    rw [route, Path.parse_name hname]
    dsimp only
    cases hc : s.class? className with
    | none =>
      have hcolumn : s.columnOf className field [.field field] =
          .error (.path (.unknownClass className)) := by
        simp only [columnOf, getClass, hc]
      rw [routeOf_of_error hcolumn]
      rfl
    | some c =>
      have htype := field?_default_of_ofJson hs hc _ hfield
      have hcolumn : s.columnOf className field [.field field] =
          .ok ⟨field, .primitive kind none, .column⟩ := by
        simp only [columnOf, getClass, hc, htype, columnBelow]
      rw [routeOf_of_column hcolumn]
      rfl

end Schema

/-! ## Simplification -/

/-- A negated test reaches what the test does. -/
theorem FieldTest.reached_negate {s : Schema} {className path : String} (t : FieldTest) :
    t.negate.reached s className path = t.reached s className path := by
  cases t <;> rfl

namespace Filter

variable {s : Schema} {className : String}

/-- Connecting reaches nothing beyond what the items do. -/
theorem reached_connect_subset {op : Connective} {items : List Filter} :
    (connect op items).reached s className ⊆ items.flatMap (reached s className) :=
  connect_subset reached_connective

end Filter

mutual

/-- A simplified filter reaches no class that the filter itself does not. -/
theorem Filter.reached_simplify_subset {s : Schema} :
    ∀ {className : String} (f : Filter), f.simplify.reached s className ⊆ f.reached s className
  | _, .connective op items => by
    rw [Filter.simplify, Filter.reached]
    refine List.Subset.trans Filter.reached_connect_subset ?_
    rw [← Filter.itemsReached_eq_flatMap]
    exact Filter.itemsReached_simplify_subset items
  | _, .field path test => FieldTest.reached_simplify_subset test
  | _, .expr e => by
    intro target htarget
    obtain ⟨path, hpath, hreached⟩ := List.mem_flatMap.mp htarget
    exact List.mem_flatMap.mpr ⟨path, e.keys_simplify_subset hpath, hreached⟩

/-- Simplified items reach nothing beyond what the items do. -/
theorem Filter.itemsReached_simplify_subset {s : Schema} :
    ∀ {className : String} (items : List Filter),
      Filter.itemsReached s className (Filter.simplifyItems items) ⊆
        Filter.itemsReached s className items
  | _, [] => List.Subset.refl _
  | _, f :: fs => append_subset_append (Filter.reached_simplify_subset f)
      (Filter.itemsReached_simplify_subset fs)

/-- A simplified test reaches nothing beyond what the test does. -/
theorem FieldTest.reached_simplify_subset {s : Schema} :
    ∀ {className path : String} (t : FieldTest),
      t.simplify.reached s className path ⊆ t.reached s className path
  | _, _, .not t => by
    rw [FieldTest.simplify, FieldTest.reached_negate, FieldTest.reached]
    exact FieldTest.reached_simplify_subset t
  | _, _, .every f =>
    Schema.reachedBelow_subset fun target => Filter.reached_simplify_subset f
  | _, _, .any f =>
    Schema.reachedBelow_subset fun target => Filter.reached_simplify_subset f
  | _, _, .compare .. | _, _, .oneOf _ | _, _, .noneOf _ | _, _, .subset _ | _, _, .superset _
  | _, _, .intersect _ | _, _, .pattern .. | _, _, .startsWith _ | _, _, .endsWith _
  | _, _, .size _ | _, _, .empty _ => List.Subset.refl _

end

end ObjectQuery
