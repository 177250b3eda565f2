import ObjectQuery.Proofs.Expr.Keys
import ObjectQuery.Proofs.Filter.Simplify

/-!
# What a filter reads

A filter looks at an object under the keys of its own scope. A filter for elements looks at the
elements of what stands there, so its keys are rewritten with nothing: they are none of the object.
All of them are among the paths that the filter reports, and so objects that agree on the reported
paths are accepted alike.
-/

namespace ObjectQuery

namespace Filter

/-! ## Keys of one scope -/

mutual

/-- The keys under which a filter looks at the object itself, in the order written. -/
def scopeKeys : Filter → List String
  | .connective _ items => itemScopeKeys items
  | .field path _ => [path]
  | .expr e => e.keys

def itemScopeKeys : List Filter → List String
  | [] => []
  | f :: fs => scopeKeys f ++ itemScopeKeys fs

end

/-- Induction over the filters of one scope: none for those inside the test of a field. -/
@[elab_as_elim]
theorem scope_induction {motive : Filter → Prop}
    (connective : ∀ op items, (∀ g ∈ items, motive g) → motive (.connective op items))
    (field : ∀ path test, motive (.field path test))
    (expr : ∀ e, motive (.expr e)) (filter : Filter) : motive filter := by
  cases filter with
  | connective op items =>
    exact connective op items fun g _ => scope_induction connective field expr g
  | field path test => exact field path test
  | expr e => exact expr e

@[simp] theorem itemScopeKeys_eq_flatMap (items : List Filter) :
    itemScopeKeys items = items.flatMap scopeKeys := by
  induction items with
  | nil => rfl
  | cons g rest ih => rw [itemScopeKeys, ih, List.flatMap_cons]

@[simp] theorem itemKeysBy_eq_flatMap (f : String → String) (items : List Filter) :
    itemKeysBy f items = items.flatMap (keysBy f) := by
  induction items with
  | nil => rfl
  | cons g rest ih => rw [itemKeysBy, ih, List.flatMap_cons]

@[simp] theorem itemExprs_eq_flatMap (items : List Filter) :
    itemExprs items = items.flatMap exprs := by
  induction items with
  | nil => rfl
  | cons g rest ih => rw [itemExprs, ih, List.flatMap_cons]

@[simp] theorem mapItemKeys_eq_map (f : String → String) (items : List Filter) :
    mapItemKeys f items = items.map (mapKey f) := by
  induction items with
  | nil => rfl
  | cons g rest ih => rw [mapItemKeys, ih, List.map_cons]

/-- The keys of the scope are reported, with others of the filters for elements. -/
theorem scopeKeys_subset (filter : Filter) : filter.scopeKeys ⊆ filter.keysBy id := by
  induction filter using scope_induction with
  | connective op items ih =>
    intro path hpath
    rw [scopeKeys, itemScopeKeys_eq_flatMap] at hpath
    rw [keysBy, itemKeysBy_eq_flatMap]
    obtain ⟨g, hg, hkey⟩ := List.mem_flatMap.mp hpath
    exact List.mem_flatMap.mpr ⟨g, hg, ih g hg hkey⟩
  | field path test =>
    intro other hother
    obtain rfl := List.mem_singleton.mp hother
    exact List.mem_cons_self
  | expr e => simp [scopeKeys, keysBy]

/-- A key of the scope is one of the reported paths, unless it stands for an element. -/
theorem mem_keyPaths_of_scopeKeys {filter : Filter} {path : String}
    (h : path ∈ filter.scopeKeys) (hself : path ≠ selfKey) : path ∈ filter.keyPaths := by
  apply List.mem_eraseDups.mpr
  exact List.mem_filter.mpr ⟨filter.scopeKeys_subset h, decide_eq_true hself⟩

/-- The key of an element itself is no path of a filter. -/
theorem selfKey_not_mem_keyPaths (filter : Filter) : selfKey ∉ filter.keyPaths := by
  intro h
  have hkept := (List.mem_filter.mp (List.mem_eraseDups.mp h)).2
  exact of_decide_eq_true hkept rfl

/-! ## Evaluation -/

variable {f : String → String} {a b : Json}

/-- A filter with the keys of its scope rewritten accepts what it accepted before. -/
theorem eval_mapKey (filter : Filter) (hself : selfKey ∉ filter.scopeKeys)
    (hnew : ∀ path ∈ filter.scopeKeys, f path ≠ selfKey)
    (h : Value.Agree f filter.scopeKeys a b) : (filter.mapKey f).eval b = filter.eval a := by
  induction filter using scope_induction with
  | connective op items ih =>
    rw [mapKey, mapItemKeys_eq_map, eval_connective, eval_connective, List.map_map]
    rw [scopeKeys, itemScopeKeys_eq_flatMap] at hself hnew h
    refine congrArg op.join (List.map_congr_left fun g hg => ?_)
    have hkeys : g.scopeKeys ⊆ items.flatMap scopeKeys := by
      intro path hpath
      exact List.mem_flatMap.mpr ⟨g, hg, hpath⟩
    apply ih g hg
    · exact fun hmem => hself (hkeys hmem)
    · exact fun path hpath => hnew path (hkeys hpath)
    · exact h.of_subset hkeys
  | field path test =>
    have hmem : path ∈ (field path test).scopeKeys := List.mem_cons_self
    have hpath : path ≠ selfKey := by
      rintro rfl
      exact hself hmem
    rw [mapKey, eval, eval, if_neg (hnew path hmem), if_neg hpath, h path hmem]
  | expr e => rw [mapKey, eval, eval, e.eval_mapKey h]

@[simp] theorem mapKey_id (filter : Filter) : filter.mapKey id = filter := by
  induction filter using scope_induction with
  | connective op items ih =>
    rw [mapKey, mapItemKeys_eq_map]
    exact congrArg (connective op) ((List.map_congr_left ih).trans items.map_id)
  | field path test => rfl
  | expr e => rw [mapKey, Expr.mapKey_id]

/-! ## Requests -/

/-- Outside of a filter for elements no test is of the element. -/
theorem decodeMember_selfKey (operand : Json) (filter : Filter) :
    decodeMember false (selfKey, operand) ≠ .ok filter := by
  intro h
  cases h

/-- What is read from a value stands for an element in no test, only ever in an expression. -/
def ReadsOutside (raw : Json) : Prop :=
  ∀ filter, decode false raw = .ok filter → selfKey ∈ filter.scopeKeys →
    ∃ e ∈ filter.exprs, selfKey ∈ e.keys

namespace ReadsOutside

/-- A connective reads the element itself only in an expression of one of its items. -/
theorem connective {op : Connective} {fs : List Filter}
    (ih : ∀ g ∈ fs, selfKey ∈ g.scopeKeys → ∃ e ∈ g.exprs, selfKey ∈ e.keys)
    (h : selfKey ∈ (Filter.connective op fs).scopeKeys) :
    ∃ e ∈ (Filter.connective op fs).exprs, selfKey ∈ e.keys := by
  rw [scopeKeys, itemScopeKeys_eq_flatMap] at h
  obtain ⟨g, hg, hkey⟩ := List.mem_flatMap.mp h
  obtain ⟨e, he, hmem⟩ := ih g hg hkey
  rw [exprs, itemExprs_eq_flatMap]
  exact ⟨e, List.mem_flatMap.mpr ⟨g, hg, he⟩, hmem⟩

/-- The filters of an array read the element itself only in their expressions. -/
theorem items {items : List Json} {fs : List Filter} (ih : ∀ x ∈ items, ReadsOutside x)
    (h : decodeItems false items = .ok fs) :
    ∀ g ∈ fs, selfKey ∈ g.scopeKeys → ∃ e ∈ g.exprs, selfKey ∈ e.keys := by
  intro g hg
  obtain ⟨x, hx, hread⟩ := (decodeItems_ok h).2 g hg
  exact ih x hx g hread

/-- A member of a filter reads the element itself only in its expressions. -/
theorem member {name : String} {operand : Json} {filter : Filter} (ih : ReadsOutside operand)
    (h : decodeMember false (name, operand) = .ok filter) (hself : selfKey ∈ filter.scopeKeys) :
    ∃ e ∈ filter.exprs, selfKey ∈ e.keys := by
  rcases decodeMember_ok h with
    ⟨op, items, fs, rfl, _, hfs, rfl⟩ | ⟨e, _, _, rfl⟩ | ⟨t, _, rfl⟩
  · -- The items are also those of a conjunction that the operand alone is read as.
    exact ih (.connective .and fs) (Result.map_eq_ok.mpr ⟨fs, hfs, rfl⟩) hself
  · exact ⟨e, List.mem_singleton_self e, hself⟩
  · obtain rfl := List.mem_singleton.mp hself
    exact absurd h (decodeMember_selfKey operand _)

end ReadsOutside

/-- Whatever a filter is decoded from, it reads the element itself only in its expressions. -/
theorem readsOutside (raw : Json) : ReadsOutside raw := by
  induction raw using Json.nested_induction with
  | null | bool _ | num _ | str _ =>
    intro _ h
    cases h
  | arr items ih =>
    intro filter h
    obtain ⟨fs, hfs, rfl⟩ := Result.map_eq_ok.mp h
    exact ReadsOutside.connective (ReadsOutside.items ih hfs)
  | obj members ih =>
    intro filter h
    rcases decode_ok h with ⟨_, _, hraw, _, _⟩ | ⟨_, fs, hraw, hfs, hfilter⟩
    · cases hraw
    · cases hraw
      have hall : ∀ g ∈ fs, selfKey ∈ g.scopeKeys → ∃ e ∈ g.exprs, selfKey ∈ e.keys := by
        intro g hg
        obtain ⟨m, hm, hread⟩ := decodeMembers_ok hfs g hg
        exact (ih m hm).member hread
      rcases hfilter with rfl | rfl
      · exact hall filter List.mem_cons_self
      · exact ReadsOutside.connective hall

/-- A filter from a request accepts objects that agree on its paths alike. -/
theorem eval_mapKey_of_decode {raw : Json} {filter : Filter}
    (hread : decode false raw = .ok filter) (hexprs : ∀ e ∈ filter.exprs, selfKey ∉ e.keys)
    (hnew : ∀ path ∈ filter.keyPaths, f path ≠ selfKey)
    (h : Value.Agree f filter.keyPaths a b) : (filter.mapKey f).eval b = filter.eval a := by
  have hself : selfKey ∉ filter.scopeKeys := by
    intro hmem
    obtain ⟨e, he, hkey⟩ := readsOutside raw filter hread hmem
    exact hexprs e he hkey
  have hkeys : filter.scopeKeys ⊆ filter.keyPaths := by
    intro path hpath
    exact mem_keyPaths_of_scopeKeys hpath (ne_of_mem_of_not_mem hpath hself)
  apply filter.eval_mapKey hself
  · exact fun path hpath => hnew path (hkeys hpath)
  · exact h.of_subset hkeys

end Filter

/-! ## Reported paths are all that is read -/

/--
Whatever reads objects reports the paths it reads. Of objects that agree there it makes the same,
also if its keys are rewritten together with the objects. A filter for elements is not rewritten, and
the key of the element itself must not be made one of the object.
-/
theorem keyPaths_complete :
    (∀ f : String → String,
      (∀ (e : Expr) (a b : Json), Value.Agree f e.keyPaths a b →
        (e.mapKey f).eval b = e.eval a) ∧
      (∀ (sort : SortSpec) (a b a' b' : Json), Value.Agree f sort.keyPaths a b →
        Value.Agree f sort.keyPaths a' b' →
          (sort.mapKey f).compare b b' = sort.compare a a') ∧
      (∀ (acc : Accumulator) (rows rows' : List Json),
        List.Forall₂ (Value.Agree f acc.keyPaths) rows rows' →
          (acc.mapKey f).eval rows' = acc.eval rows) ∧
      ∀ (raw : Json) (filter : Filter) (a b : Json), Filter.decode false raw = .ok filter →
        (∀ e ∈ filter.exprs, Filter.selfKey ∉ e.keys) →
        (∀ path ∈ filter.keyPaths, f path ≠ Filter.selfKey) →
        Value.Agree f filter.keyPaths a b → (filter.mapKey f).eval b = filter.eval a) ∧
    (∀ (e : Expr) (a b : Json), Value.Agree id e.keyPaths a b → e.eval b = e.eval a) ∧
    (∀ (sort : SortSpec) (a b a' b' : Json), Value.Agree id sort.keyPaths a b →
      Value.Agree id sort.keyPaths a' b' → sort.compare b b' = sort.compare a a') ∧
    (∀ (acc : Accumulator) (rows rows' : List Json),
      List.Forall₂ (Value.Agree id acc.keyPaths) rows rows' → acc.eval rows' = acc.eval rows) ∧
    ∀ (raw : Json) (filter : Filter) (a b : Json), Filter.decode false raw = .ok filter →
      (∀ e ∈ filter.exprs, Filter.selfKey ∉ e.keys) →
      Value.Agree id filter.keyPaths a b → filter.eval b = filter.eval a := by
  have hrows : ∀ {f : String → String} {acc : Accumulator} {rows rows' : List Json},
      List.Forall₂ (Value.Agree f acc.keyPaths) rows rows' →
        List.Forall₂ (Value.Agree f acc.keys) rows rows' :=
    fun h => h.imp fun _ _ hab => hab.of_eraseDups
  refine ⟨fun f => ⟨?_, ?_, ?_, ?_⟩, ?_, ?_, ?_, ?_⟩
  · exact fun e a b h => e.eval_mapKey h.of_eraseDups
  · exact fun sort a b a' b' h h' => sort.compare_mapKey h h'
  · exact fun acc rows rows' h => acc.eval_mapKey (hrows h)
  · exact fun raw filter a b hread hexprs hnew h =>
      Filter.eval_mapKey_of_decode hread hexprs hnew h
  · intro e a b h
    have hsame := e.eval_mapKey h.of_eraseDups
    rwa [Expr.mapKey_id] at hsame
  · intro sort a b a' b' h h'
    have hsame := sort.compare_mapKey h h'
    rwa [SortSpec.mapKey_id] at hsame
  · intro acc rows rows' h
    have hsame := acc.eval_mapKey (hrows h)
    rwa [Accumulator.mapKey_id] at hsame
  · intro raw filter a b hread hexprs h
    have hnew : ∀ path ∈ filter.keyPaths, id path ≠ Filter.selfKey :=
      fun path hpath => ne_of_mem_of_not_mem hpath filter.selfKey_not_mem_keyPaths
    have hsame := Filter.eval_mapKey_of_decode hread hexprs hnew h
    rwa [Filter.mapKey_id] at hsame

/-- Two objects, one inside the other, and what a filter with a test of elements makes of them. -/
theorem keyPaths_complete_of_note :
    let raw : Json := .obj [("tags", .obj [("$some", .obj [("$", .str "a")])]),
      ("$expr", .obj [("$eq", .arr [.obj [("$key", .str "n")], .obj [("$value", .bool true)]])])]
    let filter : Filter := .connective .and [
      .field "tags" (.any (.field "$" (.compare .eq (.str "a")))),
      .expr (.comparison .eq (.key "n") (.value (.bool true)))]
    let note : Json := .obj [("tags", .arr [.str "b", .str "a"]), ("n", .bool true)]
    let wrapped : Json := .obj [("note", note)]
    Filter.decode false raw = .ok filter ∧ filter.keyPaths = ["tags", "n"] ∧
      (filter.mapKey ("note." ++ ·)).eval wrapped = filter.eval note ∧
      ((Expr.key "n").mapKey ("note." ++ ·)).eval wrapped = (Expr.key "n").eval note ∧
      filter.eval note = true := by
  intro raw filter note wrapped
  have hread : Filter.decode false raw = .ok filter := rfl
  have hpaths : filter.keyPaths = ["tags", "n"] := rfl
  have hagree : Value.Agree ("note." ++ ·) filter.keyPaths note wrapped := by
    rw [hpaths]
    exact List.forall_mem_cons.mpr ⟨rfl, List.forall_mem_singleton.mpr rfl⟩
  have hn : Value.Agree ("note." ++ ·) (Expr.key "n").keyPaths note wrapped :=
    List.forall_mem_singleton.mpr rfl
  have hnew : ∀ path ∈ filter.keyPaths, "note." ++ path ≠ Filter.selfKey := by
    rw [hpaths]
    decide
  have hexprs : ∀ e ∈ filter.exprs, Filter.selfKey ∉ e.keys :=
    List.forall_mem_singleton.mpr (by decide)
  obtain ⟨hexpr, -, -, hfilter⟩ := keyPaths_complete.1 ("note." ++ ·)
  exact ⟨hread, hpaths, hfilter raw filter note wrapped hread hexprs hnew hagree,
    hexpr (.key "n") note wrapped hn, rfl⟩

end ObjectQuery
