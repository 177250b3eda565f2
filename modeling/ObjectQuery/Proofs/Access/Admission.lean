import ObjectQuery.Access.Admission
import ObjectQuery.Proofs.Result

/-!
# What an admitted request has passed

A request is admitted by a chain of checks, each of which may refuse it. One lemma for each part
says which checks an admitted request has passed and what was read from it.
-/

namespace ObjectQuery.Gate

variable {g : Gate} {className : String}

/-- The client's filter: what its request says, simplified, or none. -/
theorem readFilter_ok {raw : Option Json} {filter : Filter} (h : g.readFilter raw = .ok filter) :
    raw = none ∧ filter = .truth ∨
      ∃ v f, raw = some v ∧ Filter.decode false v = .ok f ∧ filter = f.simplify := by
  cases raw with
  | none => exact .inl ⟨rfl, (Result.pure_eq_ok.mp h).symm⟩
  | some v =>
    simp only [readFilter, Result.bind_eq_ok, Result.pure_eq_ok] at h
    obtain ⟨_, _, f, hf, rfl⟩ := h
    exact .inr ⟨v, f, rfl, hf, rfl⟩

/-- Paths are authorized together when each of them is. -/
theorem authorizePaths_ok {paths : List String} :
    g.authorizePaths className paths = .ok () ↔
      ∀ p ∈ paths, g.authorizePath className p = .ok () :=
  Result.forM_eq_ok

/-- An accepted filter is the one that was read, and all its paths are authorized. -/
theorem acceptFilter_ok {raw : Option Json} {filter : Filter}
    (h : g.acceptFilter className raw = .ok filter) :
    g.readFilter raw = .ok filter ∧
      ∀ p ∈ filter.keyPaths, g.authorizePath className p = .ok () := by
  simp only [acceptFilter, Result.bind_eq_ok, Result.pure_eq_ok] at h
  obtain ⟨f, hf, _, hpaths, rfl⟩ := h
  exact ⟨hf, authorizePaths_ok.mp hpaths⟩

/-- What stands behind a relation is the class of its members, which is open to `find`. -/
theorem relationTarget_ok {path target : String}
    (h : g.relationTarget className path = .ok target) :
    g.authorizePath className path = .ok () ∧
      (∃ foreign, g.schema.typeAt className path = .ok (some (.relation target foreign))) ∧
      ∃ c, g.openClass target .find = .ok c := by
  simp only [relationTarget, Result.bind_eq_ok] at h
  obtain ⟨_, hpath, ty, hty, h⟩ := h
  split at h
  · next found foreign =>
    simp only [Result.bind_eq_ok, Result.pure_eq_ok] at h
    obtain ⟨c, hc, rfl⟩ := h
    exact ⟨hpath, ⟨foreign, hty⟩, c, hc⟩
  · cases h

/-- An accepted group keeps its name, and all paths of its accumulator are authorized. -/
theorem acceptGroup_ok {target name : String} {raw : Json} {accepted : String × Accumulator}
    (h : g.acceptGroup target (name, raw) = .ok accepted) :
    accepted.1 = name ∧ Accumulator.decode raw = .ok accepted.2 ∧
      ∀ p ∈ accepted.2.keyPaths, g.authorizePath target p = .ok () := by
  unfold acceptGroup at h
  dsimp only at h
  rcases Result.of_ite_eq_ok h with h | h
  · obtain ⟨_, hthrow, _⟩ := Result.bind_eq_ok.mp h
    exact (Result.throw_eq_ok.mp hthrow).elim
  · simp only [Result.bind_eq_ok, Result.pure_eq_ok] at h
    obtain ⟨_, _, accumulator, hread, _, hpaths, rfl⟩ := h
    exact ⟨rfl, hread, authorizePaths_ok.mp hpaths⟩

/-- The groups on a relation are accepted for the class of its members. -/
theorem acceptGroups_ok {relation : String} {groups : Table Json}
    {accepted : String × Table Accumulator}
    (h : g.acceptGroups className (relation, groups) = .ok accepted) :
    accepted.1 = relation ∧ ∃ target, g.relationTarget className relation = .ok target ∧
      groups.mapM (g.acceptGroup target) = .ok accepted.2 := by
  simp only [acceptGroups, Result.bind_eq_ok, Result.pure_eq_ok] at h
  obtain ⟨target, htarget, table, htable, rfl⟩ := h
  exact ⟨rfl, target, htarget, htable⟩

/-- A sort key that names no group is a path the caller may read. -/
theorem acceptSort_ok {groups : Table (Table Accumulator)} {raw : Option Json}
    {sort : Option SortSpec} (h : g.acceptSort className groups raw = .ok sort) :
    raw = none ∧ sort = none ∨ ∃ v spec, raw = some v ∧ SortSpec.decode v = .ok spec ∧
      sort = some spec ∧ ∀ p ∈ spec.keyPaths, g.authorizeSortKey className groups p = .ok () := by
  cases raw with
  | none => exact .inl ⟨rfl, (Result.pure_eq_ok.mp h).symm⟩
  | some v =>
    simp only [acceptSort, Result.bind_eq_ok, Result.pure_eq_ok] at h
    obtain ⟨_, _, spec, hspec, _, hkeys, rfl⟩ := h
    exact .inr ⟨v, spec, rfl, hspec, rfl, Result.forM_eq_ok.mp hkeys⟩

/-- An accepted query has its filter, groups, order and nested queries each accepted. -/
theorem acceptBase_ok {options : FindOptions} {base : BaseQuery}
    (h : g.acceptBase className options = .ok base) :
    g.acceptFilter className options.filter = .ok base.filter ∧
      options.groups.mapM (g.acceptGroups className) = .ok base.groups ∧
      g.acceptSort className base.groups options.sort = .ok base.sort ∧
      g.acceptNested className options.nested = .ok base.nested ∧
      base.skip = options.skip ∧ base.limit = options.limit := by
  obtain ⟨filter, sort, includes, nested, groups, limit, skip, relatedBy⟩ := options
  simp only [acceptBase, Result.bind_eq_ok, Result.pure_eq_ok] at h
  obtain ⟨_, hfilter, _, hgroups, _, hsort, _, hnested, rfl⟩ := h
  exact ⟨hfilter, hgroups, hsort, hnested, rfl, rfl⟩

/-- Nested queries are accepted one by one, each for the class of its relation. -/
theorem acceptNested_ok {entries : List (String × FindOptions)} {table : Table BaseQuery}
    (h : g.acceptNested className entries = .ok table) :
    List.Forall₂ (fun entry accepted => entry.1 = accepted.1 ∧ ∃ target,
      g.relationTarget className entry.1 = .ok target ∧
        g.acceptBase target entry.2 = .ok accepted.2) entries table := by
  induction entries generalizing table with
  | nil =>
    obtain rfl := Result.pure_eq_ok.mp h
    exact .nil
  | cons entry rest ih =>
    simp only [acceptNested, Result.bind_eq_ok, Result.pure_eq_ok] at h
    obtain ⟨target, htarget, base, hbase, tail, htail, rfl⟩ := h
    exact .cons ⟨rfl, target, htarget, hbase⟩ (ih htail)

/-- Beside the client's own filter an admitted query has the conditions of visibility. -/
theorem accept_ok {options : FindOptions} {action : QueryAction} {q : Query}
    (h : g.accept className options action = .ok q) :
    ∃ c filter base includes relatedBy,
      g.schema.getClass className = .ok c ∧
      g.readFilter options.filter = .ok filter ∧
      g.authorizeClass className c (neededAction filter action) = .ok () ∧
      g.acceptBase className options = .ok base ∧
      g.expandIncludes className options.includes = .ok includes ∧
      g.authorizePaths className includes = .ok () ∧
      options.relatedBy.mapM (g.checkRelatedBy className) = .ok relatedBy ∧
      q = {
        className, includes, relatedBy
        base := { base with filter := Filter.all (base.filter :: g.hostConditions className ++
          g.listConditions c action ++ [Filter.alive g.now]) }
        extraFilter := some g.visible } := by
  simp only [accept, Result.bind_eq_ok, Result.pure_eq_ok] at h
  obtain ⟨c, hc, filter, hfilter, _, hclass, base, hbase, includes, hincludes, _, hpaths,
    relatedBy, hrelated, rfl⟩ := h
  exact ⟨c, filter, base, includes, relatedBy, hc, hfilter, hclass, hbase, hincludes, hpaths,
    hrelated, rfl⟩

end ObjectQuery.Gate
