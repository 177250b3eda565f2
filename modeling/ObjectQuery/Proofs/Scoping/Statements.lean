import ObjectQuery.Proofs.Columns.Admitted
import ObjectQuery.Proofs.Scoping.Writing

/-!
# Scoping of statements

Whatever a query asks for, each query in its statement reads through aliases that are visible to it,
and each pointer is joined once. The names that aliases are taken from are apart, but for the name
of a class: nothing keeps a class from being named like an alias of the counter or like a named
subquery. For any other class no alias hides another one that is read.
-/

namespace ObjectQuery

open Sql

variable {s : Schema} {q : Query} {sql : Sql}

/-! ## Prepared stores -/

/-- The statements that prepare a store read nothing. -/
theorem Tables.closed_of_mem_prepare {K : Closedness} {statements : List Sql}
    (h : prepare s = .ok statements) (hsql : sql ∈ statements) : Closed K sql := by
  obtain ⟨tables, htables, hstatements⟩ := Result.bind_eq_ok.mp h
  obtain rfl := Result.pure_eq_ok.mp hstatements
  rcases List.mem_append.mp hsql with hvectors | hsql
  · split at hvectors
    · obtain rfl := List.mem_singleton.mp hvectors
      exact closed_raw
    · cases hvectors
  obtain ⟨own, hown, hsql⟩ := List.mem_flatten.mp hsql
  obtain ⟨⟨className, c⟩, -, hclass⟩ := Result.exists_of_mapM_eq_ok htables own hown
  obtain ⟨indexes, hindexes, hall⟩ := Result.bind_eq_ok.mp hclass
  obtain rfl := Result.pure_eq_ok.mp hall
  rcases List.mem_append.mp hsql with hsql | hindex
  · rcases List.mem_cons.mp hsql with rfl | hadded
    · simp [createTable]
    · obtain ⟨column, -, hadded⟩ := List.mem_filterMap.mp hadded
      obtain ⟨type, -, rfl⟩ := Option.map_eq_some_iff.mp hadded
      simp
  · obtain ⟨index, -, hindex⟩ := Result.exists_of_mapM_eq_ok hindexes sql hindex
    cases index with
    | keys entries unique =>
      obtain ⟨-, hkeys⟩ := Result.refuse_eq_ok.mp hindex
      obtain ⟨columns, -, hkeys⟩ := Result.bind_eq_ok.mp hkeys
      cases hkeys
      cases unique <;> simp
    | vector field method =>
      obtain ⟨dimension, -, hvector⟩ := Result.bind_eq_ok.mp hindex
      cases hvector
      simp

/-- A statement without aliases is sound. -/
theorem sound_of_closed {root : String} (h : Closed (Site.bare root).closedness sql) :
    ∀ level ∈ sql.levels, level.Sound root := by
  unfold levels
  split
  next subqueries separator space query =>
    simp only [closed_seq, closed_join, List.forall_mem_cons] at h
    obtain ⟨-, hsubqueries, -, hquery, -⟩ := h
    refine List.forall_mem_append.mpr ⟨fun level hlevel => ?_, ?_⟩
    · obtain ⟨sub, hsub, hmem⟩ := List.mem_flatMap.mp hlevel
      exact (hsubqueries sub hsub).levels [] [] (Site.sees_nil rfl) level hmem
    · exact hquery.block.levels [] [] (Site.sees_nil rfl)
  next => exact h.block.levels [] [] (Site.sees_nil rfl)

/-! ## Statements -/

/--
A statement for the objects of a query, for what refers to objects, or for the tables of a schema.
-/
inductive Query.Emits (s : Schema) (q : Query) : Sql → Prop where
  | operation {op : Operation} {n n' : Nat} {sql : Sql}
    (h : Compile.Runs (op.compile s q) n sql n') : Emits s q sql
  | nonrefs {n n' : Nat} {sql : Sql} (h : Compile.Runs (Read.nonrefs s q) n sql n') : Emits s q sql
  | refs {className : String} {ids : List String} {n n' : Nat} {sql : Sql}
    (h : Compile.Runs (Read.refs s className ids) n sql n') : Emits s q sql
  | prepare {statements : List Sql} {sql : Sql} (h : Tables.prepare s = .ok statements)
    (hsql : sql ∈ statements) : Emits s q sql

/-- What is done with the objects of a query is sound. -/
theorem Operation.sound_compile (op : Operation) {n n' : Nat}
    (h : Compile.Runs (op.compile s q) n sql n') :
    ∀ level ∈ sql.levels, level.Sound q.className := by
  cases op with
  | find lock => exact (Read.reads_find h).sound
  | count => exact (Read.reads_count h).sound
  | random weight => exact (Read.reads_random h).sound
  | explain => exact (Read.reads_explain h).sound
  | insert objects => exact Write.yields_insert_sound h
  | update document => exact Write.yields_update_sound h
  | upsert document object => exact Write.yields_upsert_sound h
  | delete => exact Write.yields_delete_sound h

namespace Query.Emits

/-- Every query in a statement is sound, or no two aliases are visible to it. -/
theorem sound (h : q.Emits s sql) : ∀ level ∈ sql.levels, level.Sound q.className ∨
    level.Bound ∧ level.joins = [] ∧ level.visible.length ≤ 1 := by
  intro level hlevel
  cases h with
  | operation h => exact .inl (Operation.sound_compile _ h level hlevel)
  | nonrefs h => exact .inl ((Read.reads_nonrefs h).sound level hlevel)
  | refs h => exact .inr (Read.yields_refs h level hlevel)
  | prepare h hsql =>
    exact .inl (sound_of_closed (Tables.closed_of_mem_prepare h hsql) level hlevel)

/-- To set labels of the tags on notes from one city, the notes are joined to the tags. -/
theorem emits_of_tagsFromRome :
    ∃ q sql, Gate.taggedGate.accept "Tag" Gate.tagsFromRome .update = .ok q ∧
      q.className = "Tag" ∧ q.Emits Gate.taggedSchema sql ∧
      ∃ level ∈ sql.levels, level.visible = ["Tag", "_p1"] ∧ level.joins ≠ [] := by
  obtain ⟨q, hq, hfound⟩ := Result.exists_of_any
    (x := Gate.taggedGate.accept "Tag" Gate.tagsFromRome .update)
    (p := fun q => q.className = "Tag" && (((Operation.update [("label", .str "x")]).compile
      Gate.taggedSchema q).run.run 0).1.toOption.any fun sql => sql.levels.any fun level =>
        level.visible = ["Tag", "_p1"] && !level.joins.isEmpty)
    (by decide +kernel)
  obtain ⟨hclass, hcompiles⟩ := Bool.and_eq_true_iff.mp hfound
  obtain ⟨sql, n', hrun, hlevels⟩ := Compile.exists_runs_of_any hcompiles
  obtain ⟨level, hlevel, hjoined⟩ := List.any_eq_true.mp hlevels
  obtain ⟨hvisible, hjoins⟩ := Bool.and_eq_true_iff.mp hjoined
  exact ⟨q, sql, hq, of_decide_eq_true hclass, .operation hrun, level, hlevel,
    of_decide_eq_true hvisible, by simpa using hjoins⟩

/--
Every query in a statement reads through aliases of its FROM clause or of the queries around it. Its
joins are those of a scope in which, at every stage, each key and each alias was there once and each
join read backwards; and a pointer that is asked for again is found among them.
-/
theorem wellScoped (h : q.Emits s sql) :
    (∀ level ∈ sql.levels, level.Bound ∧ level.Joined) ∧
    (∀ owner column className label again,
      InScope.Shares ((q.context s).pointerJoin owner column className label)
        ((q.context s).pointerJoin owner column className again)) ∧
    ∀ owner route,
      InScope.Shares ((q.context s).locate owner route) ((q.context s).locate owner route) := by
  refine ⟨fun level hlevel => ?_, fun _ _ _ _ _ => Context.shares_pointerJoin,
    fun _ _ => Context.shares_locate⟩
  rcases h.sound level hlevel with hsound | ⟨hbound, hjoins, -⟩
  · exact ⟨hsound.bound, hsound.joined⟩
  · exact ⟨hbound, .inl hjoins⟩

/-- The queries of such a statement are well scoped, the one with a join among them. -/
theorem wellScoped_of_tagsFromRome :
    ∃ q sql, Gate.taggedGate.accept "Tag" Gate.tagsFromRome .update = .ok q ∧
      q.Emits Gate.taggedSchema sql ∧
      ∃ level ∈ sql.levels, level.joins ≠ [] ∧ level.Bound ∧ level.Joined := by
  obtain ⟨q, sql, hq, -, hemits, level, hlevel, -, hjoins⟩ := emits_of_tagsFromRome
  exact ⟨q, sql, hq, hemits, level, hlevel, hjoins, hemits.wellScoped.1 level hlevel⟩

/--
Where the class of a query is not named like an alias of the counter, one of the compiler's own or a
named subquery, no two aliases that are visible to a query in its statement are alike, but for the
compiler's own; what is read through one of these is of the FROM clause itself.
-/
theorem unambiguous_levels (h : q.Emits s sql) (hname : Unreserved q.className) :
    ∀ level ∈ sql.levels, level.visible.length ≤ 1 ∨ level.Unambiguous q.className := by
  intro level hlevel
  rcases h.sound level hlevel with hsound | ⟨-, -, hsingle⟩
  · exact .inr (hsound.unambiguous hname)
  · exact .inl hsingle

/-- A class of tags is not named like anything else in a statement. -/
theorem unreserved_tag : Unreserved "Tag" where
  drawn _ := Aliases.ne_aliasOf (by decide) _
  named := by decide
  own := by decide

/-- Where tags and the notes that they are on are visible, their aliases are apart. -/
theorem unambiguous_levels_of_tagsFromRome :
    ∃ q sql, Gate.taggedGate.accept "Tag" Gate.tagsFromRome .update = .ok q ∧
      q.Emits Gate.taggedSchema sql ∧ Unreserved q.className ∧
      ∃ level ∈ sql.levels, level.visible = ["Tag", "_p1"] ∧ level.Unambiguous q.className := by
  obtain ⟨q, sql, hq, hclass, hemits, level, hlevel, hvisible, -⟩ := emits_of_tagsFromRome
  have hname : Unreserved q.className := hclass ▸ unreserved_tag
  refine ⟨q, sql, hq, hemits, hname, level, hlevel, hvisible, ?_⟩
  refine (hemits.unambiguous_levels hname level hlevel).resolve_left ?_
  simp [hvisible]

/--
On a class named like the first alias, the members of a relation go by the name of the root around
them.
-/
theorem ambiguous_of_capturedTeams :
    Schema.ofJson Gate.capturedTeams = .ok Gate.capturedSchema ∧
      ∃ q sql, Gate.accept { Gate.taggedGate with schema := Gate.capturedSchema } "_p1"
          { filter := some (.obj [("users", .obj [("$some", .obj [("name", .str "Ann")])])]) }
          .count = .ok q ∧
        q.Emits Gate.capturedSchema sql ∧
        ∃ level ∈ sql.levels, level.own = ["_p1"] ∧ level.around = ["_p1"] ∧
          ¬ Distinct level.visible := by
  refine ⟨by rfl, ?_⟩
  obtain ⟨q, hq, hcompiles⟩ := Result.exists_of_any
    (x := Gate.accept { Gate.taggedGate with schema := Gate.capturedSchema } "_p1"
      { filter := some (.obj [("users", .obj [("$some", .obj [("name", .str "Ann")])])]) } .count)
    (p := fun q => ((Operation.count.compile Gate.capturedSchema q).run.run 0).1.toOption.any
      fun sql => sql.levels.any fun level => level.own = ["_p1"] && level.around = ["_p1"])
    (by decide +kernel)
  obtain ⟨sql, n', hrun, hsql⟩ := Compile.exists_runs_of_any hcompiles
  obtain ⟨level, hlevel, hfound⟩ := List.any_eq_true.mp hsql
  obtain ⟨hown, haround⟩ := Bool.and_eq_true_iff.mp hfound
  have hown : level.own = ["_p1"] := of_decide_eq_true hown
  have haround : level.around = ["_p1"] := of_decide_eq_true haround
  refine ⟨q, sql, hq, .operation hrun, level, hlevel, hown, haround, ?_⟩
  rw [Level.visible, hown, haround, Distinct]
  decide

end Query.Emits

end ObjectQuery
