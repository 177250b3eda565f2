import ObjectQuery.Proofs.Columns.Writes

/-!
# Columns that a statement touches

A statement for an admitted query starts with one alias, the name of its root's class, and adds those of
the counter. So what it reads through an alias is a column of the class that the alias stands for, unless
the class is named like an alias of the counter. Such a column was created when the store was prepared,
or it is a derived relation inside a shape: what a plan returns and a shape is set to are leaves, and of
these nothing creates a derived one.
-/

namespace ObjectQuery

open Sql

namespace Aliases

variable {s : Schema} {A : Aliases s} {className : String} {sql : Sql}

/-- Before a statement is compiled, the name of its root is all that stands for rows. -/
def ofRoot (s : Schema) (className : String) (hc : (s.class? className).isSome = true) :
    Aliases s where
  rows? label := if label = className then some (.objects className) else none
  known label name h := by
    split at h
    · cases h
      exact hc
    · cases h

theorem has_ofRoot (hc : (s.class? className).isSome = true) :
    (ofRoot s className hc).Has (.root className) := by
  simp [Has, ofRoot, Target.root]

/-- The counter has given out no alias, for none is the name of the root. -/
theorem until_ofRoot (hc : (s.class? className).isSome = true)
    (hname : ∀ n, className ≠ aliasOf (n + 1)) (n : Nat) : (ofRoot s className hc).Until n := by
  intro k hk
  obtain ⟨m, rfl⟩ := Nat.exists_eq_add_one_of_ne_zero (Nat.ne_zero_of_lt hk)
  simp [ofRoot, (hname m).symm]

/-- An alias stands for one class. -/
theorem eq_of_mentions (hsql : Closed A.closedness sql) {label other : String}
    (h : .table ⟨className, label⟩ ∈ sql.mentions) (hother : .table ⟨other, label⟩ ∈ sql.mentions) :
    className = other := by
  have hrows : A.rows? label = some (.objects className) := hsql _ h
  have hrows' : A.rows? label = some (.objects other) := hsql _ hother
  rw [hrows] at hrows'
  cases hrows'
  rfl

/-- A column that is read through the alias of a class is provided in the class. -/
theorem provides_of_mentions (hsql : Closed A.closedness sql) {label name : String}
    (h : .column label name ∈ sql.mentions) (htable : .table ⟨className, label⟩ ∈ sql.mentions)
    (hlabel : label ∉ fixedAliases) : s.Provides className name := by
  have hrows : A.rows? label = some (.objects className) := hsql _ htable
  rcases hsql _ h with hfixed | hother | ⟨found, hfound, hname⟩
  · exact (hlabel hfixed).elim
  · rw [hrows] at hother
    cases hother
  · rw [hrows] at hfound
    cases hfound
    exact hname

end Aliases

namespace Gate

/--
Each column that a statement for an admitted query reads through an alias of a class, and each that it
assigns, was created for the table of the class when the store was prepared, or it is a derived
relation inside a shape; and each alias stands for one class, which is not so where the root's class is
named like an alias of the counter.
-/
theorem accept_touches {document : Json} {g : Gate} (hs : Schema.ofJson document = .ok g.schema)
    {className : String} (hname : ∀ n, className ≠ aliasOf (n + 1)) {options : FindOptions}
    {action : QueryAction} {q : Query} (h : g.accept className options action = .ok q)
    {n n' : Nat} {sql : Sql}
    (hrun : (∃ op : Operation, Compile.Runs (op.compile g.schema q) n sql n') ∨
      Compile.Runs (Read.nonrefs g.schema q) n sql n') :
    (∀ label name owner, .column label name ∈ sql.mentions → .table ⟨owner, label⟩ ∈ sql.mentions →
      label ∉ fixedAliases → g.schema.Creates owner name ∨ g.schema.DerivedLeaf owner name) ∧
    (∀ a ∈ sql.assigned, a.1 = className ∧
      (g.schema.Creates className a.2 ∨ g.schema.DerivedLeaf className a.2)) ∧
    (∀ label owner other, .table ⟨owner, label⟩ ∈ sql.mentions →
      .table ⟨other, label⟩ ∈ sql.mentions → owner = other) ∧
    ∀ statements, Tables.prepare g.schema = .ok statements → ∀ owner name,
      g.schema.Creates owner name ↔ ∃ sql ∈ statements, Tables.Creates owner name sql := by
  have hs := Schema.complete_of_ofJson hs
  obtain ⟨rfl, hc, hrelated⟩ := accept_related h
  have hq : q.Resolved (Aliases.ofRoot g.schema q.className hc) := ⟨Aliases.has_ofRoot hc, hrelated⟩
  have hresolves : ∃ B : Aliases g.schema, sql.Touches B q := by
    have huntil := Aliases.until_ofRoot hc hname n
    rcases hrun with ⟨op, hrun⟩ | hrun
    · obtain ⟨B, -, -, htouches⟩ := op.resolves_compile hs hq huntil hrun
      exact ⟨B, htouches⟩
    · obtain ⟨B, -, -, htouches⟩ := Read.touches_nonrefs hs hq huntil hrun
      exact ⟨B, htouches⟩
  obtain ⟨B, hclosed, hassigned⟩ := hresolves
  refine ⟨fun _ _ _ => Aliases.provides_of_mentions hclosed, fun a ha => ?_,
    fun _ _ _ => Aliases.eq_of_mentions hclosed, fun statements hprepare owner name => ⟨?_, ?_⟩⟩
  · obtain ⟨hclass, hprovides⟩ := hassigned a ha
    exact ⟨hclass, hclass ▸ hprovides⟩
  · exact fun hcreates => hcreates.mem_prepare hprepare
  · rintro ⟨sql, hsql, hcreates⟩
    exact Schema.creates_of_mem_prepare hs.accepted hprepare hsql hcreates

/-- Notes have a city and tags in a shape; a tag has a label, and the note that it is on. -/
def taggedNotes : Json :=
  .obj [
    ("Note", .obj [("fields", .obj [
      ("info", .obj [("type", .str "shape"), ("shape", .obj [
        ("city", .str "string"),
        ("tags", .obj [("type", .str "relation"), ("target", .str "Tag"),
          ("foreignField", .str "note")])])])])]),
    ("Tag", .obj [("fields", .obj [
      ("label", .str "string"),
      ("note", .obj [("type", .str "pointer"), ("target", .str "Note")])])])]

/-- The shape of a note's information. -/
def noteInfo : List (String × FieldType) :=
  [("city", .primitive .string none), ("tags", .relation "Tag" (some "note"))]

/-- The notes and tags as a schema. -/
def taggedSchema : Schema where
  classes := [
    ("Note", {
      fields := Field.defaults.foldl (fun t f => t.insert f.1 f.2) [("info", .shape noteInfo)] }),
    ("Tag", {
      fields := Field.defaults.foldl (fun t f => t.insert f.1 f.2)
        [("label", .primitive .string none), ("note", .pointer "Note")] })]

/-- The master's access to the notes and tags. -/
def taggedGate : Gate where
  schema := taggedSchema
  auth := { Auth.anonymous with master := true }
  extraFilter := none
  maxDepth := 8
  now := ⟨0, 0⟩

theorem ofJson_taggedNotes : Schema.ofJson taggedNotes = .ok taggedGate.schema := by rfl

/-- Tags on notes from one city. -/
def tagsFromRome : FindOptions where
  filter := some (.obj [("note.info.city", .str "Rome")])

/-- The tags on notes from one city are found by the city's column, and their labels are set. -/
theorem accept_touches_of_tagsFromRome :
    ∃ q sql n', Schema.ofJson taggedNotes = .ok taggedGate.schema ∧
      (∀ n, "Tag" ≠ aliasOf (n + 1)) ∧ taggedGate.accept "Tag" tagsFromRome .update = .ok q ∧
      Compile.Runs ((Operation.update [("label", .str "x")]).compile taggedSchema q) 0 sql n' ∧
      .column "_p1" "info.city" ∈ sql.mentions ∧ .table ⟨"Note", "_p1"⟩ ∈ sql.mentions ∧
      (taggedSchema.Creates "Note" "info.city" ∨ taggedSchema.DerivedLeaf "Note" "info.city") ∧
      ("Tag", "label") ∈ sql.assigned ∧
      (taggedSchema.Creates "Tag" "label" ∨ taggedSchema.DerivedLeaf "Tag" "label") := by
  have hname : ∀ n, "Tag" ≠ aliasOf (n + 1) := fun n => Aliases.ne_aliasOf (by decide) _
  obtain ⟨q, hq, hcompiles⟩ := Result.exists_of_any
    (x := taggedGate.accept "Tag" tagsFromRome .update)
    (p := fun q => (((Operation.update [("label", .str "x")]).compile taggedSchema q).run.run
      0).1.toOption.any fun sql => .column "_p1" "info.city" ∈ sql.mentions ∧
        .table ⟨"Note", "_p1"⟩ ∈ sql.mentions ∧ ("Tag", "label") ∈ sql.assigned)
    (by decide +kernel)
  obtain ⟨sql, n', hrun, hsql⟩ := Compile.exists_runs_of_any hcompiles
  obtain ⟨hcolumn, htable, hassigned⟩ := of_decide_eq_true hsql
  have htouches := accept_touches ofJson_taggedNotes hname hq (.inl ⟨_, hrun⟩)
  exact ⟨q, sql, n', ofJson_taggedNotes, hname, hq, hrun, hcolumn, htable,
    htouches.1 _ _ _ hcolumn htable (by decide), hassigned, (htouches.2.1 _ hassigned).2⟩

/-- A note's tags are a leaf of its shape, and derived. -/
theorem derivedLeaf_of_taggedSchema : taggedSchema.DerivedLeaf "Note" "info.tags" :=
  ⟨_, "info", noteInfo, "Tag", "note", rfl, rfl, List.mem_cons_of_mem _ List.mem_cons_self⟩

/-- A column that is never created is read to return notes, and assigned to set their information. -/
theorem accept_touches_uncreated :
    Schema.ofJson taggedNotes = .ok taggedGate.schema ∧
      (∃ q sql n', taggedGate.accept "Note" {} .find = .ok q ∧
        Compile.Runs ((Operation.find none).compile taggedSchema q) 0 sql n' ∧
        .column "Note" "info.tags" ∈ sql.mentions ∧ .table (.root "Note") ∈ sql.mentions) ∧
      (∃ q sql n', taggedGate.accept "Note" {} .update = .ok q ∧
        Compile.Runs ((Operation.update [("info", .obj [("city", .str "Rome")])]).compile
          taggedSchema q) 0 sql n' ∧
        ("Note", "info.tags") ∈ sql.assigned) ∧
      ∃ statements, Tables.prepare taggedSchema = .ok statements ∧
        ∀ sql ∈ statements, ¬ Tables.Creates "Note" "info.tags" sql := by
  refine ⟨ofJson_taggedNotes, ?found, ?updated, ?prepared⟩
  case found =>
    obtain ⟨q, hq, hcompiles⟩ := Result.exists_of_any (x := taggedGate.accept "Note" {} .find)
      (p := fun q => (((Operation.find none).compile taggedSchema q).run.run 0).1.toOption.any
        fun sql => .column "Note" "info.tags" ∈ sql.mentions ∧ .table (.root "Note") ∈ sql.mentions)
      (by decide +kernel)
    obtain ⟨sql, n', hrun, hsql⟩ := Compile.exists_runs_of_any hcompiles
    exact ⟨q, sql, n', hq, hrun, of_decide_eq_true hsql⟩
  case updated =>
    obtain ⟨q, hq, hcompiles⟩ := Result.exists_of_any (x := taggedGate.accept "Note" {} .update)
      (p := fun q => (((Operation.update [("info", .obj [("city", .str "Rome")])]).compile
        taggedSchema q).run.run 0).1.toOption.any fun sql => ("Note", "info.tags") ∈ sql.assigned)
      (by decide +kernel)
    obtain ⟨sql, n', hrun, hsql⟩ := Compile.exists_runs_of_any hcompiles
    exact ⟨q, sql, n', hq, hrun, of_decide_eq_true hsql⟩
  case prepared =>
    obtain ⟨statements, hprepare⟩ := Result.exists_of_toBool
      (show (Tables.prepare taggedSchema).toBool = true by decide +kernel)
    have hs := Schema.complete_of_ofJson ofJson_taggedNotes
    refine ⟨statements, hprepare, fun sql hsql hcreates => ?_⟩
    exact hs.not_creates derivedLeaf_of_taggedSchema
      (Schema.creates_of_mem_prepare hs.accepted hprepare hsql hcreates)

/-- A class that is named like the first alias has a relation to users. -/
def capturedTeams : Json :=
  .obj [
    ("User", .obj [("fields", .obj [("name", .str "string")])]),
    ("_p1", .obj [("fields", .obj [
      ("users", .obj [("type", .str "relation"), ("target", .str "User")])])])]

/-- The class and the users as a schema. -/
def capturedSchema : Schema where
  classes := [
    ("User", {
      fields := Field.defaults.foldl (fun t f => t.insert f.1 f.2)
        [("name", .primitive .string none)] }),
    ("_p1", {
      fields := Field.defaults.foldl (fun t f => t.insert f.1 f.2) [("users", .relation "User" none)] })]

/-- The members of the relation are read under the name of the class, and so is the relation itself. -/
theorem accept_touches_captured :
    Schema.ofJson capturedTeams = .ok capturedSchema ∧
      ∃ q sql n', Gate.accept { taggedGate with schema := capturedSchema } "_p1"
          { filter := some (.obj [("users", .obj [("$some", .obj [("name", .str "Ann")])])]) }
          .count = .ok q ∧
        Compile.Runs (Operation.count.compile capturedSchema q) 0 sql n' ∧
        .column "_p1" "users" ∈ sql.mentions ∧ .table ⟨"_p1", "_p1"⟩ ∈ sql.mentions ∧
        .table ⟨"User", "_p1"⟩ ∈ sql.mentions ∧ capturedSchema.field? "User" "users" = none := by
  refine ⟨by rfl, ?_⟩
  obtain ⟨q, hq, hcompiles⟩ := Result.exists_of_any
    (x := Gate.accept { taggedGate with schema := capturedSchema } "_p1"
      { filter := some (.obj [("users", .obj [("$some", .obj [("name", .str "Ann")])])]) } .count)
    (p := fun q => ((Operation.count.compile capturedSchema q).run.run 0).1.toOption.any fun sql =>
      .column "_p1" "users" ∈ sql.mentions ∧ .table ⟨"_p1", "_p1"⟩ ∈ sql.mentions ∧
        .table ⟨"User", "_p1"⟩ ∈ sql.mentions)
    (by decide +kernel)
  obtain ⟨sql, n', hrun, hsql⟩ := Compile.exists_runs_of_any hcompiles
  obtain ⟨hcolumn, hroot, hmember⟩ := of_decide_eq_true hsql
  exact ⟨q, sql, n', hq, hrun, hcolumn, hroot, hmember, rfl⟩

end Gate

end ObjectQuery
