import Mathlib.Data.List.Basic
import Mathlib.Data.List.Nodup
import ObjectQuery.Proofs.Columns.Aliases
import ObjectQuery.Proofs.Sql.Closed
import ObjectQuery.Statement.Reach
import ObjectQuery.Statement.Scope

/-!
# Levels of a statement, and joins of a query

A statement is a query with subqueries inside, and named subqueries before it. Each of these is a
level: it introduces aliases in its FROM clause, joins pointers there, and reads columns through
aliases. What it may read through are its own aliases and those of the queries it stands in. A
subquery that is itself given an alias is a part of the FROM clause it stands in, and does not see
the rest of that clause; a named subquery sees nothing around it.

A pointer that is asked for once more is not joined once more: its join is found by the alias of its
owner and its column, in whatever the scope has become. So a scope has one join for each such key.
Each join introduces its own alias, and compares a column of the table or of an earlier join with it.
-/

namespace ObjectQuery.Sql

/-! ## Outside subqueries -/

mutual

/-- What is found in a fragment and its parts, but for its subqueries. -/
def gather (find : Sql → List α) : Sql → List α
  | seq parts => find (seq parts) ++ gatherAll find parts
  | join items separator => find (join items separator) ++ gatherAll find items
  | sql => find sql

def gatherAll (find : Sql → List α) : List Sql → List α
  | [] => []
  | x :: xs => gather find x ++ gatherAll find xs

end

/-- What is found in some parts is found in each of them, one after another. -/
@[simp]
theorem gatherAll_eq {find : Sql → List α} {parts : List Sql} :
    gatherAll find parts = parts.flatMap (gather find) := by
  induction parts with
  | nil => rfl
  | cons x xs ih => simp [gatherAll, ih]

/-- The alias that a leaf introduces. -/
def introduces : Sql → List String
  | root className => [className]
  | table _ label | source _ label | binder label => [label]
  | _ => []

/-- The aliases that a fragment introduces, but for its subqueries. -/
def introduced (sql : Sql) : List String := gather introduces sql

/-- The alias that a leaf reads a column through. -/
def readsThrough : Sql → List String
  | column label _ | star label => [label]
  | _ => []

/-- The aliases that a fragment reads columns through, but for its subqueries. -/
def reads (sql : Sql) : List String := gather readsThrough sql

/-- Whether a fragment is a join. -/
def isJoin : Sql → Bool
  | seq (raw "LEFT JOIN " :: _) => true
  | _ => false

/-- What is joined to a table, if a fragment is a table with its joins. -/
def joinedTo : Sql → List Sql
  | seq (root _ :: rest) | seq (table .. :: rest) | seq (source .. :: rest) => rest.filter isJoin
  | _ => []

/-- The joins of a fragment, but for those of its subqueries. -/
def joins (sql : Sql) : List Sql := gather joinedTo sql

section

variable {parts items : List Sql} {separator text name label className : String} {value : Param}
  {body : Sql}

/-- A sequence introduces what its parts introduce. -/
@[simp]
theorem introduced_seq : (seq parts).introduced = parts.flatMap introduced := by
  rw [introduced, gather, gatherAll_eq]
  rfl

/-- What is joined introduces what its items introduce. -/
@[simp]
theorem introduced_join : (join items separator).introduced = items.flatMap introduced := by
  rw [introduced, gather, gatherAll_eq]
  rfl

@[simp] theorem introduced_raw : (raw text).introduced = [] := rfl
@[simp] theorem introduced_ident : (ident name).introduced = [] := rfl
@[simp] theorem introduced_str : (str text).introduced = [] := rfl
@[simp] theorem introduced_param : (param value).introduced = [] := rfl
@[simp] theorem introduced_column : (column label name).introduced = [] := rfl
@[simp] theorem introduced_star : (star label).introduced = [] := rfl
@[simp] theorem introduced_block : (block body).introduced = [] := rfl
@[simp] theorem introduced_root : (root className).introduced = [className] := rfl
@[simp] theorem introduced_table : (table className label).introduced = [label] := rfl
@[simp] theorem introduced_source : (source name label).introduced = [label] := rfl
@[simp] theorem introduced_binder : (binder label).introduced = [label] := rfl

/-- A sequence reads through the aliases that its parts read through. -/
@[simp]
theorem reads_seq : (seq parts).reads = parts.flatMap reads := by
  rw [reads, gather, gatherAll_eq]
  rfl

/-- What is joined reads through the aliases that its items read through. -/
@[simp]
theorem reads_join : (join items separator).reads = items.flatMap reads := by
  rw [reads, gather, gatherAll_eq]
  rfl

@[simp] theorem reads_raw : (raw text).reads = [] := rfl
@[simp] theorem reads_ident : (ident name).reads = [] := rfl
@[simp] theorem reads_str : (str text).reads = [] := rfl
@[simp] theorem reads_param : (param value).reads = [] := rfl
@[simp] theorem reads_column : (column label name).reads = [label] := rfl
@[simp] theorem reads_star : (star label).reads = [label] := rfl
@[simp] theorem reads_block : (block body).reads = [] := rfl
@[simp] theorem reads_root : (root className).reads = [] := rfl
@[simp] theorem reads_table : (table className label).reads = [] := rfl
@[simp] theorem reads_source : (source name label).reads = [] := rfl
@[simp] theorem reads_binder : (binder label).reads = [] := rfl

end

/-- What introduces no alias outside subqueries is no table with joins. -/
theorem joinedTo_eq_nil {sql : Sql} (h : sql.introduced = []) : joinedTo sql = [] := by
  unfold joinedTo
  split
  next => simp at h
  next => simp at h
  next => simp at h
  next => rfl

mutual

/-- Where no alias is introduced nothing is joined. -/
theorem joins_eq_nil : ∀ {sql : Sql}, sql.introduced = [] → sql.joins = []
  | seq parts, h => by
    rw [joins, gather, joinedTo_eq_nil h, List.nil_append]
    exact allJoins_eq_nil fun p hp => List.flatMap_eq_nil_iff.mp (introduced_seq.symm.trans h) p hp
  | join items separator, h => by
    rw [joins, gather, joinedTo_eq_nil h, List.nil_append]
    exact allJoins_eq_nil fun p hp => List.flatMap_eq_nil_iff.mp (introduced_join.symm.trans h) p hp
  | raw _, _ | ident _, _ | str _, _ | param _, _ | column .., _ | star _, _ | root _, _
  | table .., _ | source .., _ | binder _, _ | block _, _ => rfl

/-- Where no part introduces an alias none of them joins anything. -/
theorem allJoins_eq_nil :
    ∀ {parts : List Sql}, (∀ p ∈ parts, p.introduced = []) → gatherAll joinedTo parts = []
  | [], _ => rfl
  | x :: xs, h => by
    obtain ⟨hx, hxs⟩ := List.forall_mem_cons.mp h
    rw [gatherAll, allJoins_eq_nil hxs, List.append_nil]
    exact joins_eq_nil hx

end

/-- A sequence joins what it shows to be joined and what its parts join. -/
theorem joins_seq {parts : List Sql} :
    (seq parts).joins = joinedTo (seq parts) ++ parts.flatMap joins := by
  rw [joins, gather, gatherAll_eq]
  rfl

/-! ## Levels -/

/-- A query in a statement. -/
structure Level where
  /-- The aliases of the FROM clause. -/
  own : List String
  /-- The aliases of the queries that this one stands in. -/
  around : List String
  /-- The aliases that columns are read through. -/
  reads : List String
  /-- The joins of the FROM clause. -/
  joins : List Sql

/-- The aliases that may be read through. -/
def Level.visible (level : Level) : List String := level.own ++ level.around

/-- The level of a query that stands in others. -/
def level (around : List String) (body : Sql) : Level :=
  ⟨body.introduced, around, body.reads, body.joins⟩

/-- Whether a part is a subquery that the parts after it give an alias to. -/
def isDerived : Sql → List Sql → Bool
  | block _, raw _ :: binder _ :: _ => true
  | _, _ => false

mutual

/--
The levels of a fragment's subqueries, where `here` are the aliases of the query and of those around
it.
-/
def levelsIn (around here : List String) : Sql → List Level
  | block body => body.level here :: levelsIn here (body.introduced ++ here) body
  | seq parts => partLevels around here parts
  | join items _ => partLevels around here items
  | _ => []

def partLevels (around here : List String) : List Sql → List Level
  | [] => []
  | part :: rest =>
    levelsIn around (if isDerived part rest then around else here) part ++
      partLevels around here rest

end

/-- The levels of a query that stands in no other. -/
def queryLevels (body : Sql) : List Level := levelsIn [] [] (block body)

/-- The levels of a statement: those of its named subqueries, and those of its query. -/
def levels : Sql → List Level
  | seq [raw "WITH ", join subqueries _, _, query] =>
    subqueries.flatMap (levelsIn [] []) ++ queryLevels query
  | body => queryLevels body

section

variable {around here : List String} {parts : List Sql} {level : Level}

/-- A derived table is a subquery with an alias behind it. -/
theorem exists_binder_of_isDerived {part : Sql} {rest : List Sql} (h : isDerived part rest = true) :
    (∃ body, part = block body) ∧ ∃ label, binder label ∈ rest := by
  unfold isDerived at h
  split at h
  next body _ label _ => exact ⟨⟨body, rfl⟩, label, by simp⟩
  next => cases h

/-- A level of some parts is one of a part, or of a subquery that has an alias. -/
theorem mem_partLevels (h : level ∈ partLevels around here parts) :
    ∃ p ∈ parts, level ∈ levelsIn around here p ∨
      (∃ body, p = block body) ∧ level ∈ levelsIn around around p := by
  induction parts with
  | nil => cases h
  | cons part rest ih =>
    unfold partLevels at h
    rcases List.mem_append.mp h with h | h
    · refine ⟨part, List.mem_cons_self, ?_⟩
      split at h
      next hderived => exact .inr ⟨(exists_binder_of_isDerived hderived).1, h⟩
      next => exact .inl h
    · obtain ⟨p, hp, hlevel⟩ := ih h
      exact ⟨p, List.mem_cons_of_mem _ hp, hlevel⟩

/-- Where no part is an alias, no subquery has one. -/
theorem mem_partLevels_iff (hparts : ∀ label, binder label ∉ parts) :
    level ∈ partLevels around here parts ↔ ∃ p ∈ parts, level ∈ levelsIn around here p := by
  induction parts with
  | nil => simp [partLevels]
  | cons part rest ih =>
    have hderived : isDerived part rest = false := by
      refine Bool.eq_false_iff.mpr fun h => ?_
      obtain ⟨-, label, hlabel⟩ := exists_binder_of_isDerived h
      exact hparts label (List.mem_cons_of_mem _ hlabel)
    have hrest := ih fun label hlabel => hparts label (List.mem_cons_of_mem _ hlabel)
    simp [partLevels, hderived, hrest]

/-- A part that introduces nothing is no alias. -/
theorem not_binder_of_introduced (h : ∀ p ∈ parts, p.introduced = []) (label : String) :
    binder label ∉ parts :=
  fun hlabel => by simpa using h _ hlabel

end

/-- A query is written out as its own level, with those inside of it. -/
theorem levels_select {list source condition tail : Sql} :
    (select list source condition tail).levels =
      queryLevels (select list source condition tail) := by
  simp [select, levels]

end ObjectQuery.Sql

namespace ObjectQuery

/-! ## Well joined scopes -/

/--
The joins of a query on a table: one for each key, one for each alias, and each reads backwards.
-/
structure Scope.WellJoined (scope : Scope) (table : String) : Prop where
  keys : (scope.map fun j => (j.owner, j.column)).Nodup
  labels : (scope.map (·.label)).Nodup
  /-- A join introduces its alias. -/
  introduced : ∀ j ∈ scope, j.sql.introduced = [j.label]
  /-- A join compares the pointer column that it is kept under. -/
  pointer : ∀ j ∈ scope, .column j.owner j.column ∈ j.sql.mentions
  /-- Beside its own alias a join reads through that of the table, or of a join before it. -/
  earlier : ∀ before j after, scope = before ++ j :: after → ∀ label ∈ j.sql.reads,
    label = j.label ∨ label = table ∨ label ∈ before.map (·.label)

namespace Scope

variable {scope more : Scope} {table owner column label : String}

theorem wellJoined_nil : WellJoined [] table where
  keys := .nil
  labels := .nil
  introduced := nofun
  pointer := nofun
  earlier before j after h := by simp at h

/-- The joins that a query has had at some point are well joined, too. -/
theorem WellJoined.of_append (h : (scope ++ more).WellJoined table) : scope.WellJoined table where
  keys := by
    have hkeys := h.keys
    rw [List.map_append] at hkeys
    exact hkeys.of_append_left
  labels := by
    have hlabels := h.labels
    rw [List.map_append] at hlabels
    exact hlabels.of_append_left
  introduced j hj := h.introduced j (List.mem_append_left _ hj)
  pointer j hj := h.pointer j (List.mem_append_left _ hj)
  earlier before j after heq := h.earlier before j (after ++ more) (by simp [heq])

/-- A join with a new key and a new alias that reads backwards may be added. -/
theorem WellJoined.concat (h : scope.WellJoined table) {j : Join}
    (hkey : scope.label? j.owner j.column = none) (hlabel : j.label ∉ scope.map (·.label))
    (hintroduced : j.sql.introduced = [j.label])
    (hpointer : .column j.owner j.column ∈ j.sql.mentions)
    (hearlier : ∀ label ∈ j.sql.reads,
      label = j.label ∨ label = table ∨ label ∈ scope.map (·.label)) :
    (scope ++ [j]).WellJoined table where
  keys := by
    have hnew : (j.owner, j.column) ∉ scope.map fun j => (j.owner, j.column) := by
      intro hmem
      obtain ⟨i, hi, hsame⟩ := List.mem_map.mp hmem
      have hnone := List.find?_eq_none.mp (Option.map_eq_none_iff.mp hkey) i hi
      obtain ⟨howner, hcolumn⟩ := Prod.mk.inj hsame
      simp [howner, hcolumn] at hnone
    rw [List.map_append]
    exact h.keys.append (List.nodup_singleton _) (List.disjoint_singleton.mpr hnew)
  labels := by
    rw [List.map_append]
    exact h.labels.append (List.nodup_singleton _) (List.disjoint_singleton.mpr hlabel)
  introduced := List.forall_mem_append.mpr ⟨h.introduced, List.forall_mem_singleton.mpr hintroduced⟩
  pointer := List.forall_mem_append.mpr ⟨h.pointer, List.forall_mem_singleton.mpr hpointer⟩
  earlier before i after heq := by
    rcases List.eq_nil_or_concat after with rfl | ⟨rest, last, rfl⟩
    · obtain ⟨rfl, hlast⟩ := List.append_inj' heq rfl
      obtain rfl := List.singleton_inj.mp hlast
      exact hearlier
    · have hinit : scope = before ++ i :: rest := by
        have hends : scope ++ [j] = (before ++ i :: rest) ++ [last] := by simp [heq]
        exact (List.append_inj' hends rfl).1
      exact h.earlier before i rest hinit

/-- In a well joined scope the alias of a key is that of the one join with the key. -/
theorem WellJoined.label?_eq_some (h : scope.WellJoined table) :
    scope.label? owner column = some label ↔
      ∃ j ∈ scope, j.owner = owner ∧ j.column = column ∧ j.label = label := by
  constructor
  · intro hlabel
    obtain ⟨j, hfound, rfl⟩ := Option.map_eq_some_iff.mp hlabel
    have hsame := List.find?_some hfound
    obtain ⟨howner, hcolumn⟩ := Bool.and_eq_true_iff.mp hsame
    exact ⟨j, List.mem_of_find?_eq_some hfound, eq_of_beq howner, eq_of_beq hcolumn, rfl⟩
  · rintro ⟨j, hj, rfl, rfl, rfl⟩
    cases hfound : scope.find? fun i => i.owner == j.owner && i.column == j.column with
    | none => simpa using List.find?_eq_none.mp hfound j hj
    | some i =>
      have hfits := List.find?_some hfound
      obtain ⟨howner, hcolumn⟩ := Bool.and_eq_true_iff.mp hfits
      have hsame := List.inj_on_of_nodup_map h.keys (List.mem_of_find?_eq_some hfound) hj
        (Prod.ext (eq_of_beq howner) (eq_of_beq hcolumn))
      rw [label?, hfound, hsame]
      rfl

/-- What has been joined is still found when more is joined. -/
theorem label?_append (h : scope.label? owner column = some label) :
    (scope ++ more).label? owner column = some label := by
  obtain ⟨j, hfound, rfl⟩ := Option.map_eq_some_iff.mp h
  rw [label?, List.find?_append, hfound]
  rfl

end Scope

/-! ## Shared joins -/

/--
What one compilation has joined another finds, whatever is joined in between: it gives the same,
adds no join and draws no alias.
-/
def InScope.Shares (x y : InScope α) : Prop :=
  ∀ ⦃scope n a scope' n'⦄, Runs x scope n a scope' n' →
    scope <+: scope' ∧ ∀ more m, Runs y (scope' ++ more) m a (scope' ++ more) m

namespace Context

open InScope

variable {ctx : Context} {owner target : Target} {column className : String} {label : Option String}
  {scope scope' : Scope} {n n' : Nat}

/-- A pointer leads to its class under the alias of its join, which the scope has from then on. -/
theorem label?_of_pointerJoin
    (h : Runs (ctx.pointerJoin owner column className label) scope n target scope' n') :
    target.className = className ∧ scope'.label? owner.label column = some target.label ∧
      scope <+: scope' := by
  unfold pointerJoin at h
  obtain ⟨current, mid, m, hget, h⟩ := runs_bind.mp h
  cases hget
  split at h
  next label hfound =>
    obtain ⟨rfl, rfl, rfl⟩ := runs_pure.mp h
    exact ⟨rfl, hfound, List.prefix_rfl⟩
  next hnone =>
    -- both ways to an alias go on alike
    cases label
    case' some label =>
      obtain ⟨given, mid, m, hgiven, h⟩ := runs_bind.mp h
      obtain ⟨-, rfl, -⟩ := runs_pure.mp hgiven
    case' none =>
      obtain ⟨given, mid, m, hgiven, h⟩ := runs_bind.mp h
      obtain ⟨-, rfl⟩ := runs_liftCompile.mp hgiven
    all_goals
      obtain ⟨⟨guard, inner⟩, mid, m', hguard, h⟩ := runs_bind.mp h
      obtain ⟨-, rfl⟩ := runs_liftCompile.mp hguard
      obtain ⟨_, mid, m'', hmodify, h⟩ := runs_bind.mp h
      cases hmodify
      obtain ⟨rfl, rfl, rfl⟩ := runs_pure.mp h
      refine ⟨rfl, ?_, List.prefix_append _ _⟩
      rw [Scope.label?, List.find?_append, Option.map_eq_none_iff.mp hnone]
      simp

/-- Where the scope has the alias of a pointer, asking for it adds nothing. -/
theorem runs_pointerJoin_of_label? {given : String}
    (h : scope.label? owner.label column = some given) :
    Runs (ctx.pointerJoin owner column className label) scope n ⟨className, given⟩ scope n := by
  unfold pointerJoin
  refine runs_bind.mpr ⟨scope, scope, n, rfl, ?_⟩
  rw [h]
  exact runs_pure.mpr ⟨rfl, rfl, rfl⟩

/-- A pointer is joined once, under whatever alias it is asked for again. -/
theorem shares_pointerJoin {again : Option String} :
    Shares (ctx.pointerJoin owner column className label)
      (ctx.pointerJoin owner column className again) := by
  intro scope n target scope' n' h
  obtain ⟨rfl, hlabel, hgrown⟩ := label?_of_pointerJoin h
  exact ⟨hgrown, fun more m => runs_pointerJoin_of_label? (Scope.label?_append hlabel)⟩

/-- The pointers of a route are joined once. -/
theorem shares_locate {route : Route} :
    Shares (ctx.locate owner route) (ctx.locate owner route) := by
  intro scope n found scope' n' h
  induction route generalizing owner scope n with
  | hop column className next ih =>
    unfold locate at h
    obtain ⟨target, mid, m, hjoin, hnext⟩ := runs_bind.mp h
    obtain ⟨hgrown, hjoined⟩ := shares_pointerJoin hjoin
    obtain ⟨hlater, hagain⟩ := ih hnext
    refine ⟨hgrown.trans hlater, fun more m => ?_⟩
    obtain ⟨rest, rfl⟩ := hlater
    unfold locate
    refine runs_bind.mpr ⟨_, _, _, ?_, hagain more m⟩
    rw [List.append_assoc]
    exact hjoined (rest ++ more) m
  | refused e => exact (not_runs_throw h).elim
  | column | json | vectorElement | relationElement =>
    obtain ⟨rfl, rfl, rfl⟩ := runs_pure.mp h
    exact ⟨List.prefix_rfl, fun more m => runs_pure.mpr ⟨rfl, rfl, rfl⟩⟩

end Context

end ObjectQuery
