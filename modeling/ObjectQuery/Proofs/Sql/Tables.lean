import ObjectQuery.Proofs.Sql.Closed
import ObjectQuery.Statement.Scope

/-!
# The tables a fragment reads

A table of a class is read by the innermost subquery around it. `Sql.tables` are those that a
fragment reads itself, `Sql.references` those that its subqueries read, each with the body of the
subquery. A value or a condition reads tables in subqueries only: it is closed. What each subquery
owes to the tables it reads is a parameter, so that one set of laws serves for any such duty.
-/

namespace ObjectQuery.Sql

mutual

/-- The tables of classes that a fragment reads itself, not in a subquery. -/
def tables : Sql → List Target
  | root className => [.root className]
  | table className label => [⟨className, label⟩]
  | seq parts => allTables parts
  | join items _ => allTables items
  | _ => []

def allTables : List Sql → List Target
  | [] => []
  | x :: xs => tables x ++ allTables xs

end

mutual

/-- The tables that the subqueries of a fragment read, each with the body of the subquery. -/
def references : Sql → List (Sql × Target)
  | block body => (tables body).map (body, ·) ++ references body
  | seq parts => allReferences parts
  | join items _ => allReferences items
  | _ => []

def allReferences : List Sql → List (Sql × Target)
  | [] => []
  | x :: xs => references x ++ allReferences xs

end

/-- The tables of several parts are those of each. -/
theorem mem_allTables {parts : List Sql} {t : Target} :
    t ∈ allTables parts ↔ ∃ p ∈ parts, t ∈ p.tables := by
  induction parts with
  | nil => simp [allTables]
  | cons x xs ih => simp [allTables, ih]

/-- The references of several parts are those of each. -/
theorem mem_allReferences {parts : List Sql} {r : Sql × Target} :
    r ∈ allReferences parts ↔ ∃ p ∈ parts, r ∈ p.references := by
  induction parts with
  | nil => simp [allReferences]
  | cons x xs ih => simp [allReferences, ih]

/-! ## Duties of subqueries -/

variable {G : Sql → Target → Prop}

/-- Every subquery of a fragment does its duty by each table it reads. -/
def Dutiful (G : Sql → Target → Prop) (sql : Sql) : Prop :=
  ∀ r ∈ sql.references, G r.1 r.2

/-- Beside its subqueries a fragment does its own duty, as the body of one. -/
def DutifulBody (G : Sql → Target → Prop) (body : Sql) : Prop :=
  (∀ t ∈ body.tables, G body t) ∧ Dutiful G body

@[simp] theorem dutiful_raw {text : String} : Dutiful G (raw text) := nofun
@[simp] theorem dutiful_root {className : String} : Dutiful G (root className) := nofun
@[simp] theorem dutiful_table {name label : String} : Dutiful G (table name label) := nofun
@[simp] theorem dutiful_source {name label : String} : Dutiful G (source name label) := nofun

/-- A sequence does its duty when each part does. -/
@[simp]
theorem dutiful_seq {parts : List Sql} : Dutiful G (seq parts) ↔ ∀ p ∈ parts, Dutiful G p := by
  simp only [Dutiful, references, mem_allReferences]
  constructor
  · intro h p hp r hr
    exact h r ⟨p, hp, hr⟩
  · rintro h r ⟨p, hp, hr⟩
    exact h p hp r hr

/-- A list does its duty when each item does. -/
@[simp]
theorem dutiful_join {items : List Sql} {separator : String} :
    Dutiful G (join items separator) ↔ ∀ p ∈ items, Dutiful G p :=
  dutiful_seq

/-- A subquery does its duty when its body does, by its own tables too. -/
@[simp]
theorem dutiful_block {body : Sql} : Dutiful G (block body) ↔ DutifulBody G body := by
  simp only [Dutiful, DutifulBody, references, List.forall_mem_append, List.forall_mem_map]

/-- A sequence lists no table in the open when no part does. -/
theorem tables_seq_eq_nil {parts : List Sql} :
    (seq parts).tables = [] ↔ ∀ p ∈ parts, p.tables = [] := by
  simp only [List.eq_nil_iff_forall_not_mem, tables, mem_allTables]
  constructor
  · intro h p hp t ht
    exact h t ⟨p, hp, ht⟩
  · rintro h t ⟨p, hp, ht⟩
    exact h p hp t ht

/-- The sense of a duty: tables are read in subqueries only, and these do their duty. -/
def Closedness.ofDuty (G : Sql → Target → Prop) : Closedness where
  Holds sql := sql.tables = [] ∧ Dutiful G sql
  raw _ := ⟨rfl, nofun⟩
  ident _ := ⟨rfl, nofun⟩
  str _ := ⟨rfl, nofun⟩
  param _ := ⟨rfl, nofun⟩
  seq := by
    intro parts
    rw [tables_seq_eq_nil, dutiful_seq]
    grind
  join := by
    intro items separator
    have htables : (Sql.join items separator).tables = [] ↔ ∀ p ∈ items, p.tables = [] :=
      tables_seq_eq_nil
    rw [htables, dutiful_join]
    grind
  block := fun {body} h => ⟨rfl, dutiful_block.mpr ⟨by simp [h.1], h.2⟩⟩
  own := by
    intro label before after _ hothers
    have hall := forall_of_own (P := fun p => p.tables = [] ∧ Dutiful G p) ⟨rfl, nofun⟩
      (fun _ => ⟨rfl, nofun⟩) hothers
    have htables := tables_seq_eq_nil.mpr fun p hp => (hall p hp).1
    exact ⟨rfl, dutiful_block.mpr ⟨by simp [htables], dutiful_seq.mpr fun p hp => (hall p hp).2⟩⟩

instance : Coe (Sql → Target → Prop) Closedness := ⟨Closedness.ofDuty⟩

instance : (Closedness.ofDuty G).Lax where
  star _ := ⟨rfl, nofun⟩
  binder _ := ⟨rfl, nofun⟩

/-- A closed fragment lists no table in the open. -/
theorem Closed.tables {sql : Sql} (h : Closed G sql) : sql.tables = [] := h.1

/-- A closed fragment does its duty. -/
theorem Closed.dutiful {sql : Sql} (h : Closed G sql) : Dutiful G sql := h.2

@[simp] theorem closed_column {label name : String} : Closed G (column label name) := ⟨rfl, nofun⟩

/-- What reads no table has no duty. -/
theorem Closed.dutifulBody {body : Sql} (h : Closed G body) : DutifulBody G body :=
  ⟨by simp [h.tables], h.dutiful⟩

/-- A subquery is closed when its body does its duty. -/
theorem closed_block {body : Sql} : Closed G (block body) ↔ DutifulBody G body :=
  ⟨fun h => dutiful_block.mp h.dutiful, fun h => ⟨rfl, dutiful_block.mpr h⟩⟩

/-! ## Conjuncts -/

/-- A predicate is the whole of a condition, or one of the conjuncts of it. -/
inductive Conjunct (p : Sql) : Sql → Prop where
  | whole : Conjunct p p
  | among {items : List Sql} (h : p ∈ items) :
    Conjunct p (seq [raw "(", join (items.map parens) " AND ", raw ")"])

/-- What writes something is not lost among conjuncts. -/
theorem conjunct_and {p : Sql} {items : List Sql} (hmem : p ∈ items) (hp : p.isEmpty = false) :
    Conjunct p (and items) := by
  have hwritten : p ∈ items.filter fun i => !isEmpty i :=
    List.mem_filter.mpr ⟨hmem, by simp [hp]⟩
  unfold Sql.and connect
  split
  next heq => simp [heq] at hwritten
  next item heq =>
    obtain rfl : p = item := by simpa [heq] using hwritten
    exact .whole
  next => exact .among hwritten

/-! ## Queries -/

/-- The tables of a query are those of its source, if all else is closed. -/
theorem tables_select {list source condition tail : Sql} (hlist : Closed G list)
    (hcondition : Closed G condition) (htail : Closed G tail) :
    (select list source condition tail).tables = source.tables := by
  simp [select, tables, allTables, hlist.tables, hcondition.tables, htail.tables]

/-- A query does its duty in the parts that are closed or do theirs. -/
theorem dutiful_select {list source condition tail : Sql} (hlist : Closed G list)
    (hsource : Dutiful G source) (hcondition : Closed G condition) (htail : Closed G tail) :
    Dutiful G (select list source condition tail) := by
  simp [select, hlist.dutiful, hsource, hcondition.dutiful, htail.dutiful]

end ObjectQuery.Sql
