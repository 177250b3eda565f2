import Mathlib.Data.List.Basic
import ObjectQuery.Sql.JsonFragment

/-!
# Closed fragments

What is built from closed parts is closed. There is more than one sense in which a fragment can be: it
reads no table outside its subqueries, or every column it reads is there. All that the laws of connectives,
predicates and updates need of such a sense is a `Sql.Closedness`, so they serve for each of them.
-/

namespace ObjectQuery.Sql

/-- The aliases that the compiler's own subqueries use for rows of no class. -/
abbrev ownAliases : List String := ["_x", "_a", "_r"]

/--
A sense in which fragments are closed: words and values are, a whole is closed if its parts are, and
so is a subquery if its body is. A subquery may introduce one of the compiler's own aliases and read
columns through it; what else is asked of a column, or of a part that introduces an alias, depends on
the sense.
-/
structure Closedness where
  Holds : Sql → Prop
  raw (text : String) : Holds (raw text)
  ident (name : String) : Holds (ident name)
  str (text : String) : Holds (str text)
  param (value : Param) : Holds (param value)
  seq {parts : List Sql} : Holds (seq parts) ↔ ∀ p ∈ parts, Holds p
  join {items : List Sql} {separator : String} : Holds (join items separator) ↔ ∀ p ∈ items, Holds p
  block {body : Sql} : Holds body → Holds (block body)
  own {label : String} {before after : List Sql} (hlabel : label ∈ ownAliases)
    (hothers : ∀ p ∈ before ++ after, Holds p ∨ ∃ name, p = Sql.column label name) :
    Holds (Sql.block (Sql.seq (before ++ Sql.binder label :: after)))

/-- A sense in which an alias may be introduced anywhere, and all columns be read through it. -/
class Closedness.Lax (K : Closedness) : Prop where
  star (label : String) : K.Holds (star label)
  binder (label : String) : K.Holds (binder label)

/-- A fragment is closed in a sense. -/
def Closed (K : Closedness) (sql : Sql) : Prop := K.Holds sql

variable {K : Closedness}

@[simp] theorem closed_raw {text : String} : Closed K (raw text) := K.raw text
@[simp] theorem closed_ident {name : String} : Closed K (ident name) := K.ident name
@[simp] theorem closed_str {text : String} : Closed K (str text) := K.str text
@[simp] theorem closed_param {value : Param} : Closed K (param value) := K.param value

/-- In a lax sense all columns of a source may be asked for. -/
@[simp]
theorem closed_star [K.Lax] {label : String} : Closed K (star label) := Closedness.Lax.star label

/-- In a lax sense an alias may be introduced. -/
@[simp]
theorem closed_binder [K.Lax] {label : String} : Closed K (binder label) :=
  Closedness.Lax.binder label

/-- A sequence is closed if all of its parts are. -/
@[simp]
theorem closed_seq {parts : List Sql} : Closed K (seq parts) ↔ ∀ p ∈ parts, Closed K p :=
  K.seq

/-- What is joined is closed if all of the items are. -/
theorem closed_join {items : List Sql} {separator : String} :
    Closed K (join items separator) ↔ ∀ p ∈ items, Closed K p :=
  K.join

/-- A subquery is closed if its body is. -/
@[simp]
theorem Closed.block {body : Sql} (h : Closed K body) : Closed K (block body) := K.block h

/-- A subquery may read through an alias of the compiler's own, introduced at some position. -/
theorem closed_own (label : String) (i : Nat) {parts : List Sql} (hlabel : label ∈ ownAliases)
    (hbinder : parts[i]? = some (binder label))
    (hothers : ∀ p ∈ parts.eraseIdx i, Closed K p ∨ ∃ name, p = column label name) :
    Closed K (block (seq parts)) := by
  obtain ⟨hi, hbinder⟩ := List.getElem?_eq_some_iff.mp hbinder
  have hsplit : parts = parts.take i ++ binder label :: parts.drop (i + 1) := by
    rw [← hbinder, List.getElem_cons_drop, List.take_append_drop]
  rw [List.eraseIdx_eq_take_drop_succ] at hothers
  rw [hsplit]
  exact K.own hlabel hothers

/-- Where a property lets an alias be introduced and be read through, all parts have it. -/
theorem forall_of_own {P : Sql → Prop} {label : String} {before after : List Sql}
    (hbinder : P (binder label)) (hcolumn : ∀ name, P (column label name))
    (hothers : ∀ p ∈ before ++ after, P p ∨ ∃ name, p = column label name) :
    ∀ p ∈ before ++ binder label :: after, P p := by
  intro p hp
  rcases List.mem_cons.mp (List.perm_middle.mem_iff.mp hp) with rfl | hp
  · exact hbinder
  · rcases hothers p hp with h | ⟨name, rfl⟩
    · exact h
    · exact hcolumn name

@[simp] theorem closed_empty : Closed K empty := closed_seq.mpr nofun

/-- What is joined of the images of some items is closed if each image is. -/
@[simp]
theorem closed_join_map {items : List α} {f : α → Sql} {separator : String} :
    Closed K (join (items.map f) separator) ↔ ∀ i ∈ items, Closed K (f i) := by
  rw [closed_join, List.forall_mem_map]

/-- Fragments set side by side are closed if both are. -/
@[simp]
theorem closed_append {a b : Sql} : Closed K (a ++ b) ↔ Closed K a ∧ Closed K b := by
  change Closed K (seq [a, b]) ↔ _
  simp

/-! ## Connectives -/

/-- Parentheses are closed if what is inside them is. -/
@[simp]
theorem closed_parens {a : Sql} : Closed K a.parens ↔ Closed K a := by
  simp [parens]

/-- A negation is closed if what it negates is. -/
@[simp]
theorem closed_not {a : Sql} : Closed K a.not ↔ Closed K a := by
  simp [Sql.not]

/-- Closed conditions are connected to a closed one. -/
theorem closed_connect {items : List Sql} {separator whenEmpty : String}
    (h : ∀ i ∈ items, Closed K i) : Closed K (connect items separator whenEmpty) := by
  have hwritten : ∀ i ∈ items.filter fun i => !isEmpty i, Closed K i :=
    fun i hi => h i (List.mem_of_mem_filter hi)
  unfold connect
  split
  next => exact closed_raw
  next item heq => exact hwritten item (by simp [heq])
  next => simpa using hwritten

/-- A conjunction of closed conditions is closed. -/
@[simp]
theorem closed_and {items : List Sql} (h : ∀ i ∈ items, Closed K i) : Closed K (and items) :=
  closed_connect h

/-- A disjunction of closed conditions is closed. -/
@[simp]
theorem closed_or {items : List Sql} (h : ∀ i ∈ items, Closed K i) : Closed K (or items) :=
  closed_connect h

/-! ## Predicates -/

/-- A closed fragment that writes something, as every condition does. -/
structure Predicate (K : Closedness) (sql : Sql) : Prop where
  closed : Closed K sql
  written : sql.isEmpty = false

/-- Connected conditions are a test: if there are none, what is written for that is. -/
theorem predicate_connect {items : List Sql} {separator whenEmpty : String}
    (h : ∀ i ∈ items, Closed K i) (hempty : whenEmpty.isEmpty = false) :
    Predicate K (connect items separator whenEmpty) := by
  refine ⟨closed_connect h, ?_⟩
  unfold connect
  split
  next => exact hempty
  next item heq =>
    have hitem : item ∈ items.filter fun i => !isEmpty i := by simp [heq]
    simpa using (List.mem_filter.mp hitem).2
  next => rfl

/-- A conjunction of closed conditions is a closed test. -/
theorem predicate_and {items : List Sql} (h : ∀ i ∈ items, Closed K i) :
    Predicate K (and items) :=
  predicate_connect h rfl

/-- A disjunction of closed conditions is a closed test. -/
theorem predicate_or {items : List Sql} (h : ∀ i ∈ items, Closed K i) : Predicate K (or items) :=
  predicate_connect h rfl

/-- A negation of a closed condition is a closed test. -/
theorem predicate_not {a : Sql} (h : Closed K a) : Predicate K a.not :=
  ⟨closed_not.mpr h, rfl⟩

/-! ## JSON -/

/-- An array of texts is closed. -/
@[simp]
theorem closed_textArray {texts : List String} : Closed K (textArray texts) := by
  simp [textArray]

/-- A test for the kind of a document is closed if the document is. -/
@[simp]
theorem closed_jsonIs {a : Sql} {kind : String} : Closed K (a.jsonIs kind) ↔ Closed K a := by
  simp [jsonIs]

/-- A member of a document is closed if the document is. -/
@[simp]
theorem closed_jsonAt {a : Sql} {keys : List String} : Closed K (a.jsonAt keys) ↔ Closed K a := by
  simp [jsonAt]

/-- A document as text is closed if the document is. -/
@[simp]
theorem closed_jsonText {a : Sql} : Closed K a.jsonText ↔ Closed K a := by
  simp [jsonText]

/-- A choice by the kind of a document is closed if the document is and what is chosen is. -/
@[simp]
theorem closed_jsonWhen {a value : Sql} {kind : String} :
    Closed K (a.jsonWhen kind value) ↔ Closed K a ∧ Closed K value := by
  simp [jsonWhen]

/-- A document as a number is closed if the document is. -/
@[simp]
theorem closed_jsonNumeric {a : Sql} : Closed K a.jsonNumeric ↔ Closed K a := by
  simp [jsonNumeric]

/-- A document as an array is closed if the document is. -/
@[simp]
theorem closed_jsonArray {a : Sql} : Closed K a.jsonArray ↔ Closed K a := by
  simp [jsonArray]

/-! ## Queries -/

/-- A query is closed if all of its clauses are. -/
@[simp]
theorem closed_select {list source condition tail : Sql} :
    Closed K (select list source condition tail) ↔
      Closed K list ∧ Closed K source ∧ Closed K condition ∧ Closed K tail := by
  simp [select]

/-- A subquery that is asked for rows is a closed test. -/
theorem predicate_existsIn {source : Sql} {conditions : List Sql}
    (h : Closed K (block (select "1" source (and conditions) empty))) :
    Predicate K (existsIn source conditions) := by
  refine ⟨?_, rfl⟩
  simp only [existsIn, closed_seq, List.forall_mem_cons, closed_raw, h, true_and]
  exact List.forall_mem_nil _

end ObjectQuery.Sql
