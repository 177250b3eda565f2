import Mathlib.Data.List.Forall2
import ObjectQuery.Proofs.Sql.Closed
import ObjectQuery.Sql.Codec
import ObjectQuery.Sql.Predicate

/-!
# Fragments that differ in aliases alone

Two fragments are alike if they are the same tree, except that the aliases through which they read and
which they introduce correspond. Words, names, constants and parameters are then the same, so alike
fragments bind the same values, in the same order. What is built in one way from alike parts is alike.
Which test applies to an operand, and what a constant is compared as, depends on what the operand holds
and not on its fragment; so tests of alike operands are alike, or are refused alike.
-/

namespace ObjectQuery.Sql

/-- The same fragment but for its aliases, which correspond. -/
inductive Alike (L : String → String → Prop) : Sql → Sql → Prop where
  | raw (text : String) : Alike L (.raw text) (.raw text)
  | ident (name : String) : Alike L (.ident name) (.ident name)
  | str (text : String) : Alike L (.str text) (.str text)
  | param (value : Param) : Alike L (.param value) (.param value)
  | root (className : String) : Alike L (.root className) (.root className)
  | seq {parts parts' : List Sql} (h : List.Forall₂ (Alike L) parts parts') :
    Alike L (.seq parts) (.seq parts')
  | join {items items' : List Sql} (separator : String) (h : List.Forall₂ (Alike L) items items') :
    Alike L (.join items separator) (.join items' separator)
  | column {label label' : String} (name : String) (h : L label label') :
    Alike L (.column label name) (.column label' name)
  | star {label label' : String} (h : L label label') : Alike L (.star label) (.star label')
  | table {label label' : String} (className : String) (h : L label label') :
    Alike L (.table className label) (.table className label')
  | source {label label' : String} (name : String) (h : L label label') :
    Alike L (.source name label) (.source name label')
  | binder {label label' : String} (h : L label label') : Alike L (.binder label) (.binder label')
  | block {body body' : Sql} (h : Alike L body body') : Alike L (.block body) (.block body')

/-- The compiler's own aliases correspond to themselves. -/
class KeepsOwn (L : String → String → Prop) : Prop where
  own : ∀ label ∈ ownAliases, L label label

variable {L : String → String → Prop} {a a' b b' : Sql} {items items' : List Sql}

attribute [simp] Alike.raw Alike.ident Alike.str Alike.param Alike.root

/-- Sequences are alike if their parts are, one by one. -/
@[simp]
theorem alike_seq {parts parts' : List Sql} :
    Alike L (seq parts) (seq parts') ↔ List.Forall₂ (Alike L) parts parts' :=
  ⟨fun h => by cases h; assumption, .seq⟩

/-- What is joined is alike if the items are, behind the same separator. -/
@[simp]
theorem alike_join {separator : String} :
    Alike L (join items separator) (join items' separator) ↔ List.Forall₂ (Alike L) items items' :=
  ⟨fun h => by cases h; assumption, .join separator⟩

/-- Columns of one name are alike if the aliases that they are read through correspond. -/
@[simp]
theorem alike_column {label label' name : String} :
    Alike L (column label name) (column label' name) ↔ L label label' :=
  ⟨fun h => by cases h; assumption, .column name⟩

/-- An alias is introduced alike if it corresponds. -/
@[simp]
theorem alike_binder {label label' : String} :
    Alike L (binder label) (binder label') ↔ L label label' :=
  ⟨fun h => by cases h; assumption, .binder⟩

/-- Subqueries are alike if their bodies are. -/
@[simp]
theorem alike_block : Alike L (block a) (block a') ↔ Alike L a a' :=
  ⟨fun h => by cases h; assumption, .block⟩

@[simp] theorem alike_empty : Alike L empty empty := .seq .nil

/-- Fragments set side by side are alike if each is like its counterpart. -/
@[simp]
theorem alike_append : Alike L (a ++ b) (a' ++ b') ↔ Alike L a a' ∧ Alike L b b' := by
  change Alike L (seq [a, b]) (seq [a', b']) ↔ _
  simp

/-- Fragments built in two ways from the same items are alike if those of each item are. -/
theorem alike_map {xs : List α} {f f' : α → Sql} (h : ∀ x ∈ xs, Alike L (f x) (f' x)) :
    List.Forall₂ (Alike L) (xs.map f) (xs.map f') := by
  rw [List.forall₂_map_left_iff, List.forall₂_map_right_iff, List.forall₂_same]
  exact h

/-- To go by aliases that correspond to themselves is a sense of being closed. -/
def selfAlike (L : String → String → Prop) [KeepsOwn L] : Closedness where
  Holds sql := Alike L sql sql
  raw := .raw
  ident := .ident
  str := .str
  param := .param
  seq := by simp [List.forall₂_same]
  join := by simp [List.forall₂_same]
  block := .block
  own hlabel hothers := by
    rw [alike_block, alike_seq, List.forall₂_same]
    have hown := KeepsOwn.own (L := L) _ hlabel
    exact forall_of_own (P := fun p => Alike L p p) (.binder hown) (fun name => .column name hown)
      hothers

/-! ## What alike fragments share -/

mutual

/-- Like fragments are empty together. -/
theorem Alike.isEmpty_eq : ∀ {a a' : Sql}, Alike L a a' → a.isEmpty = a'.isEmpty
  | .seq _, _, .seq h => allEmpty_eq h
  | .join _ _, _, .join _ h => allEmpty_eq h
  | .block _, _, .block h => h.isEmpty_eq
  | .raw _, _, .raw _ | .ident _, _, .ident _ | .str _, _, .str _ | .param _, _, .param _
  | .root _, _, .root _ | .column .., _, .column .. | .star _, _, .star _ | .table .., _, .table ..
  | .source .., _, .source .. | .binder _, _, .binder _ => rfl

/-- Parts that are alike are all empty together. -/
theorem allEmpty_eq : ∀ {parts parts' : List Sql}, List.Forall₂ (Alike L) parts parts' →
    allEmpty parts = allEmpty parts'
  | [], _, .nil => rfl
  | _ :: _, _, .cons h hs => by simp [allEmpty, h.isEmpty_eq, allEmpty_eq hs]

end

theorem slots_append {xs ys : List Leaf} : slots (xs ++ ys) = slots xs ++ slots ys := by
  induction xs with
  | nil => rfl
  | cons leaf xs ih => cases leaf <;> simp [slots, ih]

mutual

/-- Like fragments bind the same values in the same order. -/
theorem Alike.slots_eq : ∀ {a a' : Sql}, Alike L a a' → slots a.leaves = slots a'.leaves
  | .seq _, _, .seq h => slots_seqLeaves h
  | .join .., _, .join _ h => slots_joinLeaves h
  | .block _, _, .block h => h.slots_eq
  | .raw _, _, .raw _ | .ident _, _, .ident _ | .str _, _, .str _ | .param _, _, .param _
  | .root _, _, .root _ | .column .., _, .column .. | .star _, _, .star _ | .table .., _, .table ..
  | .source .., _, .source .. | .binder _, _, .binder _ => rfl

theorem slots_seqLeaves : ∀ {parts parts' : List Sql}, List.Forall₂ (Alike L) parts parts' →
    slots (seqLeaves parts) = slots (seqLeaves parts')
  | [], _, .nil => rfl
  | _ :: _, _, .cons h hs => by simp [seqLeaves, slots_append, h.slots_eq, slots_seqLeaves hs]

theorem slots_joinLeaves {separator : String} : ∀ {items items' : List Sql},
    List.Forall₂ (Alike L) items items' →
      slots (joinLeaves separator items) = slots (joinLeaves separator items')
  | [], _, .nil => rfl
  | _ :: _, _, .cons h hs => by simp [joinLeaves, slots_append, h.slots_eq, slots_joinRest hs]

theorem slots_joinRest {separator : String} : ∀ {items items' : List Sql},
    List.Forall₂ (Alike L) items items' →
      slots (joinRest separator items) = slots (joinRest separator items')
  | [], _, .nil => rfl
  | _ :: _, _, .cons h hs => by
    simp [joinRest, slots, slots_append, h.slots_eq, slots_joinRest hs]

end

/-- Alike statements bind the same parameters, in the same order. -/
theorem Alike.params_eq (h : Alike L a a') : a.compile.params = a'.compile.params := h.slots_eq

/-! ## Connectives -/

/-- Parentheses are alike if what is inside them is. -/
@[simp]
theorem alike_parens : Alike L a.parens a'.parens ↔ Alike L a a' := by
  simp [parens]

/-- Negations are alike if what is negated is. -/
@[simp]
theorem alike_not : Alike L a.not a'.not ↔ Alike L a a' := by
  simp [Sql.not]

/-- The items that write something correspond. -/
theorem alike_written (h : List.Forall₂ (Alike L) items items') :
    List.Forall₂ (Alike L) (items.filter fun i => !isEmpty i) (items'.filter fun i => !isEmpty i) := by
  induction h with
  | nil => exact .nil
  | @cons i i' _ _ hi _ ih =>
    cases hempty : i.isEmpty with
    | true => simpa [hempty, ← hi.isEmpty_eq] using ih
    | false => simpa [hempty, ← hi.isEmpty_eq] using ⟨hi, ih⟩

/-- Connected conditions are alike if the conditions are, and none are connected alike. -/
theorem alike_connect {separator whenEmpty : String} (h : List.Forall₂ (Alike L) items items') :
    Alike L (connect items separator whenEmpty) (connect items' separator whenEmpty) := by
  have hwritten := alike_written h
  unfold connect
  generalize items.filter _ = written at hwritten
  generalize items'.filter _ = written' at hwritten
  cases hwritten with
  | nil => exact .raw _
  | cons hi his =>
    cases his with
    | nil => exact hi
    | cons hj hjs => simpa [hi, hj] using hjs

/-- Conjunctions of like conditions are alike. -/
theorem alike_and (h : List.Forall₂ (Alike L) items items') : Alike L (and items) (and items') :=
  alike_connect h

/-- Disjunctions of like conditions are alike. -/
theorem alike_or (h : List.Forall₂ (Alike L) items items') : Alike L (or items) (or items') :=
  alike_connect h

/-! ## JSON -/

/-- An array of texts is the same whatever the aliases are. -/
theorem alike_textArray {texts : List String} : Alike L (textArray texts) (textArray texts) := by
  simp [textArray]

/-- Tests for the kind of a document are alike if the documents are. -/
@[simp]
theorem alike_jsonIs {kind : String} : Alike L (a.jsonIs kind) (a'.jsonIs kind) ↔ Alike L a a' := by
  simp [jsonIs]

/-- Members of documents at the same keys are alike if the documents are. -/
@[simp]
theorem alike_jsonAt {keys : List String} :
    Alike L (a.jsonAt keys) (a'.jsonAt keys) ↔ Alike L a a' := by
  simp [jsonAt, alike_textArray]

/-- Documents as text are alike if the documents are. -/
@[simp]
theorem alike_jsonText : Alike L a.jsonText a'.jsonText ↔ Alike L a a' := by
  simp [jsonText]

/-- Choices by the kind of a document are alike if the document is and what is chosen is. -/
@[simp]
theorem alike_jsonWhen {kind : String} :
    Alike L (a.jsonWhen kind b) (a'.jsonWhen kind b') ↔ Alike L a a' ∧ Alike L b b' := by
  simp [jsonWhen]

/-- Documents as numbers are alike if the documents are. -/
@[simp]
theorem alike_jsonNumeric : Alike L a.jsonNumeric a'.jsonNumeric ↔ Alike L a a' := by
  simp [jsonNumeric]

/-! ## Queries -/

/-- Queries are alike if they are clause by clause. -/
@[simp]
theorem alike_select {list list' condition condition' tail tail' : Sql} :
    Alike L (select list a condition tail) (select list' a' condition' tail') ↔
      Alike L list list' ∧ Alike L a a' ∧ Alike L condition condition' ∧ Alike L tail tail' := by
  simp [select]

/-- Subqueries that are asked for rows are alike if their sources and conditions are. -/
theorem alike_existsIn (ha : Alike L a a') (h : List.Forall₂ (Alike L) items items') :
    Alike L (existsIn a items) (existsIn a' items') := by
  simp [existsIn, ha, alike_and h]

end ObjectQuery.Sql

namespace ObjectQuery

open Sql (KeepsOwn)

/-- Two computations give what corresponds, or are refused alike. -/
inductive Result.Agree (R : α → β → Prop) : Result α → Result β → Prop where
  | ok {a : α} {b : β} (h : R a b) : Agree R (.ok a) (.ok b)
  | error (e : Error) : Agree R (.error e) (.error e)

namespace Result.Agree

variable {α α' β β' : Type} {R : α → α' → Prop} {S : β → β' → Prop} {r : Result α}
  {r' : Result α'}

/-- Computations that agree are continued to agree, if they are from all results that correspond. -/
theorem bind {f : α → Result β} {f' : α' → Result β'} (h : r.Agree R r')
    (hf : ∀ a a', R a a' → (f a).Agree S (f' a')) : (r >>= f).Agree S (r' >>= f') := by
  cases h with
  | ok h => exact hf _ _ h
  | error e => exact .error e

/-- Results that correspond in one way correspond in every weaker one. -/
theorem imp {Q : α → α' → Prop} (h : r.Agree R r') (hR : ∀ a a', R a a' → Q a a') :
    r.Agree Q r' := by
  cases h with
  | ok h => exact .ok (hR _ _ h)
  | error e => exact .error e

/-- Computations that agree still do when what they result in is mapped alike. -/
theorem map {f : α → β} {f' : α' → β'} (h : r.Agree R r') (hf : ∀ a a', R a a' → S (f a) (f' a')) :
    Agree S (Except.map f r) (Except.map f' r') := by
  cases h with
  | ok h => exact .ok (hf _ _ h)
  | error e => exact .error e

/-- A computation agrees with itself. -/
theorem refl (r : Result α) : r.Agree (fun a a' => a = a' ∧ r = .ok a) r := by
  cases r with
  | ok a => exact .ok ⟨rfl, rfl⟩
  | error e => exact .error e

end Result.Agree

variable {L : String → String → Prop} {a a' : Sql}

/-- Like tests are alike when an unknown answer is made false. -/
theorem Sql.alike_orFalse (h : a.Alike L a') : a.orFalse.Alike L a'.orFalse := by
  simp [orFalse, h]

namespace Operand

/-- Operands that hold the same kind of thing, with fragments that are alike. -/
inductive Alike (L : String → String → Prop) : Operand → Operand → Prop where
  | mk {sql sql' : Sql} (type : OperandType) (h : sql.Alike L sql') :
    Alike L ⟨sql, type⟩ ⟨sql', type⟩

variable {o o' l l' r r' : Operand}

/-- The fragments of like operands are alike. -/
theorem Alike.sql (h : o.Alike L o') : o.sql.Alike L o'.sql := by
  obtain ⟨_, h⟩ := h
  exact h

/-- A column is made an operand by its type, so like columns are, or are refused, alike. -/
theorem alike_ofColumn {ty : FieldType} (h : a.Alike L a') :
    (ofColumn a ty).Agree (Alike L) (ofColumn a' ty) := by
  unfold ofColumn
  split
  next type _ => exact .ok (.mk type h)
  next => exact .error _

/-! ## Tests -/

/-- Tests for null are alike if the operands are. -/
theorem alike_isNull (h : o.Alike L o') : o.isNull.Alike L o'.isNull := by
  obtain ⟨type, h⟩ := h
  cases type <;> simp [isNull, h]

/-- Sides of a comparison, the constant being the same. -/
inductive Sides.Alike (L : String → String → Prop) : Sides → Sides → Prop where
  | mk {left left' : Sql} (constant : Param) (ordered : Bool) (h : left.Alike L left') :
    Alike L ⟨left, constant, ordered⟩ ⟨left', constant, ordered⟩

/-- A constant that is found for an operand is found for its like, by the operand's type alone. -/
theorem Sides.alike_map {P : Type} {found : Option P} {left left' : Sql} {constant : P → Param}
    {ordered : Bool} (h : left.Alike L left') :
    Option.Rel (Sides.Alike L) (found.map fun p => ⟨left, constant p, ordered⟩)
      (found.map fun p => ⟨left', constant p, ordered⟩) := by
  cases found with
  | none => exact .none
  | some p => exact .some (.mk _ _ h)

/-- What a document is compared with depends on the constant, and is set beside like documents alike. -/
theorem alike_jsonSides? {v : Json} (h : a.Alike L a') :
    Option.Rel (Sides.Alike L) (jsonSides? a v) (jsonSides? a' v) := by
  unfold jsonSides?
  split
  next => exact .none
  next => exact .some (.mk _ _ (by simp [h]))
  next => exact .some (.mk _ _ (by simp [h]))
  next =>
    split
    next => exact Sides.alike_map (by simpa using h)
    next =>
      split
      next => exact .some (.mk _ _ (by simp [h]))
      next => exact .some (.mk _ _ h)

/-- A constant stands beside like operands alike, or beside neither. -/
theorem alike_sides? {v : Json} (h : o.Alike L o') :
    Option.Rel (Sides.Alike L) (o.sides? v) (o'.sides? v) := by
  obtain ⟨type, h⟩ := h
  unfold sides?
  cases type with
  | scalar kind => exact Sides.alike_map h
  | json => exact alike_jsonSides? h
  | array element =>
    dsimp only
    split
    next =>
      split
      next => exact .some (.mk _ _ h)
      next => exact .none
    next => exact .none
  | token target => exact Sides.alike_map h
  | tokens target =>
    dsimp only
    split
    next =>
      split
      next => exact .some (.mk _ _ h)
      next => exact .none
    next => exact .none

/-- An operator is set between like sides alike. -/
theorem Sides.alike_apply {s s' : Sides} (h : Sides.Alike L s s') (operator : String) :
    (s.apply operator).Alike L (s'.apply operator) := by
  obtain ⟨constant, ordered, h⟩ := h
  exact Sql.alike_orFalse (by simp [h])

/-- Like operands are compared with a constant alike. -/
theorem alike_compareConstant {op : Comparison} {v : Json} (h : o.Alike L o') :
    (o.compareConstant op v).Alike L (o'.compareConstant op v) := by
  have hnull := alike_isNull h
  have hsides := alike_sides? (v := v) h
  unfold compareConstant
  split
  next => cases op <;> simp [hnull]
  next =>
    generalize o.sides? v = sides at hsides
    generalize o'.sides? v = sides' at hsides
    cases hsides with
    | none => cases op <;> simp
    | some hs =>
      have happly := Sides.alike_apply hs
      obtain ⟨constant, ordered, -⟩ := hs
      cases op <;> cases ordered <;> simp [happly]

/-- Like operands are compared with several constants alike. -/
theorem alike_equalsOne {list : List Json} (h : o.Alike L o') :
    (o.equalsOne list).Alike L (o'.equalsOne list) :=
  Sql.alike_or (Sql.alike_map fun _ _ => alike_compareConstant h)

/-- Strings are looked for in like operands alike. -/
theorem alike_testString {operator param : String} (h : o.Alike L o') :
    (o.testString operator param).Alike L (o'.testString operator param) := by
  obtain ⟨type, h⟩ := h
  unfold testString
  dsimp only
  split <;> simp [Sql.orFalse, h]

/-- Like arrays are tested against a set of constants alike. -/
theorem alike_testArray {relation : SetRelation} {complete : Bool} {list : Param}
    (h : a.Alike L a') :
    (testArray a relation complete list).Alike L (testArray a' relation complete list) := by
  unfold testArray
  split <;> simp [Sql.orFalse, h]

/--
Like arrays in documents are tested against a set of constants alike; the alias of their elements is the
compiler's own.
-/
theorem alike_testJsonArray [KeepsOwn L] {relation : SetRelation} {list : Param}
    (h : a.Alike L a') :
    (testJsonArray a relation list).Alike L (testJsonArray a' relation list) := by
  have hitem : L "_x" "_x" := KeepsOwn.own _ (by simp)
  cases relation <;> simp [testJsonArray, h, hitem]

/-- Like operands are tested against a set of constants alike. -/
theorem alike_testSet [KeepsOwn L] {relation : SetRelation} {list : List Json} (h : o.Alike L o') :
    (o.testSet relation list).Alike L (o'.testSet relation list) := by
  obtain ⟨type, h⟩ := h
  cases type with
  | array element => exact alike_testArray h
  | tokens target => exact alike_testArray h
  | json => exact alike_testJsonArray h
  | scalar kind | token target => exact .raw _

/-- The sizes of like operands are tested alike. -/
theorem alike_testSize {count : Nat} (h : o.Alike L o') :
    (o.testSize count).Alike L (o'.testSize count) := by
  obtain ⟨type, h⟩ := h
  unfold testSize Sql.int
  dsimp only
  split <;> simp [Sql.orFalse, h]

/-- Like operands are tested alike for being empty. -/
theorem alike_isEmpty (h : o.Alike L o') : o.isEmpty.Alike L o'.isEmpty := by
  obtain ⟨type, h⟩ := h
  unfold isEmpty
  dsimp only
  split <;> simp [h]

/-- The tests of alike operands are alike, or both are refused. -/
theorem alike_test [KeepsOwn L] (h : o.Alike L o') :
    ∀ t : FieldTest, (o.test t).Agree (Sql.Alike L) (o'.test t)
  | .compare _ _ => .ok (alike_compareConstant h)
  | .oneOf _ => .ok (alike_equalsOne h)
  | .noneOf _ => .ok (Sql.alike_not.mpr (alike_equalsOne h))
  | .subset _ | .superset _ | .intersect _ => .ok (alike_testSet h)
  | .not t => by
    have ht := alike_test h t
    unfold test
    generalize o.test t = result at ht
    generalize o'.test t = result' at ht
    cases ht with
    | ok ht => exact .ok (Sql.alike_not.mpr ht)
    | error e => exact .error e
  | .pattern _ _ | .startsWith _ | .endsWith _ => .ok (alike_testString h)
  | .size _ => .ok (alike_testSize h)
  | .empty expected => by
    refine .ok ?_
    cases expected with
    | true => exact alike_isEmpty h
    | false => exact Sql.alike_not.mpr (alike_isEmpty h)
  | .every _ | .any _ => .error _

/-! ## Operands of expressions -/

/-- Like operands are turned into truth values alike. -/
theorem alike_truthy (h : o.Alike L o') : o.truthy.Alike L o'.truthy := by
  obtain ⟨type, h⟩ := h
  unfold truthy
  dsimp only
  split <;> simp [Sql.orFalse, h]

/-- Two operands are given a common type by what they hold, and like operands are given the same. -/
theorem alike_compareSides (hl : l.Alike L l') (hr : r.Alike L r') :
    (compareSides l r).1.Alike L (compareSides l' r').1 ∧
      (compareSides l r).2.1.Alike L (compareSides l' r').2.1 ∧
      (compareSides l r).2.2 = (compareSides l' r').2.2 := by
  obtain ⟨left, hl⟩ := hl
  obtain ⟨right, hr⟩ := hr
  unfold compareSides
  dsimp only
  split
  next =>
    split
    next => exact ⟨hl, hr, rfl⟩
    next => split <;> exact ⟨by simp [hl], by simp [hr], rfl⟩
  next => exact ⟨hl, hr, rfl⟩
  next => exact ⟨hl, hr, rfl⟩
  next => exact ⟨hl, hr, rfl⟩
  next => split <;> exact ⟨by simp [hl], by simp [hr], rfl⟩
  next => exact ⟨by simp [hl], by simp [hr], rfl⟩

/-- Like operands are compared with each other alike. -/
theorem alike_compare {op : Comparison} (hl : l.Alike L l') (hr : r.Alike L r') :
    (compare op l r).Alike L (compare op l' r') := by
  obtain ⟨hleft, hright, hordered⟩ := alike_compareSides hl hr
  unfold compare
  dsimp only
  rw [hordered]
  split
  next => simp [hleft, hright]
  next => simp [hleft, hright]
  next => split <;> simp [Sql.orFalse, hleft, hright]

end Operand

/-- Distances between like vectors are alike. -/
theorem Measure.alike_sql {m : Measure} {left left' right right' : Sql} (hl : left.Alike L left')
    (hr : right.Alike L right') : (m.sql left right).Alike L (m.sql left' right') := by
  cases m <;> simp [Measure.sql, hl, hr]

/-- Random orders by like weights are alike. -/
theorem Sql.alike_randomKey {weight weight' : Option Sql}
    (h : Option.Rel (Sql.Alike L) weight weight') :
    (randomKey weight).Alike L (randomKey weight') := by
  cases h with
  | none => exact .raw _
  | some h => simp [randomKey, h]

/-- A column is returned by its type, so like columns are alike. -/
theorem FieldType.alike_project {ty : FieldType} (h : a.Alike L a') :
    (ty.project a).Alike L (ty.project a') := by
  unfold project
  split <;> simp [h]

end ObjectQuery
