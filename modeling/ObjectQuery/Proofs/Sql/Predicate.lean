import ObjectQuery.Proofs.Result
import ObjectQuery.Proofs.Sql.Closed
import ObjectQuery.Sql.Codec
import ObjectQuery.Sql.Predicate
import ObjectQuery.Sql.Update

/-!
# Predicates and updates read no tables

What is built from a closed operand is closed: the tests of it, its comparison with another, and the
new value that an update computes. A test is never empty, so none is lost among conjuncts.
-/

namespace ObjectQuery

open Sql

variable {K : Closedness}

/-- A test that is false where it is unknown is closed if the test is. -/
@[simp]
theorem Sql.closed_orFalse {a : Sql} : Closed K a.orFalse ↔ Closed K a := by
  simp [orFalse]

namespace Operand

variable {o l r : Operand}

/-- The operand of a column is the column. -/
theorem ofColumn_sql {sql : Sql} {ty : FieldType} (h : ofColumn sql ty = .ok o) : o.sql = sql := by
  unfold ofColumn at h
  split at h
  next => cases h; rfl
  next => cases h

/-! ## Tests -/

/-- A test for null of a closed operand is a closed test. -/
theorem predicate_isNull (h : Closed K o.sql) : Predicate K o.isNull := by
  unfold isNull
  split <;> exact ⟨by simp [h], rfl⟩

/-- What a document is taken for beside a constant is closed if the document is. -/
theorem closed_left_of_jsonSides? {sql : Sql} {v : Json} {s : Sides} (hsql : Closed K sql)
    (h : jsonSides? sql v = some s) : Closed K s.left := by
  unfold jsonSides? at h
  split at h
  next => cases h
  next => cases h; simp [hsql]
  next => cases h; simp [hsql]
  next =>
    split at h
    next =>
      obtain ⟨d, -, rfl⟩ := Option.map_eq_some_iff.mp h
      simpa using hsql
    next =>
      split at h
      next => cases h; simp [hsql]
      next => cases h; exact hsql

/-- What stands beside a constant is closed if the operand is. -/
theorem closed_left_of_sides? {v : Json} {s : Sides} (ho : Closed K o.sql)
    (h : o.sides? v = some s) : Closed K s.left := by
  unfold sides? at h
  split at h
  next =>
    obtain ⟨p, -, rfl⟩ := Option.map_eq_some_iff.mp h
    exact ho
  next => exact closed_left_of_jsonSides? ho h
  next =>
    split at h
    next =>
      split at h
      next => cases h; exact ho
      next => cases h
    next => cases h
  next =>
    obtain ⟨token, -, rfl⟩ := Option.map_eq_some_iff.mp h
    exact ho
  next =>
    split at h
    next =>
      split at h
      next => cases h; exact ho
      next => cases h
    next => cases h

/-- A comparison of a closed operand with a constant is a closed test. -/
theorem predicate_compareConstant {op : Comparison} {v : Json} (h : Closed K o.sql) :
    Predicate K (o.compareConstant op v) := by
  unfold compareConstant
  split
  next =>
    split
    next => exact predicate_isNull h
    next => exact predicate_not (predicate_isNull h).closed
    next => exact ⟨closed_raw, rfl⟩
  next =>
    split
    next => exact ⟨closed_raw, rfl⟩
    next => exact ⟨closed_raw, rfl⟩
    next s hs =>
      exact ⟨by simp [Sides.apply, closed_left_of_sides? h hs], rfl⟩
    next s hs =>
      exact ⟨by simp [Sides.apply, closed_left_of_sides? h hs], rfl⟩
    next s hs _ _ =>
      split
      next => exact ⟨by simp [Sides.apply, closed_left_of_sides? h hs], rfl⟩
      next => exact ⟨closed_raw, rfl⟩

/-- A comparison of a closed operand with several constants is a closed test. -/
theorem predicate_equalsOne {list : List Json} (h : Closed K o.sql) :
    Predicate K (o.equalsOne list) :=
  predicate_or (List.forall_mem_map.mpr fun _ _ => (predicate_compareConstant h).closed)

/-- A test of a string in a closed operand is a closed test. -/
theorem predicate_testString {operator param : String} (h : Closed K o.sql) :
    Predicate K (o.testString operator param) := by
  unfold testString
  split <;> exact ⟨by simp [h], rfl⟩

/-- A test of a closed array is a closed test. -/
theorem predicate_testArray {sql : Sql} {relation : SetRelation} {complete : Bool} {list : Param}
    (h : Closed K sql) : Predicate K (testArray sql relation complete list) := by
  unfold testArray
  split <;> exact ⟨by simp [h], rfl⟩

/--
A test of a closed array in a document is a closed test, though it has a subquery over the elements.
-/
theorem predicate_testJsonArray {sql : Sql} {relation : SetRelation} {list : Param}
    (h : Closed K sql) : Predicate K (testJsonArray sql relation list) := by
  refine ⟨?_, rfl⟩
  have hkind : Closed K (sql.jsonIs "array") := closed_jsonIs.mpr h
  cases relation with
  | intersect =>
    simp only [testJsonArray, closed_seq, List.forall_mem_cons, closed_raw, hkind, true_and]
    exact ⟨⟨closed_own "_x" 3 (by simp) rfl (by simp [h]), List.forall_mem_nil _⟩,
      List.forall_mem_nil _⟩
  | subset | superset => simp [testJsonArray, h]

/-- A test of a closed operand against a set is a closed test. -/
theorem predicate_testSet {relation : SetRelation} {list : List Json} (h : Closed K o.sql) :
    Predicate K (o.testSet relation list) := by
  unfold testSet
  split
  next => exact predicate_testArray h
  next => exact predicate_testArray h
  next => exact predicate_testJsonArray h
  next => exact ⟨closed_raw, rfl⟩

/-- A test of the size of a closed operand is a closed test. -/
theorem predicate_testSize {count : Nat} (h : Closed K o.sql) : Predicate K (o.testSize count) := by
  unfold testSize Sql.int
  dsimp only
  split <;> exact ⟨by simp [h], rfl⟩

/-- A test of a closed operand for being empty is a closed test. -/
theorem predicate_isEmpty (h : Closed K o.sql) : Predicate K o.isEmpty := by
  unfold isEmpty
  split <;> exact ⟨by simp [h], rfl⟩

/-- The test of a field reads no table besides those of its operand's subqueries. -/
theorem predicate_test {t : FieldTest} {sql : Sql} (ho : Closed K o.sql) (h : o.test t = .ok sql) :
    Predicate K sql := by
  fun_induction test o t generalizing sql with
  | case1 => cases h; exact predicate_compareConstant ho
  | case2 => cases h; exact predicate_equalsOne ho
  | case3 => cases h; exact predicate_not (predicate_equalsOne ho).closed
  | case4 | case5 | case6 => cases h; exact predicate_testSet ho
  | case7 t sql' heq ih => cases h; exact predicate_not (ih heq).closed
  | case9 | case10 | case11 => cases h; exact predicate_testString ho
  | case12 => cases h; exact predicate_testSize ho
  | case13 =>
    cases h
    split
    next => exact predicate_isEmpty ho
    next => exact predicate_not (predicate_isEmpty ho).closed
  | case8 | case14 | case15 => cases h

/-! ## Operands of expressions -/

/-- The truth value of a closed operand is a closed test. -/
theorem predicate_truthy (h : Closed K o.sql) : Predicate K o.truthy := by
  unfold truthy
  split <;> exact ⟨by simp [h], rfl⟩

/-- What two closed operands are compared as is closed. -/
theorem compareSides_closed (hl : Closed K l.sql) (hr : Closed K r.sql) :
    Closed K (compareSides l r).1 ∧ Closed K (compareSides l r).2.1 := by
  unfold compareSides
  dsimp only
  split
  next =>
    split
    next => exact ⟨hl, hr⟩
    next => split <;> exact ⟨by simp [hl], by simp [hr]⟩
  next => exact ⟨hl, hr⟩
  next => exact ⟨hl, hr⟩
  next => exact ⟨hl, hr⟩
  next => split <;> exact ⟨by simp [hl], by simp [hr]⟩
  next => exact ⟨by simp [hl], by simp [hr]⟩

/-- A comparison of two closed operands is closed. -/
theorem compare_closed {op : Comparison} (hl : Closed K l.sql) (hr : Closed K r.sql) :
    Closed K (compare op l r) := by
  obtain ⟨hleft, hright⟩ := compareSides_closed hl hr
  unfold compare
  dsimp only
  split
  next => simp [hleft, hright]
  next => simp [hleft, hright]
  next => split <;> simp [hleft, hright]

end Operand

/-- The distance between closed vectors is closed. -/
theorem Measure.sql_closed {m : Measure} {left right : Sql} (hl : Closed K left)
    (hr : Closed K right) : Closed K (m.sql left right) := by
  cases m <;> simp [Measure.sql, hl, hr]

/-- A random order is closed if its weight is. -/
theorem Sql.randomKey_closed {weight : Option Sql} (h : ∀ w ∈ weight, Closed K w) :
    Closed K (randomKey weight) := by
  cases weight with
  | none => exact closed_raw
  | some w => simpa [randomKey] using h w rfl

/-- A column that is returned is closed if it is closed where it is read. -/
theorem FieldType.project_closed {ty : FieldType} {column : Sql} (h : Closed K column) :
    Closed K (ty.project column) := by
  unfold project
  split <;> simp [h]

/-! ## Updates -/

namespace Update

variable {current sql : Sql} {u : Update}

/-- A computation in a closed document is closed. -/
theorem documentArithmetic_closed {operator : String} {v : Json} (hc : Closed K current)
    (h : documentArithmetic current operator v = .ok sql) : Closed K sql := by
  obtain ⟨p, -, hsql⟩ := Result.bind_eq_ok.mp h
  cases hsql
  simp [documentNumber, hc]

/-- The greater or lesser of a closed document and a constant is closed. -/
theorem documentExtreme_closed {function : String} {v : Json} (hc : Closed K current)
    (h : documentExtreme current function v = .ok sql) : Closed K sql := by
  obtain ⟨p, -, hsql⟩ := Result.bind_eq_ok.mp h
  cases hsql
  simp [documentNumber, hc]

section Items

variable {array : Sql} (h : Closed K array)
include h

/-- What adds to an array in a document reads only its own aliases. -/
theorem documentAdd_closed {items : List Json} : Closed K (documentAdd array items) := by
  simp only [documentAdd, closed_seq, List.forall_mem_cons, closed_raw, h, true_and]
  exact ⟨closed_own "_a" 5 (by simp) rfl (by simp [h]), List.forall_mem_nil _⟩

/-- What removes from an array in a document reads only its own aliases. -/
theorem documentRemove_closed {items : List Json} : Closed K (documentRemove array items) := by
  simp only [documentRemove, closed_seq, List.forall_mem_cons, closed_raw, true_and]
  exact ⟨closed_own "_r" 7 (by simp) rfl (by simp [h]), List.forall_mem_nil _⟩

/-- What adds to an array reads only its own aliases. -/
theorem nativeAdd_closed {items : Param} : Closed K (nativeAdd array items) := by
  simp only [nativeAdd, closed_seq, List.forall_mem_cons, closed_raw, h, true_and]
  exact ⟨closed_own "_a" 5 (by simp) rfl (by simp [h]), List.forall_mem_nil _⟩

/-- What removes from an array reads only its own aliases. -/
theorem nativeRemove_closed {items : Param} : Closed K (nativeRemove array items) := by
  simp only [nativeRemove, closed_seq, List.forall_mem_cons, closed_raw, true_and]
  exact ⟨closed_own "_r" 5 (by simp) rfl (by simp [h]), List.forall_mem_nil _⟩

end Items

/-- An update of a closed document is closed. -/
theorem document_closed (hc : Closed K current) (h : document current u = .ok sql) :
    Closed K sql := by
  have harray : Closed K current.jsonArray := closed_jsonArray.mpr hc
  unfold document at h
  split at h
  next => cases h; exact closed_param
  next => exact documentArithmetic_closed hc h
  next => exact documentArithmetic_closed hc h
  next => exact documentArithmetic_closed hc h
  next =>
    split at h
    next => cases h
    next => exact documentArithmetic_closed hc h
  next => exact documentExtreme_closed hc h
  next => exact documentExtreme_closed hc h
  next => cases h; simp [hc]
  next => cases h; exact documentAdd_closed harray
  next => cases h; exact documentRemove_closed harray
  next => cases h; simp [hc]
  next => cases h; simp [hc]

/-- A computation on a closed number is closed. -/
theorem nativeArithmetic_closed {ty : FieldType} {operator : String} (hc : Closed K current)
    (h : nativeArithmetic current ty u operator = .ok sql) : Closed K sql := by
  unfold nativeArithmetic at h
  split at h
  next =>
    split at h
    next =>
      split at h
      next => cases h; simp [hc]
      next => cases h
    next => cases h
  next => cases h

/-- A shift of a closed date is closed. -/
theorem nativeShift_closed {ty : FieldType} {operator : String} (hc : Closed K current)
    (h : nativeShift current ty u operator = .ok sql) : Closed K sql := by
  unfold nativeShift at h
  split at h
  next =>
    unfold dateArithmetic at h
    split at h
    next => cases h; simp [hc]
    next => cases h
  next => exact nativeArithmetic_closed hc h

/-- The greater or lesser of a closed column and a constant is closed. -/
theorem nativeExtreme_closed {ty : FieldType} {function : String} (hc : Closed K current)
    (h : nativeExtreme current ty u function = .ok sql) : Closed K sql := by
  unfold nativeExtreme at h
  split at h
  next =>
    obtain ⟨p, -, rfl⟩ := Result.map_eq_ok.mp h
    simp [hc]
  next => cases h

/-- An update of a closed array is closed. -/
theorem nativeArray_closed {ty : FieldType} {op : UpdateOperator} {array : Sql}
    (hc : Closed K current) (h : nativeArray current ty op = .ok array) : Closed K array := by
  unfold nativeArray at h
  split at h
  next => cases h; simp [hc]
  next => cases h; simp [hc]
  next => cases h

/-- An update of a closed column is closed, whatever its type. -/
theorem native_closed {ty : FieldType} (hc : Closed K current) (h : native current ty u = .ok sql) :
    Closed K sql := by
  unfold native at h
  split at h
  next =>
    obtain ⟨p, -, rfl⟩ := Result.map_eq_ok.mp h
    exact closed_param
  next => exact nativeShift_closed hc h
  next => exact nativeShift_closed hc h
  next => exact nativeArithmetic_closed hc h
  next =>
    split at h
    next => cases h
    next => exact nativeArithmetic_closed hc h
  next => exact nativeExtreme_closed hc h
  next => exact nativeExtreme_closed hc h
  next =>
    obtain ⟨array, harray, h⟩ := Result.bind_eq_ok.mp h
    obtain ⟨items, -, h⟩ := Result.bind_eq_ok.mp h
    cases h
    simp [nativeArray_closed hc harray]
  next =>
    obtain ⟨array, harray, h⟩ := Result.bind_eq_ok.mp h
    obtain ⟨items, -, h⟩ := Result.bind_eq_ok.mp h
    cases h
    exact nativeAdd_closed (nativeArray_closed hc harray)
  next =>
    obtain ⟨array, harray, h⟩ := Result.bind_eq_ok.mp h
    obtain ⟨items, -, h⟩ := Result.bind_eq_ok.mp h
    cases h
    exact nativeRemove_closed (nativeArray_closed hc harray)
  next =>
    obtain ⟨array, harray, h⟩ := Result.bind_eq_ok.mp h
    cases h
    simp [nativeArray_closed hc harray]
  next =>
    obtain ⟨array, harray, h⟩ := Result.bind_eq_ok.mp h
    cases h
    simp [nativeArray_closed hc harray]

/-- The new value of a column reads no table besides those of the current one's subqueries. -/
theorem apply_closed {ty : FieldType} {path : List String} (hc : Closed K current)
    (h : apply current ty path u = .ok sql) : Closed K sql := by
  unfold apply at h
  split at h
  next =>
    split at h
    next => exact document_closed hc h
    next => exact native_closed hc h
  next =>
    split at h
    next =>
      obtain ⟨value, hvalue, h⟩ := Result.bind_eq_ok.mp h
      have hclosed := document_closed (K := K) (by simp [hc]) hvalue
      cases h
      simp [hc, hclosed]
    next => cases h

end Update

end ObjectQuery
