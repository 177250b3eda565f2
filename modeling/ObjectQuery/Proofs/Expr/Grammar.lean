import ObjectQuery.Expr
import ObjectQuery.Proofs.Json
import ObjectQuery.Proofs.Result

/-!
# The grammar of expressions

How an expression is written, as a grammar over JSON values: an object with one operator, and beneath
the operator what it takes. The reader accepts the values of this grammar and no others. Of its
complaints nothing is said here.
-/

namespace ObjectQuery

/-! ## Names -/

theorem Connective.eq_key_of_ofKey? {name : String} {op : Connective}
    (h : ofKey? name = some op) : name = op.key := by
  simpa [eq_comm] using List.find?_some h

theorem Comparison.eq_key_of_ofKey? {name : String} {op : Comparison}
    (h : ofKey? name = some op) : name = op.key := by
  simpa [eq_comm] using List.find?_some h

theorem Measure.eq_key_of_ofKey? {name : String} {kind : Measure}
    (h : ofKey? name = some kind) : name = kind.key := by
  simpa [eq_comm] using List.find?_some h

namespace Expr

/-! ## The grammar -/

mutual

/-- A value is written as an expression. -/
inductive Written : Json → Prop where
  | operator {name : String} {operand : Json} (h : OperatorWritten name operand) :
    Written (.obj [(name, operand)])

/-- An operand is written as the operator of an expression takes it. -/
inductive OperatorWritten : String → Json → Prop where
  | key {path : String} (h : path ≠ "") : OperatorWritten "$key" (.str path)
  | value (v : Json) : OperatorWritten "$value" v
  | array {items : List Json} (h : ∀ x ∈ items, Written x) : OperatorWritten "$array" (.arr items)
  | not {operand : Json} (h : Written operand) : OperatorWritten "$not" operand
  /-- Only a conjunction may have no items. -/
  | connective (op : Connective) {items : List Json} (hitems : op = .and ∨ items ≠ [])
    (h : ∀ x ∈ items, Written x) : OperatorWritten op.key (.arr items)
  | comparison (op : Comparison) {l r : Json} (hl : Written l) (hr : Written r) :
    OperatorWritten op.key (.arr [l, r])
  | measure (kind : Measure) {l r : Json} (hl : VectorWritten l) (hr : VectorWritten r) :
    OperatorWritten kind.key (.arr [l, r])

/-- A vector is written as a list of expressions, or as one expression for the whole of it. -/
inductive VectorWritten : Json → Prop where
  | list {items : List Json} (h : ∀ x ∈ items, Written x) : VectorWritten (.arr items)
  | whole {v : Json} (h : Written v) : VectorWritten v

end

/-! ## What is accepted -/

/-- An expression is read from a value. -/
def Accepted (raw : Json) : Prop := ∃ e, decode raw = .ok e

/-- Reads one vector. -/
def decodeVector : Json → Result (List Expr)
  | .arr items => decodeItems items
  | raw => (decode raw).map ([·])

/-- A vector is read from a value. -/
def VectorAccepted (raw : Json) : Prop := ∃ v, decodeVector raw = .ok v

/-- Vectors are read one after another. -/
theorem decodeVectors_cons {x : Json} {rest : List Json} :
    decodeVectors (x :: rest) = do return (← decodeVector x) :: (← decodeVectors rest) := by
  cases x with
  | arr items =>
    rw [decodeVectors, decodeVector]
    cases decodeItems items <;> rfl
  | _ =>
    rw [decodeVectors, decodeVector]
    case _ =>
      generalize decode _ = result
      cases result <;> rfl
    all_goals exact nofun

/-- Two vectors are read if each of them is. -/
theorem exists_decodeVectors {l r : Json} :
    (∃ left right, decodeVectors [l, r] = .ok [left, right]) ↔
      VectorAccepted l ∧ VectorAccepted r := by
  rw [decodeVectors_cons, decodeVectors_cons]
  constructor
  · rintro ⟨left, right, h⟩
    obtain ⟨left', hl, h⟩ := Result.bind_eq_ok.mp h
    obtain ⟨more, hmore, h⟩ := Result.bind_eq_ok.mp h
    obtain ⟨right', hr, -⟩ := Result.bind_eq_ok.mp hmore
    exact ⟨⟨left', hl⟩, right', hr⟩
  · rintro ⟨⟨left, hl⟩, right, hr⟩
    refine ⟨left, right, ?_⟩
    rw [hl, hr]
    rfl

/-- The items of an array are decoded when each is accepted. -/
theorem exists_decodeItems {items : List Json} :
    (∃ es, decodeItems items = .ok es) ↔ ∀ x ∈ items, Accepted x := by
  induction items with
  | nil => exact ⟨fun _ => nofun, fun _ => ⟨[], rfl⟩⟩
  | cons x rest ih =>
    rw [List.forall_mem_cons, ← ih, decodeItems, Accepted]
    cases decode x with
    | error e => simp
    | ok e => simp [Result.map_eq_ok]

/-! ## What operators accept -/

variable {name : String} {operand : Json}

/-- A key is decoded of a path that is not empty. -/
theorem exists_decodeKey :
    (∃ e, decodeKey name operand = .ok e) ↔ ∃ path, operand = .str path ∧ path ≠ "" := by
  cases operand with
  | str path =>
    by_cases hpath : path = "" <;> simp [decodeKey, hpath]
  | _ => simp [decodeKey]

/-- An array is decoded of items that are accepted. -/
theorem exists_decodeArray :
    (∃ e, decodeArray name operand = .ok e) ↔
      ∃ items, operand = .arr items ∧ ∀ x ∈ items, Accepted x := by
  cases operand with
  | arr items => simp [decodeArray, Result.map_eq_ok, ← exists_decodeItems]
  | _ => simp [decodeArray]

/-- A connective is decoded of accepted items, which only `and` allows to be none. -/
theorem exists_decodeConnective {op : Connective} :
    (∃ e, decodeConnective name op operand = .ok e) ↔
      ∃ items, operand = .arr items ∧ (op = .and ∨ items ≠ []) ∧ ∀ x ∈ items, Accepted x := by
  cases operand with
  | arr items =>
    rw [decodeConnective]
    split
    next hempty => simp_all
    next hitems =>
      have hitems : op = .and ∨ items ≠ [] := by
        cases items <;> simp_all
      simp [Result.map_eq_ok, ← exists_decodeItems, hitems]
  | _ => simp [decodeConnective]

/-- A comparison is decoded of two accepted sides. -/
theorem exists_decodeComparison {op : Comparison} :
    (∃ e, decodeComparison name op operand = .ok e) ↔
      ∃ l r, operand = .arr [l, r] ∧ Accepted l ∧ Accepted r := by
  unfold decodeComparison
  split
  next l r =>
    constructor
    · rintro ⟨e, he⟩
      split at he
      next left hl =>
        obtain ⟨right, hr, -⟩ := Result.map_eq_ok.mp he
        exact ⟨l, r, rfl, ⟨left, hl⟩, right, hr⟩
      next => cases he
    · rintro ⟨_, _, ⟨⟩, ⟨left, hl⟩, right, hr⟩
      rw [hl]
      exact ⟨_, Result.map_eq_ok.mpr ⟨right, hr, rfl⟩⟩
  next hother =>
    refine ⟨nofun, ?_⟩
    rintro ⟨l, r, rfl, -⟩
    exact (hother l r rfl).elim

/-- A measure is decoded of two accepted vectors. -/
theorem exists_decodeMeasure {kind : Measure} :
    (∃ e, decodeMeasure name kind operand = .ok e) ↔
      ∃ l r, operand = .arr [l, r] ∧ VectorAccepted l ∧ VectorAccepted r := by
  unfold decodeMeasure
  split
  next l r =>
    constructor
    · rintro ⟨e, he⟩
      split at he
      next left right hread =>
        obtain ⟨hl, hr⟩ := exists_decodeVectors.mp ⟨left, right, hread⟩
        exact ⟨l, r, rfl, hl, hr⟩
      all_goals cases he
    · rintro ⟨_, _, ⟨⟩, hl, hr⟩
      obtain ⟨left, right, hread⟩ := exists_decodeVectors.mpr ⟨hl, hr⟩
      rw [hread]
      exact ⟨_, rfl⟩
  next hother =>
    refine ⟨nofun, ?_⟩
    rintro ⟨l, r, rfl, -⟩
    exact (hother l r rfl).elim

theorem decodeOperator_connective (op : Connective) :
    decodeOperator (op.key, operand) = decodeConnective op.key op operand := by
  cases op <;> rfl

theorem decodeOperator_comparison (op : Comparison) :
    decodeOperator (op.key, operand) = decodeComparison op.key op operand := by
  cases op <;> rfl

theorem decodeOperator_measure (kind : Measure) :
    decodeOperator (kind.key, operand) = decodeMeasure kind.key kind operand := by
  cases kind <;> rfl

/-! ## Reading follows the grammar -/

/-- Of a value, and of the items it is a list of, what is accepted is what is written. -/
structure Reads (raw : Json) : Prop where
  whole : Written raw ↔ Accepted raw
  items : ∀ items, raw = .arr items →
    ∀ x ∈ items, (Written x ↔ Accepted x) ∧ (VectorWritten x ↔ VectorAccepted x)

namespace Reads

variable {raw : Json}

/-- A vector is written by the grammar exactly when it is accepted. -/
theorem vector (h : Reads raw) : VectorWritten raw ↔ VectorAccepted raw := by
  constructor
  · intro hwritten
    cases hwritten with
    | @list items hitems =>
      exact exists_decodeItems.mpr fun x hx => (h.items items rfl x hx).1.mp (hitems x hx)
    | whole hraw =>
      obtain ⟨e, he⟩ := h.whole.mp hraw
      cases hraw
      exact ⟨_, Result.map_eq_ok.mpr ⟨e, he, rfl⟩⟩
  · rintro ⟨v, hv⟩
    unfold decodeVector at hv
    split at hv
    next items =>
      refine .list fun x hx => (h.items items rfl x hx).1.mpr ?_
      exact exists_decodeItems.mp ⟨v, hv⟩ x hx
    next =>
      obtain ⟨e, he, -⟩ := Result.map_eq_ok.mp hv
      exact .whole (h.whole.mpr ⟨e, he⟩)

/-- What is written as the operand of an operator, the operator accepts. -/
theorem accepts_operator (h : Reads operand) (hwritten : OperatorWritten name operand) :
    ∃ e, decodeOperator (name, operand) = .ok e := by
  cases hwritten with
  | @key path hpath => exact exists_decodeKey.mpr ⟨path, rfl, hpath⟩
  | value => exact ⟨_, rfl⟩
  | @array items hitems =>
    exact exists_decodeArray.mpr
      ⟨items, rfl, fun x hx => (h.items items rfl x hx).1.mp (hitems x hx)⟩
  | not hoperand =>
    obtain ⟨e, he⟩ := h.whole.mp hoperand
    exact ⟨_, Result.map_eq_ok.mpr ⟨e, he, rfl⟩⟩
  | @connective op items hnonempty hitems =>
    rw [decodeOperator_connective]
    exact exists_decodeConnective.mpr
      ⟨items, rfl, hnonempty, fun x hx => (h.items items rfl x hx).1.mp (hitems x hx)⟩
  | @comparison op l r hl hr =>
    rw [decodeOperator_comparison]
    exact exists_decodeComparison.mpr ⟨l, r, rfl, (h.items _ rfl l (by simp)).1.mp hl,
      (h.items _ rfl r (by simp)).1.mp hr⟩
  | @measure kind l r hl hr =>
    rw [decodeOperator_measure]
    exact exists_decodeMeasure.mpr ⟨l, r, rfl, (h.items _ rfl l (by simp)).2.mp hl,
      (h.items _ rfl r (by simp)).2.mp hr⟩

/-- What an operator accepts is written as its operand: the names are tried one after another. -/
theorem written_operator (h : Reads operand)
    (haccepted : ∃ e, decodeOperator (name, operand) = .ok e) : OperatorWritten name operand := by
  unfold decodeOperator at haccepted
  split at haccepted
  next hname =>
    obtain ⟨path, rfl, hpath⟩ := exists_decodeKey.mp haccepted
    exact hname ▸ .key hpath
  split at haccepted
  next hname => exact hname ▸ .value operand
  split at haccepted
  next hname =>
    obtain ⟨items, rfl, hitems⟩ := exists_decodeArray.mp haccepted
    exact hname ▸ .array fun x hx => (h.items items rfl x hx).1.mpr (hitems x hx)
  split at haccepted
  next hname =>
    obtain ⟨_, he⟩ := haccepted
    obtain ⟨e, he, -⟩ := Result.map_eq_ok.mp he
    exact hname ▸ .not (h.whole.mpr ⟨e, he⟩)
  split at haccepted
  next op hop =>
    obtain ⟨items, rfl, hnonempty, hitems⟩ := exists_decodeConnective.mp haccepted
    exact Connective.eq_key_of_ofKey? hop ▸
      .connective op hnonempty fun x hx => (h.items items rfl x hx).1.mpr (hitems x hx)
  split at haccepted
  next op hop =>
    obtain ⟨l, r, rfl, hl, hr⟩ := exists_decodeComparison.mp haccepted
    exact Comparison.eq_key_of_ofKey? hop ▸ .comparison op
      ((h.items _ rfl l (by simp)).1.mpr hl) ((h.items _ rfl r (by simp)).1.mpr hr)
  split at haccepted
  next kind hkind =>
    obtain ⟨l, r, rfl, hl, hr⟩ := exists_decodeMeasure.mp haccepted
    exact Measure.eq_key_of_ofKey? hkind ▸ .measure kind
      ((h.items _ rfl l (by simp)).2.mpr hl) ((h.items _ rfl r (by simp)).2.mpr hr)
  next => obtain ⟨_, ⟨⟩⟩ := haccepted

/-- An operator is written by the grammar exactly when it is decoded. -/
theorem operator (h : Reads operand) :
    OperatorWritten name operand ↔ ∃ e, decodeOperator (name, operand) = .ok e :=
  ⟨h.accepts_operator, h.written_operator⟩

end Reads

/-- What the reader accepts is what is written by the grammar. -/
theorem reads (raw : Json) : Reads raw := by
  induction raw using Json.nested_induction with
  | null | bool _ | num _ | str _ => exact ⟨⟨nofun, nofun⟩, nofun⟩
  | arr items ih =>
    refine ⟨⟨nofun, nofun⟩, ?_⟩
    rintro _ ⟨⟩ x hx
    exact ⟨(ih x hx).whole, (ih x hx).vector⟩
  | obj members ih =>
    refine ⟨?_, nofun⟩
    match members, ih with
    | [], _ => exact ⟨nofun, nofun⟩
    | [(name, operand)], ih =>
      have hoperand : Reads operand := ih (name, operand) List.mem_cons_self
      refine ⟨?_, fun haccepted => .operator (hoperand.operator.mpr haccepted)⟩
      rintro ⟨h⟩
      exact hoperand.operator.mp h
    | _ :: _ :: _, _ => exact ⟨nofun, nofun⟩

/-- An expression is read from a value exactly if it is written by the grammar. -/
theorem exists_decode_iff {raw : Json} : (∃ e, decode raw = .ok e) ↔ Written raw :=
  (reads raw).whole.symm

end Expr

end ObjectQuery
