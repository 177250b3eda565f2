import ObjectQuery.Proofs.Result
import ObjectQuery.Proofs.Sql.Alike
import ObjectQuery.Sql.Update

/-!
# How many values a fragment binds

A fragment that stands in several places is written out in each of them, and its values are bound each
time. So an update binds its own operand, which is at most one value, and whatever the current value of
the column binds as often as the update mentions it. How often that is depends on the operator, on
whether the column is a document, and on whether the update is of a place inside it.
-/

namespace ObjectQuery

namespace Sql

/-- The number of values that a fragment binds. -/
def bound (sql : Sql) : Nat := sql.compile.params.length

variable {a : Sql} {rest : List Sql} {separator : String}

@[simp]
theorem bound_raw (text : String) : (raw text).bound = 0 := rfl

@[simp]
theorem bound_ident (name : String) : (ident name).bound = 0 := rfl

@[simp]
theorem bound_str (text : String) : (str text).bound = 0 := rfl

@[simp]
theorem bound_column (label name : String) : (column label name).bound = 0 := rfl

@[simp]
theorem bound_binder (label : String) : (binder label).bound = 0 := rfl

/-- A subquery binds what its body does. -/
@[simp]
theorem bound_block (body : Sql) : (block body).bound = body.bound := by
  simp only [bound, compile, leaves]

@[simp]
theorem bound_seq_nil : (seq []).bound = 0 := rfl

/-- A sequence binds what its parts do, one after another. -/
@[simp]
theorem bound_seq_cons : (seq (a :: rest)).bound = a.bound + (seq rest).bound := by
  simp [bound, compile, leaves, seqLeaves, slots_append]

@[simp]
theorem bound_join_nil : (join [] separator).bound = 0 := rfl

/-- What is joined binds what its items do, one after another. -/
@[simp]
theorem bound_join_cons :
    (join (a :: rest) separator).bound = a.bound + (join rest separator).bound := by
  have hrest : slots (joinRest separator rest) = slots (joinLeaves separator rest) := by
    cases rest <;> rfl
  simp [bound, compile, leaves, joinLeaves, slots_append, hrest]

/-- An item of a join binds no more than the join. -/
theorem bound_le_join {items : List Sql} (h : a ∈ items) : a.bound ≤ (join items separator).bound := by
  obtain ⟨before, after, rfl⟩ := List.append_of_mem h
  induction before with
  | nil => exact bound_join_cons ▸ Nat.le_add_right a.bound _
  | cons first before ih =>
    rw [List.cons_append, bound_join_cons]
    exact Nat.le_add_left_of_le (ih (List.mem_append_right before List.mem_cons_self))

/-- Null and the truth values are written out, any other value is bound. -/
theorem bound_param_le (value : Param) : (param value).bound ≤ 1 := by
  cases value with
  | bool b => cases b <;> decide
  | _ => first | exact Nat.zero_le 1 | exact Nat.le_refl 1

theorem bound_textArray (texts : List String) : (textArray texts).bound = 0 := by
  have hjoin : (join (texts.map str) ", ").bound = 0 := by
    induction texts with
    | nil => rfl
    | cons text rest ih => simp [ih]
  simp [textArray, hjoin]

end Sql

/-! ## Mentions of the current value -/

namespace UpdateOperator

/-- How often the new value of a document mentions the current one. -/
def documentMentions : UpdateOperator → Nat
  | set => 0
  | addToSet => 4
  | _ => 2

/-- How often the new value of a native column mentions the current one. -/
def nativeMentions : UpdateOperator → Nat
  | set => 0
  | addToSet | popLast => 2
  | _ => 1

end UpdateOperator

namespace Update

/-- From any fragment one is made that binds `own` values, and those of the first `mentions` times. -/
def Binds (f : Sql → Result Sql) (own mentions : Nat) : Prop :=
  ∀ current, ∃ sql, f current = .ok sql ∧ sql.bound = own + mentions * current.bound

variable {current sql : Sql} {ty : FieldType} {u : Update} {operator : String} {v : Json}

/-- Whether an update is refused outright does not depend on the current value. -/
theorem binds_unless {p : Prop} [Decidable p] {e : Error} {f : Sql → Result Sql} {mentions : Nat}
    (h : (if p then .error e else f current) = .ok sql)
    (hf : f current = .ok sql → ∃ own ≤ 1, Binds f own mentions) :
    ∃ own ≤ 1, Binds (fun other => if p then .error e else f other) own mentions := by
  split at h
  next => cases h
  next hp =>
    simp only [if_neg hp]
    exact hf h

/-! ### Documents -/

/-- A computation in a document mentions it twice, for its kind and for its value. -/
theorem binds_documentArithmetic (h : documentArithmetic current operator v = .ok sql) :
    ∃ own ≤ 1, Binds (documentArithmetic · operator v) own 2 := by
  obtain ⟨p, hp, -⟩ := Result.bind_eq_ok.mp h
  refine ⟨_, Sql.bound_param_le p, fun other => ⟨_, Result.bind_eq_ok.mpr ⟨p, hp, rfl⟩, ?_⟩⟩
  simp +arith [documentNumber, Sql.jsonWhen, Sql.jsonIs]

/-- The greater or lesser of a document and a constant mentions the document twice. -/
theorem binds_documentExtreme {function : String}
    (h : documentExtreme current function v = .ok sql) :
    ∃ own ≤ 1, Binds (documentExtreme · function v) own 2 := by
  obtain ⟨p, hp, -⟩ := Result.bind_eq_ok.mp h
  refine ⟨_, Sql.bound_param_le p, fun other => ⟨_, Result.bind_eq_ok.mpr ⟨p, hp, rfl⟩, ?_⟩⟩
  simp +arith [documentNumber, Sql.jsonWhen, Sql.jsonIs]

/-- A document as an array mentions it twice, for its kind and for its elements. -/
theorem bound_jsonArray : current.jsonArray.bound = 2 * current.bound := by
  simp +arith [Sql.jsonArray, Sql.jsonWhen, Sql.jsonIs]

/-- An update of a document mentions it as often as its operator does. -/
theorem binds_document (h : document current u = .ok sql) :
    ∃ own ≤ 1, Binds (document · u) own u.op.documentMentions := by
  obtain ⟨op, operand⟩ := u
  have hjson : ∀ v, (Sql.param (.json v)).bound = 1 := fun v => rfl
  cases op with
  | set =>
    exact ⟨1, Nat.le_refl 1, fun other =>
      ⟨_, rfl, by simp [UpdateOperator.documentMentions, hjson]⟩⟩
  | inc | dec | mul => exact binds_documentArithmetic h
  | div => exact binds_unless h binds_documentArithmetic
  | max | min => exact binds_documentExtreme h
  | push =>
    refine ⟨1, Nat.le_refl 1, fun other => ⟨_, rfl, ?_⟩⟩
    simp +arith [UpdateOperator.documentMentions, bound_jsonArray, hjson]
  | addToSet =>
    refine ⟨1, Nat.le_refl 1, fun other => ⟨_, rfl, ?_⟩⟩
    simp +arith [UpdateOperator.documentMentions, documentAdd, bound_jsonArray, hjson]
  | removeAll =>
    refine ⟨1, Nat.le_refl 1, fun other => ⟨_, rfl, ?_⟩⟩
    simp +arith [UpdateOperator.documentMentions, documentRemove, bound_jsonArray, hjson]
  | popFirst | popLast =>
    refine ⟨0, Nat.zero_le 1, fun other => ⟨_, rfl, ?_⟩⟩
    simp [UpdateOperator.documentMentions, bound_jsonArray]

/-- A place inside a document is updated in what the document is, which is mentioned once more. -/
theorem binds_inside {path : List String} (h : inside current path u = .ok sql) :
    ∃ own ≤ 1, Binds (inside · path u) own (1 + u.op.documentMentions) := by
  obtain ⟨value, hvalue, -⟩ := Result.bind_eq_ok.mp h
  obtain ⟨own, hown, hbinds⟩ := binds_document hvalue
  refine ⟨own, hown, fun other => ?_⟩
  obtain ⟨value, hvalue, hbound⟩ :=
    hbinds ((Sql.seq ["COALESCE(", other, ", '\x7b\x7d'::jsonb)"]).jsonAt path)
  refine ⟨_, Result.bind_eq_ok.mpr ⟨value, hvalue, rfl⟩, ?_⟩
  have hplace : ((Sql.seq ["COALESCE(", other, ", '\x7b\x7d'::jsonb)"]).jsonAt path).bound =
      other.bound := by
    simp [Sql.jsonAt, Sql.bound_textArray]
  rw [hplace] at hbound
  simp +arith [Sql.bound_textArray, hbound, Nat.add_mul]

/-! ### Native columns -/

/-- A computation on a number column mentions it once. -/
theorem binds_nativeArithmetic (h : nativeArithmetic current ty u operator = .ok sql) :
    ∃ own ≤ 1, Binds (nativeArithmetic · ty u operator) own 1 := by
  unfold nativeArithmetic at h
  split at h
  next kind hkind =>
    split at h
    next hnumeric =>
      split at h
      next p hp =>
        refine ⟨_, Sql.bound_param_le p, fun other =>
          ⟨.seq ["(COALESCE(", other, ", 0) ", operator, " ", .param p, ")"], ?_, ?_⟩⟩
        · simp [nativeArithmetic, hkind, hnumeric, hp]
        · simp +arith
      next => cases h
    next => cases h
  next => cases h

/-- A computation on a date column mentions it once. -/
theorem binds_dateArithmetic (h : dateArithmetic current u operator = .ok sql) :
    ∃ own ≤ 1, Binds (dateArithmetic · u operator) own 1 := by
  unfold dateArithmetic at h
  split at h
  next ms hms =>
    refine ⟨_, Sql.bound_param_le (.float ms), fun other =>
      ⟨.seq ["(COALESCE(", other, ", NOW()) ", operator, " (", .param (.float ms),
        " * INTERVAL '1 millisecond'))"], ?_, ?_⟩⟩
    · simp [dateArithmetic, hms]
    · simp +arith
  next => cases h

/-- A shift of a date column mentions it once. -/
theorem binds_nativeShift (h : nativeShift current ty u operator = .ok sql) :
    ∃ own ≤ 1, Binds (nativeShift · ty u operator) own 1 := by
  unfold nativeShift at h ⊢
  split at h
  next hdate =>
    simp only [if_pos hdate]
    exact binds_dateArithmetic h
  next hdate =>
    simp only [if_neg hdate]
    exact binds_nativeArithmetic h

/-- The greater or lesser of a column and a constant mentions the column once. -/
theorem binds_nativeExtreme {function : String}
    (h : nativeExtreme current ty u function = .ok sql) :
    ∃ own ≤ 1, Binds (nativeExtreme · ty u function) own 1 := by
  unfold nativeExtreme at h
  split at h
  next hordered =>
    obtain ⟨p, hp, -⟩ := Result.map_eq_ok.mp h
    refine ⟨_, Sql.bound_param_le p, fun other =>
      ⟨.seq [function, "(", other, ", ", .param p, ")"], ?_, ?_⟩⟩
    · simp only [nativeExtreme, hordered, if_true]
      exact Result.map_eq_ok.mpr ⟨p, hp, rfl⟩
    · simp +arith
  next => cases h

/-- An update of an array column mentions it once and binds nothing of its own but the items. -/
theorem binds_nativeArray {op : UpdateOperator} (h : nativeArray current ty op = .ok sql) :
    Binds (nativeArray · ty op) 0 1 := by
  unfold nativeArray at h ⊢
  split at h
  next => exact fun other => ⟨_, rfl, by simp⟩
  next => exact fun other => ⟨_, rfl, by simp⟩
  next => cases h

/-- An update of a column of a type of its own mentions it as often as its operator does. -/
theorem binds_native (h : native current ty u = .ok sql) :
    ∃ own ≤ 1, Binds (native · ty u) own u.op.nativeMentions := by
  obtain ⟨op, operand⟩ := u
  cases op with
  | set =>
    obtain ⟨p, hp, -⟩ := Result.map_eq_ok.mp h
    refine ⟨_, Sql.bound_param_le p, fun other => ⟨_, Result.map_eq_ok.mpr ⟨p, hp, rfl⟩, ?_⟩⟩
    simp [UpdateOperator.nativeMentions]
  | inc | dec => exact binds_nativeShift h
  | mul => exact binds_nativeArithmetic h
  | div => exact binds_unless h binds_nativeArithmetic
  | max | min => exact binds_nativeExtreme h
  | push | addToSet | removeAll =>
    obtain ⟨array, harray, h⟩ := Result.bind_eq_ok.mp h
    obtain ⟨items, hitems, -⟩ := Result.bind_eq_ok.mp h
    refine ⟨_, Sql.bound_param_le items, fun other => ?_⟩
    obtain ⟨array, harray, hbound⟩ := binds_nativeArray harray other
    refine ⟨_, Result.bind_eq_ok.mpr ⟨array, harray, Result.bind_eq_ok.mpr ⟨items, hitems, rfl⟩⟩, ?_⟩
    simp +arith [UpdateOperator.nativeMentions, nativeAdd, nativeRemove, hbound]
  | popFirst | popLast =>
    obtain ⟨array, harray, -⟩ := Result.bind_eq_ok.mp h
    refine ⟨0, Nat.zero_le 1, fun other => ?_⟩
    obtain ⟨array, harray, hbound⟩ := binds_nativeArray harray other
    refine ⟨_, Result.bind_eq_ok.mpr ⟨array, harray, rfl⟩, ?_⟩
    simp +arith [UpdateOperator.nativeMentions, hbound]

/-! ### Any column -/

/-- How often the new value of a column mentions the current one. -/
def mentions (u : Update) (ty : FieldType) (path : List String) : Nat :=
  if ty.isJson then if path.isEmpty then u.op.documentMentions else 1 + u.op.documentMentions
  else u.op.nativeMentions

/-- No update mentions its column more than five times. -/
theorem mentions_le (u : Update) (ty : FieldType) (path : List String) : u.mentions ty path ≤ 5 := by
  obtain ⟨op, operand⟩ := u
  have hdocument : op.documentMentions ≤ 4 := by cases op <;> decide
  have hnative : op.nativeMentions ≤ 2 := by cases op <;> decide
  unfold mentions
  split
  · split <;> dsimp only <;> omega
  · exact Nat.le_trans hnative (by decide)

/-- Setting mentions the current value only where it is a place inside that is set. -/
theorem mentions_set (v : Json) (ty : FieldType) (path : List String) :
    (⟨.set, v⟩ : Update).mentions ty path ≤ if path.isEmpty then 0 else 1 := by
  unfold mentions
  split
  · split <;> exact Nat.le_refl _
  · exact Nat.zero_le _

/-- What an update binds is its operand, and what the current value binds for each mention of it. -/
theorem binds_apply {path : List String} (h : apply current ty path u = .ok sql) :
    ∃ own ≤ 1, Binds (apply · ty path u) own (u.mentions ty path) := by
  unfold apply mentions at *
  split at h
  next hpath =>
    split at h
    next hjson =>
      simp only [hpath, hjson, if_true]
      exact binds_document h
    next hjson =>
      simp only [hpath, hjson, if_true]
      exact binds_native h
  next hpath =>
    split at h
    next hjson =>
      simp only [hpath, hjson, if_true]
      exact binds_inside h
    next => cases h

end Update

end ObjectQuery
