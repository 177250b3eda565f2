import ObjectQuery.Proofs.Sql.Alike
import ObjectQuery.Statement.Read

/-!
# Alike terms and objects

What the compiler makes of alike operands is alike, whatever aliases correspond: terms, connectives,
vectors, the elements of an array, the inputs of aggregates, and the objects of a result.
-/

namespace ObjectQuery

open Sql

variable {L : String → String → Prop}

/-! ## Terms -/

/-- The same constant, or operands that are alike. -/
inductive Term.Alike (L : String → String → Prop) : Term → Term → Prop where
  | operand {o o' : Operand} (h : o.Alike L o') : Alike L (.operand o) (.operand o')
  | constant (v : Json) : Alike L (.constant v) (.constant v)

namespace Term

variable {t t' l l' r r' : Term} {items items' : List Term}

/-- Terms alike are asked for their truth alike. -/
theorem alike_truth (h : t.Alike L t') : t.truth.Alike L t'.truth := by
  cases h with
  | operand h => exact Operand.alike_truthy h
  | constant v => cases htruth : Value.truthy v <;> simp [truth, knownTruth, htruth]

/-- Terms alike are written as documents alike. -/
theorem alike_document (h : t.Alike L t') : t.document.Alike L t'.document := by
  cases h with
  | operand h =>
    obtain ⟨type, h⟩ := h
    unfold document
    dsimp only
    split <;> simp [h]
  | constant v => exact .param _

/-- Terms that are alike are known to the same extent. -/
theorem mapM_constant?_eq (h : List.Forall₂ (Alike L) items items') :
    items.mapM constant? = items'.mapM constant? := by
  induction h with
  | nil => rfl
  | cons h _ ih =>
    rw [List.mapM_cons, List.mapM_cons, ih]
    cases h <;> rfl

/-- Lists of terms alike build arrays alike. -/
theorem alike_array (h : List.Forall₂ (Alike L) items items') :
    (array items).Alike L (array items') := by
  unfold array
  rw [mapM_constant?_eq h]
  split
  next => exact .constant _
  next =>
    have hdocuments : List.Forall₂ (Sql.Alike L) (items.map document) (items'.map document) :=
      List.rel_map (fun _ _ => (alike_document ·)) h
    exact .operand (.mk _ (by simp [hdocuments]))

/-- Comparisons of terms alike are alike. -/
theorem alike_compare {op : Comparison} (hl : l.Alike L l') (hr : r.Alike L r') :
    (compare op l r).Alike L (compare op l' r') := by
  cases hl with
  | operand hl =>
    cases hr with
    | operand hr => exact Operand.alike_compare hl hr
    | constant v => exact Operand.alike_compareConstant hl
  | constant v =>
    cases hr with
    | operand hr => exact Operand.alike_compareConstant hr
    | constant w => cases htruth : Value.compares op v w <;> simp [compare, knownTruth, htruth]

end Term

/-- A connective of parts alike is alike. -/
theorem Connective.alike_sql {op : Connective} {parts parts' : List Sql}
    (h : List.Forall₂ (Alike L) parts parts') : (op.sql parts).Alike L (op.sql parts') := by
  cases op with
  | and => exact alike_and h
  | or => exact alike_or h
  | nor => exact alike_not.mpr (alike_or h)

/-! ## Vectors -/

namespace Vector

/-- A cast to a vector is alike exactly when what it casts is. -/
@[simp]
theorem alike_cast {sql sql' : Sql} {dimension : Option Nat} :
    (Vector.cast sql dimension).Alike L (Vector.cast sql' dimension) ↔ sql.Alike L sql' := by
  unfold Vector.cast
  cases dimension <;> simp

/-- A vector of numbers names no alias. -/
theorem alike_ofDoubles {xs : List Float} : (ofDoubles xs).Alike L (ofDoubles xs) := by
  simp [ofDoubles]

/-- Terms alike are both taken for vectors, alike, or both refused. -/
theorem alike_ofTerm {dimension : Option Nat} {t t' : Term} (h : t.Alike L t') :
    Result.Agree (Alike L) (ofTerm dimension t) (ofTerm dimension t') := by
  cases h with
  | operand h =>
    obtain ⟨type, h⟩ := h
    cases type with
    | array element =>
      cases element with
      | double => exact .ok (alike_cast.mpr h)
      | text => exact .error _
    | json => exact .ok (by simp [h])
    | scalar _ | token _ | tokens _ => exact .error _
  | constant v =>
    unfold ofTerm
    split
    next => contradiction
    next => contradiction
    next =>
      split
      next => exact .ok alike_ofDoubles
      next => exact .error _
    next => exact .ok alike_ofDoubles
    next => exact .error _

/-- Terms alike are both taken for elements of a vector, alike, or both refused. -/
theorem alike_elementOfTerm {t t' : Term} (h : t.Alike L t') :
    Result.Agree (Alike L) (elementOfTerm t) (elementOfTerm t') := by
  cases h with
  | operand h =>
    obtain ⟨type, h⟩ := h
    cases type with
    | scalar kind =>
      unfold elementOfTerm
      dsimp only
      split
      next => exact .ok (by simp [h])
      next => exact .error _
    | json | array _ | token _ | tokens _ => exact .error _
  | constant v =>
    cases v with
    | num n => exact .ok (.param _)
    | null | bool _ | str _ | arr _ | obj _ => exact .error _

/-- Vectors of elements alike are alike. -/
theorem alike_ofElements {elements elements' : List Sql}
    (h : List.Forall₂ (Alike L) elements elements') :
    (ofElements elements).Alike L (ofElements elements') := by
  simp [ofElements, h]

end Vector

/-! ## Elements -/

namespace Context

/-- The rows of the elements of alike operands, and what each of them is. -/
theorem alike_elementsOf? {o o' : Operand} (h : o.Alike L o') :
    Option.Rel (fun r r' => r.1.Alike L r'.1 ∧ r.2 = r'.2) (elementsOf? o) (elementsOf? o') := by
  obtain ⟨type, h⟩ := h
  cases type with
  | array element => cases element <;> exact .some ⟨by simp [unnest, h], rfl⟩
  | tokens target => exact .some ⟨by simp [unnest, h], rfl⟩
  | json => exact .some ⟨by simp [unnestJson, h], rfl⟩
  | scalar _ | token _ => exact .none

/-- The test for a list or null is alike on operands alike. -/
theorem alike_isListOrNull {sql sql' : Sql} (h : sql.Alike L sql') :
    (isListOrNull sql).Alike L (isListOrNull sql') := by
  simp [isListOrNull, h]

/-- Quantifiers over sources alike, with conditions alike, are alike. -/
theorem alike_quantified {every : Bool} {source source' condition condition' : Sql}
    {conditions conditions' : List Sql} (hsource : source.Alike L source')
    (hconditions : List.Forall₂ (Alike L) conditions conditions')
    (hcondition : condition.Alike L condition') :
    (quantified every source conditions condition).Alike L
      (quantified every source' conditions' condition') := by
  unfold quantified
  split
  next =>
    have hexists := alike_existsIn hsource
      (List.rel_append hconditions (.cons (alike_not.mpr hcondition) .nil))
    simpa using hexists
  next => exact alike_existsIn hsource (List.rel_append hconditions (.cons hcondition .nil))

/-! ## Aggregates -/

/-- Terms alike are both taken as inputs of an aggregate, alike, or both refused. -/
theorem alike_aggregateInput {numeric : Bool} {t t' : Term} (h : t.Alike L t') :
    Result.Agree (Alike L) (aggregateInput numeric t) (aggregateInput numeric t') := by
  cases h with
  | operand h =>
    obtain ⟨type, h⟩ := h
    unfold aggregateInput
    dsimp only
    split
    next =>
      refine .ok ?_
      split <;> simp [h]
    next =>
      split
      next => exact .error _
      next => exact .ok h
    next =>
      split
      next => exact .error _
      next => exact .ok h
  | constant v =>
    unfold aggregateInput
    dsimp only
    split
    next =>
      split
      next => exact .ok (.param _)
      next => exact .error _
    next => exact .ok (.param _)

/-- Ordered aggregates of functions and inputs alike are alike. -/
theorem alike_withinGroup {function function' input input' : Sql} (hf : function.Alike L function')
    (hi : input.Alike L input') :
    (withinGroup function input).Alike L (withinGroup function' input') := by
  simp [withinGroup, hf, hi]

/-- Grouped rows are alike under aliases that correspond, when all their parts are. -/
theorem alike_groupRows {label label' : String} {key key' value value' source source' condition
    condition' : Sql} (hlabel : L label label') (hkey : key.Alike L key')
    (hvalue : value.Alike L value') (hsource : source.Alike L source')
    (hcondition : condition.Alike L condition') :
    (groupRows label key value source condition).Alike L
      (groupRows label' key' value' source' condition') := by
  simp [groupRows, hlabel, hkey, hvalue, hsource, hcondition]

end Context

/-! ## Objects -/

/-- Documents that are alike, under the same keys. -/
def Entries.Alike (L : String → String → Prop) : Entries → Entries → Prop :=
  List.Forall₂ fun entry entry' => entry.1 = entry'.1 ∧ entry.2.Alike L entry'.2

variable {entries entries' : Entries}

/-- Limit and offset name no alias. -/
theorem Sql.alike_bounds {limit skip : Option Nat} :
    (bounds limit skip).Alike L (bounds limit skip) := by
  unfold bounds
  cases limit <;> cases skip.filter (0 < ·) <;> simp

/-- Entries alike are equally many. -/
theorem Entries.Alike.length_eq (h : entries.Alike L entries') : entries.length = entries'.length :=
  List.Forall₂.length_eq h

/-- Entries alike build objects alike. -/
theorem Sql.alike_buildObject (h : entries.Alike L entries') :
    (buildObject entries).Alike L (buildObject entries') := by
  have hitems : List.Forall₂ (Alike L)
      (entries.map fun entry => Sql.seq [.str entry.1, ", ", entry.2])
      (entries'.map fun entry => Sql.seq [.str entry.1, ", ", entry.2]) := by
    refine List.rel_map ?_ h
    rintro ⟨key, value⟩ ⟨_, value'⟩ ⟨rfl, hvalue⟩
    simpa using hvalue
  simp [buildObject, hitems]

/-- Entries that correspond are taken in the same portions. -/
theorem forall₂_chunksFrom {R : String × Sql → String × Sql → Prop} {size : Nat}
    {chunk chunk' : Entries} (hchunk : List.Forall₂ R chunk chunk')
    (h : List.Forall₂ R entries entries') :
    List.Forall₂ (List.Forall₂ R) (chunksFrom size chunk entries)
      (chunksFrom size chunk' entries') := by
  induction h generalizing chunk chunk' with
  | nil =>
    cases hchunk with
    | nil => exact .nil
    | cons h hs => exact .cons (.cons h hs) .nil
  | cons hentry _ ih =>
    unfold chunksFrom
    rw [hchunk.length_eq]
    split
    next => exact ih (List.rel_append hchunk (.cons hentry .nil))
    next => exact .cons hchunk (ih (.cons hentry .nil))

/-- Entries alike make objects alike, with or without any entry. -/
theorem Sql.alike_object (h : entries.Alike L entries') :
    (object entries).Alike L (object entries') := by
  cases h with
  | nil => exact .raw _
  | cons hentry hentries =>
    refine .join _ (List.rel_map (fun _ _ => (alike_buildObject ·)) ?_)
    exact forall₂_chunksFrom .nil (.cons hentry hentries)

/-- Entries alike make lists of results alike. -/
theorem Sql.alike_resultList (h : entries.Alike L entries') :
    (resultList entries).Alike L (resultList entries') := by
  refine .join _ (List.rel_map ?_ h)
  rintro ⟨key, value⟩ ⟨_, value'⟩ ⟨rfl, hvalue⟩
  simpa using hvalue

end ObjectQuery
