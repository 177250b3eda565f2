import Mathlib.Data.List.Forall2
import ObjectQuery.Proofs.Sql.Brackets

/-!
# Which expressions are compiled to one piece

A compiled operand is one piece, with few exceptions. A negation is open, and so is a test for null; both
are what an expression is compiled to as it is, or what is left of a connective with a single item. Which
expressions these are can be read off the expression.
-/

namespace ObjectQuery

open Sql
open Token (scan_append)

namespace Expr

mutual

/-- The value of an expression that is a constant. -/
def constant? : Expr → Option Json
  | value v => some v
  | array items => (constants? items).map .arr
  | _ => none

def constants? : List Expr → Option (List Json)
  | [] => some []
  | e :: es =>
    match constant? e, constants? es with
    | some v, some vs => some (v :: vs)
    | _, _ => none

end

/--
Expressions that are compiled to a negation or to a test for null, or may be: negations, connectives of a
single item, equations with null, and negated equations with a constant.
-/
def Exposed : Expr → Prop
  | not _ => True
  | connective op items => op = .nor ∨ items.length = 1
  | comparison .eq l r => l.constant? = some .null ∨ r.constant? = some .null
  | comparison .ne l r => l.constant?.isSome ∨ r.constant?.isSome
  | _ => False

end Expr

namespace Term

variable {t l r : Term} {e : Expr}

/-- The operand of a term is balanced. -/
def Balanced : Term → Prop
  | operand o => o.sql.Balanced
  | constant _ => True

/-- The operand of a term is one piece. -/
def Primary : Term → Prop
  | operand o => o.sql.Primary
  | constant _ => True

/-- The operand of a term is open. -/
def Open : Term → Prop
  | operand o => o.sql.Open
  | constant _ => False

/-- A term of an expression: one piece, if the expression is not exposed, or the constant it is. -/
def Delimited (e : Expr) : Term → Prop
  | operand o => o.sql.Primary ∨ o.sql.Open ∧ e.Exposed
  | constant v => e.constant? = some v

/-- A delimited term is balanced. -/
theorem Delimited.balanced (h : t.Delimited e) : t.Balanced := by
  cases t with
  | operand o => exact balanced_piece (h.imp_right And.left)
  | constant v => trivial

/-- A delimited term is one piece, or open where its expression is exposed. -/
theorem Delimited.primary_or_open (h : t.Delimited e) : t.Primary ∨ t.Open ∧ e.Exposed := by
  cases t with
  | operand o => exact h
  | constant v => exact .inl trivial

/-- The terms of delimited expressions are balanced. -/
theorem balanced_of_forall₂ {es : List Expr} {ts : List Term} (h : List.Forall₂ Delimited es ts) :
    ∀ t ∈ ts, t.Balanced := by
  induction h with
  | nil => exact nofun
  | cons ht _ ih => exact List.forall_mem_cons.mpr ⟨ht.balanced, ih⟩

/-- A known truth value is one piece. -/
theorem primary_knownTruth {b : Bool} : (knownTruth b).Primary := by
  cases b
  · exact primary_false
  · exact primary_true

/-! ## Truth values and documents -/

/-- The truth of a balanced term is one piece or open. -/
theorem primary_or_open_truth (h : t.Balanced) : t.truth.Primary ∨ t.truth.Open := by
  cases t with
  | operand o => exact Operand.primary_or_open_truthy h
  | constant v => exact .inl primary_knownTruth

/-- The truth of a term is never empty text. -/
theorem truth_written : t.truth.isEmpty = false := by
  cases t with
  | operand o => exact Operand.truthy_written
  | constant v =>
    change (knownTruth _).isEmpty = false
    unfold knownTruth
    split <;> rfl

/-- The document of a balanced term is balanced. -/
theorem balanced_document (h : t.Balanced) : t.document.Balanced := by
  cases t with
  | operand o =>
    have ho : o.sql.Balanced := h
    unfold document
    dsimp only
    split
    · exact ho
    · exact (Operand.primary_toJsonb ho).balanced
  | constant v => exact primary_param.balanced

/-- A negation is open, and its expression exposed. -/
theorem delimited_not (h : t.Balanced) : (boolean t.truth.not).Delimited (.not e) :=
  .inr ⟨⟨_, balanced_piece (primary_or_open_truth h), .inl rfl⟩, trivial⟩

/-- Terms that are all constants are compiled from constants. -/
theorem constants?_of_mapM {es : List Expr} {ts : List Term} {values : List Json}
    (h : List.Forall₂ Delimited es ts) (hvalues : ts.mapM constant? = some values) :
    Expr.constants? es = some values := by
  induction h generalizing values with
  | nil =>
    cases hvalues
    rfl
  | @cons e t es ts ht _ ih =>
    rw [List.mapM_cons] at hvalues
    obtain ⟨v, hv, hvalues⟩ := Option.bind_eq_some_iff.mp hvalues
    obtain ⟨vs, hvs, hvalues⟩ := Option.bind_eq_some_iff.mp hvalues
    cases hvalues
    cases t with
    | operand o => cases hv
    | constant w =>
      cases hv
      rw [Expr.constants?, show e.constant? = some v from ht, ih hvs]

/-- An array of delimited terms is delimited. -/
theorem delimited_array {es : List Expr} {ts : List Term} (h : List.Forall₂ Delimited es ts) :
    (array ts).Delimited (.array es) := by
  unfold array
  split
  · next values hvalues =>
    change Expr.constant? _ = _
    rw [Expr.constant?, constants?_of_mapM h hvalues]
    rfl
  · have hitems : (Sql.join (ts.map document) ", ").Balanced := by
      refine balanced_join (fun _ => rfl) (List.forall_mem_map.mpr fun t ht => ?_)
      exact balanced_document (balanced_of_forall₂ h t ht)
    refine .inl (primary_call "jsonb_build_array" (by decide) hitems ?_)
    simp only [tokens, seqTokens, List.append_nil]
    rfl

/-! ## Connectives -/

/-- A connective puts its items in parentheses, and the whole of them, unless there is only one. -/
theorem primary_or_open_connect {items : List Sql} {separator whenEmpty : String}
    (hseparator : Token.Balanced (Token.lex separator)) (hempty : (raw whenEmpty).Primary)
    (h : ∀ i ∈ items, i.Primary ∨ i.Open) (hwritten : ∀ i ∈ items, i.isEmpty = false) :
    (connect items separator whenEmpty).Primary ∨
      (connect items separator whenEmpty).Open ∧ items.length = 1 := by
  have hall : (items.filter fun i => !i.isEmpty) = items :=
    List.filter_eq_self.mpr fun i hi => by simp [hwritten i hi]
  unfold connect
  rw [hall]
  split
  · exact .inl hempty
  · next item => exact (h item List.mem_cons_self).imp_right fun hopen => ⟨hopen, rfl⟩
  · have hjoin : (join (items.map parens) separator).Balanced :=
      balanced_join hseparator
        (List.forall_mem_map.mpr fun i hi => balanced_parens (balanced_piece (h i hi)))
    exact .inl (primary_group_seq [join (items.map parens) separator]
      (balanced_seq (List.forall_mem_singleton.mpr hjoin)))

/-- A connective of delimited terms is delimited; what is exposed is `nor` or a single item. -/
theorem delimited_connective {op : Connective} {es : List Expr} {ts : List Term}
    (h : List.Forall₂ Delimited es ts) :
    (boolean (op.sql (ts.map truth))).Delimited (.connective op es) := by
  have hpieces : ∀ i ∈ ts.map truth, i.Primary ∨ i.Open :=
    List.forall_mem_map.mpr fun t ht => primary_or_open_truth (balanced_of_forall₂ h t ht)
  have hwritten : ∀ i ∈ ts.map truth, i.isEmpty = false :=
    List.forall_mem_map.mpr fun _ _ => truth_written
  have hlength : (ts.map truth).length = es.length := by rw [List.length_map, h.length_eq]
  cases op with
  | and =>
    exact (primary_or_open_connect (fun _ => rfl) primary_true hpieces hwritten).imp_right
      fun ⟨hopen, hone⟩ => ⟨hopen, .inr (hlength ▸ hone)⟩
  | or =>
    exact (primary_or_open_connect (fun _ => rfl) primary_false hpieces hwritten).imp_right
      fun ⟨hopen, hone⟩ => ⟨hopen, .inr (hlength ▸ hone)⟩
  | nor =>
    have hor := balanced_or fun i hi => balanced_piece (hpieces i hi)
    exact .inr ⟨⟨_, hor, .inl rfl⟩, .inl rfl⟩

/-! ## Comparisons and measures -/

/-- A comparison is exposed by a constant only. -/
theorem delimited_comparison {op : Comparison} {left right : Expr} (hl : l.Delimited left)
    (hr : r.Delimited right) :
    (boolean (compare op l r)).Delimited (.comparison op left right) := by
  cases l with
  | operand l =>
    have hlbalanced : l.sql.Balanced := hl.balanced
    cases r with
    | operand r => exact .inl (Operand.primary_compare hlbalanced hr.balanced)
    | constant v =>
      have hright : right.constant? = some v := hr
      rcases Operand.primary_or_open_compareConstant op v hlbalanced with
        hprimary | ⟨hopen, rfl | ⟨rfl, rfl⟩⟩
      · exact .inl hprimary
      · exact .inr ⟨hopen, .inr (by rw [hright]; rfl)⟩
      · exact .inr ⟨hopen, .inr hright⟩
  | constant v =>
    have hleft : left.constant? = some v := hl
    cases r with
    | operand r =>
      rcases Operand.primary_or_open_compareConstant op.flip v hr.balanced with
        hprimary | ⟨hopen, hwhich⟩
      · exact .inl hprimary
      · -- equality and its negation stay what they are for the swapped sides
        refine .inr ⟨hopen, ?_⟩
        cases op with
        | eq =>
          obtain hne | ⟨-, rfl⟩ := hwhich
          · cases hne
          · exact .inl hleft
        | ne => exact .inl (by rw [hleft]; rfl)
        | gt | gte | lt | lte => simp [Comparison.flip] at hwhich
    | constant w => exact .inl primary_knownTruth

/-- Beside each other terms that are one piece stand as such. -/
theorem compares_compare {op : Comparison} (hl : l.Primary) (hr : r.Primary) :
    (compare op l r).Compares := by
  cases l with
  | operand l =>
    cases r with
    | operand r => exact Operand.compares_compare hl hr
    | constant v => exact Operand.compares_compareConstant hl
  | constant v =>
    cases r with
    | operand r => exact Operand.compares_compareConstant hr
    | constant w => exact .known _

end Term

/-- A measure of balanced sides is one piece. -/
theorem Measure.primary_sql {m : Measure} {left right : Sql} (hl : left.Balanced)
    (hr : right.Balanced) : (m.sql left right).Primary := by
  have hvalue : (Sql.seq ["(", left, m.operator, right, ")"]).Primary := by
    refine primary_group_seq _ (balanced_between hl ?_ hr)
    cases m <;> exact fun _ => rfl
  cases m with
  | innerProduct =>
    have hminus : (Sql.raw "-").Balanced := fun _ => rfl
    have hinner : (Sql.seq ["-", .seq ["(", left, " <#> ", right, ")"]]).Balanced :=
      balanced_pair hminus hvalue.balanced
    refine primary_group hinner ?_
    simp only [Measure.sql, operator, tokens, seqTokens, List.append_assoc, List.append_nil]
    rfl
  | _ => exact hvalue

/-! ## Vectors -/

namespace Vector

/-- A cast of what is balanced is balanced. -/
theorem balanced_cast {sql : Sql} {dimension : Option Nat} (h : sql.Balanced) :
    (cast sql dimension).Balanced := by
  have hparens := balanced_parens h
  cases dimension with
  | none =>
    intro stack
    simp only [cast, tokens, seqTokens, scan_append, hparens.scan]
    rfl
  | some d =>
    have htype : (Sql.raw ("::vector(" ++ toString d ++ ")")).Balanced := by
      intro stack
      have hlex : Token.lex ("::vector(" ++ toString d ++ ")") =
          [.mark ':', .mark ':', .word "vector", .opening .round] ++
            (.word (toString d) :: Token.ofChar ')') := by
        rw [← Token.lexChars_toString_closing (.inl rfl), Token.lex, String.toList_append,
          String.toList_append, List.append_assoc]
        rfl
      rw [tokens, hlex]
      rfl
    exact balanced_pair hparens htype

/-- A vector of numbers is balanced. -/
theorem balanced_ofDoubles {xs : List Float} : (ofDoubles xs).Balanced :=
  balanced_cast primary_param.balanced

/-- A vector taken of a balanced term is balanced. -/
theorem balanced_ofTerm {dimension : Option Nat} {t : Term} {sql : Sql} (ht : t.Balanced)
    (h : ofTerm dimension t = .ok sql) : sql.Balanced := by
  unfold ofTerm at h
  split at h
  · cases h
    exact balanced_cast ht
  · next element =>
    have helement : element.Balanced := ht
    cases h
    refine balanced_cast fun stack => ?_
    simp only [tokens, seqTokens, scan_append, helement.scan]
    rfl
  · split at h
    · cases h
      exact balanced_ofDoubles
    · cases h
  · cases h
    exact balanced_ofDoubles
  · cases h

/-- An element of a vector taken of a balanced term is balanced. -/
theorem balanced_elementOfTerm {t : Term} {sql : Sql} (ht : t.Balanced)
    (h : elementOfTerm t = .ok sql) : sql.Balanced := by
  unfold elementOfTerm at h
  split at h
  · cases h
    exact primary_param.balanced
  · next element kind =>
    have helement : element.Balanced := ht
    split at h
    · cases h
      intro stack
      simp only [tokens, seqTokens, scan_append, (balanced_parens helement).scan]
      rfl
    · cases h
  · cases h

/-- A vector of balanced elements is balanced. -/
theorem balanced_ofElements {elements : List Sql} (h : ∀ e ∈ elements, e.Balanced) :
    (ofElements elements).Balanced := by
  have hitems : (Sql.join elements ", ").Balanced := balanced_join (fun _ => rfl) h
  unfold ofElements
  generalize Sql.join elements ", " = items at hitems
  refine balanced_cast fun stack => ?_
  simp only [tokens, seqTokens, scan_append, hitems.scan]
  rfl

end Vector

end ObjectQuery
