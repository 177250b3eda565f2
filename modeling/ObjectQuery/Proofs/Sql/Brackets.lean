import ObjectQuery.Proofs.Numeral.Digits
import ObjectQuery.Proofs.Result
import ObjectQuery.Proofs.Sql.Primary
import ObjectQuery.Statement.Condition

/-!
# Every fragment closes its brackets

Whatever is compiled from balanced operands is balanced: documents, tests, comparisons, vectors, subqueries
and joins. What the compiler means to be one piece is primary too: parentheses around anything balanced, a
call of anything balanced, a choice between balanced branches.

What stands beside the operator of a comparison is one piece wherever the operands are: a comparison with a
constant takes the operand as it is, or takes a document for what the constant is, and one of two operands
takes both as they are, or casts them to what they have in common. A comparison is itself one piece, unless
it is a test for null or the negation of an equation with a constant.
-/

namespace ObjectQuery

/-! ## Numbers in text -/

namespace Token

/-- Digits go on with the word that is being read. -/
theorem lexChars_digits {digits : List Char} (h : ∀ c ∈ digits, c.isDigit = true)
    (read rest : List Char) :
    lexChars (.word read) (digits ++ rest) = lexChars (.word (digits.reverse ++ read)) rest := by
  induction digits generalizing read with
  | nil => rfl
  | cons d ds ih =>
    obtain ⟨hd, hds⟩ := List.forall_mem_cons.mp h
    have hword : (d.isAlphanum || d == '_') = true := by simp [Char.isAlphanum, hd]
    rw [List.cons_append, lexChars, if_pos hword, ih hds]
    simp

/-- A number is a word; it is not the word of a bracket. -/
theorem ofWord_digits {digits : List Char} (h : ∀ c ∈ digits, c.isDigit = true)
    (hnil : digits ≠ []) : ofWord digits = [word (String.ofList digits)] := by
  cases digits with
  | nil => exact absurd rfl hnil
  | cons d ds =>
    have hd := h d List.mem_cons_self
    unfold ofWord
    split
    · next heq => cases heq
    · next heq => cases heq; exact absurd hd (by decide)
    · next heq => cases heq; exact absurd hd (by decide)
    · rfl

variable {n : Nat}

/-- A number is written with its decimal digits. -/
theorem digits_toString : (toString n).toList = Nat.toDigits 10 n := by simp [toString, Nat.repr]

/-- A number is written with digits alone. -/
theorem isDigit_of_mem_toString : ∀ c ∈ (toString n).toList, c.isDigit = true := fun c hc =>
  Nat.isDigit_of_mem_toDigits (by decide) (by decide) (digits_toString ▸ hc)

/-- A number is never written as nothing. -/
theorem toString_ne_nil : (toString n).toList ≠ [] := by
  rw [digits_toString]
  exact Nat.toDigits_ne_nil

/-- A number at the end of text is its last token. -/
theorem lexChars_toString :
    lexChars (.word []) (toString n).toList = [word (toString n)] := by
  have hread := lexChars_digits (isDigit_of_mem_toString (n := n)) [] []
  rw [List.append_nil] at hread
  rw [hread, List.append_nil, lexChars, List.reverse_reverse,
    ofWord_digits isDigit_of_mem_toString toString_ne_nil, String.ofList_toList]

/-- A number before a bracket that is closed. -/
theorem lexChars_toString_closing {c : Char} (h : c = ')' ∨ c = ']') :
    lexChars (.word []) ((toString n).toList ++ [c]) = word (toString n) :: ofChar c := by
  rw [lexChars_digits isDigit_of_mem_toString, List.append_nil]
  obtain rfl | rfl := h <;>
  · change ofWord (toString n).toList.reverse.reverse ++ (_ ++ []) = _
    rw [List.reverse_reverse, ofWord_digits isDigit_of_mem_toString toString_ne_nil,
      String.ofList_toList, List.append_nil]
    rfl

end Token

namespace Sql

open Token (scan_append)

variable {a b : Sql}

/-! ## Pieces -/

theorem primary_column {label name : String} : (column label name).Primary := .column label name

theorem primary_param {value : Param} : (param value).Primary := .value value

theorem primary_true : (raw "true").Primary := .truth (.inl rfl)

theorem primary_false : (raw "false").Primary := .truth (.inr rfl)

/-- A fragment that is an inner one in parentheses. -/
theorem primary_group (h : a.Balanced)
    (heq : b.tokens = .opening .round :: (a.tokens ++ [.closing .round])) : b.Primary := by
  rw [Primary, heq]
  exact .group h

/-- Parts in parentheses. -/
theorem primary_group_seq (parts : List Sql) (h : (seq parts).Balanced) :
    (seq ("(" :: (parts ++ [raw ")"]))).Primary := by
  refine primary_group h ?_
  rw [tokens, seqTokens, seqTokens_append, tokens]
  rfl

/-- A fragment that is an inner one between `CASE` and `END`. -/
theorem primary_choice (h : a.Balanced)
    (heq : b.tokens = .opening .case :: (a.tokens ++ [.closing .case])) : b.Primary := by
  rw [Primary, heq]
  exact .choice h

/-- A fragment that calls a function on an inner one. -/
theorem primary_call (function : String) (hname : function ∈ Token.functions) (h : a.Balanced)
    (heq : b.tokens = .word function :: .opening .round :: (a.tokens ++ [.closing .round])) :
    b.Primary := by
  rw [Primary, heq]
  exact .call hname h

/-- A number that the compiler writes is a word. -/
theorem balanced_number {n : Nat} : (raw (toString n)).Balanced := by
  intro stack
  change Token.scan stack (Token.lexChars (.word []) (toString n).toList) = some stack
  rw [Token.lexChars_toString]
  rfl

/-- Balanced sides of an operator. -/
theorem balanced_between {operator : String} (ha : a.Balanced)
    (hoperator : Token.Balanced (Token.lex operator)) (hb : b.Balanced) :
    (seq [a, operator, b]).Balanced := by
  intro stack
  simp only [tokens, seqTokens, scan_append, ha.scan, hoperator.scan_eq, hb.scan]
  rfl

/-- Parentheses around anything balanced are one piece. -/
theorem primary_parens (h : a.Balanced) : a.parens.Primary := primary_group h rfl

/-- A test that is false where it is unknown is a call, so it is one piece. -/
theorem primary_orFalse (h : a.Balanced) : a.orFalse.Primary := by
  have hinner : (seq [a, ", false"]).Balanced := by
    intro stack
    simp only [tokens, seqTokens, scan_append, h.scan]
    rfl
  refine primary_call "COALESCE" (by decide) hinner ?_
  simp only [orFalse, tokens, seqTokens, List.append_assoc, List.append_nil]
  rfl

/-! ## Documents -/

/-- An array of texts closes its brackets, for the texts are quoted. -/
theorem balanced_textArray {texts : List String} : (textArray texts).Balanced := by
  have hitems : (join (texts.map str) ", ").Balanced :=
    balanced_join (fun _ => rfl) (List.forall_mem_map.mpr fun _ _ _ => rfl)
  unfold textArray
  generalize join (texts.map str) ", " = items at hitems
  intro stack
  simp only [tokens, seqTokens, scan_append, hitems.scan]
  rfl

/-- A test for the kind of a document closes its brackets. -/
theorem balanced_jsonIs {kind : String} (h : a.Balanced) : (a.jsonIs kind).Balanced := by
  intro stack
  simp only [jsonIs, tokens, seqTokens, scan_append, h.scan]
  rfl

/-- A member of a document is called for, so it is one piece. -/
theorem primary_jsonAt {keys : List String} (h : a.Balanced) : (a.jsonAt keys).Primary :=
  primary_group_seq _ (balanced_between h (fun _ => rfl) balanced_textArray)

/-- A document as text closes its brackets. -/
theorem balanced_jsonText (h : a.Balanced) : a.jsonText.Balanced := by
  intro stack
  simp only [jsonText, tokens, seqTokens, scan_append, h.scan]
  rfl

/-- A choice by the kind of a document stands between `CASE` and `END`. -/
theorem primary_jsonWhen {kind : String} (ha : a.Balanced) (hb : b.Balanced) :
    (a.jsonWhen kind b).Primary := by
  have hinner : (seq ["WHEN ", a.jsonIs kind, " THEN ", b]).Balanced := by
    intro stack
    simp only [tokens, seqTokens, scan_append, (balanced_jsonIs ha).scan, hb.scan]
    rfl
  refine primary_choice hinner ?_
  simp only [jsonWhen, tokens, seqTokens, List.append_assoc, List.append_nil]
  rfl

/-- A document as a number stands between `CASE` and `END`. -/
theorem primary_jsonNumeric (h : a.Balanced) : a.jsonNumeric.Primary := by
  have hinner : (seq ["jsonb_typeof(", a, ") WHEN 'number' THEN (", a,
      ")::numeric WHEN 'object' THEN ((", a, ") ->> ", str Value.decimalTag,
      ")::numeric"]).Balanced := by
    intro stack
    simp only [tokens, seqTokens, scan_append, h.scan]
    rfl
  refine primary_choice hinner ?_
  simp only [jsonNumeric, tokens, seqTokens, List.append_assoc, List.append_nil]
  rfl

/-! ## Queries -/

/-- A query closes its brackets if all of its clauses do. -/
theorem balanced_select {list source condition tail : Sql} (hlist : list.Balanced)
    (hsource : source.Balanced) (hcondition : condition.Balanced) (htail : tail.Balanced) :
    (select list source condition tail).Balanced := by
  intro stack
  simp only [select, tokens, seqTokens, scan_append, hlist.scan, hsource.scan, hcondition.scan,
    htail.scan]
  rfl

/-- A subquery that is asked for rows closes its brackets. -/
theorem balanced_existsIn {source : Sql} {conditions : List Sql} (hsource : source.Balanced)
    (h : ∀ c ∈ conditions, c.Balanced) : (existsIn source conditions).Balanced := by
  have hquery : (select "1" source (and conditions) empty).Balanced :=
    balanced_select (fun _ => rfl) hsource (balanced_and h) Token.balanced_nil
  intro stack
  simp only [existsIn, tokens, seqTokens, scan_append, hquery.scan]
  rfl

end Sql

/-! ## Tests of an operand -/

namespace Operand

open Sql
open Token (scan_append)

variable {o l r : Operand}

/-- A test for null is one piece, or it ends in the operator that tests for null. -/
theorem primary_or_open_isNull (h : o.sql.Balanced) : o.isNull.Primary ∨ o.isNull.Open := by
  unfold isNull
  split
  · have hinner : (Sql.seq [o.sql, " IS NULL OR ", o.sql, " = 'null'::jsonb"]).Balanced := by
      intro stack
      simp only [tokens, seqTokens, scan_append, h.scan]
      rfl
    refine .inl (primary_group hinner ?_)
    simp only [tokens, seqTokens, List.append_assoc, List.append_nil]
    rfl
  · exact .inl primary_false
  · exact .inr ⟨o.sql, h, .inr (.inl rfl)⟩

/-- A document beside a constant is taken out of a choice, or stands there as it is. -/
theorem left_of_jsonSides? {sql : Sql} {v : Json} {s : Sides} (hsql : sql.Balanced)
    (h : jsonSides? sql v = some s) : s.left = sql ∨ s.left.Primary := by
  unfold jsonSides? at h
  split at h
  · cases h
  · cases h
    refine .inr (primary_jsonWhen hsql fun stack => ?_)
    simp only [tokens, seqTokens, scan_append, hsql.scan]
    rfl
  · cases h
    exact .inr (primary_jsonWhen hsql (balanced_jsonText hsql))
  · split at h
    · obtain ⟨d, -, rfl⟩ := Option.map_eq_some_iff.mp h
      exact .inr (primary_jsonNumeric hsql)
    · split at h
      · cases h
        refine .inr (primary_jsonWhen hsql fun stack => ?_)
        simp only [tokens, seqTokens, scan_append, hsql.scan]
        rfl
      · cases h
        exact .inl rfl

/-- What stands beside a constant is the operand as it is, or one piece. -/
theorem left_of_sides? {v : Json} {s : Sides} (ho : o.sql.Balanced) (h : o.sides? v = some s) :
    s.left = o.sql ∨ s.left.Primary := by
  unfold sides? at h
  split at h
  · obtain ⟨p, -, rfl⟩ := Option.map_eq_some_iff.mp h
    exact .inl rfl
  · exact left_of_jsonSides? ho h
  · split at h
    · split at h
      · cases h; exact .inl rfl
      · cases h
    · cases h
  · obtain ⟨token, -, rfl⟩ := Option.map_eq_some_iff.mp h
    exact .inl rfl
  · split at h
    · split at h
      · cases h; exact .inl rfl
      · cases h
    · cases h

/-- The operator of a comparison has no brackets. -/
theorem balanced_comparison (op : Comparison) : Token.Balanced (Token.lex op.sql) := by
  cases op <;> exact fun _ => rfl

/-- A comparison between balanced sides that is false where it is unknown is one piece. -/
theorem primary_related {a b : Sql} {op : Comparison} (ha : a.Balanced) (hb : b.Balanced) :
    (orFalse (seq [a, " ", op.sql, " ", b])).Primary := by
  refine primary_orFalse fun stack => ?_
  simp only [tokens, seqTokens, scan_append, ha.scan, (balanced_comparison op).scan_eq, hb.scan]
  rfl

/-- An operator between the sides that a constant was found for is one piece. -/
theorem primary_apply {s : Sides} (op : Comparison) {v : Json} (ho : o.sql.Balanced)
    (h : o.sides? v = some s) : (s.apply op.sql).Primary := by
  have hleft : s.left.Balanced := by
    rcases left_of_sides? ho h with hsame | hleft
    · exact hsame ▸ ho
    · exact hleft.balanced
  exact primary_related hleft primary_param.balanced

/-- A comparison with a constant is one piece, but for a test for null and a negated equation. -/
theorem primary_or_open_compareConstant (op : Comparison) (v : Json) (h : o.sql.Balanced) :
    (o.compareConstant op v).Primary ∨
      (o.compareConstant op v).Open ∧ (op = .ne ∨ op = .eq ∧ v = .null) := by
  unfold compareConstant
  split
  · next hnull =>
    have hnull : v = .null := by cases v <;> simp_all [Json.isNull]
    split
    · exact (primary_or_open_isNull h).imp_right fun hopen => ⟨hopen, .inr ⟨rfl, hnull⟩⟩
    · exact .inr ⟨⟨_, balanced_piece (primary_or_open_isNull h), .inl rfl⟩, .inl rfl⟩
    · exact .inl primary_false
  · split
    · exact .inl primary_true
    · exact .inl primary_false
    · next s hs => exact .inl (primary_apply .eq h hs)
    · next s hs =>
      exact .inr ⟨⟨_, (primary_apply .eq h hs).balanced, .inl rfl⟩, .inl rfl⟩
    · next s hs _ _ =>
      split
      · exact .inl (primary_apply _ h hs)
      · exact .inl primary_false

/-- A comparison with a constant closes its brackets. -/
theorem balanced_compareConstant {op : Comparison} {v : Json} (h : o.sql.Balanced) :
    (o.compareConstant op v).Balanced :=
  balanced_piece ((primary_or_open_compareConstant op v h).imp_right And.left)

/-- A comparison with several constants closes its brackets. -/
theorem balanced_equalsOne {list : List Json} (h : o.sql.Balanced) : (o.equalsOne list).Balanced :=
  balanced_or (List.forall_mem_map.mpr fun _ _ => balanced_compareConstant h)

/-- A test of a string closes its brackets, if its operator has none that are open. -/
theorem balanced_testString {operator param : String}
    (hoperator : Token.Balanced (Token.lex operator)) (h : o.sql.Balanced) :
    (o.testString operator param).Balanced := by
  have htext : o.sql.jsonText.Balanced := balanced_jsonText h
  unfold testString
  split
  · refine (primary_orFalse fun stack => ?_).balanced
    simp only [tokens, seqTokens, scan_append, h.scan, hoperator.scan_eq]
    rfl
  · refine (primary_orFalse (primary_jsonWhen h fun stack => ?_).balanced).balanced
    simp only [tokens, seqTokens, scan_append, htext.scan, hoperator.scan_eq]
    rfl
  · exact fun _ => rfl

/-- The operator between two sets has no brackets. -/
theorem balanced_relation (relation : SetRelation) : Token.Balanced (Token.lex relation.sql) := by
  cases relation <;> exact fun _ => rfl

/-- A test of an array closes its brackets. -/
theorem balanced_testArray {sql : Sql} {relation : SetRelation} {complete : Bool} {list : Param}
    (h : sql.Balanced) : (testArray sql relation complete list).Balanced := by
  unfold testArray
  split
  · exact fun _ => rfl
  · refine (primary_orFalse fun stack => ?_).balanced
    simp only [tokens, seqTokens, scan_append, h.scan, (balanced_relation relation).scan_eq]
    rfl

/--
A test of an array in a document closes its brackets, and those of the subquery over its elements.
-/
theorem balanced_testJsonArray {sql : Sql} {relation : SetRelation} {list : Param}
    (h : sql.Balanced) : (testJsonArray sql relation list).Balanced := by
  have hkind : (sql.jsonIs "array").Balanced := balanced_jsonIs h
  intro stack
  cases relation <;>
  · simp only [testJsonArray, tokens, seqTokens, scan_append, h.scan, hkind.scan]
    rfl

/-- A test against a set closes its brackets. -/
theorem balanced_testSet {relation : SetRelation} {list : List Json} (h : o.sql.Balanced) :
    (o.testSet relation list).Balanced := by
  unfold testSet
  split
  · exact balanced_testArray h
  · exact balanced_testArray h
  · exact balanced_testJsonArray h
  · exact fun _ => rfl

/-- A test of a size closes its brackets. -/
theorem balanced_testSize {count : Nat} (h : o.sql.Balanced) : (o.testSize count).Balanced := by
  have htext : o.sql.jsonText.Balanced := balanced_jsonText h
  have hcount : (Sql.int (min count maxInteger)).Balanced := by
    have hmin : (min count maxInteger : Int) = (min count maxInteger : Nat) := by omega
    rw [hmin]
    exact balanced_number
  unfold testSize
  generalize Sql.int _ = n at hcount
  dsimp only
  split
  · refine (primary_orFalse fun stack => ?_).balanced
    simp only [tokens, seqTokens, scan_append, h.scan, hcount.scan]
    rfl
  · refine (primary_orFalse fun stack => ?_).balanced
    simp only [tokens, seqTokens, scan_append, h.scan, hcount.scan]
    rfl
  · intro stack
    simp only [tokens, seqTokens, scan_append, h.scan, hcount.scan]
    rfl
  · refine (primary_orFalse fun stack => ?_).balanced
    simp only [tokens, seqTokens, scan_append, h.scan, htext.scan, hcount.scan]
    rfl
  · exact fun _ => rfl

/-- A test for being empty closes its brackets. -/
theorem balanced_isEmpty (h : o.sql.Balanced) : o.isEmpty.Balanced := by
  unfold isEmpty
  split
  case h_5 => exact Open.balanced ⟨o.sql, h, .inr (.inl rfl)⟩
  all_goals
    intro stack
    simp only [tokens, seqTokens, scan_append, h.scan]
    rfl

/-- Whichever test is compiled closes its brackets. -/
theorem balanced_test {t : FieldTest} {sql : Sql} (ho : o.sql.Balanced) (h : o.test t = .ok sql) :
    sql.Balanced := by
  fun_induction test o t generalizing sql with
  | case1 => cases h; exact balanced_compareConstant ho
  | case2 => cases h; exact balanced_equalsOne ho
  | case3 => cases h; exact balanced_not (balanced_equalsOne ho)
  | case4 | case5 | case6 => cases h; exact balanced_testSet ho
  | case7 t sql' heq ih => cases h; exact balanced_not (ih heq)
  | case9 source ignoreCase =>
    cases h
    refine balanced_testString ?_ ho
    split <;> exact fun _ => rfl
  | case10 | case11 => cases h; exact balanced_testString (fun _ => rfl) ho
  | case12 => cases h; exact balanced_testSize ho
  | case13 =>
    cases h
    split
    · exact balanced_isEmpty ho
    · exact balanced_not (balanced_isEmpty ho)
  | case8 | case14 | case15 => cases h

end Operand

open Sql
open Token (scan_append)

/-! ## The grammar of comparisons -/

/-- A comparison as it is written: each operator in it is the only one between its two sides. -/
inductive Sql.Compares : Sql → Prop
  | known (b : Bool) : Compares (Term.knownTruth b)
  | missing {x : Sql} (h : x.Balanced) : Compares (.seq [x.parens, " IS NULL"])
  | missingDocument {x : Sql} (h : x.Delimits " = " (.seq [.str "null", "::jsonb"])) :
    Compares (.seq ["(", x, " IS NULL OR ", x, " = 'null'::jsonb)"])
  | same {a b : Sql} (h : a.Delimits " IS NOT DISTINCT FROM " b) :
    Compares (.seq ["(", a, " IS NOT DISTINCT FROM ", b, ")"])
  | distinct {a b : Sql} (h : a.Delimits " IS DISTINCT FROM " b) :
    Compares (.seq ["(", a, " IS DISTINCT FROM ", b, ")"])
  | related {a b : Sql} (op : Comparison) (h : a.Delimits op.sql b) :
    Compares (Sql.orFalse (.seq [a, " ", op.sql, " ", b]))
  | negated {x : Sql} (h : Compares x) : Compares x.not

namespace Operand

variable {o l r : Operand} {op : Comparison} {v : Json}

/-! ## Comparison with a constant -/

/-- A test for null is a comparison, of the operand with nothing. -/
theorem compares_isNull (ho : o.sql.Primary) : o.isNull.Compares := by
  have hnull : (Sql.seq [.str "null", "::jsonb"]).Primary :=
    show Token.Primary ([.string "null"] ++ [.mark ':', .mark ':', .word "jsonb"]) from
      .cast (.string "null") (by decide)
  unfold isNull
  split
  · exact .missingDocument (ho.delimits hnull fun _ => rfl)
  · exact .known false
  · exact .missing ho.balanced

/-- Beside a constant an operand that is one piece stands as one. -/
theorem compares_compareConstant (ho : o.sql.Primary) : (o.compareConstant op v).Compares := by
  have happly : ∀ s, o.sides? v = some s → ∀ op : Comparison, (s.apply op.sql).Compares := by
    intro s hs op
    have hleft : s.left.Primary := by
      rcases left_of_sides? ho.balanced hs with hsame | hleft
      · exact hsame ▸ ho
      · exact hleft
    exact .related op (hleft.delimits primary_param (balanced_comparison op))
  unfold compareConstant
  split
  · split
    · exact compares_isNull ho
    · exact .negated (compares_isNull ho)
    · exact .known false
  · split
    · exact .known true
    · exact .known false
    · next s hs => exact happly s hs .eq
    · next s hs => exact .negated (happly s hs .eq)
    · next s hs _ _ =>
      split
      · exact happly s hs _
      · exact .known false

/-! ## Comparison of two operands -/

/-- An operand as a document is a call. -/
theorem primary_toJsonb {sql : Sql} (h : sql.Balanced) :
    (Sql.seq ["to_jsonb(", sql, ")"]).Primary := by
  refine primary_call "to_jsonb" (by decide) h ?_
  simp only [tokens, seqTokens, List.append_nil]
  rfl

/-- An operand as a number is cast behind parentheses. -/
theorem primary_numeric {sql : Sql} (h : sql.Balanced) :
    (Sql.seq [sql.parens, "::numeric"]).Primary := by
  have hcast : Token.Primary (sql.parens.tokens ++ [.mark ':', .mark ':', .word "numeric"]) :=
    .cast (primary_parens h) (by decide)
  rwa [Primary, tokens, seqTokens, seqTokens, seqTokens, List.append_nil]

/-- The sides of a comparison are the operands as they are, or pieces. -/
theorem compareSides_cases (hl : l.sql.Balanced) (hr : r.sql.Balanced) :
    ((compareSides l r).1 = l.sql ∨ (compareSides l r).1.Primary) ∧
      ((compareSides l r).2.1 = r.sql ∨ (compareSides l r).2.1.Primary) := by
  have hdocuments := And.intro (primary_toJsonb hl) (primary_toJsonb hr)
  unfold compareSides
  dsimp only
  split
  · split
    · exact ⟨.inl rfl, .inl rfl⟩
    · split
      · exact ⟨.inr (primary_numeric hl), .inr (primary_numeric hr)⟩
      · exact hdocuments.imp .inr .inr
  · exact ⟨.inl rfl, .inl rfl⟩
  · exact ⟨.inl rfl, .inl rfl⟩
  · exact ⟨.inl rfl, .inl rfl⟩
  · split
    · exact ⟨.inl rfl, .inl rfl⟩
    · exact hdocuments.imp .inr .inr
  · exact hdocuments.imp .inr .inr

/-- Beside each other operands that are one piece stand as such. -/
theorem compares_compare (hl : l.sql.Primary) (hr : r.sql.Primary) : (compare op l r).Compares := by
  obtain ⟨hleft, hright⟩ := compareSides_cases hl.balanced hr.balanced
  have hleft : (compareSides l r).1.Primary := hleft.elim (· ▸ hl) id
  have hright : (compareSides l r).2.1.Primary := hright.elim (· ▸ hr) id
  unfold compare
  dsimp only
  split
  · exact .same (hleft.delimits hright fun _ => rfl)
  · exact .distinct (hleft.delimits hright fun _ => rfl)
  · split
    · exact .related _ (hleft.delimits hright (balanced_comparison _))
    · exact .known false

/-- A comparison of operands is one piece, whatever they are. -/
theorem primary_compare (hl : l.sql.Balanced) (hr : r.sql.Balanced) : (compare op l r).Primary := by
  obtain ⟨hleft, hright⟩ := compareSides_cases hl hr
  have hleft : (compareSides l r).1.Balanced := hleft.elim (· ▸ hl) Primary.balanced
  have hright : (compareSides l r).2.1.Balanced := hright.elim (· ▸ hr) Primary.balanced
  unfold compare
  dsimp only
  split
  · exact primary_group_seq _ (balanced_between hleft (fun _ => rfl) hright)
  · exact primary_group_seq _ (balanced_between hleft (fun _ => rfl) hright)
  · split
    · exact primary_related hleft hright
    · exact primary_false

/-! ## Truth -/

/-- The truth of an operand is one piece, unless it is that the value is not null. -/
theorem primary_or_open_truthy (h : o.sql.Balanced) : o.truthy.Primary ∨ o.truthy.Open := by
  unfold truthy
  split
  · exact .inl (primary_orFalse h)
  · refine .inl (primary_orFalse fun stack => ?_)
    simp only [tokens, seqTokens, scan_append, (balanced_parens h).scan]
    rfl
  · exact .inl primary_true
  · exact .inr ⟨o.sql, h, .inr (.inr rfl)⟩

/-- A truth value is never written as nothing. -/
theorem truthy_written : o.truthy.isEmpty = false := by
  unfold truthy
  split <;> rfl

end Operand

end ObjectQuery
