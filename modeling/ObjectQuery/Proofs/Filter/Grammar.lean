import ObjectQuery.Filter
import ObjectQuery.Proofs.Expr.Grammar
import ObjectQuery.Proofs.Expr.Simplify

/-!
# The grammar of filters

How a filter and the test of a field are written, as a grammar over JSON values. Tests hold filters for
elements and filters hold tests, so the two are one grammar; the key of the element itself is part of it
only inside a filter for elements. The readers accept the values of this grammar and no others. A value
without operator is a test whatever it is, also if it is no test of any field.
-/

namespace ObjectQuery

/-! ## The grammar -/

/--
The operand of a pattern: its source, or an object with the source and perhaps flags, which are a text
of `i`s. Flags that are no text count as none, and further members are ignored.
-/
inductive FieldTest.PatternWritten : Json → Prop where
  | source {source : String} (h : (Pattern.ofText? source false).isSome = true) :
    PatternWritten (.str source)
  | flagged {members : List (String × Json)} {source flags : String}
    (hsource : Json.member? members "source" = some (.str source))
    (hflags : Json.member? members "flags" = some (.str flags)) (hi : ∀ c ∈ flags.toList, c = 'i')
    (h : (Pattern.ofText? source (!flags.isEmpty)).isSome = true) : PatternWritten (.obj members)
  | unflagged {members : List (String × Json)} {source : String}
    (hsource : Json.member? members "source" = some (.str source))
    (hflags : ∀ flags, Json.member? members "flags" ≠ some (.str flags))
    (h : (Pattern.ofText? source false).isSome = true) : PatternWritten (.obj members)

mutual

/-- A value is written as the test of a field. -/
inductive FieldTest.Written : Json → Prop where
  | scalar {raw : Json} (h : ∀ members, raw ≠ .obj members) : FieldTest.Written raw
  | envelope {tag : String} (htag : tag ∈ [Value.dateTag, Value.decimalTag]) (text : String) :
    FieldTest.Written (.obj [(tag, .str text)])
  | object {members : List (String × Json)} (h : ∀ m ∈ members, Text.opensWith m.1 "$" = false) :
    FieldTest.Written (.obj members)
  | operator {name : String} {operand : Json} (h : FieldTest.OperatorWritten name operand) :
    FieldTest.Written (.obj [(name, operand)])

/-- An operand is written as the operator of a test takes it. -/
inductive FieldTest.OperatorWritten : String → Json → Prop where
  | compare (op : Comparison) (operand : Json) : FieldTest.OperatorWritten op.key operand
  | list {name : String} (hname : name ∈ ["$in", "$nin", "$subset", "$superset", "$intersect"])
    (items : List Json) : FieldTest.OperatorWritten name (.arr items)
  | not {operand : Json} (h : FieldTest.Written operand) : FieldTest.OperatorWritten "$not" operand
  | pattern {operand : Json} (h : FieldTest.PatternWritten operand) :
    FieldTest.OperatorWritten "$pattern" operand
  | text {name : String} (hname : name ∈ ["$starts", "$ends"]) (text : String) :
    FieldTest.OperatorWritten name (.str text)
  | size {n : Nat} (h : n < Nat.pow 2 64) : FieldTest.OperatorWritten "$size" (.num (.int n))
  | empty (b : Bool) : FieldTest.OperatorWritten "$empty" (.bool b)
  | elements {name : String} (hname : name ∈ ["$every", "$some"]) {operand : Json}
    (h : Filter.Written true operand) : FieldTest.OperatorWritten name operand

/-- A value is written as a filter; whether the key of the element itself may stand in it. -/
inductive Filter.Written : Bool → Json → Prop where
  | list {allowSelf : Bool} {items : List Json} (h : ∀ x ∈ items, Filter.Written allowSelf x) :
    Filter.Written allowSelf (.arr items)
  | object {allowSelf : Bool} {members : List (String × Json)}
    (h : ∀ m ∈ members, Filter.MemberWritten allowSelf m.1 m.2) :
    Filter.Written allowSelf (.obj members)

/-- A name and a value are written as a member of a filter. -/
inductive Filter.MemberWritten : Bool → String → Json → Prop where
  /-- Only a conjunction may have no items. -/
  | connective {allowSelf : Bool} (op : Connective) {items : List Json}
    (hitems : op = .and ∨ items ≠ []) (h : ∀ x ∈ items, Filter.Written allowSelf x) :
    Filter.MemberWritten allowSelf op.key (.arr items)
  /-- The value of the expression is a truth value whatever the object. -/
  | expr {allowSelf : Bool} {operand : Json} {e : Expr} (he : Expr.decode operand = .ok e)
    (hboolean : ∀ object, ∃ b, e.eval object = .bool b) :
    Filter.MemberWritten allowSelf "$expr" operand
  | self {operand : Json} (h : FieldTest.Written operand) :
    Filter.MemberWritten true Filter.selfKey operand
  | field {allowSelf : Bool} {name : String} {operand : Json} (hname : name ≠ "")
    (hplain : Text.opensWith name "$" = false) (h : FieldTest.Written operand) :
    Filter.MemberWritten allowSelf name operand

end

/-! ## What is accepted -/

/-- A filter is read from a value. -/
def Filter.Accepted (allowSelf : Bool) (raw : Json) : Prop := ∃ f, Filter.decode allowSelf raw = .ok f

/-- The test of a field is read from a value. -/
def FieldTest.Accepted (raw : Json) : Prop := ∃ t, FieldTest.decode raw = .ok t

namespace Filter

variable {allowSelf : Bool}

/-- The filters of an array are decoded when each item is accepted. -/
theorem exists_decodeItems {items : List Json} :
    (∃ fs, decodeItems allowSelf items = .ok fs) ↔ ∀ x ∈ items, Accepted allowSelf x := by
  induction items with
  | nil => exact ⟨fun _ => nofun, fun _ => ⟨[], rfl⟩⟩
  | cons x rest ih =>
    rw [List.forall_mem_cons, ← ih, decodeItems, Accepted]
    cases decode allowSelf x with
    | error e => simp
    | ok f => simp [Result.map_eq_ok]

/-- The filters of an object are decoded when each member is. -/
theorem exists_decodeMembers {members : List (String × Json)} :
    (∃ fs, decodeMembers allowSelf members = .ok fs) ↔
      ∀ m ∈ members, ∃ f, decodeMember allowSelf m = .ok f := by
  induction members with
  | nil => exact ⟨fun _ => nofun, fun _ => ⟨[], rfl⟩⟩
  | cons m rest ih =>
    rw [List.forall_mem_cons, ← ih, decodeMembers]
    cases decodeMember allowSelf m with
    | error e => simp
    | ok f => simp [Result.map_eq_ok]

/-- An array is accepted as a filter when each item is. -/
theorem accepted_arr {items : List Json} :
    Accepted allowSelf (.arr items) ↔ ∀ x ∈ items, Accepted allowSelf x := by
  rw [← exists_decodeItems, Accepted, decode]
  simp [Result.map_eq_ok]

/-- An object is accepted as a filter when each member is decoded. -/
theorem accepted_obj {members : List (String × Json)} :
    Accepted allowSelf (.obj members) ↔ ∀ m ∈ members, ∃ f, decodeMember allowSelf m = .ok f := by
  rw [← exists_decodeMembers, Accepted, decode]
  constructor
  · rintro ⟨f, hf⟩
    split at hf
    next => cases hf
    next part hparts => exact ⟨_, hparts⟩
    next parts _ hparts => exact ⟨_, hparts⟩
  · rintro ⟨fs, hfs⟩
    rw [hfs]
    split
    next h => cases h
    next => exact ⟨_, rfl⟩
    next => exact ⟨_, rfl⟩

end Filter

/-! ## What operators accept -/

/-- A natural number of 64 bits is a plain integer in that range. -/
theorem Json.asNat64?_eq_some {v : Json} {n : Nat} :
    v.asNat64? = some n ↔ n < Nat.pow 2 64 ∧ v = .num (.int n) := by
  unfold asNat64?
  split
  next k =>
    have hbound : Int.pow 2 64 = (Nat.pow 2 64 : Nat) := rfl
    rw [hbound]
    simp only [Option.ite_none_right_eq_some, Option.some.injEq, num.injEq, Number.int.injEq]
    omega
  next hother =>
    refine ⟨nofun, ?_⟩
    rintro ⟨-, rfl⟩
    exact (hother n rfl).elim

namespace FieldTest

variable {raw operand : Json} {name : String}

/-- A test without operator is read from every value that is no object, an envelope, or plain. -/
theorem written_of_not_isOperator (h : isOperator raw = false) : Written raw := by
  unfold isOperator at h
  split at h
  next members =>
    rw [Bool.and_eq_false_iff] at h
    rcases h with h | h
    · obtain ⟨tag, htag, text, htext⟩ := Value.isTagged_iff.mp (by simpa using h)
      exact htext ▸ .envelope htag text
    · exact .object fun m hm => by simpa using List.any_eq_false.mp h m hm
  next hother => exact .scalar fun members hmembers => hother members hmembers

/-- A date or a decimal in an envelope is no object of operators. -/
theorem isOperator_envelope {tag : String} (htag : tag ∈ [Value.dateTag, Value.decimalTag])
    (text : String) : isOperator (.obj [(tag, .str text)]) = false := by
  have htagged : Value.isTagged (.obj [(tag, .str text)]) = true :=
    Value.isTagged_iff.mpr ⟨tag, htag, text, rfl⟩
  rw [isOperator, htagged]
  rfl

/-- Members without a dollar sign make no object of operators. -/
theorem isOperator_plain {members : List (String × Json)}
    (h : ∀ m ∈ members, Text.opensWith m.1 "$" = false) : isOperator (.obj members) = false := by
  rw [isOperator, List.any_eq_false.mpr fun m hm => by simpa using h m hm, Bool.and_false]

/-- What is no object of operators is accepted as a value to compare with. -/
theorem accepted_of_not_isOperator (h : isOperator raw = false) : Accepted raw := by
  refine ⟨.compare .eq raw, ?_⟩
  unfold decode
  split
  next member => rw [if_neg (by simp [h])]
  next members _ => rw [if_neg (by simp [h])]
  next => rfl

/-- A test with operator is read from an object with one operator alone. -/
theorem accepted_iff_of_isOperator (h : isOperator raw = true) :
    Accepted raw ↔ ∃ name operand, raw = .obj [(name, operand)] ∧
      ∃ t, decodeOperator (name, operand) = .ok t := by
  unfold Accepted decode
  split
  next member =>
    rw [if_pos h]
    refine ⟨fun ht => ⟨member.1, member.2, rfl, ht⟩, ?_⟩
    rintro ⟨name, operand, hraw, ht⟩
    cases hraw
    exact ht
  next members hmany =>
    rw [if_pos h]
    refine ⟨nofun, ?_⟩
    rintro ⟨name, operand, hraw, -⟩
    cases hraw
    exact (hmany (name, operand) rfl).elim
  next hone hmany =>
    cases raw with
    | obj members => exact (hmany members rfl).elim
    | _ => cases h

/-- The text that is found under a key. -/
theorem member?_bind_asStr? {members : List (String × Json)} {key text : String} :
    (Json.member? members key).bind Json.asStr? = some text ↔
      Json.member? members key = some (.str text) := by
  cases Json.member? members key with
  | none => simp
  | some v => cases v <;> simp [Json.asStr?]

/-- A pattern is read where its operand is, if its source is one. -/
theorem exists_decodePattern_iff : (∃ t, decodePattern name operand = .ok t) ↔
    ∃ source ignoreCase, patternOperand name operand = .ok (source, ignoreCase) ∧
      (Pattern.ofText? source ignoreCase).isSome = true := by
  unfold decodePattern
  split
  next e he => simp [he]
  next source ignoreCase he =>
    constructor
    · rintro ⟨t, ht⟩
      split at ht
      next hsource => exact ⟨source, ignoreCase, he, hsource⟩
      next => cases ht
    · rintro ⟨_, _, hsame, hsource⟩
      cases he.symm.trans hsame
      exact ⟨_, if_pos hsource⟩

/-- What is read as the operand of a pattern, whose source is one, is written as such. -/
theorem PatternWritten.of_patternOperand {source : String} {ignoreCase : Bool}
    (hoperand : patternOperand name operand = .ok (source, ignoreCase))
    (hsource : (Pattern.ofText? source ignoreCase).isSome = true) : PatternWritten operand := by
  unfold patternOperand at hoperand
  split at hoperand
  next text =>
    cases hoperand
    exact .source hsource
  next members =>
    split at hoperand
    next => cases hoperand
    next text htext =>
      cases hflags : (Json.member? members "flags").bind Json.asStr? with
      | none =>
        rw [hflags] at hoperand
        cases hoperand
        refine .unflagged (member?_bind_asStr?.mp htext) (fun flags hsome => ?_) hsource
        exact absurd (hflags.symm.trans (member?_bind_asStr?.mpr hsome)) (by simp)
      | some flags =>
        rw [hflags, Option.getD_some] at hoperand
        dsimp only at hoperand
        split at hoperand
        next => cases hoperand
        next hi =>
          cases hoperand
          exact .flagged (member?_bind_asStr?.mp htext) (member?_bind_asStr?.mp hflags)
            (by simpa using hi) hsource
  next => cases hoperand

/-- What is written as the operand of a pattern is read as such, and its source is one. -/
theorem PatternWritten.patternOperand_ok (h : PatternWritten operand) :
    ∃ source ignoreCase, patternOperand name operand = .ok (source, ignoreCase) ∧
      (Pattern.ofText? source ignoreCase).isSome = true := by
  cases h with
  | source h => exact ⟨_, _, rfl, h⟩
  | @flagged members source flags hsource hflags hi h =>
    refine ⟨source, _, ?_, h⟩
    rw [patternOperand, member?_bind_asStr?.mpr hsource, member?_bind_asStr?.mpr hflags]
    dsimp only
    rw [Option.getD_some, if_neg (by simpa using hi)]
  | @unflagged members source hsource hflags h =>
    refine ⟨source, _, ?_, h⟩
    have hnone : (Json.member? members "flags").bind Json.asStr? = none :=
      Option.eq_none_iff_forall_ne_some.mpr fun flags hsome =>
        hflags flags (member?_bind_asStr?.mp hsome)
    rw [patternOperand, member?_bind_asStr?.mpr hsource, hnone]
    rfl

/-- A pattern is decoded exactly when it is written as one. -/
theorem exists_decodePattern :
    (∃ t, decodePattern name operand = .ok t) ↔ PatternWritten operand := by
  rw [exists_decodePattern_iff]
  constructor
  · rintro ⟨source, ignoreCase, hoperand, hsource⟩
    exact .of_patternOperand hoperand hsource
  · exact PatternWritten.patternOperand_ok

/-- The key of a comparison is decoded to it, with any operand. -/
theorem decodeOperator_compare (op : Comparison) :
    decodeOperator (op.key, operand) = .ok (.compare op operand) := by
  cases op <;> rfl

/-- A size is decoded of a natural number only. -/
theorem decodeOperator_size : decodeOperator ("$size", operand) =
    match operand.asNat64? with
    | some n => .ok (.size n)
    | none => .error (Expr.complaint "$size" .count) := rfl

/-- An operator on a list is decoded of an array only. -/
theorem exists_decodeList {build : List Json → FieldTest} :
    (∃ t, decodeList name build operand = .ok t) ↔ ∃ items, operand = .arr items := by
  cases operand <;> simp [decodeList]

/-- An operator on a text is decoded of a text only. -/
theorem exists_decodeString {build : String → FieldTest} :
    (∃ t, decodeString name build operand = .ok t) ↔ ∃ text, operand = .str text := by
  cases operand <;> simp [decodeString]

end FieldTest

namespace Filter

variable {allowSelf : Bool} {operand : Json} {name : String}

/-- A connective is decoded of an array that is accepted, which only `and` allows to be empty. -/
theorem exists_decodeConnective {op : Connective} :
    (∃ f, decodeConnective allowSelf name op operand = .ok f) ↔
      ∃ items, operand = .arr items ∧ (op = .and ∨ items ≠ []) ∧ Accepted allowSelf operand := by
  cases operand with
  | arr items =>
    rw [decodeConnective, accepted_arr, ← exists_decodeItems]
    split
    next hempty => simp_all
    next hitems =>
      have hitems : op = .and ∨ items ≠ [] := by
        cases items <;> simp_all
      simp [Result.map_eq_ok, hitems]
  | _ => simp [decodeConnective]

/-- The key of a connective is decoded as that connective. -/
theorem decodeMember_connective (op : Connective) :
    decodeMember allowSelf (op.key, operand) = decodeConnective allowSelf op.key op operand := by
  cases op <;> rfl

/-- An expression as a condition is decoded by its own reader. -/
theorem decodeMember_expr : decodeMember allowSelf ("$expr", operand) =
    match Expr.decode operand with
    | .error e => .error e
    | .ok e =>
      if e.isBoolean then .ok (.expr e)
      else .error (Expr.complaint "$expr" .booleanExpression) := rfl

/-- The key of the element itself is decoded as a test, where it is allowed. -/
theorem decodeMember_self : decodeMember true (selfKey, operand) =
    (FieldTest.decode operand).map (.field selfKey) := rfl

/-- Under any other name than that of an operator there is the test of a field. -/
theorem decodeMember_field (hname : name ≠ "") (hplain : Text.opensWith name "$" = false) :
    decodeMember allowSelf (name, operand) = (FieldTest.decode operand).map (.field name) := by
  have hop : Connective.ofKey? name = none := by
    cases hop : Connective.ofKey? name with
    | none => rfl
    | some op =>
      rw [Connective.eq_key_of_ofKey? hop] at hplain
      cases op <;> cases hplain
  have hexpr : name ≠ "$expr" := by
    rintro rfl
    cases hplain
  have hself : name ≠ selfKey := by
    rintro rfl
    cases hplain
  rw [decodeMember, hop]
  simp [hexpr, hself, hname, hplain]

end Filter

/-! ## Reading follows the grammar -/

/-- Of a value what is accepted is what is written, as a filter and as a test. -/
structure Json.ReadsAsWritten (raw : Json) : Prop where
  filter : ∀ allowSelf, Filter.Written allowSelf raw ↔ Filter.Accepted allowSelf raw
  test : FieldTest.Written raw ↔ FieldTest.Accepted raw

namespace Json.ReadsAsWritten

variable {raw operand : Json} {name : String}

/-- What is written as the operand of an operator, the operator accepts. -/
theorem accepts_operator (h : operand.ReadsAsWritten)
    (hwritten : FieldTest.OperatorWritten name operand) :
    ∃ t, FieldTest.decodeOperator (name, operand) = .ok t := by
  cases hwritten with
  | compare op => exact ⟨_, FieldTest.decodeOperator_compare op⟩
  | list hname items =>
    simp only [List.mem_cons, List.not_mem_nil, or_false] at hname
    rcases hname with rfl | rfl | rfl | rfl | rfl <;> exact ⟨_, rfl⟩
  | not hoperand =>
    obtain ⟨t, ht⟩ := h.test.mp hoperand
    exact ⟨_, Result.map_eq_ok.mpr ⟨t, ht, rfl⟩⟩
  | pattern hoperand => exact FieldTest.exists_decodePattern.mpr hoperand
  | text hname text =>
    simp only [List.mem_cons, List.not_mem_nil, or_false] at hname
    rcases hname with rfl | rfl <;> exact ⟨_, rfl⟩
  | @size n hn =>
    rw [FieldTest.decodeOperator_size, Json.asNat64?_eq_some.mpr ⟨hn, rfl⟩]
    exact ⟨_, rfl⟩
  | empty b => exact ⟨_, rfl⟩
  | elements hname hoperand =>
    obtain ⟨f, hf⟩ := (h.filter true).mp hoperand
    simp only [List.mem_cons, List.not_mem_nil, or_false] at hname
    rcases hname with rfl | rfl <;> exact ⟨_, Result.map_eq_ok.mpr ⟨f, hf, rfl⟩⟩

/-- What an operator accepts is written as its operand: the names are tried one after another. -/
theorem written_operator (h : operand.ReadsAsWritten)
    (haccepted : ∃ t, FieldTest.decodeOperator (name, operand) = .ok t) :
    FieldTest.OperatorWritten name operand := by
  unfold FieldTest.decodeOperator at haccepted
  split at haccepted
  next op hop => exact Comparison.eq_key_of_ofKey? hop ▸ .compare op operand
  iterate 5
    obtain ⟨hname, haccepted⟩ | ⟨-, haccepted⟩ := Result.exists_of_ite haccepted
    · obtain ⟨items, rfl⟩ := FieldTest.exists_decodeList.mp haccepted
      exact .list (by simp [hname]) items
  obtain ⟨rfl, haccepted⟩ | ⟨-, haccepted⟩ := Result.exists_of_ite haccepted
  · obtain ⟨_, ht⟩ := haccepted
    obtain ⟨t, ht, -⟩ := Result.map_eq_ok.mp ht
    exact .not (h.test.mpr ⟨t, ht⟩)
  obtain ⟨rfl, haccepted⟩ | ⟨-, haccepted⟩ := Result.exists_of_ite haccepted
  · exact .pattern (FieldTest.exists_decodePattern.mp haccepted)
  iterate 2
    obtain ⟨hname, haccepted⟩ | ⟨-, haccepted⟩ := Result.exists_of_ite haccepted
    · obtain ⟨text, rfl⟩ := FieldTest.exists_decodeString.mp haccepted
      exact .text (by simp [hname]) text
  obtain ⟨rfl, haccepted⟩ | ⟨-, haccepted⟩ := Result.exists_of_ite haccepted
  · split at haccepted
    next n hn =>
      obtain ⟨hbound, rfl⟩ := Json.asNat64?_eq_some.mp hn
      exact .size hbound
    next => obtain ⟨_, ⟨⟩⟩ := haccepted
  obtain ⟨rfl, haccepted⟩ | ⟨-, haccepted⟩ := Result.exists_of_ite haccepted
  · cases operand with
    | bool b => exact .empty b
    | _ => obtain ⟨_, ⟨⟩⟩ := haccepted
  iterate 2
    obtain ⟨hname, haccepted⟩ | ⟨-, haccepted⟩ := Result.exists_of_ite haccepted
    · obtain ⟨_, hf⟩ := haccepted
      obtain ⟨f, hf, -⟩ := Result.map_eq_ok.mp hf
      exact .elements (by simp [hname]) ((h.filter true).mpr ⟨f, hf⟩)
  obtain ⟨_, ⟨⟩⟩ := haccepted

/-- A member of an object of operators is written by the grammar exactly when it is decoded. -/
theorem operator (h : operand.ReadsAsWritten) : FieldTest.OperatorWritten name operand ↔
    ∃ t, FieldTest.decodeOperator (name, operand) = .ok t :=
  ⟨h.accepts_operator, h.written_operator⟩

variable {allowSelf : Bool}

/-- What is written as a member of a filter is accepted. -/
theorem accepts_member (h : operand.ReadsAsWritten)
    (hwritten : Filter.MemberWritten allowSelf name operand) :
    ∃ f, Filter.decodeMember allowSelf (name, operand) = .ok f := by
  cases hwritten with
  | connective op hnonempty hitems =>
    rw [Filter.decodeMember_connective]
    exact Filter.exists_decodeConnective.mpr
      ⟨_, rfl, hnonempty, (h.filter allowSelf).mp (.list hitems)⟩
  | expr he hboolean =>
    rw [Filter.decodeMember_expr, he]
    exact ⟨_, if_pos (Expr.isBoolean_iff.mpr hboolean)⟩
  | self htest =>
    obtain ⟨t, ht⟩ := h.test.mp htest
    exact ⟨_, Filter.decodeMember_self.trans (Result.map_eq_ok.mpr ⟨t, ht, rfl⟩)⟩
  | field hname hplain htest =>
    obtain ⟨t, ht⟩ := h.test.mp htest
    exact ⟨_, (Filter.decodeMember_field hname hplain).trans (Result.map_eq_ok.mpr ⟨t, ht, rfl⟩)⟩

/-- What is accepted as a member of a filter is written as one. -/
theorem written_member (h : operand.ReadsAsWritten)
    (haccepted : ∃ f, Filter.decodeMember allowSelf (name, operand) = .ok f) :
    Filter.MemberWritten allowSelf name operand := by
  have htest {key : String} (hread : ∃ f, (FieldTest.decode operand).map (Filter.field key) =
      .ok f) : FieldTest.Written operand := by
    obtain ⟨_, hf⟩ := hread
    obtain ⟨t, ht, -⟩ := Result.map_eq_ok.mp hf
    exact h.test.mpr ⟨t, ht⟩
  unfold Filter.decodeMember at haccepted
  split at haccepted
  next op hop =>
    obtain ⟨items, rfl, hnonempty, hitems⟩ := Filter.exists_decodeConnective.mp haccepted
    obtain ⟨hitems⟩ := (h.filter allowSelf).mpr hitems
    exact Connective.eq_key_of_ofKey? hop ▸ .connective op hnonempty hitems
  obtain ⟨rfl, haccepted⟩ | ⟨-, haccepted⟩ := Result.exists_of_ite haccepted
  · split at haccepted
    next => obtain ⟨_, ⟨⟩⟩ := haccepted
    next e he =>
      obtain ⟨hboolean, -⟩ | ⟨-, haccepted⟩ := Result.exists_of_ite haccepted
      · exact .expr he (Expr.isBoolean_iff.mp hboolean)
      · obtain ⟨_, ⟨⟩⟩ := haccepted
  obtain ⟨hself, haccepted⟩ | ⟨-, haccepted⟩ := Result.exists_of_ite haccepted
  · simp only [Bool.and_eq_true, decide_eq_true_eq] at hself
    obtain ⟨rfl, rfl⟩ := hself
    exact .self (htest haccepted)
  obtain ⟨-, haccepted⟩ | ⟨hfield, haccepted⟩ := Result.exists_of_ite haccepted
  · obtain ⟨_, ⟨⟩⟩ := haccepted
  · simp only [Bool.or_eq_true, not_or, Bool.not_eq_true] at hfield
    exact .field (by simpa using hfield.1) hfield.2 (htest haccepted)

/-- A member of a filter is written by the grammar exactly when it is decoded. -/
theorem member (h : operand.ReadsAsWritten) : Filter.MemberWritten allowSelf name operand ↔
    ∃ f, Filter.decodeMember allowSelf (name, operand) = .ok f :=
  ⟨h.accepts_member, h.written_member⟩

end Json.ReadsAsWritten

/-- What the readers accept is what is written by the grammar. -/
theorem Json.readsAsWritten (raw : Json) : raw.ReadsAsWritten := by
  induction raw using Json.nested_induction with
  | null | bool _ | num _ | str _ =>
    refine ⟨fun allowSelf => ⟨nofun, nofun⟩, fun _ => ⟨_, rfl⟩, fun _ => .scalar nofun⟩
  | arr items ih =>
    refine ⟨fun allowSelf => ?_, fun _ => ⟨_, rfl⟩, fun _ => .scalar nofun⟩
    rw [Filter.accepted_arr]
    constructor
    · rintro ⟨hitems⟩ x hx
      exact ((ih x hx).filter allowSelf).mp (hitems x hx)
    · exact fun hitems => .list fun x hx => ((ih x hx).filter allowSelf).mpr (hitems x hx)
  | obj members ih =>
    refine ⟨fun allowSelf => ?filter, ?test⟩
    case filter =>
      rw [Filter.accepted_obj]
      constructor
      · intro hwritten m hm
        cases hwritten with
        | object hmembers => exact (ih m hm).member.mp (hmembers m hm)
      · exact fun hmembers => .object fun m hm => (ih m hm).member.mpr (hmembers m hm)
    case test =>
      cases hoperator : FieldTest.isOperator (.obj members) with
      | false =>
        exact ⟨fun _ => FieldTest.accepted_of_not_isOperator hoperator,
          fun _ => FieldTest.written_of_not_isOperator hoperator⟩
      | true =>
        rw [FieldTest.accepted_iff_of_isOperator hoperator]
        constructor
        · intro hwritten
          cases hwritten with
          | scalar h => exact (h members rfl).elim
          | envelope htag text =>
            rw [FieldTest.isOperator_envelope htag text] at hoperator
            cases hoperator
          | object hplain =>
            rw [FieldTest.isOperator_plain hplain] at hoperator
            cases hoperator
          | operator h =>
            exact ⟨_, _, rfl, (ih _ List.mem_cons_self).operator.mp h⟩
        · rintro ⟨name, operand, hraw, haccepted⟩
          cases hraw
          exact .operator ((ih (name, operand) List.mem_cons_self).operator.mpr haccepted)

/--
A filter, the test of a field and an expression are each read from the values that are written by the
grammar, and from no others.
-/
theorem Filter.exists_decode_iff_written :
    (∀ allowSelf raw, (∃ f, Filter.decode allowSelf raw = .ok f) ↔ Filter.Written allowSelf raw) ∧
      (∀ raw, (∃ t, FieldTest.decode raw = .ok t) ↔ FieldTest.Written raw) ∧
      ∀ raw, (∃ e, Expr.decode raw = .ok e) ↔ Expr.Written raw :=
  ⟨fun allowSelf raw => (raw.readsAsWritten.filter allowSelf).symm,
    fun raw => raw.readsAsWritten.test.symm, fun _ => Expr.exists_decode_iff⟩

/-- A pattern whose flags are a number. -/
def numberedFlags : List (String × Json) := [("source", .str "x"), ("flags", .num (.int 3))]

/-- Flags that are a number are accepted, though they are not made of `i`. -/
theorem Filter.decode_numberedFlags :
    Filter.decode false (.obj [("s", .obj [("$pattern", .obj numberedFlags)])]) =
        .ok (.field "s" (.pattern "x" false)) ∧
      ∃ v, Json.member? numberedFlags "flags" = some v ∧
        ¬ ∃ flags : String, v = .str flags ∧ ∀ c ∈ flags.toList, c = 'i' := by
  refine ⟨by rfl, _, rfl, ?_⟩
  rintro ⟨flags, hflags, -⟩
  cases hflags

end ObjectQuery
