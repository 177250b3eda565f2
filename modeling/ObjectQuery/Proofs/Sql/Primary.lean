import ObjectQuery.Sql.Predicate

/-!
# Primary expressions

The store reads a statement as tokens: words, marks, names, constants and values, with parentheses,
brackets and `CASE .. END` around some of them. A fragment is balanced if it closes whatever it opens and
nothing else, so that it can stand inside any other fragment and leave the brackets around it alone.

An operand that is put beside an operator should be one piece to the store: a column, a constant or a
placeholder, a group in parentheses, a call, a choice between `CASE` and `END`, or one of these with a
cast or a subscript behind it. A primary expression has no operator outside of its brackets, so where two
of them stand on the sides of an operator, that operator is the only place at which the whole can be taken
apart. What is no primary expression here is open: a negation, or a test for null behind parentheses.
-/

namespace ObjectQuery

/-- What stands around a part of a statement; `CASE` and `END` stand around theirs. -/
inductive Bracket where
  | round
  | square
  | case
deriving DecidableEq

/-- A token of a statement. -/
inductive Token where
  | opening (b : Bracket)
  | closing (b : Bracket)
  | word (text : String)
  | mark (c : Char)
  /-- A quoted identifier. -/
  | name (name : String)
  /-- A string constant. -/
  | string (text : String)
  /-- A placeholder with its cast, or a constant for null and the truth values. -/
  | value (p : Param)
deriving Inhabited

namespace Token

/-! ## Text -/

/-- The token of a word; none if there is no word. -/
def ofWord : List Char → List Token
  | [] => []
  | ['C', 'A', 'S', 'E'] => [opening .case]
  | ['E', 'N', 'D'] => [closing .case]
  | cs => [word (String.ofList cs)]

/-- The token of a character outside of words and constants. -/
def ofChar (c : Char) : List Token :=
  match c with
  | ' ' => []
  | '(' => [opening .round]
  | ')' => [closing .round]
  | '[' => [opening .square]
  | ']' => [closing .square]
  | c => [mark c]

/-- What is being read of text, in reverse: a word, if there is one yet, or a string constant. -/
inductive Reading where
  | word (read : List Char)
  | constant (read : List Char)

/-- The tokens of text behind what is being read; no constant of the compiler's own has a quote inside. -/
def lexChars : Reading → List Char → List Token
  | .word read, [] => ofWord read.reverse
  | .constant read, [] => [string (String.ofList read.reverse)]
  | .word read, c :: cs =>
    if c.isAlphanum || c == '_' then lexChars (.word (c :: read)) cs
    else if c = '\'' then ofWord read.reverse ++ lexChars (.constant []) cs
    else ofWord read.reverse ++ (ofChar c ++ lexChars (.word []) cs)
  | .constant read, c :: cs =>
    if c = '\'' then string (String.ofList read.reverse) :: lexChars (.word []) cs
    else lexChars (.constant (c :: read)) cs

/-- The tokens of text of the compiler's own. -/
def lex (text : String) : List Token := lexChars (.word []) text.toList

/-! ## Brackets -/

/-- The brackets that are open behind a token, innermost first; none if it closes one that is not open. -/
def turn? : Token → List Bracket → Option (List Bracket)
  | opening b, stack => some (b :: stack)
  | closing b, c :: stack => if b = c then some stack else none
  | closing _, [] => none
  | _, stack => some stack

/-- The brackets that are open behind tokens. -/
def scan : List Bracket → List Token → Option (List Bracket)
  | stack, [] => some stack
  | stack, t :: rest => (t.turn? stack).bind fun stack => scan stack rest

/-- Tokens that leave the brackets around them alone. -/
def Balanced (tokens : List Token) : Prop := ∀ stack, scan stack tokens = some stack

/-- Tokens are scanned from where those before them have left off. -/
theorem scan_append (stack : List Bracket) (front back : List Token) :
    scan stack (front ++ back) = (scan stack front).bind fun stack => scan stack back := by
  induction front generalizing stack with
  | nil => rfl
  | cons t rest ih =>
    rw [List.cons_append, scan, scan, Option.bind_assoc]
    exact Option.bind_congr fun next _ => ih next

/-- What is open further out does not matter to a token that closes nothing of it. -/
theorem turn?_append {t : Token} {stack stack' : List Bracket} (h : t.turn? stack = some stack')
    (base : List Bracket) : t.turn? (stack ++ base) = some (stack' ++ base) := by
  cases t with
  | closing b =>
    cases stack with
    | nil => cases h
    | cons c stack =>
      by_cases heq : b = c
      · simp_all [turn?]
      · simp [turn?, heq] at h
  | _ =>
    obtain rfl := Option.some.inj h
    rfl

/-- What is open further out does not matter to tokens that close nothing of it. -/
theorem scan_base {stack stack' : List Bracket} {tokens : List Token}
    (h : scan stack tokens = some stack') (base : List Bracket) :
    scan (stack ++ base) tokens = some (stack' ++ base) := by
  induction tokens generalizing stack with
  | nil =>
    cases h
    rfl
  | cons t rest ih =>
    obtain ⟨next, hnext, hrest⟩ := Option.bind_eq_some_iff.mp h
    rw [scan, turn?_append hnext base]
    exact ih hrest

theorem balanced_nil : Balanced [] := fun _ => rfl

theorem Balanced.scan_eq {tokens : List Token} (h : Balanced tokens) (stack : List Bracket) :
    Token.scan stack tokens = some stack := h stack

/-- Balanced runs side by side are balanced. -/
theorem Balanced.append {front back : List Token} (hfront : Balanced front) (hback : Balanced back) :
    Balanced (front ++ back) := by
  intro stack
  rw [scan_append, hfront stack]
  exact hback stack

/-- A bracket around balanced tokens is balanced. -/
theorem Balanced.enclose {tokens : List Token} (h : Balanced tokens) (b : Bracket) :
    Balanced (opening b :: (tokens ++ [closing b])) := by
  intro stack
  rw [scan, turn?, Option.bind_some, scan_append, h (b :: stack)]
  simp [scan, turn?]

end Token

namespace Sql

open Token (lex scan)

mutual

/-- The tokens of a fragment. -/
def tokens : Sql → List Token
  | raw text => lex text
  | ident name => [.name name]
  | str text => [.string text]
  | param value => [.value value]
  | seq parts => seqTokens parts
  | join items separator => joinTokens separator items
  | column label name => [.name label, .mark '.', .name name]
  | star label => [.name label, .mark '.', .mark '*']
  | root className => [.name className]
  | table className label => [.name className, .word "AS", .name label]
  | source name label => [.name name, .word "AS", .name label]
  | binder label => [.name label]
  | block body => tokens body

def seqTokens : List Sql → List Token
  | [] => []
  | x :: xs => tokens x ++ seqTokens xs

def joinTokens (separator : String) : List Sql → List Token
  | [] => []
  | x :: xs => tokens x ++ restTokens separator xs

def restTokens (separator : String) : List Sql → List Token
  | [] => []
  | x :: xs => lex separator ++ (tokens x ++ restTokens separator xs)

end

/-- A fragment that leaves the brackets around it alone. -/
def Balanced (sql : Sql) : Prop := Token.Balanced sql.tokens

variable {a b : Sql}

theorem Balanced.scan (h : a.Balanced) (stack : List Bracket) :
    Token.scan stack a.tokens = some stack := h stack

/-- The tokens of two runs of parts are those of the one and then those of the other. -/
theorem seqTokens_append (front back : List Sql) :
    seqTokens (front ++ back) = seqTokens front ++ seqTokens back := by
  induction front with
  | nil => rfl
  | cons x xs ih => simp only [List.cons_append, seqTokens, ih, List.append_assoc]

/-- Balanced parts, one after the other. -/
theorem balanced_seq {parts : List Sql} (h : ∀ p ∈ parts, p.Balanced) : (seq parts).Balanced := by
  induction parts with
  | nil => exact Token.balanced_nil
  | cons x xs ih =>
    obtain ⟨hx, hxs⟩ := List.forall_mem_cons.mp h
    exact hx.append (ih hxs)

/-- Two balanced parts side by side are balanced. -/
theorem balanced_pair (ha : a.Balanced) (hb : b.Balanced) : (seq [a, b]).Balanced :=
  balanced_seq (List.forall_mem_cons.mpr ⟨ha, List.forall_mem_singleton.mpr hb⟩)

/-- A list is balanced when its separator and its items are. -/
theorem balanced_join {items : List Sql} {separator : String}
    (hseparator : Token.Balanced (lex separator)) (h : ∀ i ∈ items, i.Balanced) :
    (join items separator).Balanced := by
  have hrest : ∀ xs : List Sql, (∀ x ∈ xs, x.Balanced) →
      Token.Balanced (restTokens separator xs) := by
    intro xs hxs
    induction xs with
    | nil => exact Token.balanced_nil
    | cons x xs ih =>
      obtain ⟨hx, hxs⟩ := List.forall_mem_cons.mp hxs
      exact hseparator.append (Token.Balanced.append hx (ih hxs))
  cases items with
  | nil => exact Token.balanced_nil
  | cons x xs =>
    obtain ⟨hx, hxs⟩ := List.forall_mem_cons.mp h
    exact Token.Balanced.append hx (hrest xs hxs)

/-! ## Connectives -/

/-- What is balanced stays so in parentheses. -/
theorem balanced_parens (h : a.Balanced) : a.parens.Balanced := by
  intro stack
  simp only [parens, tokens, seqTokens, Token.scan_append, h.scan]
  rfl

/-- The negation of what is balanced is balanced. -/
theorem balanced_not (h : a.Balanced) : a.not.Balanced := by
  intro stack
  simp only [Sql.not, tokens, seqTokens, Token.scan_append, h.scan]
  rfl

/-- A connection is balanced when its separator, its items and the text for no items are. -/
theorem balanced_connect {items : List Sql} {separator whenEmpty : String}
    (hseparator : Token.Balanced (lex separator)) (hempty : Token.Balanced (lex whenEmpty))
    (h : ∀ i ∈ items, i.Balanced) : (connect items separator whenEmpty).Balanced := by
  have hwritten : ∀ i ∈ items.filter fun i => !isEmpty i, i.Balanced :=
    fun i hi => h i (List.mem_filter.mp hi).1
  unfold connect
  split
  · exact hempty
  · next item heq => exact hwritten item (by simp [heq])
  · have hjoin : (join ((items.filter fun i => !isEmpty i).map parens) separator).Balanced :=
      balanced_join hseparator (List.forall_mem_map.mpr fun i hi => balanced_parens (hwritten i hi))
    exact balanced_parens hjoin

theorem balanced_and {items : List Sql} (h : ∀ i ∈ items, i.Balanced) : (and items).Balanced :=
  balanced_connect (fun _ => rfl) (fun _ => rfl) h

theorem balanced_or {items : List Sql} (h : ∀ i ∈ items, i.Balanced) : (or items).Balanced :=
  balanced_connect (fun _ => rfl) (fun _ => rfl) h

end Sql

namespace Token

/-- The words that operators are made of. -/
def operatorWords : List String := ["NOT", "AND", "OR", "IS", "DISTINCT", "FROM", "LIKE", "IN"]

/-- The characters that operators are made of. -/
def operatorMarks : List Char :=
  ['+', '-', '*', '/', '<', '>', '=', '~', '!', '@', '#', '%', '^', '&', '|', '?']

/-- Whether a token belongs to an operator. -/
def isOperator : Token → Bool
  | word text => operatorWords.contains text
  | mark c => operatorMarks.contains c
  | _ => false

/-- What may be called on a side of an operator. -/
def functions : List String := ["ARRAY", "COALESCE", "jsonb_build_array", "to_jsonb"]

/-- What a side of an operator may be cast to. -/
def castTypes : List String := ["jsonb", "numeric"]

/-- Tokens that are one piece: what is inside brackets may be anything that leaves these alone. -/
inductive Primary : List Token → Prop
  | column (label name : String) : Primary [.name label, .mark '.', .name name]
  | truth {text : String} (h : text = "true" ∨ text = "false") : Primary [word text]
  | string (text : String) : Primary [.string text]
  | value (p : Param) : Primary [.value p]
  | group {inner : List Token} (h : Balanced inner) :
    Primary (opening .round :: (inner ++ [closing .round]))
  | call {function : String} {arguments : List Token} (hname : function ∈ functions)
    (h : Balanced arguments) :
    Primary (word function :: opening .round :: (arguments ++ [closing .round]))
  | choice {body : List Token} (h : Balanced body) :
    Primary (opening .case :: (body ++ [closing .case]))
  | cast {tokens : List Token} {type : String} (h : Primary tokens) (htype : type ∈ castTypes) :
    Primary (tokens ++ [mark ':', mark ':', word type])
  | subscript {tokens index : List Token} (h : Primary tokens) (hindex : Balanced index) :
    Primary (tokens ++ opening .square :: (index ++ [closing .square]))

/-! ## Nothing inside is taken apart -/

/-- Balanced tokens with no operator outside of their brackets. -/
structure Sealed (tokens : List Token) : Prop where
  balanced : Balanced tokens
  closed {front back : List Token} {t : Token} (heq : tokens = front ++ t :: back)
    (hfront : Balanced front) : t.isOperator = false

namespace Sealed

variable {tokens front back : List Token} {t : Token}

/-- No tokens hold no operator. -/
theorem nil : Sealed [] where
  balanced := balanced_nil
  closed heq _ := absurd heq (by simp)

/-- A token alone, which is neither bracket nor operator. -/
theorem single (hturn : ∀ stack, t.turn? stack = some stack) (h : t.isOperator = false) :
    Sealed [t] where
  balanced stack := by rw [scan, hturn stack]; rfl
  closed heq _ := by
    obtain ⟨rfl, hsame⟩ | ⟨more, rfl, hmore⟩ := List.cons_eq_append_iff.mp heq
    · cases hsame
      exact h
    · simp at hmore

/-- What is around brackets is around what they enclose. -/
theorem enclose {inner : List Token} (h : Balanced inner) (b : Bracket) :
    Sealed (opening b :: (inner ++ [closing b])) where
  balanced := h.enclose b
  closed := by
    intro front back t heq hfront
    obtain ⟨rfl, hsame⟩ | ⟨more, rfl, hmore⟩ := List.cons_eq_append_iff.mp heq
    · cases hsame
      rfl
    · -- the bracket is open behind it, whatever of the inner tokens has been read
      exfalso
      have hopen : scan [b] more = some [] := hfront []
      rcases List.append_eq_append_iff.mp hmore with ⟨left, hleft, hclosing⟩ | ⟨left, rfl, -⟩
      · cases left with
        | nil =>
          rw [List.append_nil] at hleft
          rw [hleft, h [b]] at hopen
          cases hopen
        | cons x xs => simp at hclosing
      · have hinner := h []
        rw [scan_append] at hinner
        obtain ⟨stack, hstack, -⟩ := Option.bind_eq_some_iff.mp hinner
        have hbase := scan_base hstack [b]
        rw [List.nil_append, hopen] at hbase
        simp at hbase

/-- A token of two parts is in the one or in the other. -/
theorem append_eq_append_cons {left right : List Token} (h : left ++ right = front ++ t :: back) :
    (∃ more, left = front ++ t :: more ∧ back = more ++ right) ∨
      ∃ more, front = left ++ more ∧ right = more ++ t :: back := by
  rcases List.append_eq_append_iff.mp h with ⟨more, hfront, hright⟩ | ⟨more, hleft, hback⟩
  · exact .inr ⟨more, hfront, hright⟩
  · cases more with
    | nil => exact .inr ⟨[], by simpa using hleft.symm, by simpa using hback.symm⟩
    | cons x xs =>
      cases hback
      exact .inl ⟨xs, hleft, rfl⟩

/-- What is read behind balanced tokens is balanced if the whole is. -/
theorem balanced_of_append {more : List Token} (hfront : Balanced front)
    (h : Balanced (front ++ more)) : Balanced more := by
  intro stack
  have hboth := h stack
  rwa [scan_append, hfront stack] at hboth

/-- Sealed runs side by side are sealed: an operator of the whole would be one of either. -/
theorem append (hfront : Sealed front) (hback : Sealed back) : Sealed (front ++ back) where
  balanced := hfront.balanced.append hback.balanced
  closed := by
    intro before after t heq hbefore
    rcases append_eq_append_cons heq with ⟨more, rfl, -⟩ | ⟨more, rfl, rfl⟩
    · exact hfront.closed rfl hbefore
    · exact hback.closed rfl (balanced_of_append hfront.balanced hbefore)

/-- No operator outside of the brackets is that of the sides. -/
theorem between {left right operator : List Token} (hleft : Sealed left) (hright : Sealed right)
    (hoperator : Balanced operator) (heq : left ++ (operator ++ right) = front ++ t :: back)
    (hfront : Balanced front) (ht : t.isOperator = true) :
    ∃ before after, operator = before ++ t :: after ∧ front = left ++ before ∧
      back = after ++ right := by
  rcases append_eq_append_cons heq with ⟨more, rfl, -⟩ | ⟨before, rfl, hrest⟩
  · exact absurd ht (by simp [hleft.closed rfl hfront])
  · have hbefore := balanced_of_append hleft.balanced hfront
    rcases append_eq_append_cons hrest with ⟨after, rfl, rfl⟩ | ⟨more, rfl, rfl⟩
    · exact ⟨before, after, rfl, rfl, rfl⟩
    · exact absurd ht (by simp [hright.closed rfl (balanced_of_append hoperator hbefore)])

end Sealed

open Sealed (single)

/-- A primary expression has no operator outside of its brackets. -/
theorem Primary.sealed {tokens : List Token} (h : Primary tokens) : Sealed tokens := by
  induction h with
  | column label name =>
    have hlabel : Sealed [Token.name label] := single (fun _ => rfl) rfl
    have hdot : Sealed [mark '.'] := single (fun _ => rfl) rfl
    exact hlabel.append (hdot.append (single (fun _ => rfl) rfl))
  | truth h => obtain rfl | rfl := h <;> exact single (fun _ => rfl) rfl
  | string text => exact single (fun _ => rfl) rfl
  | value p => exact single (fun _ => rfl) rfl
  | group h => exact .enclose h .round
  | call hname h =>
    have hplain : ∀ name ∈ functions, (word name).isOperator = false := by decide
    exact (single (fun _ => rfl) (hplain _ hname)).append (.enclose h .round)
  | choice h => exact .enclose h .case
  | cast _ htype ih =>
    have hplain : ∀ name ∈ castTypes, (word name).isOperator = false := by decide
    have hcolon : Sealed [mark ':'] := single (fun _ => rfl) rfl
    exact ih.append (hcolon.append (hcolon.append (single (fun _ => rfl) (hplain _ htype))))
  | subscript _ hindex ih => exact ih.append (.enclose hindex .square)

end Token

namespace Sql

open Token (lex)

/-! ## Sides of an operator -/

/-- A fragment that is one piece. -/
def Primary (sql : Sql) : Prop := Token.Primary sql.tokens

/--
Two fragments that can stand on the sides of an operator: each is one piece, and whatever operator is read
outside of their brackets is a part of the one between them.
-/
structure Delimits (a : Sql) (operator : String) (b : Sql) : Prop where
  left : a.Primary
  right : b.Primary
  only {front back : List Token} {t : Token}
    (heq : (seq [a, operator, b]).tokens = front ++ t :: back) (hfront : Token.Balanced front)
    (ht : t.isOperator = true) :
    ∃ before after, lex operator = before ++ t :: after ∧ front = a.tokens ++ before ∧
      back = after ++ b.tokens

/--
What is written as a truth value without being one piece: a negation, and a test for null of what is in
parentheses.
-/
def Open (sql : Sql) : Prop :=
  ∃ inner : Sql, inner.Balanced ∧ (sql = inner.not ∨ sql = seq [inner.parens, " IS NULL"] ∨
    sql = seq [inner.parens, " IS NOT NULL"])

variable {a b x : Sql}

/-- A primary expression is balanced. -/
theorem Primary.balanced (h : x.Primary) : x.Balanced := (Token.Primary.sealed h).balanced

/-- Primary expressions can stand on the sides of any operator. -/
theorem Primary.delimits (ha : a.Primary) (hb : b.Primary) {operator : String}
    (hoperator : Token.Balanced (lex operator)) : a.Delimits operator b where
  left := ha
  right := hb
  only heq hfront ht := by
    refine (Token.Primary.sealed ha).between (Token.Primary.sealed hb) hoperator ?_ hfront ht
    simpa only [tokens, seqTokens, List.append_nil] using heq

/-- An open fragment is balanced. -/
theorem Open.balanced (h : x.Open) : x.Balanced := by
  obtain ⟨inner, hinner, rfl | rfl | rfl⟩ := h
  · exact balanced_not hinner
  · intro stack
    simp only [tokens, seqTokens, Token.scan_append, (balanced_parens hinner).scan]
    rfl
  · intro stack
    simp only [tokens, seqTokens, Token.scan_append, (balanced_parens hinner).scan]
    rfl

theorem balanced_piece (h : x.Primary ∨ x.Open) : x.Balanced := h.elim Primary.balanced Open.balanced

/-- The operator of an open fragment is outside of its brackets. -/
theorem Open.not_primary (h : x.Open) : ¬ x.Primary := by
  intro hprimary
  have hsealed := Token.Primary.sealed hprimary
  obtain ⟨inner, hinner, rfl | rfl | rfl⟩ := h
  · have hsplit : inner.not.tokens = [] ++ .word "NOT" :: inner.parens.tokens := rfl
    exact absurd (hsealed.closed hsplit Token.balanced_nil) (by decide)
  · have hsplit : (seq [inner.parens, " IS NULL"]).tokens =
        inner.parens.tokens ++ .word "IS" :: [.word "NULL"] := rfl
    exact absurd (hsealed.closed hsplit (balanced_parens hinner)) (by decide)
  · have hsplit : (seq [inner.parens, " IS NOT NULL"]).tokens =
        inner.parens.tokens ++ .word "IS" :: [.word "NOT", .word "NULL"] := rfl
    exact absurd (hsealed.closed hsplit (balanced_parens hinner)) (by decide)

end Sql

end ObjectQuery
