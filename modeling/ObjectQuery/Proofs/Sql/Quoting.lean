import ObjectQuery.Proofs.Result
import ObjectQuery.Proofs.Sql.Numbering
import ObjectQuery.Proofs.Sql.Primary
import ObjectQuery.Sql.Update

/-!
# Quoted tokens read back

A quote inside a token is written twice, so the first quote that another one does not follow is the end
of the token, wherever quotes stand in it. A reader that meets the opening quote takes just the token,
whatever follows it but one more quote.

So a name that a client chose is settled by the text of a statement. `Filled` relates the terms of two
statements that are the same but for the names in some slots; read from left to right, either the texts
part at a slot or the names are the same. The keys of a place in a document are settled although their
number is not known before: behind a key, a comma goes on and a bracket ends.
-/

namespace ObjectQuery

/-! ## Slots -/

/-- Where a client's name stands in a statement: as an identifier or as a constant. -/
inductive Sql.Slot where
  | name
  | constant

namespace Sql.Slot

/-- The character on either side. -/
def quote : Slot → Char
  | name => '"'
  | constant => '\''

/-- A name as a term of a statement. -/
def term : Slot → String → Term
  | name, text => .name text
  | constant, text => .constant text

/-- A name as a token that was read. -/
def token : Slot → String → Token
  | name, text => .name text
  | constant, text => .string text

/-- What a quote opens. -/
def ofQuote? (q : Char) : Option Slot :=
  if q = '"' then some name else if q = '\'' then some constant else none

/-- The quote of a slot tells which slot it is. -/
theorem ofQuote?_eq_some {q : Char} {k : Slot} : ofQuote? q = some k ↔ q = k.quote := by
  unfold ofQuote?
  cases k <;> grind [quote]

/-- Tokens are the same if their slots and texts are. -/
theorem token_inj {k k' : Slot} {x y : String} (h : k.token x = k'.token y) : k = k' ∧ x = y := by
  cases k <;> cases k' <;> cases h <;> exact ⟨rfl, rfl⟩

end Sql.Slot

/-! ## Reading a token -/

namespace Token

/-- Reads up to the quote that ends a token; two quotes stand for one that is part of it. -/
def readQuoted? (q : Char) : List Char → Option (List Char × List Char)
  | [] => none
  | [c] => if c = q then some ([], []) else none
  | c :: d :: rest =>
    if c = q then
      if d = q then (readQuoted? q rest).map fun read => (q :: read.1, read.2)
      else some ([], d :: rest)
    else (readQuoted? q (d :: rest)).map fun read => (c :: read.1, read.2)

/-- Reads the quoted token that a text opens with: the token, and what follows it. -/
def read? (text : String) : Option (Token × String) :=
  match text.toList with
  | [] => none
  | q :: cs => do
    let slot ← Sql.Slot.ofQuote? q
    let (read, after) ← readQuoted? q cs
    return (slot.token (String.ofList read), String.ofList after)

end Token

namespace Sql.Quoted

open Token (readQuoted?)

variable {q : Char} {x y : String} {after after' : String}

/-- A quote that no other follows ends a token. -/
theorem readQuoted?_end {rest : List Char} (h : rest.head? ≠ some q) :
    readQuoted? q (q :: rest) = some ([], rest) := by
  cases rest with
  | nil => simp [readQuoted?]
  | cons d rest =>
    have hd : d ≠ q := by simpa using h
    simp [readQuoted?, hd]

/-- What is neither a quote nor the last character goes on a token. -/
theorem readQuoted?_cons {c : Char} {cs : List Char} (hc : c ≠ q) (hcs : cs ≠ []) :
    readQuoted? q (c :: cs) = (readQuoted? q cs).map fun read => (c :: read.1, read.2) := by
  cases cs with
  | nil => exact absurd rfl hcs
  | cons d rest => simp [readQuoted?, hc]

/-- Along the text: a quote inside is read as one, so the first that stands alone is the closing one. -/
theorem readQuoted?_double (cs : List Char) {rest : List Char} (h : rest.head? ≠ some q) :
    readQuoted? q (double q cs ++ q :: rest) = some (cs, rest) := by
  induction cs with
  | nil => exact readQuoted?_end h
  | cons c cs ih =>
    by_cases hc : c = q
    · simp [double, hc, readQuoted?, ih]
    · rw [double, if_neg hc, List.cons_append, readQuoted?_cons hc (by simp), ih]
      rfl

/-- What is read is what stands before the closing quote, and no quote follows that one. -/
theorem readQuoted?_eq_some {cs text rest : List Char} :
    readQuoted? q cs = some (text, rest) ↔
      cs = double q text ++ q :: rest ∧ rest.head? ≠ some q := by
  refine ⟨fun h => ?_, fun ⟨hcs, hrest⟩ => hcs ▸ readQuoted?_double text hrest⟩
  fun_induction readQuoted? q cs generalizing text with
  | case1 => cases h
  | case2 =>
    cases h
    exact ⟨rfl, nofun⟩
  | case3 => cases h
  | case4 cs ih =>
    obtain ⟨read, hread, hsame⟩ := Option.map_eq_some_iff.mp h
    cases hsame
    obtain ⟨hcs, hrest⟩ := ih hread
    exact ⟨by simp [double, hcs], hrest⟩
  | case5 d cs hd =>
    cases h
    exact ⟨rfl, by simpa using hd⟩
  | case6 c d cs hc ih =>
    obtain ⟨read, hread, hsame⟩ := Option.map_eq_some_iff.mp h
    cases hsame
    obtain ⟨hcs, hrest⟩ := ih hread
    exact ⟨by simp [double, hcs, hc], hrest⟩

/-- A quoted text is its characters, doubled where they are quotes, between two quotes. -/
theorem toList_encode_append :
    (encode q x ++ after).toList = q :: (double q x.toList ++ q :: after.toList) := by
  simp [encode, String.toList_append]

/-- Tokens in the same quotes, each followed by something else, end at the same place. -/
theorem encode_append_inj (h : after.toList.head? ≠ some q) (h' : after'.toList.head? ≠ some q)
    (heq : encode q x ++ after = encode q y ++ after') : x = y ∧ after = after' := by
  have hchars := congrArg String.toList heq
  rw [toList_encode_append, toList_encode_append, List.cons.injEq] at hchars
  have hread := congrArg (readQuoted? q) hchars.2
  rw [readQuoted?_double _ h, readQuoted?_double _ h', Option.some.injEq, Prod.mk.injEq] at hread
  exact ⟨String.toList_injective hread.1, String.toList_injective hread.2⟩

/-- A text is known by its quoted form. -/
theorem encode_injective (q : Char) : Function.Injective (encode q) := by
  intro x y heq
  have hnone : "".toList.head? ≠ some q := nofun
  exact (encode_append_inj hnone hnone (congrArg (· ++ "") heq)).1

/-- A text that opens with a token, which no quote follows, is one that is read to its end. -/
theorem eq_encode_append_iff {text : String} :
    (text = encode q x ++ after ∧ after.toList.head? ≠ some q) ↔
      ∃ cs, text.toList = q :: cs ∧ readQuoted? q cs = some (x.toList, after.toList) := by
  constructor
  · rintro ⟨rfl, hafter⟩
    exact ⟨_, toList_encode_append, readQuoted?_double _ hafter⟩
  · rintro ⟨cs, htext, hread⟩
    obtain ⟨rfl, hafter⟩ := readQuoted?_eq_some.mp hread
    exact ⟨String.toList_injective (htext.trans toList_encode_append.symm), hafter⟩

/--
Texts that are quoted alike are the same. A reader takes a token with the text that was quoted, whatever
follows it but one more quote, and takes the token from nothing else.
-/
structure Delimits (q : Char) (token : String → Token) (quoted : String → String) : Prop where
  injective : Function.Injective quoted
  reads : ∀ text x after, Token.read? text = some (token x, after) ↔
    text = quoted x ++ after ∧ after.toList.head? ≠ some q

/-- The quoted form of a text delimits its token, whatever follows but another quote. -/
theorem delimits_encode (k : Slot) : Delimits k.quote k.token (encode k.quote) where
  injective := encode_injective _
  reads text x after := by
    refine Iff.trans ⟨fun h => ?read, ?taken⟩ eq_encode_append_iff.symm
    case read =>
      unfold Token.read? at h
      split at h
      next => cases h
      next q cs hcs =>
        obtain ⟨k', hk', h⟩ := Option.bind_eq_some_iff.mp h
        obtain ⟨read, hread, h⟩ := Option.bind_eq_some_iff.mp h
        obtain ⟨htoken, rfl⟩ := Prod.mk.inj (Option.some.inj h)
        obtain ⟨rfl, rfl⟩ := Slot.token_inj htoken
        obtain rfl := Slot.ofQuote?_eq_some.mp hk'
        exact ⟨cs, hcs, by simpa using hread⟩
    case taken =>
      rintro ⟨cs, hcs, hread⟩
      simp [Token.read?, hcs, Slot.ofQuote?_eq_some.mpr rfl, hread]

end Sql.Quoted

namespace Sql

/-! ## What a text opens with -/

variable {n : Nat} {t : Term} {ts us : List Term} {xs ys : List String}

/-- A slot is written as its text in quotes, whatever its number. -/
theorem render_slot (k : Slot) (text : String) (number : Nat) :
    (k.term text).render number = Quoted.encode k.quote text := by
  cases k <;> rfl

/-- A slot binds no value. -/
theorem boundValues_slot (k : Slot) (text : String) : boundValues [k.term text] = [] := by
  cases k <;> rfl

/-- The character that the text of terms opens with. -/
def opens (ts : List Term) : Option Char := (spell 0 ts).toList.head?

/-- Two texts start as the first does, unless it is empty. -/
theorem head?_append (a b : String) :
    (a ++ b).toList.head? = a.toList.head?.or b.toList.head? := by
  simp [String.toList_append]

/-- A bound value opens with a dollar sign, whatever its number. -/
theorem head?_render (t : Term) (m n : Nat) :
    (t.render m).toList.head? = (t.render n).toList.head? := by
  cases t with
  | value v =>
    rw [Term.render, Term.render]
    cases v.literal? with
    | none => simp
    | some word => rfl
  | _ => rfl

/-- The text of some terms starts as the first of them that is not empty. -/
theorem head?_spell (n : Nat) (ts : List Term) : (spell n ts).toList.head? = opens ts := by
  have hany : ∀ m n, (spell m ts).toList.head? = (spell n ts).toList.head? := by
    induction ts with
    | nil => exact fun _ _ => rfl
    | cons t rest ih =>
      intro m n
      rw [spell_cons, spell_cons, head?_append, head?_append, head?_render t _ (n + 1), ih]
  exact hany n 0

/-- Terms of one text start alike. -/
theorem opens_eq_of_spell (h : spell n ts = spell n us) : opens ts = opens us := by
  rw [← head?_spell n, h, head?_spell]

/-- Terms start as the first of them does, unless it is empty. -/
theorem opens_cons : opens (t :: ts) = ((t.render 1).toList.head?).or (opens ts) := by
  rw [opens, spell_cons, head?_append, head?_spell]

/-! ## Terms with slots -/

/--
Terms that are the same up to the last of some slots, which hold the names of one list here and of
another there. What follows the last slot is free.
-/
inductive Filled : List String → List String → List Term → List Term → Prop where
  | rest (ts us : List Term) : Filled [] [] ts us
  | same {xs ys : List String} {ts us : List Term} (t : Term) (behind : Filled xs ys ts us) :
    Filled xs ys (t :: ts) (t :: us)
  | slot {xs ys : List String} {ts us : List Term} (k : Slot) (x y : String)
    (ends : opens ts ≠ some k.quote) (ends' : opens us ≠ some k.quote)
    (behind : Filled xs ys ts us) : Filled (x :: xs) (y :: ys) (k.term x :: ts) (k.term y :: us)

namespace Filled

/-- What both have in front. -/
theorem after (front : List Term) (h : Filled xs ys ts us) :
    Filled xs ys (front ++ ts) (front ++ us) := by
  induction front with
  | nil => exact h
  | cons t rest ih => exact .same t ih

/-- From left to right: the same terms take up the same text, and so does a slot, once it is read. -/
theorem names_eq (h : Filled xs ys ts us) (heq : spell n ts = spell n us) : xs = ys := by
  induction h generalizing n with
  | rest => rfl
  | same t _ ih =>
    rw [spell_cons, spell_cons, String.append_right_inj] at heq
    exact ih heq
  | slot k x y hends hends' _ ih =>
    rw [spell_cons, spell_cons, render_slot, render_slot, boundValues_slot, boundValues_slot] at heq
    obtain ⟨rfl, hbehind⟩ :=
      Quoted.encode_append_inj (head?_spell _ _ ▸ hends) (head?_spell _ _ ▸ hends') heq
    rw [ih hbehind]

end Filled

/-! ## Fragments with slots -/

/-- Text that opens with a character which is no quote. -/
def Plain (text : String) : Prop := ∃ c, text.toList.head? = some c ∧ c ≠ '"' ∧ c ≠ '\''

/-- The rests of two statements, which differ in slots and may stand behind one. -/
structure Following (xs ys : List String) (ts us : List Term) : Prop where
  ends : ∀ k : Slot, opens ts ≠ some k.quote
  ends' : ∀ k : Slot, opens us ≠ some k.quote
  filled : Filled xs ys ts us

/-- Fragments that are the same but for their slots, with whatever may follow them. -/
def Fills (xs ys : List String) (a b : Sql) : Prop :=
  ∀ ⦃xs' ys' : List String⦄ ⦃ts us : List Term⦄, Following xs' ys' ts us →
    Filled (xs ++ xs') (ys ++ ys') (a.terms ++ ts) (b.terms ++ us)

/-- Plain text does not start with a quote. -/
theorem opens_plain {text : String} (h : Plain text) (k : Slot) :
    opens (.raw text :: ts) ≠ some k.quote := by
  obtain ⟨c, hopen, hname, hconstant⟩ := h
  rw [opens_cons, Term.render, hopen, Option.some_or]
  cases k with
  | name => simpa [Slot.quote] using hname
  | constant => simpa [Slot.quote] using hconstant

/-- Behind plain text the rest may be filled in as before. -/
theorem Filled.following {text : String} (htext : Plain text) (h : Filled xs ys ts us) :
    Following xs ys (.raw text :: ts) (.raw text :: us) :=
  ⟨opens_plain htext, opens_plain htext, .same _ h⟩

/-- A fragment without slots is filled in by itself. -/
theorem fills_same (a : Sql) : Fills [] [] a a := fun _ _ _ _ h => h.filled.after a.terms

/-- Items that correspond, joined by what opens with no quote. -/
theorem fills_join {R : α → α → Prop} {names : α → List String} {item : α → Sql} {separator : String}
    (hsep : Plain separator)
    (hitem : ∀ a b, R a b → Fills (names a) (names b) (item a) (item b)) {as bs : List α}
    (h : List.Forall₂ R as bs) :
    Fills (as.flatMap names) (bs.flatMap names) (join (as.map item) separator)
      (join (bs.map item) separator) := by
  have hfollowing : ∀ {as bs : List α}, List.Forall₂ R as bs → ∀ ⦃xs ys ts us⦄,
      Following xs ys ts us → Following (as.flatMap names ++ xs) (bs.flatMap names ++ ys)
        (followingTerms separator (as.map item) ++ ts)
        (followingTerms separator (bs.map item) ++ us) := by
    intro as bs hall xs ys ts us hrest
    induction hall with
    | nil => exact hrest
    | @cons a b as bs hab _ ih => simpa [followingTerms] using (hitem a b hab ih).following hsep
  cases h with
  | nil => exact fun _ _ _ _ h => h.filled
  | @cons a b as bs hab hall =>
    intro xs ys ts us hrest
    simpa [terms, joinTerms] using hitem a b hab (hfollowing hall hrest)

/-! ## Places in statements -/

/-- Two fragments that stand at the same place, behind the same terms, of statements of one text. -/
def WrittenAlike (a b : Sql) : Prop :=
  ∃ (statement statement' : Sql) (before after after' : List Term),
    statement.terms = before ++ (a.terms ++ after) ∧
      statement'.terms = before ++ (b.terms ++ after') ∧
      statement.compile.text = statement'.compile.text

/--
Terms with the same front are spelled the same behind it, from where its values have been numbered.
-/
theorem spell_behind (front : List Term) (h : spell n (front ++ ts) = spell n (front ++ us)) :
    spell (n + (boundValues front).length) ts = spell (n + (boundValues front).length) us := by
  rwa [spell_append, spell_append, String.append_right_inj] at h

/-- A fragment is written like itself. -/
theorem WrittenAlike.refl (a : Sql) : WrittenAlike a a :=
  ⟨a, a, [], [], [], by simp, by simp, rfl⟩

/-- Fragments that are written alike are spelled alike, from some number and before some terms. -/
theorem WrittenAlike.spell_eq {a b : Sql} (h : WrittenAlike a b) :
    ∃ n after after', spell n (a.terms ++ after) = spell n (b.terms ++ after') := by
  obtain ⟨statement, statement', before, after, after', hterms, hterms', htext⟩ := h
  rw [compile_eq, compile_eq, hterms, hterms'] at htext
  exact ⟨_, after, after', spell_behind _ htext⟩

/-- What is selected, whatever it is selected from. -/
theorem Fills.names_eq_of_select {a b source source' condition condition' tail tail' : Sql}
    (h : Fills xs ys a b) (halike : WrittenAlike (select a source condition tail)
      (select b source' condition' tail')) : xs = ys := by
  obtain ⟨n, after, after', heq⟩ := halike.spell_eq
  have hfrom : Plain " FROM " := ⟨' ', rfl, by decide⟩
  have hlist := h ((Filled.rest (seqTerms [source, " WHERE ", condition, tail] ++ after)
    (seqTerms [source', " WHERE ", condition', tail'] ++ after')).following hfrom)
  rw [List.append_nil, List.append_nil] at hlist
  refine (hlist.same (.raw "SELECT ")).names_eq (n := n) ?_
  simpa [select, terms, seqTerms] using heq

/-! ## Places in a document -/

variable {keys keys' : List String}

/-- The end of an array of texts, and what follows it. -/
abbrev arrayEnd (ts : List Term) : List Term := .raw "]::text[]" :: ts

/-- Behind a key either another one follows or the list ends. -/
theorem opens_following (keys : List String) (ts : List Term) :
    opens (followingTerms ", " (keys.map str) ++ arrayEnd ts) =
      some (if keys = [] then ']' else ',') := by
  cases keys with
  | nil =>
    have hend : "]::text[]".toList.head? = some ']' := rfl
    rw [List.map_nil, followingTerms, List.nil_append, opens_cons, Term.render, hend, if_pos rfl]
    rfl
  | cons key rest =>
    have hcomma : ", ".toList.head? = some ',' := rfl
    rw [List.map_cons, followingTerms, List.cons_append, opens_cons, Term.render, hcomma,
      if_neg (List.cons_ne_nil _ _)]
    rfl

/-- A list of keys starts with its first key, or ends at once. -/
theorem opens_joined (keys : List String) (ts : List Term) :
    opens (joinTerms ", " (keys.map str) ++ arrayEnd ts) =
      some (if keys = [] then ']' else '\'') := by
  cases keys with
  | nil => exact opens_following [] ts
  | cons key rest =>
    rw [List.map_cons, joinTerms, terms, List.singleton_append, List.cons_append, opens_cons,
      Term.render, if_neg (List.cons_ne_nil _ _)]
    simp [Quoted.string, Quoted.encode]

/-- A key ends where it ends, since a comma or a bracket is behind it. -/
theorem key_inj {key key' : String} {rest rest' : List String}
    (h : spell n (.constant key :: (followingTerms ", " (rest.map str) ++ arrayEnd ts)) =
      spell n (.constant key' :: (followingTerms ", " (rest'.map str) ++ arrayEnd us))) :
    key = key' ∧ spell n (followingTerms ", " (rest.map str) ++ arrayEnd ts) =
      spell n (followingTerms ", " (rest'.map str) ++ arrayEnd us) := by
  have hends : ∀ (keys : List String) ts,
      opens (followingTerms ", " (keys.map str) ++ arrayEnd ts) ≠ some '\'' := by
    intro keys ts
    rw [opens_following]
    split <;> decide
  rw [spell_cons, spell_cons] at h
  exact Quoted.encode_append_inj (head?_spell _ _ ▸ hends rest ts) (head?_spell _ _ ▸ hends rest' us) h

/-- Key by key: the same character is behind both, so both go on or both have come to the end. -/
theorem following_inj (h : spell n (followingTerms ", " (keys.map str) ++ arrayEnd ts) =
    spell n (followingTerms ", " (keys'.map str) ++ arrayEnd us)) : keys = keys' := by
  induction keys generalizing keys' n with
  | nil =>
    have hopens := opens_eq_of_spell h
    rw [opens_following, opens_following] at hopens
    cases keys' with
    | nil => rfl
    | cons key' rest' => simp at hopens
  | cons key rest ih =>
    have hopens := opens_eq_of_spell h
    rw [opens_following, opens_following] at hopens
    cases keys' with
    | nil => simp at hopens
    | cons key' rest' =>
      obtain ⟨rfl, hrest⟩ := key_inj (spell_behind [.raw ", "] h)
      rw [ih hrest]

/-- Two arrays of constants that are spelled alike, whatever follows them, have the same texts. -/
theorem textArray_inj (h : spell n ((textArray keys).terms ++ ts) =
    spell n ((textArray keys').terms ++ us)) : keys = keys' := by
  have hterms : ∀ keys ts, (textArray keys).terms ++ ts =
      [.raw "ARRAY["] ++ (joinTerms ", " (keys.map str) ++ arrayEnd ts) := by
    intro keys ts
    simp [textArray, terms, seqTerms]
  rw [hterms, hterms] at h
  have hbehind := spell_behind _ h
  have hopens := opens_eq_of_spell hbehind
  rw [opens_joined, opens_joined] at hopens
  cases keys with
  | nil =>
    cases keys' with
    | nil => rfl
    | cons key' rest' => simp at hopens
  | cons key rest =>
    cases keys' with
    | nil => simp at hopens
    | cons key' rest' =>
      obtain ⟨rfl, hrest⟩ := key_inj hbehind
      rw [following_inj hrest]

/-- The keys of a place in a document are settled by what is written of it. -/
theorem jsonAt_inj {sql : Sql} (h : WrittenAlike (sql.jsonAt keys) (sql.jsonAt keys')) :
    keys = keys' := by
  obtain ⟨n, after, after', heq⟩ := h.spell_eq
  have hterms : ∀ keys ts, (sql.jsonAt keys).terms ++ ts =
      (.raw "(" :: (sql.terms ++ [.raw " #> "])) ++ ((textArray keys).terms ++ (.raw ")" :: ts)) := by
    intro keys ts
    simp [jsonAt, terms, seqTerms]
  rw [hterms, hterms] at heq
  exact textArray_inj (spell_behind _ heq)

/-- The place inside a document that is updated is settled by what is written of the update. -/
theorem inside_inj {current a b : Sql} {path path' : List String} {u u' : Update}
    (ha : Update.inside current path u = .ok a) (hb : Update.inside current path' u' = .ok b)
    (h : WrittenAlike a b) : path = path' := by
  have hterms : ∀ {path u a}, Update.inside current path u = .ok a → ∃ ts, a.terms =
      (.raw "jsonb_set(" :: .raw "COALESCE(" :: (current.terms ++
        [.raw ", '\x7b\x7d'::jsonb)", .raw ", "])) ++ ((textArray path).terms ++ ts) := by
    intro path u a ha
    obtain ⟨value, -, hvalue⟩ := Result.bind_eq_ok.mp ha
    cases hvalue
    simp [terms, seqTerms]
  obtain ⟨n, after, after', heq⟩ := h.spell_eq
  obtain ⟨ts, hts⟩ := hterms ha
  obtain ⟨us, hus⟩ := hterms hb
  rw [hts, hus, List.append_assoc, List.append_assoc, List.append_assoc, List.append_assoc] at heq
  exact textArray_inj (spell_behind _ heq)

end Sql

end ObjectQuery
