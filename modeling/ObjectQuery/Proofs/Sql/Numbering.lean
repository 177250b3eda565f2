import Mathlib.Data.List.Basic
import ObjectQuery.Proofs.Sql.Alike

/-!
# Placeholders and parameters

A fragment is a tree whose leaves are text, names and constants that are quoted, and values. Read from
left to right the leaves are its terms. A value that is no literal is bound: its place in the text is a
placeholder with its number among the bound values, so the placeholder with a number stands where the
parameter at that position was put, however deep in the tree.

Fragments compose: what is written behind another fragment is numbered on from there. `Sql.write` is
the descent through the tree that goes on with the parameters it finds, and it comes to the same
statement as the flat list of leaves.
-/

namespace ObjectQuery

/-- The word for a value that is written into the text; any other value is bound. -/
def Param.literal? : Param → Option String
  | .null => some "NULL"
  | .bool true => some "true"
  | .bool false => some "false"
  | _ => none

namespace Sql

/-! ## Terms -/

/-- What was put at a leaf of a fragment. -/
inductive Term where
  | raw (text : String)
  | name (text : String)
  | constant (text : String)
  | value (value : Param)

namespace Term

/-- The value that a term binds. -/
def bound? : Term → Option Param
  | value v => if v.literal?.isNone then some v else none
  | _ => none

/-- A term as text, where a value that it binds has a number. -/
def render (number : Nat) : Term → String
  | raw text => text
  | name text => Quoted.ident text
  | constant text => Quoted.string text
  | value v => v.literal?.getD ("$" ++ toString number ++ v.cast)

/-- The leaf that a term is flattened to. -/
def leaf : Term → Leaf
  | raw text => .text text
  | name text => .text (Quoted.ident text)
  | constant text => .text (Quoted.string text)
  | value v => .ofParam v

end Term

mutual

/-- The terms of a fragment from left to right. -/
def terms : Sql → List Term
  | raw text => [.raw text]
  | ident name => [.name name]
  | str text => [.constant text]
  | param value => [.value value]
  | seq parts => seqTerms parts
  | join items separator => joinTerms separator items
  | column label name => [.name label, .raw ".", .name name]
  | star label => [.name label, .raw ".*"]
  | root className => [.name className]
  | table className label => [.name className, .raw " AS ", .name label]
  | source name label => [.name name, .raw " AS ", .name label]
  | binder label => [.name label]
  | block body => terms body

def seqTerms : List Sql → List Term
  | [] => []
  | x :: xs => terms x ++ seqTerms xs

def joinTerms (separator : String) : List Sql → List Term
  | [] => []
  | x :: xs => terms x ++ followingTerms separator xs

/-- The terms of items that each have the separator before them. -/
def followingTerms (separator : String) : List Sql → List Term
  | [] => []
  | x :: xs => .raw separator :: (terms x ++ followingTerms separator xs)

end

/-- The values that terms bind, in order. -/
def boundValues (ts : List Term) : List Param := ts.filterMap Term.bound?

/-- Terms as text behind so many parameters: a bound value has the next number after those before it. -/
def spell (behind : Nat) (ts : List Term) : String :=
  String.join (ts.mapIdx fun i t => t.render (behind + (boundValues (ts.take i)).length + 1))

/-! ## Leaves -/

mutual

/-- The leaves of a tree are those of its terms, in order. -/
theorem leaves_eq : ∀ s : Sql, s.leaves = s.terms.map Term.leaf
  | seq parts => seqLeaves_eq parts
  | join items separator => joinLeaves_eq separator items
  | block body => leaves_eq body
  | raw _ | ident _ | str _ | param _ | column .. | star _ | root _ | table .. | source .. | binder _ =>
    rfl

/-- The leaves of a sequence are those of its terms. -/
theorem seqLeaves_eq : ∀ parts : List Sql, seqLeaves parts = (seqTerms parts).map Term.leaf
  | [] => rfl
  | x :: xs => by rw [seqLeaves, seqTerms, leaves_eq x, seqLeaves_eq xs, List.map_append]

/-- The leaves of a separated list are those of its terms. -/
theorem joinLeaves_eq (separator : String) : ∀ items : List Sql,
    joinLeaves separator items = (joinTerms separator items).map Term.leaf
  | [] => rfl
  | x :: xs => by rw [joinLeaves, joinTerms, leaves_eq x, joinRest_eq separator xs, List.map_append]

/-- The leaves behind the first item of a separated list are those of its terms. -/
theorem joinRest_eq (separator : String) : ∀ items : List Sql,
    joinRest separator items = (followingTerms separator items).map Term.leaf
  | [] => rfl
  | x :: xs => by
    rw [joinRest, followingTerms, leaves_eq x, joinRest_eq separator xs, List.map_cons,
      List.map_append]
    rfl

end

variable {behind n : Nat} {t : Term} {ts us : List Term} {s : Sql}

/-- A term is text, or it binds its value. -/
theorem Term.leaf_cases (t : Term) :
    (t.bound? = none ∧ ∃ text, t.leaf = .text text ∧ ∀ number, t.render number = text) ∨
      ∃ v, t.bound? = some v ∧ t.leaf = .slot v ∧ ∀ number, t.render number = placeholder number v := by
  cases t with
  | raw text => exact .inl ⟨rfl, text, rfl, fun _ => rfl⟩
  | name text => exact .inl ⟨rfl, _, rfl, fun _ => rfl⟩
  | constant text => exact .inl ⟨rfl, _, rfl, fun _ => rfl⟩
  | value v =>
    cases v with
    | null => exact .inl ⟨rfl, _, rfl, fun _ => rfl⟩
    | bool b => cases b <;> exact .inl ⟨rfl, _, rfl, fun _ => rfl⟩
    | _ => exact .inr ⟨_, rfl, rfl, fun _ => rfl⟩

/-- The slots among the leaves of terms are the values the terms bind. -/
theorem slots_map_leaf (ts : List Term) : slots (ts.map Term.leaf) = boundValues ts := by
  induction ts with
  | nil => rfl
  | cons t rest ih =>
    rcases t.leaf_cases with ⟨hbound, text, hleaf, -⟩ | ⟨v, hbound, hleaf, -⟩
    · rw [List.map_cons, hleaf, slots, ih, boundValues, boundValues, List.filterMap_cons, hbound]
    · rw [List.map_cons, hleaf, slots, ih, boundValues, boundValues, List.filterMap_cons, hbound]

/--
The first term is numbered from what stands behind it, the rest from one more where it binds a value.
-/
theorem spell_cons :
    spell behind (t :: ts) = t.render (behind + 1) ++ spell (behind + (boundValues [t]).length) ts := by
  have hcount : ∀ i, behind + (boundValues ((t :: ts).take (i + 1))).length =
      behind + (boundValues [t]).length + (boundValues (ts.take i)).length := fun i => by
    rw [List.take_succ_cons, boundValues, ← List.singleton_append, List.filterMap_append,
      List.length_append, ← Nat.add_assoc]
    rfl
  rw [spell, List.mapIdx_cons, String.join_cons]
  simp only [hcount]
  rfl

/-- The first placeholder has the number after those that stand before. -/
theorem join_writeLeaves (ts : List Term) :
    String.join (writeLeaves (behind + 1) (ts.map Term.leaf)) = spell behind ts := by
  induction ts generalizing behind with
  | nil => rfl
  | cons t rest ih =>
    rw [spell_cons]
    rcases t.leaf_cases with ⟨hbound, text, hleaf, htext⟩ | ⟨v, hbound, hleaf, hplace⟩
    · rw [List.map_cons, hleaf, writeLeaves, String.join_cons, ih, htext]
      simp [boundValues, hbound]
    · rw [List.map_cons, hleaf, writeLeaves, String.join_cons, ih, hplace]
      simp [boundValues, hbound]

/-- A tree compiles to the spelling of its terms and the values they bind. -/
theorem compile_eq (s : Sql) : s.compile = ⟨spell 0 s.terms, boundValues s.terms⟩ := by
  rw [compile, leaves_eq, slots_map_leaf, ← join_writeLeaves]

/-! ## Composition -/

/-- The values of two runs of terms are bound in order. -/
theorem boundValues_append : boundValues (ts ++ us) = boundValues ts ++ boundValues us :=
  List.filterMap_append

/-- What stands behind other terms is numbered on from there. -/
theorem spell_append :
    spell behind (ts ++ us) = spell behind ts ++ spell (behind + (boundValues ts).length) us := by
  induction ts generalizing behind with
  | nil => simp [spell, boundValues]
  | cons t rest ih =>
    rw [List.cons_append, spell_cons, spell_cons, ih, String.append_assoc, Nat.add_assoc,
      ← List.length_append, ← boundValues_append, List.singleton_append]

/-- A statement with the text and the values of more terms. -/
def Compiled.extend (c : Compiled) (ts : List Term) : Compiled :=
  ⟨c.text ++ spell c.params.length ts, c.params ++ boundValues ts⟩

/-- Extending by two runs of terms is extending by the one and then by the other. -/
theorem extend_append (c : Compiled) : c.extend (ts ++ us) = (c.extend ts).extend us := by
  simp only [Compiled.extend, spell_append, boundValues_append, String.append_assoc,
    List.append_assoc, List.length_append]

/-- Extending by nothing changes nothing. -/
@[simp]
theorem extend_nil (c : Compiled) : c.extend [] = c := by
  simp [Compiled.extend, spell, boundValues]

/-- A term that binds nothing only adds its text. -/
theorem extend_text (c : Compiled) {text : String} (hbound : t.bound? = none)
    (htext : ∀ number, t.render number = text) : c.extend [t] = ⟨c.text ++ text, c.params⟩ := by
  simp [Compiled.extend, spell, boundValues, hbound, htext]

/-- A bound value adds a placeholder with the number the value gets in the list. -/
theorem extend_value (c : Compiled) {v : Param} (hv : v.literal? = none) :
    c.extend [.value v] =
      ⟨c.text ++ placeholder (c.params ++ [v]).length v, c.params ++ [v]⟩ := by
  simp [Compiled.extend, spell, boundValues, Term.bound?, Term.render, placeholder, hv]

/-- More text, and no more parameters. -/
def Compiled.add (c : Compiled) (text : String) : Compiled := ⟨c.text ++ text, c.params⟩

mutual

/-- Writes a fragment behind a statement; a bound value has the number of parameters it comes to. -/
def write : Sql → Compiled → Compiled
  | raw text, c => c.add text
  | ident name, c => c.add (Quoted.ident name)
  | str text, c => c.add (Quoted.string text)
  | param value, c =>
    match value.literal? with
    | some word => c.add word
    | none =>
      let params := c.params ++ [value]
      ⟨c.text ++ placeholder params.length value, params⟩
  | seq parts, c => writeAll parts c
  | join items separator, c => writeJoined separator items c
  | column label name, c => ((c.add (Quoted.ident label)).add ".").add (Quoted.ident name)
  | star label, c => (c.add (Quoted.ident label)).add ".*"
  | root className, c => c.add (Quoted.ident className)
  | table className label, c =>
    ((c.add (Quoted.ident className)).add " AS ").add (Quoted.ident label)
  | source name label, c => ((c.add (Quoted.ident name)).add " AS ").add (Quoted.ident label)
  | binder label, c => c.add (Quoted.ident label)
  | block body, c => write body c

def writeAll : List Sql → Compiled → Compiled
  | [], c => c
  | x :: xs, c => writeAll xs (write x c)

def writeJoined (separator : String) : List Sql → Compiled → Compiled
  | [], c => c
  | x :: xs, c => writeFollowing separator xs (write x c)

/-- Writes items with the separator before each. -/
def writeFollowing (separator : String) : List Sql → Compiled → Compiled
  | [], c => c
  | x :: xs, c => writeFollowing separator xs (write x (c.add separator))

end

/-- Raw text is a term of its own. -/
theorem add_raw (c : Compiled) (text : String) : c.add text = c.extend [.raw text] :=
  (extend_text c rfl fun _ => rfl).symm

/-- A quoted name is a term of its own. -/
theorem add_name (c : Compiled) (text : String) : c.add (Quoted.ident text) = c.extend [.name text] :=
  (extend_text c rfl fun _ => rfl).symm

/-- A quoted constant is a term of its own. -/
theorem add_constant (c : Compiled) (text : String) :
    c.add (Quoted.string text) = c.extend [.constant text] :=
  (extend_text c rfl fun _ => rfl).symm

/-- A parameter is written as the value it carries. -/
theorem write_param (v : Param) (c : Compiled) : (param v).write c = c.extend [.value v] := by
  rw [write]
  split
  · next word hword =>
    have htext : ∀ number, (Term.value v).render number = word := fun number => by
      rw [Term.render, hword, Option.getD_some]
    exact (extend_text c (by rw [Term.bound?, hword]; rfl) htext).symm
  · next hword => exact (extend_value c hword).symm

mutual

/-- Along the tree: to write a fragment is to go on with its terms. -/
theorem write_eq : ∀ (s : Sql) (c : Compiled), s.write c = c.extend s.terms
  | raw text, c => add_raw c text
  | ident name, c => add_name c name
  | str text, c => add_constant c text
  | param v, c => write_param v c
  | seq parts, c => writeAll_eq parts c
  | join items separator, c => writeJoined_eq separator items c
  | column label name, c => by
    rw [write, add_name, add_raw, add_name, ← extend_append, ← extend_append]
    rfl
  | star label, c => by
    rw [write, add_name, add_raw, ← extend_append]
    rfl
  | root className, c => add_name c className
  | table className label, c => by
    rw [write, add_name, add_raw, add_name, ← extend_append, ← extend_append]
    rfl
  | source name label, c => by
    rw [write, add_name, add_raw, add_name, ← extend_append, ← extend_append]
    rfl
  | binder label, c => add_name c label
  | block body, c => write_eq body c

/-- Writing a sequence extends by the terms of its parts. -/
theorem writeAll_eq : ∀ (parts : List Sql) (c : Compiled), writeAll parts c = c.extend (seqTerms parts)
  | [], c => (extend_nil c).symm
  | x :: xs, c => by rw [writeAll, seqTerms, extend_append, write_eq x, writeAll_eq xs]

/-- Writing a separated list extends by its terms. -/
theorem writeJoined_eq (separator : String) : ∀ (items : List Sql) (c : Compiled),
    writeJoined separator items c = c.extend (joinTerms separator items)
  | [], c => (extend_nil c).symm
  | x :: xs, c => by
    rw [writeJoined, joinTerms, extend_append, write_eq x, writeFollowing_eq separator xs]

/-- Writing what follows the first item extends by its terms. -/
theorem writeFollowing_eq (separator : String) : ∀ (items : List Sql) (c : Compiled),
    writeFollowing separator items c = c.extend (followingTerms separator items)
  | [], c => (extend_nil c).symm
  | x :: xs, c => by
    rw [writeFollowing, followingTerms, ← List.singleton_append, extend_append, extend_append,
      add_raw, write_eq x, writeFollowing_eq separator xs]

end

/-- The terms of two trees pushed together are those of the one and then those of the other. -/
theorem terms_push (a b : Sql) : (a.push b).terms = a.terms ++ b.terms := by
  rw [push, terms, seqTerms, seqTerms, seqTerms, List.append_nil]

/--
A fragment binds the values among its terms that are no literals, in their order. Its text is that of
its terms in order, where the placeholder of a bound value has its number among them and its own cast,
so that the number leads to the value. To write it is to descend through the tree with the parameters
found so far; and behind another fragment its values follow that one's, and its placeholders are raised
by as many.
-/
theorem compile_numbered (s : Sql) :
    s.compile.params = s.terms.filterMap Term.bound? ∧
      s.compile.text = String.join (s.terms.mapIdx fun i t =>
        t.render (((s.terms.take i).filterMap Term.bound?).length + 1)) ∧
      (∀ before v after, s.terms = before ++ .value v :: after → v.literal? = none →
        s.compile.params[(before.filterMap Term.bound?).length]? = some v) ∧
      s.compile = s.write ⟨"", []⟩ ∧
      ∀ b : Sql, (s.push b).compile.params = s.compile.params ++ b.compile.params ∧
        (s.push b).compile.text = s.compile.text ++ String.join (b.terms.mapIdx fun i t =>
          t.render (s.compile.params.length + ((b.terms.take i).filterMap Term.bound?).length + 1)) := by
  have hparams : ∀ a : Sql, a.compile.params = boundValues a.terms := fun a => by rw [compile_eq]
  have htext : ∀ a : Sql, a.compile.text = spell 0 a.terms := fun a => by rw [compile_eq]
  refine ⟨hparams s, ?_, ?_, ?_, fun b => ⟨?_, ?_⟩⟩
  · rw [htext, spell]
    simp only [Nat.zero_add]
    rfl
  · intro before v after hterms hv
    rw [hparams, hterms, boundValues_append]
    simp [boundValues, Term.bound?, hv]
  · rw [write_eq, compile_eq]
    simp [Compiled.extend]
  · rw [hparams, hparams, hparams, terms_push, boundValues_append]
  · rw [htext, htext, hparams, terms_push, spell_append, Nat.zero_add]
    rfl

/-- One test that stands twice in a disjunction, behind a test with a value of its own. -/
def repeatedTest : Sql :=
  let test : Sql := seq [ident "b", " = ", param (.text "x")]
  push (seq [ident "a", " = ", param (.float 1.0), " AND "]) (join [test, test] " OR ")

theorem compile_numbered_of_repeatedTest :
    (Param.text "x").literal? = none ∧ repeatedTest.compile.params[2]? = some (.text "x") ∧
      repeatedTest.compile.text =
        "\"a\" = $1::double precision AND \"b\" = $2::text OR \"b\" = $3::text" := by
  obtain ⟨-, htext, hvalue, -⟩ := compile_numbered repeatedTest
  refine ⟨rfl, hvalue (repeatedTest.terms.take 10) (.text "x") [] rfl rfl, ?_⟩
  rw [htext]
  decide +kernel

end Sql

end ObjectQuery
