import ObjectQuery.Instant
import ObjectQuery.Json.Basic
import ObjectQuery.Sql.Quoted

/-!
# SQL fragments

A statement is built as a tree. Its leaves are text the compiler controls, names and constants that
are quoted when the tree is written out, and values that become numbered parameters. A name a client
chose never stands in a raw leaf.

Some nodes say more than their text: a `column` and a `star` read through an alias, a `root`, a
`table`, a `source` and a `binder` introduce one, and a `block` bounds the part of the statement in
which the aliases introduced inside are visible. So which alias a reference may use can be read off
the tree.

`Sql.compile` numbers the parameters from left to right. Null and the two truth values are written
into the text and take no number.
-/

namespace ObjectQuery

/-- A value bound to a statement. -/
inductive Param where
  | null
  | bool (b : Bool)
  | int (n : Int)
  | float (x : Float)
  | text (s : String)
  | json (v : Json)
  | textArray (items : List String)
  | floatArray (items : List Float)
  /-- An exact decimal carried as text. -/
  | decimal (digits : String)
  | timestamp (t : Instant)
deriving Inhabited

/-- The type a placeholder is cast to. -/
def Param.cast : Param → String
  | null | bool _ => ""
  | int _ => "::bigint"
  | float _ => "::double precision"
  | text _ => "::text"
  | json _ => "::jsonb"
  | textArray _ => "::text[]"
  | floatArray _ => "::double precision[]"
  | decimal _ => "::numeric"
  | timestamp _ => "::timestamptz"

/-- A part of a statement. -/
inductive Sql where
  /-- Text of the compiler's own. -/
  | raw (text : String)
  /-- A quoted identifier. -/
  | ident (name : String)
  /-- A quoted string constant. -/
  | str (text : String)
  | param (value : Param)
  | seq (parts : List Sql)
  | join (items : List Sql) (separator : String)
  /-- A column read through an alias. -/
  | column (label name : String)
  /-- All columns read through an alias. -/
  | star (label : String)
  /-- The table of a class, introduced under its own name. -/
  | root (className : String)
  /-- The table of a class, introduced under an alias. -/
  | table (className label : String)
  /-- A named subquery, introduced under an alias. -/
  | source (name label : String)
  /-- An alias introduced for something that is no class's table. -/
  | binder (label : String)
  /-- A subquery: aliases introduced inside are not visible outside. -/
  | block (body : Sql)
deriving Inhabited

namespace Sql

instance : Coe String Sql := ⟨raw⟩

/-- The empty fragment. -/
def empty : Sql := seq []

/-- One fragment after the other. -/
def push (a b : Sql) : Sql := seq [a, b]

instance : Append Sql := ⟨push⟩

/-- An integer of the compiler's own, written into the text. -/
def int (n : Int) : Sql := raw (toString n)

/-- String constants as an array. -/
def textArray (texts : List String) : Sql := seq ["ARRAY[", join (texts.map str) ", ", "]::text[]"]

mutual

/-- Whether a fragment writes nothing. -/
def isEmpty : Sql → Bool
  | raw text => text.isEmpty
  | seq parts => allEmpty parts
  | join items _ => allEmpty items
  | block body => isEmpty body
  | _ => false

def allEmpty : List Sql → Bool
  | [] => true
  | x :: xs => isEmpty x && allEmpty xs

end

def parens (a : Sql) : Sql := seq [raw "(", a, raw ")"]

def not (a : Sql) : Sql := seq [raw "NOT (", a, raw ")"]

/-- Joins the items that write something, each in parentheses unless it is alone. -/
def connect (items : List Sql) (separator : String) (whenEmpty : String) : Sql :=
  match items.filter (fun i => !isEmpty i) with
  | [] => raw whenEmpty
  | [item] => item
  | items => seq [raw "(", join (items.map parens) separator, raw ")"]

/-- A conjunction; of nothing it is true. -/
def and (items : List Sql) : Sql := connect items " AND " "true"

/-- A disjunction; of nothing it is false. -/
def or (items : List Sql) : Sql := connect items " OR " "false"

/-! ## Queries -/

/-- A query for rows that satisfy a condition; `tail` orders and bounds them. -/
def select (list source condition tail : Sql) : Sql :=
  seq ["SELECT ", list, " FROM ", source, " WHERE ", condition, tail]

/-- Whether some row of a source satisfies all conditions. -/
def existsIn (source : Sql) (conditions : List Sql) : Sql :=
  seq ["EXISTS (", block (select "1" source (and conditions) empty), ")"]

/-! ## Writing a fragment out -/

/-- What a fragment consists of once it is flat: text, and the parameters that get a number. -/
inductive Leaf where
  | text (text : String)
  | slot (value : Param)

/-- A parameter's leaf; null and truth values are text. -/
def Leaf.ofParam : Param → Leaf
  | .null => .text "NULL"
  | .bool true => .text "true"
  | .bool false => .text "false"
  | value => .slot value

mutual

/-- The leaves of a fragment from left to right. -/
def leaves : Sql → List Leaf
  | raw text => [.text text]
  | ident name => [.text (Quoted.ident name)]
  | str text => [.text (Quoted.string text)]
  | param value => [Leaf.ofParam value]
  | seq parts => seqLeaves parts
  | join items separator => joinLeaves separator items
  | column label name => [.text (Quoted.ident label), .text ".", .text (Quoted.ident name)]
  | star label => [.text (Quoted.ident label), .text ".*"]
  | root className => [.text (Quoted.ident className)]
  | table className label =>
    [.text (Quoted.ident className), .text " AS ", .text (Quoted.ident label)]
  | source name label => [.text (Quoted.ident name), .text " AS ", .text (Quoted.ident label)]
  | binder label => [.text (Quoted.ident label)]
  | block body => leaves body

def seqLeaves : List Sql → List Leaf
  | [] => []
  | x :: xs => leaves x ++ seqLeaves xs

def joinLeaves (separator : String) : List Sql → List Leaf
  | [] => []
  | x :: xs => leaves x ++ joinRest separator xs

def joinRest (separator : String) : List Sql → List Leaf
  | [] => []
  | x :: xs => .text separator :: (leaves x ++ joinRest separator xs)

end

/-- The placeholder of the parameter with a number. -/
def placeholder (number : Nat) (value : Param) : String :=
  "$" ++ toString number ++ value.cast

/-- A finished statement. -/
structure Compiled where
  text : String
  params : List Param
deriving Inhabited

/-- The texts of the leaves, the next parameter having a given number. -/
def writeLeaves : Nat → List Leaf → List String
  | _, [] => []
  | n, .text t :: rest => t :: writeLeaves n rest
  | n, .slot v :: rest => placeholder n v :: writeLeaves (n + 1) rest

/-- The parameters among the leaves. -/
def slots : List Leaf → List Param
  | [] => []
  | .text _ :: rest => slots rest
  | .slot v :: rest => v :: slots rest

/-- Writes a fragment out, its parameters numbered from one. -/
def compile (s : Sql) : Compiled :=
  let ls := leaves s
  ⟨String.join (writeLeaves 1 ls), slots ls⟩

end Sql

end ObjectQuery
