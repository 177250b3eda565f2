import ObjectQuery.Schema.Basic
import ObjectQuery.Sql.Operand

/-!
# Scopes

A statement reads tables through aliases. The root table goes by the name of its class; every other
reference gets a fresh alias from a counter that a failed compilation does not turn back, so no
label is given out twice. A scope is the FROM clause of one query: the pointers that have been
joined to it, each once, in the order in which they were asked for.
-/

namespace ObjectQuery

/-- A reference to the objects of a class inside a statement. -/
structure Target where
  className : String
  label : String
deriving DecidableEq, Inhabited

namespace Target

/-- The target that goes by the name of its class. -/
def root (className : String) : Target := ⟨className, className⟩

/-- A column of the target. -/
def column (t : Target) (name : String) : Sql := .column t.label name

/-- The token that other objects store to refer to one of the target. -/
def token (t : Target) : Sql :=
  .seq ["(", .str (objectToken t.className ""), " || ", t.column Field.id, ")"]

/-- The table of the target in a FROM clause. -/
def table (t : Target) : Sql :=
  if t.label = t.className then .root t.className else .table t.className t.label

end Target

/-- A pointer column of `owner` that has been joined under an alias. -/
structure Join where
  owner : String
  column : String
  label : String
  sql : Sql
deriving Inhabited

/-- The joins of one query, in the order in which they were asked for. -/
abbrev Scope := List Join

namespace Scope

/-- The alias under which a pointer column has been joined. -/
def label? (scope : Scope) (owner column : String) : Option String :=
  (scope.find? fun j => j.owner == owner && j.column == column).map (·.label)

/-- The joins after the table they are joined to. -/
def joined (scope : Scope) (table : Sql) : Sql :=
  .seq (table :: scope.flatMap fun j => [" ", j.sql])

/-- The FROM clause of a target. -/
def clause (scope : Scope) (t : Target) : Sql := scope.joined t.table

/-- The FROM clause of a named subquery that stands in for the target's table. -/
def sourceClause (scope : Scope) (name : String) (t : Target) : Sql :=
  scope.joined (.source name t.label)

end Scope

/-- A compilation: it may fail, and it draws aliases from a counter. -/
abbrev Compile := ExceptT Error (StateM Nat)

/-- An alias that has not been given out before. -/
def freshAlias : Compile String := do
  let n ← get
  set (n + 1)
  return "_p" ++ toString (n + 1)

/-- A reference to a class under a fresh alias. -/
def freshTarget (className : String) : Compile Target := return ⟨className, ← freshAlias⟩

/-- A compilation that joins pointers to a query. -/
abbrev InScope := StateT Scope Compile

/-- Compiles in a query of its own, and returns its joins too. -/
def inNewScope (x : InScope α) : Compile (α × Scope) := x.run []

end ObjectQuery
