import ObjectQuery.Access.FindOptions
import ObjectQuery.Accumulator
import ObjectQuery.Filter
import ObjectQuery.Schema.Basic
import ObjectQuery.SortSpec

/-!
# Queries

A query is a request whose parts have been read and checked. Beside its own conditions it carries
the conditions on every class that its paths reach, for the compiler to apply at each join.
-/

namespace ObjectQuery

/-- What a query is for. -/
inductive QueryAction where
  | find
  | count
  | create
  | update
  | delete
deriving DecidableEq, Inhabited

/-- The part of a query that also holds for the members of a relation. -/
structure BaseQuery where
  filter : Filter := .truth
  sort : Option SortSpec := none
  skip : Option Nat := none
  limit : Option Nat := none
  /-- Queries for relations, by their paths. -/
  nested : List (String × BaseQuery) := []
  /-- Accumulators by the path of a relation and a name. -/
  groups : Table (Table Accumulator) := []
deriving Inhabited

/-- The conditions on the objects of each class. -/
abbrev ClassFilter := String → Filter

/-- A query on a class. -/
structure Query where
  className : String
  base : BaseQuery
  /-- The paths to return. -/
  includes : List String
  /-- The conditions on every class that is joined. -/
  extraFilter : Option ClassFilter
  relatedBy : Option RelatedBy
deriving Inhabited

/-- The query for all objects of a class, without conditions. -/
def Query.all (className : String) : Query :=
  { className, base := {}, includes := Field.defaultNames, extraFilter := none, relatedBy := none }

end ObjectQuery
