import ObjectQuery.Sql.Basic
import ObjectQuery.Value.Basic

/-!
# Fragments that read JSON

Untyped columns hold JSON documents. These fragments ask a document for its kind and take a scalar
or an array out of it; what is of another kind yields null or an empty array.
-/

namespace ObjectQuery.Sql

/-- Whether a document is of a kind. -/
def jsonIs (sql : Sql) (kind : String) : Sql :=
  seq ["jsonb_typeof(", sql, ") = ", str kind]

/-- A place inside a document. -/
def jsonAt (sql : Sql) (keys : List String) : Sql := seq ["(", sql, " #> ", textArray keys, ")"]

/-- The text of a scalar document. -/
def jsonText (sql : Sql) : Sql := seq ["(", sql, " #>> '\x7b\x7d')"]

/-- A fragment where the document is of a kind, else null. -/
def jsonWhen (sql : Sql) (kind : String) (value : Sql) : Sql :=
  seq ["CASE WHEN ", jsonIs sql kind, " THEN ", value, " END"]

/-- The number a document holds, bare or as a decimal in its envelope. -/
def jsonNumeric (sql : Sql) : Sql :=
  seq ["CASE jsonb_typeof(", sql, ") WHEN 'number' THEN (", sql,
    ")::numeric WHEN 'object' THEN ((", sql, ") ->> ", str Value.decimalTag, ")::numeric END"]

/-- A document that is an array, else the empty array. -/
def jsonArray (sql : Sql) : Sql :=
  seq ["COALESCE(", jsonWhen sql "array" sql, ", '[]'::jsonb)"]

end ObjectQuery.Sql
