/-!
# Tables

A table binds names to values, each name once, in the order of the names' code points.
-/

namespace ObjectQuery

/-- Entries in the order of their names. -/
abbrev Table (α : Type) := List (String × α)

namespace Table

/-- Binds a name, in place of what it was bound to. -/
def insert (name : String) (value : α) : Table α → Table α
  | [] => [(name, value)]
  | (n, v) :: rest =>
    if name = n then (name, value) :: rest
    else if name < n then (name, value) :: (n, v) :: rest
    else (n, v) :: insert name value rest

/-- What a name is bound to. -/
def find? (table : Table α) (name : String) : Option α := table.lookup name

/-- Whether a name is bound. -/
def binds (table : Table α) (name : String) : Bool := (table.find? name).isSome

/-- The table with some entries, a later one in place of an earlier one. -/
def ofEntries (entries : List (String × α)) : Table α :=
  entries.foldl (fun t e => insert e.1 e.2 t) []

end Table

end ObjectQuery
