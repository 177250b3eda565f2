import ObjectQuery.Document

/-!
# Find options

What a client asks for before any of it is checked: a filter, an order, the paths to return, options
for populated relations, groups to compute over them, and bounds. Every part may be missing.
-/

namespace ObjectQuery

/-- Restricts a query to the members of one object's relation. -/
structure RelatedBy where
  className : String
  objectId : String
  key : String
deriving DecidableEq, Inhabited

/-- A find request as it is sent. -/
structure FindOptions where
  filter : Option Json := none
  sort : Option Json := none
  includes : List String := []
  /-- Options for relations, by their paths. -/
  nested : List (String × FindOptions) := []
  /-- Accumulators by the path of a relation and a name. -/
  groups : Table (Table Json) := []
  limit : Option Nat := none
  skip : Option Nat := none
  relatedBy : Option RelatedBy := none
deriving Inhabited

namespace RelatedBy

/-- The members of the record, those already read. -/
structure Draft where
  className : Option String := none
  objectId : Option String := none
  key : Option String := none

/-- Reads the record; all its members have to be there. -/
def decode (v : Json) : Document RelatedBy := do
  let draft ← Document.record ["className", "objectId", "key"] ({} : Draft)
    (fun d name v =>
      match name with
      | "className" => (Document.text v).map fun text => { d with className := some text }
      | "objectId" => (Document.text v).map fun text => { d with objectId := some text }
      | "key" => (Document.text v).map fun text => { d with key := some text }
      | _ => .ok d) v
  return ⟨← Document.required draft.className, ← Document.required draft.objectId,
    ← Document.required draft.key⟩

end RelatedBy

namespace FindOptions

/-- The members in their declared order. -/
def names : List String :=
  ["filter", "sort", "includes", "matches", "groupMatches", "limit", "skip", "relatedBy"]

/-- Stores a member other than the nested options. -/
def set (o : FindOptions) (name : String) (v : Json) : Document FindOptions :=
  match name with
  | "filter" => (Document.optional .ok v).map fun filter => { o with filter }
  | "sort" => (Document.optional .ok v).map fun sort => { o with sort }
  | "includes" => (Document.list Document.text v).map fun includes => { o with includes }
  | "matches" => .error .shape
  | "groupMatches" =>
    (Document.table (Document.table .ok) v).map fun groups => { o with groups }
  | "limit" => (Document.optional Document.natural v).map fun limit => { o with limit }
  | "skip" => (Document.optional Document.natural v).map fun skip => { o with skip }
  | "relatedBy" => (Document.optional RelatedBy.decode v).map fun relatedBy => { o with relatedBy }
  | _ => .ok o

mutual

/-- Reads options. -/
def decode : Json → Document FindOptions
  | .obj members => decodeMembers {} members
  | .arr items => decodeItems {} names items
  | _ => .error .shape

/-- Stores one member. -/
def decodeMember (o : FindOptions) (name : String) : Json → Document FindOptions
  | .obj entries =>
    if name = "matches" then (decodeNested [] entries).map fun nested => { o with nested }
    else o.set name (.obj entries)
  | v => o.set name v

def decodeMembers (o : FindOptions) : List (String × Json) → Document FindOptions
  | [] => .ok o
  | (name, v) :: rest =>
    match decodeMember o name v with
    | .ok o => decodeMembers o rest
    | .error fault => .error fault

/-- Stores members by their place; there may be fewer than declared, but not more. -/
def decodeItems (o : FindOptions) : List String → List Json → Document FindOptions
  | _, [] => .ok o
  | [], _ :: _ => .error .shape
  | name :: names, v :: rest =>
    match decodeMember o name v with
    | .ok o => decodeItems o names rest
    | .error fault => .error fault

/-- Reads options by the paths of relations. -/
def decodeNested (table : Table FindOptions) : List (String × Json) → Document (Table FindOptions)
  | [] => .ok table
  | (path, v) :: rest =>
    match decode v with
    | .ok o => decodeNested (table.insert path o) rest
    | .error fault => .error fault

end

/-- Reads a document of options. -/
def ofJson (v : Json) : Result FindOptions := (decode v).run

end FindOptions

end ObjectQuery
