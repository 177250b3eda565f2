import ObjectQuery.Error
import ObjectQuery.Table

/-!
# Reading documents into records

A record is written as an object, whose unknown members are ignored, or as an array of its members
in their declared order, whose tail may be missing. Members are read in the order they are written,
so the first fault of the document is the one reported.
-/

namespace ObjectQuery

/-- A reader of documents. -/
abbrev Document := Except DocumentFault

namespace Document

/-- Reads a record member by member: `set` stores one, or ignores a name it does not know. -/
def record (names : List String) (start : α) (set : α → String → Json → Document α) :
    Json → Document α
  | .obj members => members.foldlM (fun a m => set a m.1 m.2) start
  | .arr items => do
    let a ← (names.zip items).foldlM (fun a m => set a m.1 m.2) start
    if names.length < items.length then .error .shape else .ok a
  | _ => .error .shape

/-- A value that may be null. -/
def optional (read : Json → Document α) : Json → Document (Option α)
  | .null => .ok none
  | v => (read v).map some

def text : Json → Document String
  | .str s => .ok s
  | _ => .error .shape

def flag : Json → Document Bool
  | .bool b => .ok b
  | _ => .error .shape

/-- An unsigned integer of sixty-four bits. -/
def natural (v : Json) : Document Nat :=
  match v.asNat64? with
  | some n => .ok n
  | none => .error .shape

/-- A number of either kind. -/
def double (v : Json) : Document Float :=
  match v.asFloat? with
  | some x => .ok x
  | none => .error .shape

/-- An array, read item by item. -/
def list (read : Json → Document α) : Json → Document (List α)
  | .arr items => items.mapM read
  | _ => .error .shape

/-- An object, read member by member into a table. -/
def table (read : Json → Document α) : Json → Document (Table α)
  | .obj members => members.foldlM (fun t m => (read m.2).map (fun a => t.insert m.1 a)) []
  | _ => .error .shape

/-- An object as it is. -/
def object : Json → Document (List (String × Json))
  | .obj members => .ok members
  | _ => .error .shape

/-- A member that has to be there. -/
def required : Option α → Document α
  | some a => .ok a
  | none => .error .shape

/-- A fault of a document as an error. -/
def run (d : Document α) : Result α :=
  match d with
  | .ok a => .ok a
  | .error fault => .error (.document fault)

end Document

end ObjectQuery
