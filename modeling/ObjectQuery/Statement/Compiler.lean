import ObjectQuery.Statement.Tables

/-!
# The compiler

A compiler serves one statement after another. What it keeps between them is how many aliases it has
drawn and the conditions on joined classes that it compiled under last. A statement for the objects
of a query first puts that query's conditions in force; the others look at none. A statement that is
refused leaves behind what it has drawn so far and what it has put in force.
-/

namespace ObjectQuery

/-- What is done with the objects of a query. -/
inductive Operation where
  | find (lock : Option RowLock)
  | count
  | random (weight : Option String)
  | explain
  | insert (objects : List (List (String × Json)))
  | update (document : List (String × Json))
  | upsert (document object : List (String × Json))
  | delete

/-- The statement of an operation. -/
def Operation.compile (s : Schema) (q : Query) : Operation → Compile Sql
  | find lock => Read.find s q lock
  | count => Read.count s q
  | random weight => Read.random s q weight
  | explain => Read.explain s q
  | insert objects => Write.insert s q objects
  | update document => Write.update s q document
  | upsert document object => Write.upsert s q document object
  | delete => Write.delete s q

/-- What a compiler is asked for. -/
inductive Statement where
  /-- To do something with the objects of a query. -/
  | operation (q : Query) (op : Operation)
  /-- The objects of a query to which nothing refers. -/
  | nonrefs (q : Query)
  /-- What refers to one of some objects of a class. -/
  | refs (className : String) (ids : List String)
  /-- The tables of the schema. -/
  | tables

/-- A compiler between two statements. -/
structure Compiler where
  schema : Schema
  /-- How many aliases have been drawn. -/
  drawn : Nat
  /-- The conditions on joined classes that are in force. -/
  guards : Option ClassFilter

namespace Compiler

/-- A compiler that has compiled nothing. -/
def new (s : Schema) : Compiler := ⟨s, 0, none⟩

/-- Compiles, with the next aliases. -/
def run (c : Compiler) (x : Compile α) : Result α × Compiler :=
  let (result, drawn) := x.run.run c.drawn
  (result, { c with drawn })

/-- Puts the conditions of a query in force. -/
def start (c : Compiler) (q : Query) : Compiler := { c with guards := q.extraFilter }

/-- Compiles a query under the conditions in force. -/
def runQuery (c : Compiler) (q : Query) (compile : Schema → Query → Compile Sql) :
    Result (List Sql) × Compiler :=
  c.run do return [← compile c.schema { q with extraFilter := c.guards }]

/-- What a compiler answers: the statements that were asked for, mostly one. -/
def perform (c : Compiler) : Statement → Result (List Sql) × Compiler
  | .operation q op => (c.start q).runQuery q fun s q => op.compile s q
  | .nonrefs q => (c.start q).runQuery q Read.nonrefs
  | .refs className ids => c.run do return [← Read.refs c.schema className ids]
  | .tables => c.run (Tables.prepare c.schema)

/-- The compiler after some statements. -/
def after (c : Compiler) (statements : List Statement) : Compiler :=
  statements.foldl (fun c st => (c.perform st).2) c

end Compiler

end ObjectQuery
