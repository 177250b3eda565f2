import ObjectQuery.Access.Admission
import ObjectQuery.Access.Attributes
import ObjectQuery.CommandLine.Invocation
import ObjectQuery.Json.Parser
import ObjectQuery.Statement.Compiler

/-!
# A run of the program

A run is a function of the environment, the arguments, the files it may read and the present. It
prints what a request compiles to, or the statements that set up the tables; a task that needs a
store ends where it would connect to one.
-/

namespace ObjectQuery

/-- The text of a parameter below its statement. -/
def Param.inspect : Param → String
  | null => "Null"
  | bool b => "Bool(" ++ toString b ++ ")"
  | int n => "Int(" ++ toString n ++ ")"
  | float x => "Float(" ++ Text.inspectFloat x ++ ")"
  | text s => "Text(" ++ Text.inspect s ++ ")"
  | json v => "Json(" ++ v.inspect ++ ")"
  | textArray items => "TextArray(" ++ Text.inspectList (items.map Text.inspect) ++ ")"
  | floatArray items => "FloatArray(" ++ Text.inspectList (items.map Text.inspectFloat) ++ ")"
  | decimal digits => "Decimal(" ++ Text.inspect digits ++ ")"
  | timestamp t => "Timestamp(" ++ t.inspect ++ ")"

namespace CommandLine

/-- Why a run that was understood fails. -/
inductive Failure where
  | unreadable (path : String)
  | schemaText
  | requestText
  | misread (fault : Json.Misread)
  | notObject
  | missingUpdate
  | missingDatabase
  | refused (e : Error)
  | noConnection (databaseUrl : String)

def Failure.message : Failure → String
  | unreadable path => "reading schema " ++ path
  | schemaText => "schema is not valid JSON"
  | requestText => "request is not a valid FindOptions document"
  | misread fault => fault.message
  | notObject => "expected a JSON object"
  | missingUpdate => "--update is required for update statements"
  | missingDatabase => "--database-url is required unless --dry-run is given"
  | refused e => e.message
  | noConnection databaseUrl => "cannot connect to " ++ databaseUrl

/-- The files of a run: the text at a path, if it can be read. -/
abbrev Files := String → Option String

/-! ## Reading -/

/-- What the library answers, as part of a run. -/
def answer (r : Result α) : Except Failure α := r.mapError .refused

/-- The schema in a file. -/
def loadSchema (files : Files) (path : String) : Except Failure Schema :=
  match files path with
  | none => .error (.unreadable path)
  | some text =>
    match Json.parse? text Json.nestingLimit with
    | none => .error .schemaText
    | some v => answer (Schema.ofJson v)

/-- A request. -/
def readRequest (text : String) : Except Failure FindOptions :=
  match (Json.parse? text Json.nestingLimit).map FindOptions.ofJson with
  | some (.ok options) => .ok options
  | _ => .error .requestText

/-- The members of an object. -/
def readObject (text : String) : Except Failure (List (String × Json)) :=
  match Json.parse text Json.nestingLimit with
  | .ok (.obj members) => .ok members
  | .ok _ => .error .notObject
  | .error fault => .error (.misread fault)

/-! ## Tasks -/

/-- What a statement needs leave for. -/
def StatementKind.action : StatementKind → QueryAction
  | find | explain => .find
  | count => .count
  | update => .update
  | delete => .delete

/-- What a compiler answers that has compiled nothing. -/
def compile (s : Schema) (st : Statement) : Except Failure (List Sql) :=
  answer ((Compiler.new s).perform st).1

/-- The statement of a request. -/
def statement (g : Gate) (className : String) (options : FindOptions) (kind : StatementKind)
    (update : Option String) : Except Failure (List Sql) := do
  let q ← answer (g.accept className options kind.action)
  match kind with
  | .find => compile g.schema (.operation q (.find none))
  | .count => compile g.schema (.operation q .count)
  | .explain => compile g.schema (.operation q .explain)
  | .delete => compile g.schema (.operation q .delete)
  | .update =>
    match update with
    | none => throw .missingUpdate
    | some text =>
      let document ← readObject text
      answer (g.checkAttributes className document .update)
      compile g.schema (.operation q (.update document))

/-- A statement, and below it each parameter under its number. -/
def describe (sql : Sql) : List String :=
  let compiled := sql.compile
  compiled.text :: compiled.params.mapIdx fun i p => "$" ++ toString (i + 1) ++ " = " ++ p.inspect

/-- What a task prints. -/
def perform (schema : Schema) (auth : Auth) (now : Instant) : Task → Except Failure (List String)
  | .compile className request kind update => do
    let options ← readRequest request
    let g : Gate :=
      { schema, auth, extraFilter := none, maxDepth := Config.defaultMaxDepth, now }
    return (← statement g className options kind update).flatMap describe
  | .printTables => do
    let statements ← compile schema .tables
    return statements.map fun s => s.compile.text ++ ";"
  | .prepare none _ => throw .missingDatabase
  | .prepare (some databaseUrl) _ => throw (.noConnection databaseUrl)
  | .find _ request connection | .count _ request connection => do
    let _ ← readRequest request
    throw (.noConnection connection.databaseUrl)
  | .insert _ object connection => do
    let _ ← readObject object
    throw (.noConnection connection.databaseUrl)

/-! ## Runs -/

/-- How a run ends: an exit code, the text it prints, and what it complains of. -/
structure Outcome where
  code : Nat
  output : String
  complaint : Option String
deriving Inhabited

/-- Some lines as text. -/
def printed (lines : List String) : String := String.join (lines.map (· ++ "\n"))

/-- How the program is called. -/
def usage : String :=
  "usage: tessera --schema FILE [--master] [--user ID] [--role NAME]... COMMAND [OPTION]..."

/-- How a run ends that does not lead to a command. -/
def Halt.outcome : Halt → Outcome
  | misuse => ⟨2, "", some usage⟩
  | help => ⟨0, printed [usage], none⟩
  | version => ⟨0, printed ["tessera 0.1.0"], none⟩

/-- Does what an invocation asks. -/
def Invocation.perform (files : Files) (now : Instant) (call : Invocation) :
    Except Failure (List String) := do
  CommandLine.perform (← loadSchema files call.schemaPath) call.auth now call.task

/-- Runs the program. -/
def run (env : Environment) (files : Files) (now : Instant) (args : List String) : Outcome :=
  match Invocation.ofArguments env args with
  | .error halt => halt.outcome
  | .ok call =>
    match call.perform files now with
    | .ok lines => ⟨0, printed lines, none⟩
    | .error failure => ⟨1, "", some ("Error: " ++ failure.message)⟩

end CommandLine

end ObjectQuery
