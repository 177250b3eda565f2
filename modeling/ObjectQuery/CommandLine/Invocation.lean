import ObjectQuery.Access.Auth
import ObjectQuery.CommandLine.Options

/-!
# Invocations

What one run of the program is asked to do: a schema file, a caller, and a task. Tasks that only
compile need no store.
-/

namespace ObjectQuery.CommandLine

/-- The statement a request is compiled to. -/
inductive StatementKind where
  | find
  | count
  | update
  | delete
  | explain
deriving DecidableEq, Inhabited

namespace StatementKind

def tag : StatementKind → String
  | find => "find"
  | count => "count"
  | update => "update"
  | delete => "delete"
  | explain => "explain"

/-- Every kind. -/
def all : List StatementKind := [find, count, update, delete, explain]

/-- The kind a word stands for. -/
def ofTag? (word : String) : Option StatementKind := all.find? fun k => k.tag = word

end StatementKind

/-- How to reach a store. -/
structure Connection where
  databaseUrl : String
  maxConnections : Nat
deriving DecidableEq, Inhabited

/-- What is to be done; requests and objects are still texts. -/
inductive Task where
  /-- Print a statement and its parameters. -/
  | compile (className request : String) (kind : StatementKind) (update : Option String)
  /-- Print the statements that set up the tables. -/
  | printTables
  /-- Set up the tables. -/
  | prepare (databaseUrl : Option String) (maxConnections : Nat)
  | find (className request : String) (connection : Connection)
  | count (className request : String) (connection : Connection)
  | insert (className object : String) (connection : Connection)

/-- One run of the program. -/
structure Invocation where
  schemaPath : String
  auth : Auth
  task : Task

/-! ## Options -/

/-- A count of thirty-two bits; a zero may have a minus sign. -/
def readCount? (text : String) : Option Nat :=
  match text.toList with
  | '-' :: digits => if !digits.isEmpty && digits.all (· == '0') then some 0 else none
  | _ => Numeral.readUnsigned? text Numeral.bound32

def helpNotice : Notice := ⟨"help", 'h', .help⟩

def versionNotice : Notice := ⟨"version", 'V', .version⟩

/-- The options before the command. -/
def callerOptions : List OptionSpec :=
  [{ name := "schema", letter := some 's', fallback := some "TESSERA_SCHEMA",
     accepts := fun path => !path.isEmpty },
    { name := "master", takesValue := false }, { name := "user" },
    { name := "role", repeats := true }]

def classOption : OptionSpec := { name := "class" }

def requestOption : OptionSpec := { name := "request" }

def connectionOptions : List OptionSpec :=
  [{ name := "database-url", fallback := some "TESSERA_DATABASE_URL" },
    { name := "max-connections", fallback := some "TESSERA_MAX_CONNECTIONS",
      accepts := fun text => (readCount? text).isSome }]

/-- Connections that are opened at most, unless another count is given. -/
def standardConnections : Nat := 4

def maxConnections (given : Given) : Nat :=
  ((given.lookup "max-connections").bind readCount?).getD standardConnections

/-- How to reach the store, for a task that needs one. -/
def connection (given : Given) : Except Halt Connection := do
  return ⟨← given.required "database-url", maxConnections given⟩

/-- The request as text; by default one that asks for nothing in particular. -/
def request (given : Given) : String := (given.lookup "request").getD "\x7b\x7d"

/-! ## Commands -/

/-- The commands. -/
inductive Command where
  | compile
  | prepare
  | find
  | count
  | insert
deriving DecidableEq, Inhabited

namespace Command

def tag : Command → String
  | compile => "compile"
  | prepare => "prepare"
  | find => "find"
  | count => "count"
  | insert => "insert"

/-- Every command. -/
def all : List Command := [compile, prepare, find, count, insert]

/-- The command a word stands for. -/
def ofTag? (word : String) : Option Command := all.find? fun c => c.tag = word

/-- The options of a command. -/
def options : Command → List OptionSpec
  | compile => [classOption, requestOption, { name := "update" },
      { name := "statement", accepts := fun word => (StatementKind.ofTag? word).isSome }]
  | prepare => { name := "dry-run", takesValue := false } :: connectionOptions
  | find | count => classOption :: requestOption :: connectionOptions
  | insert => classOption :: { name := "json" } :: connectionOptions

/-- The task that options ask for. -/
def task (c : Command) (given : Given) : Except Halt Task :=
  match c with
  | compile => do
    let kind := ((given.lookup "statement").bind StatementKind.ofTag?).getD .find
    return .compile (← given.required "class") (request given) kind (given.lookup "update")
  | prepare =>
    if given.has "dry-run" then .ok .printTables
    else .ok (.prepare (given.lookup "database-url") (maxConnections given))
  | find => do return .find (← given.required "class") (request given) (← connection given)
  | count => do return .count (← given.required "class") (request given) (← connection given)
  | insert => do
    return .insert (← given.required "class") (← given.required "json") (← connection given)

end Command

/-- The command that asks for help on the others. -/
def helpCommand : String := "help"

/-- The grammar before the command. -/
def rootGrammar : Grammar :=
  ⟨callerOptions, [helpNotice, versionNotice], helpCommand :: Command.all.map Command.tag⟩

/-- The caller that options describe. -/
def caller (given : Given) : Auth :=
  if given.has "master" then { Auth.anonymous with master := true }
  else { master := false, user := given.lookup "user", roles := given.values "role" }

/-- What help is asked for: the commands that are named have to exist. -/
def helpOn (names : List String) : Halt :=
  match names with
  | [] => .help
  | [name] => if rootGrammar.commands.contains name then .help else .misuse
  | _ => .misuse

/-- Reads the arguments of a run. -/
def Invocation.ofArguments (env : Environment) (args : List String) : Except Halt Invocation := do
  let (given, rest) ← rootGrammar.scan [] args
  match rest with
  | [] => throw .misuse
  | word :: args =>
    if word = helpCommand then throw (helpOn args)
    match Command.ofTag? word with
    | none => throw .misuse
    | some command =>
      let (own, _) ← Grammar.scan ⟨command.options, [helpNotice], []⟩ [] args
      let task ← command.task (← own.addFallbacks env command.options)
      let given ← given.addFallbacks env callerOptions
      return ⟨← given.required "schema", caller given, task⟩

end ObjectQuery.CommandLine
