import ObjectQuery.Error
import ObjectQuery.Numeral.Unsigned
import ObjectQuery.Text.Split

/-!
# Configuration

Settings come from environment variables. A variable that is unset or blank leaves the default; a
numeral may have blanks around it and must fit the setting's width.
-/

namespace ObjectQuery

/-- The variables that are set. -/
abbrev Environment := List (String × String)

namespace Config

/-- Connection settings of the store. -/
structure Storage where
  databaseUrl : String
  maxConnections : Nat
  /-- Capacity of the channel a streamed read forwards rows through. -/
  streamBuffer : Nat
  /-- Attempts for a transaction that fails to serialize. -/
  txRetries : Nat
deriving DecidableEq, Inhabited

/-- Limits on a request. -/
structure Limits where
  /-- Extra attempts after a generated id collides. -/
  insertRetries : Nat
  maxDepth : Nat
  /-- Length of generated object ids. -/
  idLength : Nat
deriving DecidableEq, Inhabited

/-- The deepest nesting of request data unless configured otherwise. -/
def defaultMaxDepth : Nat := 64

def Limits.standard : Limits := ⟨5, defaultMaxDepth, 10⟩

/-- Reads a numeral below `bound` from a variable. -/
def number (env : Environment) (name : String) (bound standard : Nat) : Result Nat :=
  match env.lookup name with
  | none => .ok standard
  | some raw =>
    let text := Text.trim raw
    if text.isEmpty then .ok standard
    else
      match Numeral.readUnsigned? text bound with
      | some n => .ok n
      | none => .error (.config (.badValue name raw))

/-- The connection settings; the database's address has no default. -/
def Storage.ofEnvironment (env : Environment) : Result Storage := do
  match env.lookup "TESSERA_DATABASE_URL" with
  | none => throw (.config (.notSet "TESSERA_DATABASE_URL"))
  | some databaseUrl =>
    let maxConnections ← number env "TESSERA_MAX_CONNECTIONS" Numeral.bound32 10
    let streamBuffer ← number env "TESSERA_STREAM_BUFFER" Numeral.bound64 64
    let txRetries ← number env "TESSERA_TX_RETRIES" Numeral.bound32 3
    return { databaseUrl, maxConnections, streamBuffer, txRetries }

/-- The limits on requests. -/
def Limits.ofEnvironment (env : Environment) : Result Limits := do
  let insertRetries ← number env "TESSERA_INSERT_RETRIES" Numeral.bound32 Limits.standard.insertRetries
  let maxDepth ← number env "TESSERA_MAX_DEPTH" Numeral.bound64 Limits.standard.maxDepth
  let idLength ← number env "TESSERA_ID_LENGTH" Numeral.bound64 Limits.standard.idLength
  return { insertRetries, maxDepth, idLength }

end Config

end ObjectQuery
