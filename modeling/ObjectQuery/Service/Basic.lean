import ObjectQuery.Access.Admission
import ObjectQuery.Access.Attributes
import ObjectQuery.Config
import ObjectQuery.Service.Store
import ObjectQuery.Sql.Update

/-!
# Requests

A service serves the requests of callers: it lets each through the gate, completes the objects to
insert with identifiers, asks the store, and tells the subscribers of what a mutation returned. A
refusal comes before any call of the store; an error of the store ends the request, except that an
identifier of the service's own making may be drawn again when it turns out to be taken. Such an
identifier is of letters and digits, spelled from a number that the host draws.
-/

namespace ObjectQuery

/-! ## Generated identifiers -/

namespace Identifier

/-- The sixty-two characters of an identifier. -/
def alphabet : List Char :=
  "ABCDEFGHIJKLMNOPQRSTUVWXYZabcdefghijklmnopqrstuvwxyz0123456789".toList

/-- The character for a digit to the base of the alphabet. -/
def letter (digit : Nat) : Char := alphabet.getD (digit % alphabet.length) 'A'

/-- The last digits of a number to the base of the alphabet, the lowest first. -/
def digits : (count : Nat) → (number : Nat) → List Char
  | 0, _ => []
  | count + 1, number => letter number :: digits count (number / alphabet.length)

/-- The identifier of a length that a number spells; it has at least one character. -/
def spell (length number : Nat) : String := String.ofList (digits (max length 1) number)

end Identifier

/-! ## Services -/

/-- Who asks, and when. -/
structure Caller where
  auth : Auth
  now : Instant

/-- What requests are served with. -/
structure Service where
  schema : Schema
  limits : Config.Limits
  /-- Conditions of the host on each class. -/
  extraFilter : Option ClassFilter
  store : Store
  /-- The numbers that identifiers are spelled from. -/
  entropy : Nat → Nat

namespace Service

/-- The gate a caller stands before. -/
def gate (sv : Service) (caller : Caller) : Gate :=
  { schema := sv.schema, auth := caller.auth, extraFilter := sv.extraFilter,
    maxDepth := sv.limits.maxDepth, now := caller.now }

/-! ## Reads -/

/-- The objects a query finds. -/
def find (sv : Service) (caller : Caller) (className : String) (options : FindOptions) :
    Serve (List Json) := do
  let q ← (sv.gate caller).accept className options .find
  Session.send sv.store.objects (.find q)

/-- The object with an id, if there is one. -/
def get (sv : Service) (caller : Caller) (className id : String) (includes : List String) :
    Serve (Option Json) := do
  let filter := some (Json.obj [(Field.id, .str id)])
  return (← sv.find caller className { filter, includes, limit := some 1 }).head?

/-- How many objects a query finds. -/
def count (sv : Service) (caller : Caller) (className : String) (options : FindOptions) :
    Serve Nat := do
  let q ← (sv.gate caller).accept className options .count
  Session.send sv.store.count (.count q)

/-- One object at random, which the value at a path may make more likely. -/
def random (sv : Service) (caller : Caller) (className : String) (options : FindOptions)
    (weight : Option String) : Serve (List Json) := do
  let g := sv.gate caller
  let q ← g.accept className options .find
  if let some path := weight then
    (g.authorizePath className path : Result Unit)
  Session.send sv.store.objects (.random q weight)

/-- How the store would run a query. -/
def explain (sv : Service) (caller : Caller) (className : String) (options : FindOptions) :
    Serve Json := do
  let q ← (sv.gate caller).accept className options .find
  Session.send sv.store.plan (.explain q)

/-! ## Identifiers -/

/-- Whether an object comes without an id; null is one. -/
def lacksId (attributes : List (String × Json)) : Bool :=
  (Json.member? attributes Field.id).isNone

/-- An object with an id of its own, or else with a new one behind its attributes. -/
def withId (sv : Service) (attributes : List (String × Json)) : Serve (List (String × Json)) := do
  if lacksId attributes then
    let id := Identifier.spell sv.limits.idLength (sv.entropy (← Session.draw))
    return attributes ++ [(Field.id, .str id)]
  else return attributes

/--
Sends a call that may be made anew with other identifiers, at most so many times, while the store
says that one is taken.
-/
def sendAnew (sv : Service) (renews : Bool) (call : Serve StoreCall) : Nat → Serve (List Json)
  | 0 => do Session.send sv.store.objects (← call)
  | retries + 1 => do
    let c ← call
    tryCatch (Session.send sv.store.objects c) fun e =>
      if renews && sv.store.isTaken e then sendAnew sv renews call retries else throw e

/-! ## Mutations -/

/-- Inserts objects; those without an id get one. -/
def insert (sv : Service) (caller : Caller) (className : String)
    (objects : List (List (String × Json))) (includes : List String) : Serve (List Json) := do
  let g := sv.gate caller
  (objects.forM fun attributes => g.checkAttributes className attributes .create : Result Unit)
  let q ← g.accept className { includes } .create
  let call := do return StoreCall.insert q (← objects.mapM sv.withId)
  let created ← sv.sendAnew (objects.any lacksId) call sv.limits.insertRetries
  Session.publish .create className created
  return created

/-- Updates the objects a query finds. -/
def update (sv : Service) (caller : Caller) (className : String) (options : FindOptions)
    (document : List (String × Json)) : Serve (List Json) := do
  let g := sv.gate caller
  (g.checkAttributes className document .update : Result Unit)
  let q ← g.accept className options .update
  let updated ← Session.send sv.store.objects (.update q document)
  Session.publish .update className updated
  return updated

/-- Adds what one entry of an update sets to an object. -/
def addPlain (object : List (String × Json)) (entry : String × Json) :
    Result (List (String × Json)) := do
  let u ← Update.decode entry.2
  return if u.op = .set then Json.setMember object entry.1 u.operand else object

/-- The object an upsert inserts: what the update sets plainly, then the values for an insertion. -/
def upsertObject (document onInsert : List (String × Json)) : Result (List (String × Json)) := do
  let plain ← document.foldlM addPlain []
  return onInsert.foldl (fun object m => Json.setMember object m.1 m.2) plain

/-- Whether an object that a store returns has just been created. -/
def isFirstVersion (object : Json) : Bool :=
  ((object.get? Field.version).bind Json.asFloat?).any (· == 0.0)

/-- Updates the objects a query finds, or inserts one. -/
def upsert (sv : Service) (caller : Caller) (className : String) (options : FindOptions)
    (document onInsert : List (String × Json)) : Serve (List Json) := do
  let g := sv.gate caller
  (g.checkAttributes className document .update : Result Unit)
  (g.checkAttributes className onInsert .create : Result Unit)
  let _ ← g.accept className {} .create
  let q ← g.accept className options .update
  let object ← upsertObject document onInsert
  let call := do return StoreCall.upsert q document (← sv.withId object)
  let objects ← sv.sendAnew (lacksId object) call sv.limits.insertRetries
  Session.publish .create className (objects.filter isFirstVersion)
  Session.publish .update className (objects.filter fun o => !isFirstVersion o)
  return objects

/-- Deletes the objects a query finds. -/
def delete (sv : Service) (caller : Caller) (className : String) (options : FindOptions) :
    Serve (List Json) := do
  let q ← (sv.gate caller).accept className options .delete
  let deleted ← Session.send sv.store.objects (.delete q)
  Session.publish .delete className deleted
  return deleted

end Service

end ObjectQuery
