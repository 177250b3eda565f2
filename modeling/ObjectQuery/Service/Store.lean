import ObjectQuery.Access.Query
import ObjectQuery.Live

/-!
# Calls of the store

A store answers each call with objects, a count or a plan, or with an error. What it answers may
depend on every call before: a store is a function of the history of its calls. A session holds that
history, the count of identifiers drawn so far, and the hub of live queries.
-/

namespace ObjectQuery

/-- What the store is asked for. -/
inductive StoreCall where
  | find (query : Query)
  | count (query : Query)
  | explain (query : Query)
  /-- One object at random, more likely the greater what is at the path. -/
  | random (query : Query) (weight : Option String)
  | insert (query : Query) (rows : List (List (String × Json)))
  | update (query : Query) (document : List (String × Json))
  /-- Updates the matching objects, or inserts the row where there is none. -/
  | upsert (query : Query) (document row : List (String × Json))
  | delete (query : Query)
deriving Inhabited

/-- The query of a call. -/
def StoreCall.query : StoreCall → Query
  | find q | count q | explain q | random q _ | insert q _ | update q _ | upsert q _ _ | delete q => q

/-- The replies of a store to the last of some calls. -/
structure Store where
  objects : List StoreCall → Result (List Json)
  count : List StoreCall → Result Nat
  plan : List StoreCall → Result Json
  /-- Whether an error says that an identifier is taken. -/
  isTaken : Error → Bool := fun e => e.kind.isRetryableDuplicate

/-- What lasts from request to request. -/
structure Session where
  /-- The calls so far, in order. -/
  calls : List StoreCall
  /-- How many identifiers have been drawn. -/
  drawn : Nat
  hub : Hub
deriving Inhabited

/-- A request that is served: an error does not undo the calls before it. -/
abbrev Serve := ExceptT Error (StateM Session)

namespace Session

/-- A session without calls. -/
def start (hub : Hub) : Session := ⟨[], 0, hub⟩

/-- Sends a call to the store. -/
def send (reply : List StoreCall → Result α) (call : StoreCall) : Serve α :=
  ExceptT.mk fun s =>
    let calls := s.calls ++ [call]
    (reply calls, { s with calls })

/-- Counts an identifier that is drawn; tells how many were drawn before. -/
def draw : Serve Nat :=
  ExceptT.mk fun s => (.ok s.drawn, { s with drawn := s.drawn + 1 })

/-- Tells the subscribers of a class what happened to some objects. -/
def publish (event : LiveEvent) (className : String) (objects : List Json) : Serve Unit :=
  ExceptT.mk fun s => (.ok (), { s with hub := (s.hub.publish event className objects).2 })

end Session

end ObjectQuery
