import ObjectQuery.Access.Auth
import ObjectQuery.Filter
import ObjectQuery.Schema.Basic

/-!
# Live queries

A hub matches the objects of every mutation against its subscriptions and queues a message for each
match. A queue holds a bounded number of messages and is never waited for: what finds no place is
dropped. A subscription and its queue go separate ways: a cancelled subscription gets no more
messages, but what is queued can still be read; one whose queue has been given up stays until the
next message for it.

A subscription has an id, which is what it is cancelled by, and its queue a number of its own. Ids are
drawn from a counter of 64 bits that starts anew when it is through; a subscription then takes the place
of the one that still has its id. Queues are as many as have been opened, and no two are the same.
-/

namespace ObjectQuery

/-- What a mutation did to an object. -/
inductive LiveEvent where
  | create
  | update
  | delete
deriving DecidableEq, Inhabited

namespace LiveEvent

/-- The word for an event in a message. -/
def tag : LiveEvent → String
  | create => "create"
  | update => "update"
  | delete => "delete"

/-- Every event. -/
def all : List LiveEvent := [create, update, delete]

/-- The event a word stands for. -/
def ofTag? (word : String) : Option LiveEvent := all.find? fun e => e.tag = word

end LiveEvent

/-- The news of one object for one subscription. -/
structure LiveMessage where
  subscription : Nat
  event : LiveEvent
  className : String
  object : Json
deriving Inhabited

/-- A caller that waits for objects of a class. -/
structure Subscription where
  id : Nat
  /-- The queue that its messages go to. -/
  channel : Nat
  className : String
  filter : Filter
  auth : Auth

namespace Subscription

/--
Whether an object's access list admits the subscriber. A list that is not there was not projected,
and the mutation has already been admitted.
-/
def mayRead (sub : Subscription) (object : Json) : Bool :=
  sub.auth.master ||
    match object.get? Field.readers with
    | some (.arr acl) => acl.any fun entry => entry.asStr?.any sub.auth.tokens.contains
    | some _ => false
    | none => true

/-- Whether the subscriber is told of an object of a class. -/
def wants (sub : Subscription) (className : String) (object : Json) : Bool :=
  sub.className == className && sub.mayRead object && sub.filter.eval object

/-- The messages of a mutation for the subscriber, in the order of the objects. -/
def messages (sub : Subscription) (event : LiveEvent) (className : String) (objects : List Json) :
    List LiveMessage :=
  (objects.filter (sub.wants className)).map fun object => ⟨sub.id, event, className, object⟩

end Subscription

/-- The subscriptions, and the queues whose readers have not given them up. -/
structure Hub where
  /-- How many messages a queue holds. -/
  capacity : Nat
  /-- The id of the next subscription; behind the last number of 64 bits comes zero. -/
  nextId : UInt64
  /-- How many queues have been opened. -/
  opened : Nat
  subscriptions : List Subscription
  queues : List (Nat × List LiveMessage)

namespace Hub

/-- A hub without subscriptions; a queue holds at least one message. -/
def new (capacity : Nat) : Hub := ⟨max capacity 1, 1, 0, [], []⟩

instance : Inhabited Hub := ⟨new 64⟩

def size (hub : Hub) : Nat := hub.subscriptions.length

def isEmpty (hub : Hub) : Bool := hub.subscriptions.isEmpty

/-- Whether a subscription is still served. -/
def serves (hub : Hub) (id : Nat) : Bool := hub.subscriptions.any fun sub => sub.id == id

/-- A queue, unless it has been given up. -/
def queue? (hub : Hub) (channel : Nat) : Option (List LiveMessage) := hub.queues.lookup channel

/-- Adds a subscription under the next id, in place of one that has it, and opens a queue for it. -/
def subscribe (hub : Hub) (className : String) (filter : Filter) (auth : Auth) : Nat × Hub :=
  let sub : Subscription :=
    ⟨hub.nextId.toNat, hub.opened + 1, className, filter.simplify, auth⟩
  (sub.id, { hub with
    nextId := hub.nextId + 1
    opened := sub.channel
    subscriptions := (hub.subscriptions.filter fun other => other.id != sub.id) ++ [sub]
    queues := hub.queues ++ [(sub.channel, [])] })

/-- Cancels a subscription; tells whether there was one. -/
def unsubscribe (hub : Hub) (id : Nat) : Bool × Hub :=
  (hub.serves id, { hub with subscriptions := hub.subscriptions.filter fun sub => sub.id != id })

/-- Empties a queue; nothing where it has been given up. -/
def drain (hub : Hub) (channel : Nat) : Option (List LiveMessage) × Hub :=
  (hub.queue? channel, { hub with
    queues := hub.queues.map fun entry => if entry.1 = channel then (channel, []) else entry })

/-- Gives up a queue; tells whether there was one. -/
def close (hub : Hub) (channel : Nat) : Bool × Hub :=
  ((hub.queue? channel).isSome, { hub with
    queues := hub.queues.filter fun entry => entry.1 != channel })

/-- Those of some messages that find a place in a subscription's queue. -/
def accepted (hub : Hub) (sub : Subscription) (messages : List LiveMessage) : List LiveMessage :=
  match hub.queue? sub.channel with
  | some queue => messages.take (hub.capacity - queue.length)
  | none => []

/-- Queues the news of some objects; tells how many messages were queued. -/
def publish (hub : Hub) (event : LiveEvent) (className : String) (objects : List Json) : Nat × Hub :=
  let messages := fun (sub : Subscription) => sub.messages event className objects
  let accepted := fun sub => hub.accepted sub (messages sub)
  let arrivals := fun channel =>
    (hub.subscriptions.filter (·.channel = channel)).flatMap accepted
  let delivered := (hub.subscriptions.flatMap accepted).length
  (delivered, { hub with
    subscriptions := hub.subscriptions.filter fun sub =>
      (hub.queue? sub.channel).isSome || (messages sub).isEmpty
    queues := hub.queues.map fun (channel, queue) => (channel, queue ++ arrivals channel) })

end Hub

end ObjectQuery
