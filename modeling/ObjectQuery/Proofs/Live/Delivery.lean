import Mathlib.Data.List.Nodup
import ObjectQuery.Live

/-!
# Queues of a hub, and messages sent one after another

A queue is found by its number, and a step changes what is in queues, adds an empty one or gives one up.
A publication is stated by what it comes to: in each queue arrive those of the messages for its
subscription that find a place. Carried out message by message, each is sent to the queue of its
subscription without waiting, where it is queued, finds no place, or finds the queue given up; the last
ends the messages for that subscription, which is removed by its id when all have been sent. Where no two
subscriptions share an id or a queue the two are the same. Each message that is queued makes the queues
longer by one, so a publication tells by how much they grow.
-/

namespace ObjectQuery

/-! ## What a subscriber may be told -/

/-- A message is for a subscription: of its class, wanted by its filter and open to its reader. -/
structure Subscription.Admits (sub : Subscription) (message : LiveMessage) : Prop where
  subscription : message.subscription = sub.id
  className : message.className = sub.className
  filter : sub.filter.eval message.object = true
  readers : sub.auth.master = true ∨ message.object.get? Field.readers = none ∨
    ∃ acl, message.object.get? Field.readers = some (.arr acl) ∧
      ∃ token ∈ sub.auth.tokens, .str token ∈ acl

namespace Subscription

variable {sub : Subscription} {event : LiveEvent} {className : String} {object : Json}
  {objects : List Json} {message : LiveMessage}

/-- A subscriber may read as the master, where no access list was projected, or by a token on it. -/
theorem mayRead_iff : sub.mayRead object = true ↔
    sub.auth.master = true ∨ object.get? Field.readers = none ∨
      ∃ acl, object.get? Field.readers = some (.arr acl) ∧
        ∃ token ∈ sub.auth.tokens, .str token ∈ acl := by
  have hgrants (acl : List Json) :
      (acl.any fun entry => entry.asStr?.any sub.auth.tokens.contains) = true ↔
        ∃ token ∈ sub.auth.tokens, .str token ∈ acl := by
    rw [List.any_eq_true]
    constructor
    · rintro ⟨entry, hentry, hgranted⟩
      cases entry with
      | str token => exact ⟨token, List.contains_iff_mem.mp hgranted, hentry⟩
      | _ => cases hgranted
    · rintro ⟨token, hheld, hentry⟩
      exact ⟨.str token, hentry, List.contains_iff_mem.mpr hheld⟩
  unfold mayRead
  rw [Bool.or_eq_true]
  refine or_congr_right ?_
  split
  next acl hacl => simp [hacl, hgrants]
  next v hother hv =>
    simp only [hv, reduceCtorEq, Option.some.injEq, Bool.false_eq_true, false_or, false_iff]
    rintro ⟨acl, hacl, -⟩
    exact hother acl hacl
  next hacl => simp [hacl]

/-- The messages of a mutation are for the subscription that they are made for. -/
theorem admits_of_mem_messages (h : message ∈ sub.messages event className objects) :
    sub.Admits message := by
  unfold messages at h
  obtain ⟨object, hobject, rfl⟩ := List.mem_map.mp h
  have hwants := (List.mem_filter.mp hobject).2
  unfold wants at hwants
  simp only [Bool.and_eq_true, beq_iff_eq] at hwants
  obtain ⟨⟨hclass, hread⟩, hfilter⟩ := hwants
  exact ⟨rfl, hclass.symm, hfilter, mayRead_iff.mp hread⟩

/-- There is no message of a mutation for a subscription that wants none of the objects. -/
theorem messages_eq_nil : sub.messages event className objects = [] ↔
    ∀ object ∈ objects, sub.wants className object = false := by
  simp [messages]

end Subscription

/-! ## Queues by their number -/

/-- An item of a list is told apart from the others by what no two of them share. -/
theorem exists_apart_of_mem {α : Type} {key : α → Nat} {items : List α} {a : α}
    (hnodup : (items.map key).Nodup) (h : a ∈ items) :
    ∃ before after, items = before ++ a :: after ∧ (∀ b ∈ before, key b ≠ key a) ∧
      ∀ b ∈ after, key b ≠ key a := by
  obtain ⟨before, after, rfl⟩ := List.append_of_mem h
  rw [List.map_append, List.map_cons, List.nodup_append, List.nodup_cons] at hnodup
  obtain ⟨-, ⟨hafter, -⟩, hbefore⟩ := hnodup
  refine ⟨before, after, rfl, fun b hb => ?_, fun b hb hkey => ?_⟩
  · exact hbefore _ (List.mem_map_of_mem hb) _ List.mem_cons_self
  · exact hafter (List.mem_map.mpr ⟨b, hb, hkey⟩)

namespace Hub

variable {hub : Hub} {channel : Nat} {queue : List LiveMessage}

/-- Keeping the numbers, a queue is found that was found before, changed as those of its number are. -/
theorem lookup_map (change : Nat → List LiveMessage → List LiveMessage)
    (queues : List (Nat × List LiveMessage)) (channel : Nat) :
    (queues.map fun entry => (entry.1, change entry.1 entry.2)).lookup channel =
      (queues.lookup channel).map (change channel) := by
  induction queues with
  | nil => rfl
  | cons entry rest ih =>
    rw [List.map_cons, List.lookup_cons, List.lookup_cons, ih]
    cases hchannel : channel == entry.1 with
    | false => rfl
    | true =>
      obtain rfl := eq_of_beq hchannel
      rfl

/-- A queue is found when others have been left out, as it was before. -/
theorem lookup_filter_of_ne {other : Nat} (h : channel ≠ other)
    (queues : List (Nat × List LiveMessage)) :
    (queues.filter fun entry => entry.1 != other).lookup channel = queues.lookup channel := by
  induction queues with
  | nil => rfl
  | cons entry rest ih =>
    rw [List.filter_cons]
    split
    next => rw [List.lookup_cons, List.lookup_cons, ih]
    next hdropped =>
      have hentry : entry.1 = other := by simpa using hdropped
      rw [ih, List.lookup_cons, beq_eq_false_iff_ne.mpr (hentry ▸ h)]

/-- A queue that is found is one of the queues. -/
theorem mem_of_queue? (h : hub.queue? channel = some queue) : (channel, queue) ∈ hub.queues := by
  obtain ⟨before, after, hqueues, -⟩ := List.lookup_eq_some_iff.mp h
  rw [hqueues]
  simp

/-- Where no two queues have one number, each is found. -/
theorem queue?_of_mem (hnodup : (hub.queues.map Prod.fst).Nodup) (h : (channel, queue) ∈ hub.queues) :
    hub.queue? channel = some queue := by
  obtain ⟨before, after, hqueues, hbefore, -⟩ := exists_apart_of_mem hnodup h
  exact List.lookup_eq_some_iff.mpr
    ⟨before, after, hqueues, fun entry hentry => bne_iff_ne.mpr (hbefore entry hentry).symm⟩

/-- A queue is not found where none has its number. -/
theorem queue?_eq_none : hub.queue? channel = none ↔ ∀ entry ∈ hub.queues, entry.1 ≠ channel := by
  unfold queue?
  simp only [List.lookup_eq_none_iff, bne_iff_ne, ne_comm]

/-! ## Steps -/

/-- Whether messages are sent to a queue. -/
def feeds (hub : Hub) (channel : Nat) : Bool := hub.subscriptions.any fun sub => sub.channel == channel

/-- Takes the first message out of a queue. -/
def receive (hub : Hub) (channel : Nat) : Option LiveMessage × Hub :=
  ((hub.queue? channel).bind List.head?, { hub with
    queues := hub.queues.map fun entry =>
      (entry.1, if entry.1 = channel then entry.2.tail else entry.2) })

/-- Adds to each queue what arrives in it. -/
def enqueue (hub : Hub) (arrivals : Nat → List LiveMessage) : Hub := { hub with
  queues := hub.queues.map fun entry => (entry.1, entry.2 ++ arrivals entry.1) }

/-- The messages of a mutation that arrive in a queue. -/
def arrivals (hub : Hub) (event : LiveEvent) (className : String) (objects : List Json)
    (channel : Nat) : List LiveMessage :=
  (hub.subscriptions.filter (·.channel = channel)).flatMap fun sub =>
    hub.accepted sub (sub.messages event className objects)

variable {event : LiveEvent} {className : String} {objects : List Json} {filter : Filter} {auth : Auth}

/-- Opening a queue leaves those of other numbers as they are. -/
theorem queue?_subscribe_of_ne (h : channel ≠ hub.opened + 1) :
    (hub.subscribe className filter auth).2.queue? channel = hub.queue? channel := by
  show (hub.queues ++ [(hub.opened + 1, [])]).lookup channel = hub.queues.lookup channel
  rw [List.lookup_append, List.lookup_cons, beq_eq_false_iff_ne.mpr h, List.lookup_nil,
    Option.or_none]

/-- A queue whose number has not been used is open and empty once it has been opened. -/
theorem queue?_subscribe_self (h : hub.queue? (hub.opened + 1) = none) :
    (hub.subscribe className filter auth).2.queue? (hub.opened + 1) = some [] := by
  show (hub.queues ++ [(hub.opened + 1, [])]).lookup (hub.opened + 1) = some []
  rw [List.lookup_append, show hub.queues.lookup (hub.opened + 1) = none from h, Option.none_or,
    List.lookup_cons_self]

/-- A new subscription is served, and those that are left are the ones of other ids. -/
theorem mem_subscribe {sub : Subscription} :
    sub ∈ (hub.subscribe className filter auth).2.subscriptions ↔
      sub = ⟨hub.nextId.toNat, hub.opened + 1, className, filter.simplify, auth⟩ ∨
        sub ∈ hub.subscriptions ∧ sub.id ≠ hub.nextId.toNat := by
  unfold subscribe
  rw [List.mem_append, List.mem_filter, List.mem_singleton, bne_iff_ne, or_comm]

/-- The first message is taken out of one queue, and the others are as they were. -/
theorem queue?_receive {other : Nat} : (hub.receive other).2.queue? channel =
    (hub.queue? channel).map fun queue => if channel = other then queue.tail else queue :=
  lookup_map (fun channel queue => if channel = other then queue.tail else queue) hub.queues channel

/-- A queue that is given up is not found any more. -/
theorem queue?_close_self : (hub.close channel).2.queue? channel = none :=
  queue?_eq_none.mpr fun entry hentry => by simpa using (List.mem_filter.mp hentry).2

/-- Giving up a queue leaves the others as they are. -/
theorem queue?_close_of_ne {other : Nat} (h : channel ≠ other) :
    (hub.close other).2.queue? channel = hub.queue? channel :=
  lookup_filter_of_ne h hub.queues

/-- What arrives in an open queue stands behind what is in it; no queue is opened by it. -/
theorem queue?_enqueue {arrivals : Nat → List LiveMessage} :
    (hub.enqueue arrivals).queue? channel = (hub.queue? channel).map (· ++ arrivals channel) :=
  lookup_map (fun channel queue => queue ++ arrivals channel) hub.queues channel

/-- A publication adds what arrives to each queue, and drops subscriptions whose queue is given up. -/
theorem publish_snd : (hub.publish event className objects).2 =
    { hub.enqueue (hub.arrivals event className objects) with
      subscriptions := hub.subscriptions.filter fun sub =>
        (hub.queue? sub.channel).isSome || (sub.messages event className objects).isEmpty } :=
  rfl

/-- What a publication leaves in a queue is what was there and then what arrives. -/
theorem queue?_publish : (hub.publish event className objects).2.queue? channel =
    (hub.queue? channel).map (· ++ hub.arrivals event className objects channel) := by
  rw [publish_snd]
  exact queue?_enqueue

/-- In a queue that is not fed no message arrives. -/
theorem arrivals_eq_nil (h : hub.feeds channel = false) :
    hub.arrivals event className objects channel = [] := by
  have hnone : hub.subscriptions.filter (·.channel = channel) = [] := by
    simpa [feeds] using h
  rw [arrivals, hnone, List.flatMap_nil]

/-- In a queue that is fed by one subscription arrive those messages for it that find a place. -/
theorem arrivals_eq {sub : Subscription} (hnodup : (hub.subscriptions.map (·.channel)).Nodup)
    (h : sub ∈ hub.subscriptions) :
    hub.arrivals event className objects sub.channel =
      hub.accepted sub (sub.messages event className objects) := by
  obtain ⟨before, after, hsubs, hbefore, hafter⟩ := exists_apart_of_mem hnodup h
  have hone : hub.subscriptions.filter (·.channel = sub.channel) = [sub] := by
    rw [hsubs, List.filter_append, List.filter_cons_of_pos (by simp),
      List.filter_eq_nil_iff.mpr (by simpa using hbefore),
      List.filter_eq_nil_iff.mpr (by simpa using hafter), List.nil_append]
  rw [arrivals, hone, List.flatMap_singleton]

/-- What arrives in a queue is for a subscription that feeds it. -/
theorem exists_of_mem_arrivals {message : LiveMessage}
    (h : message ∈ hub.arrivals event className objects channel) :
    ∃ sub ∈ hub.subscriptions, sub.channel = channel ∧ sub.Admits message := by
  obtain ⟨sub, hsub, hmessage⟩ := List.mem_flatMap.mp h
  obtain ⟨hserved, hchannel⟩ := List.mem_filter.mp hsub
  refine ⟨sub, hserved, of_decide_eq_true hchannel, ?_⟩
  unfold accepted at hmessage
  split at hmessage
  next queue hqueue => exact Subscription.admits_of_mem_messages (List.mem_of_mem_take hmessage)
  next => cases hmessage

/-- Nothing arrives that finds no place. -/
theorem length_arrivals_le (hnodup : (hub.subscriptions.map (·.channel)).Nodup)
    (h : hub.queue? channel = some queue) :
    (hub.arrivals event className objects channel).length ≤ hub.capacity - queue.length := by
  cases hfed : hub.feeds channel with
  | false => simp [arrivals_eq_nil hfed]
  | true =>
    obtain ⟨sub, hsub, hchannel⟩ := List.any_eq_true.mp hfed
    obtain rfl := eq_of_beq hchannel
    rw [arrivals_eq hnodup hsub, accepted, h]
    exact List.length_take_le _ _

/-! ## Sending -/

/-- What becomes of a message that is sent without waiting. -/
inductive Sending where
  | queued
  | full
  | closed

/-- How many messages are queued. -/
def Sending.delivered : Sending → Nat
  | queued => 1
  | full | closed => 0

/-- Sends a message to a queue. -/
def trySend (hub : Hub) (channel : Nat) (message : LiveMessage) : Sending × Hub :=
  match hub.queue? channel with
  | none => (.closed, hub)
  | some queue =>
    if queue.length < hub.capacity then
      (.queued, hub.enqueue fun other => if other = channel then [message] else [])
    else (.full, hub)

/-- Sends messages until the queue is given up; tells how many were queued and whether it was. -/
def sendAll (hub : Hub) (channel : Nat) : List LiveMessage → (Nat × Bool) × Hub
  | [] => ((0, false), hub)
  | message :: rest =>
    match hub.trySend channel message with
    | (.queued, hub) =>
      let ((delivered, closed), hub) := hub.sendAll channel rest
      ((delivered + 1, closed), hub)
    | (.full, hub) => hub.sendAll channel rest
    | (.closed, hub) => ((0, true), hub)

/-- Sends each subscription its messages; tells how many were queued and whose queues were given up. -/
def sendEach (hub : Hub) (messages : Subscription → List LiveMessage) :
    List Subscription → (Nat × List Nat) × Hub
  | [] => ((0, []), hub)
  | sub :: rest =>
    let ((delivered, closed), hub) := hub.sendAll sub.channel (messages sub)
    let ((more, gone), hub) := hub.sendEach messages rest
    ((delivered + more, if closed then sub.id :: gone else gone), hub)

/-- Sends the news of some objects, and then removes the subscriptions whose queues were given up. -/
def deliver (hub : Hub) (event : LiveEvent) (className : String) (objects : List Json) : Nat × Hub :=
  let ((delivered, gone), after) :=
    hub.sendEach (fun sub => sub.messages event className objects) hub.subscriptions
  (delivered, { after with
    subscriptions := after.subscriptions.filter fun sub => !gone.contains sub.id })

/-! ## What is added to queues -/

/-- Where nothing arrives the hub is left as it is. -/
@[simp]
theorem enqueue_nil : hub.enqueue (fun _ => []) = hub := by
  simp [enqueue]

/-- What arrives in two turns arrives in one. -/
theorem enqueue_enqueue {first second : Nat → List LiveMessage} :
    (hub.enqueue first).enqueue second =
      hub.enqueue fun channel => first channel ++ second channel := by
  simp [enqueue, Function.comp_def]

@[simp]
theorem enqueue_capacity {arrivals : Nat → List LiveMessage} :
    (hub.enqueue arrivals).capacity = hub.capacity := rfl

@[simp]
theorem enqueue_subscriptions {arrivals : Nat → List LiveMessage} :
    (hub.enqueue arrivals).subscriptions = hub.subscriptions := rfl

/-- No queue is opened or given up by what arrives. -/
@[simp]
theorem enqueue_keys {arrivals : Nat → List LiveMessage} :
    (hub.enqueue arrivals).queues.map Prod.fst = hub.queues.map Prod.fst := by
  simp [enqueue, Function.comp_def]

/-- What is added to one queue leaves the others as they are. -/
theorem queue?_enqueue_of_ne {other : Nat} {added : List LiveMessage} (h : other ≠ channel) :
    (hub.enqueue fun n => if n = channel then added else []).queue? other = hub.queue? other := by
  rw [queue?_enqueue]
  simp [h]

/-- What is added to one queue takes no place from the messages for another. -/
theorem accepted_enqueue_of_ne {sub : Subscription} {added messages : List LiveMessage}
    (h : sub.channel ≠ channel) :
    (hub.enqueue fun n => if n = channel then added else []).accepted sub messages =
      hub.accepted sub messages := by
  unfold accepted
  rw [queue?_enqueue_of_ne h, enqueue_capacity]

/-- A hub without subscriptions is left as it is. -/
theorem publish_of_isEmpty (h : hub.isEmpty = true) :
    (hub.publish event className objects).2 = hub := by
  have hnone : hub.subscriptions = [] := List.isEmpty_iff.mp h
  have harrivals : hub.arrivals event className objects = fun _ => [] := by
    funext channel
    rw [arrivals, hnone, List.filter_nil, List.flatMap_nil]
  rw [publish_snd, harrivals, enqueue_nil, hnone, List.filter_nil, ← hnone]

/-! ## What is sent -/

/-- Of a queue that has been given up, sending says so. -/
theorem trySend_of_closed {message : LiveMessage} (h : hub.queue? channel = none) :
    hub.trySend channel message = (.closed, hub) := by
  rw [trySend, h]

/-- To an open queue a message is added where there is a place, and is dropped otherwise. -/
theorem trySend_of_open {message : LiveMessage} (h : hub.queue? channel = some queue) :
    hub.trySend channel message =
      if queue.length < hub.capacity then
        (.queued, hub.enqueue fun other => if other = channel then [message] else [])
      else (.full, hub) := by
  rw [trySend, h]

/-- Of the messages for an open queue the first are queued, as many as find a place. -/
theorem sendAll_of_open {messages : List LiveMessage} (hqueue : hub.queue? channel = some queue) :
    hub.sendAll channel messages =
      (((messages.take (hub.capacity - queue.length)).length, false),
        hub.enqueue fun other =>
          if other = channel then messages.take (hub.capacity - queue.length) else []) := by
  induction messages generalizing hub queue with
  | nil => simp [sendAll]
  | cons message rest ih =>
    rw [sendAll, trySend_of_open hqueue]
    by_cases hplace : queue.length < hub.capacity
    case neg =>
      rw [if_neg hplace]
      dsimp only
      rw [ih hqueue, Nat.sub_eq_zero_of_le (Nat.le_of_not_lt hplace)]
      rfl
    case pos =>
      have hlonger : (hub.enqueue fun other =>
          if other = channel then [message] else []).queue? channel = some (queue ++ [message]) := by
        rw [queue?_enqueue, hqueue, if_pos rfl, Option.map_some]
      have hplaces : hub.capacity - queue.length =
          hub.capacity - (queue ++ [message]).length + 1 := by
        rw [List.length_append, List.length_singleton]
        omega
      rw [if_pos hplace]
      dsimp only
      rw [ih hlonger, enqueue_enqueue, enqueue_capacity, hplaces, List.take_succ_cons]
      refine Prod.ext rfl ?_
      dsimp only
      refine congrArg hub.enqueue (funext fun other => ?_)
      split <;> rfl

/-- Of the messages for a queue that has been given up the first says so. -/
theorem sendAll_of_closed {messages : List LiveMessage} (hqueue : hub.queue? channel = none) :
    hub.sendAll channel messages = ((0, !messages.isEmpty), hub) := by
  cases messages with
  | nil => rfl
  | cons message rest =>
    rw [sendAll, trySend_of_closed hqueue]
    rfl

/-- Sending a subscription its messages adds to its queue those that find a place. -/
theorem sendAll_eq {sub : Subscription} {messages : List LiveMessage} :
    hub.sendAll sub.channel messages =
      (((hub.accepted sub messages).length, (hub.queue? sub.channel).isNone && !messages.isEmpty),
        hub.enqueue fun channel =>
          if channel = sub.channel then hub.accepted sub messages else []) := by
  unfold accepted
  cases hqueue : hub.queue? sub.channel with
  | some queue => exact sendAll_of_open hqueue
  | none => simp [sendAll_of_closed hqueue]

/-- Sending to some subscriptions adds to each queue what is accepted for those that feed it. -/
theorem sendEach_eq {messages : Subscription → List LiveMessage} {subs : List Subscription}
    (hnodup : (subs.map (·.channel)).Nodup) :
    hub.sendEach messages subs =
      (((subs.flatMap fun sub => hub.accepted sub (messages sub)).length,
        (subs.filter fun sub =>
          (hub.queue? sub.channel).isNone && !(messages sub).isEmpty).map (·.id)),
        hub.enqueue fun channel =>
          (subs.filter (·.channel = channel)).flatMap fun sub =>
            hub.accepted sub (messages sub)) := by
  induction subs generalizing hub with
  | nil => simp [sendEach]
  | cons sub rest ih =>
    obtain ⟨hfirst, hrest⟩ := List.nodup_cons.mp hnodup
    have hapart : ∀ other ∈ rest, other.channel ≠ sub.channel :=
      fun other hother hchannel => hfirst (List.mem_map.mpr ⟨other, hother, hchannel⟩)
    rw [sendEach, sendAll_eq]
    dsimp only
    generalize hnext : hub.enqueue (fun channel =>
      if channel = sub.channel then hub.accepted sub (messages sub) else []) = next
    have hqueue : ∀ other ∈ rest, next.queue? other.channel = hub.queue? other.channel :=
      fun other hother => hnext ▸ queue?_enqueue_of_ne (hapart other hother)
    have haccepted : ∀ other ∈ rest,
        next.accepted other (messages other) = hub.accepted other (messages other) :=
      fun other hother => hnext ▸ accepted_enqueue_of_ne (hapart other hother)
    have hflat (others : List Subscription) (h : ∀ other ∈ others, other ∈ rest) :
        (others.flatMap fun sub => next.accepted sub (messages sub)) =
          others.flatMap fun sub => hub.accepted sub (messages sub) :=
      List.flatMap_congr fun other hother => haccepted other (h other hother)
    rw [ih hrest, hflat rest fun _ h => h]
    dsimp only
    refine Prod.ext (Prod.ext ?delivered ?gone) ?queues
    case delivered => rw [List.flatMap_cons, List.length_append]
    case gone =>
      have hgone := List.filter_congr (l := rest) (p := fun sub =>
          (next.queue? sub.channel).isNone && !(messages sub).isEmpty)
        (q := fun sub => (hub.queue? sub.channel).isNone && !(messages sub).isEmpty)
        fun other hother => by rw [hqueue other hother]
      rw [hgone, List.filter_cons]
      dsimp only
      split <;> rfl
    case queues =>
      rw [← hnext, enqueue_enqueue, hnext]
      dsimp only
      refine congrArg hub.enqueue (funext fun channel => ?_)
      rw [hflat _ fun other hother => (List.mem_filter.mp hother).1, List.filter_cons]
      by_cases hchannel : channel = sub.channel
      · simp [hchannel]
      · simp [hchannel, Ne.symm hchannel]

/-! ## What is counted -/

/-- How many messages are queued. -/
def pending (hub : Hub) : Nat := (hub.queues.flatMap (·.2)).length

/-- A message that is queued is one more, where no two queues have one number. -/
theorem pending_enqueue {message : LiveMessage} (hnodup : (hub.queues.map Prod.fst).Nodup)
    (hqueue : hub.queue? channel = some queue) :
    (hub.enqueue fun other => if other = channel then [message] else []).pending =
      hub.pending + 1 := by
  obtain ⟨before, after, hqueues, hbefore, hafter⟩ :=
    exists_apart_of_mem hnodup (mem_of_queue? hqueue)
  have hkept (entries : List (Nat × List LiveMessage)) (h : ∀ entry ∈ entries, entry.1 ≠ channel) :
      entries.flatMap (fun entry => entry.2 ++ if entry.1 = channel then [message] else []) =
        entries.flatMap (·.2) :=
    List.flatMap_congr fun entry hentry => by rw [if_neg (h entry hentry), List.append_nil]
  simp only [pending, enqueue, hqueues, List.flatMap_map, List.flatMap_append, List.flatMap_cons,
    hkept before hbefore, hkept after hafter, if_pos, List.length_append, List.length_singleton]
  omega

/-- Sending a message makes the queues longer by one if it is queued. -/
theorem pending_trySend {message : LiveMessage} (hnodup : (hub.queues.map Prod.fst).Nodup) :
    ((hub.trySend channel message).2.queues.map Prod.fst) = hub.queues.map Prod.fst ∧
      (hub.trySend channel message).2.pending =
        hub.pending + (hub.trySend channel message).1.delivered := by
  cases hqueue : hub.queue? channel with
  | none =>
    rw [trySend_of_closed hqueue]
    exact ⟨rfl, rfl⟩
  | some queue =>
    rw [trySend_of_open hqueue]
    split
    next => exact ⟨enqueue_keys, pending_enqueue hnodup hqueue⟩
    next => exact ⟨rfl, rfl⟩

/-- Sending messages makes the queues longer by as many as are queued. -/
theorem pending_sendAll {messages : List LiveMessage} (hnodup : (hub.queues.map Prod.fst).Nodup) :
    ((hub.sendAll channel messages).2.queues.map Prod.fst) = hub.queues.map Prod.fst ∧
      (hub.sendAll channel messages).2.pending =
        hub.pending + (hub.sendAll channel messages).1.1 := by
  induction messages generalizing hub with
  | nil => exact ⟨rfl, rfl⟩
  | cons message rest ih =>
    have hfirst : ((hub.trySend channel message).2.queues.map Prod.fst) =
        hub.queues.map Prod.fst ∧ (hub.trySend channel message).2.pending =
          hub.pending + (hub.trySend channel message).1.delivered := pending_trySend hnodup
    rw [sendAll]
    generalize hub.trySend channel message = sent at hfirst
    obtain ⟨outcome, next⟩ := sent
    obtain ⟨hkeys, hpending⟩ := hfirst
    dsimp only at hkeys
    cases outcome with
    | closed => exact ⟨hkeys, hpending⟩
    | queued | full =>
      have hrest := ih (hkeys ▸ hnodup)
      dsimp only
      generalize next.sendAll channel rest = last at hrest
      obtain ⟨⟨delivered, closed⟩, after⟩ := last
      obtain ⟨hkeys', hpending'⟩ := hrest
      dsimp only [Sending.delivered] at hkeys' hpending hpending' ⊢
      exact ⟨hkeys'.trans hkeys, by omega⟩

/-- Sending to some subscriptions makes the queues longer by as many messages as are queued. -/
theorem pending_sendEach {messages : Subscription → List LiveMessage} {subs : List Subscription}
    (hnodup : (hub.queues.map Prod.fst).Nodup) :
    (hub.sendEach messages subs).2.pending = hub.pending + (hub.sendEach messages subs).1.1 := by
  induction subs generalizing hub with
  | nil => rfl
  | cons sub rest ih =>
    have hfirst : ((hub.sendAll sub.channel (messages sub)).2.queues.map Prod.fst) =
        hub.queues.map Prod.fst ∧ (hub.sendAll sub.channel (messages sub)).2.pending =
          hub.pending + (hub.sendAll sub.channel (messages sub)).1.1 := pending_sendAll hnodup
    rw [sendEach]
    generalize hub.sendAll sub.channel (messages sub) = sent at hfirst
    obtain ⟨⟨delivered, closed⟩, next⟩ := sent
    obtain ⟨hkeys, hpending⟩ := hfirst
    have hrest := ih (hkeys ▸ hnodup)
    dsimp only at hpending ⊢
    generalize next.sendEach messages rest = last at hrest
    obtain ⟨⟨more, gone⟩, after⟩ := last
    dsimp only at hrest ⊢
    omega

/-! ## The two are the same -/

/-- A publication is what comes of sending the messages one after another. -/
theorem publish_eq_deliver (hids : (hub.subscriptions.map (·.id)).Nodup)
    (hchannels : (hub.subscriptions.map (·.channel)).Nodup) :
    hub.publish event className objects = hub.deliver event className objects := by
  rw [deliver, sendEach_eq hchannels]
  refine Prod.ext rfl ?_
  rw [publish_snd]
  dsimp only
  rw [enqueue_subscriptions]
  refine congrArg (fun subs => { hub.enqueue (hub.arrivals event className objects) with
    subscriptions := subs }) (List.filter_congr fun sub hsub => ?_)
  -- a subscription is found among those to remove by its id, which it shares with no other
  have hgone : ((hub.subscriptions.filter fun sub => (hub.queue? sub.channel).isNone &&
      !(sub.messages event className objects).isEmpty).map (·.id)).contains sub.id =
        ((hub.queue? sub.channel).isNone &&
          !(sub.messages event className objects).isEmpty) := by
    rw [Bool.eq_iff_iff, List.contains_iff_mem, List.mem_map]
    constructor
    · rintro ⟨other, hother, hid⟩
      obtain ⟨hmem, hclosed⟩ := List.mem_filter.mp hother
      obtain rfl := List.inj_on_of_nodup_map hids hmem hsub hid
      exact hclosed
    · exact fun hclosed => ⟨sub, List.mem_filter.mpr ⟨hsub, hclosed⟩, rfl⟩
  rw [hgone]
  cases hub.queue? sub.channel <;> simp

/-- A publication tells by how many messages the queues have grown. -/
theorem pending_publish (hids : (hub.subscriptions.map (·.id)).Nodup)
    (hchannels : (hub.subscriptions.map (·.channel)).Nodup)
    (hqueues : (hub.queues.map Prod.fst).Nodup) :
    (hub.publish event className objects).2.pending =
      hub.pending + (hub.publish event className objects).1 := by
  rw [publish_eq_deliver hids hchannels]
  exact pending_sendEach hqueues

end Hub

end ObjectQuery
