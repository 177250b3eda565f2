import ObjectQuery.Proofs.Live.Delivery

/-!
# Runs of a hub

A run is a list of steps from an empty hub, in any order: subscriptions are made and cancelled, news is
published, messages are taken out of queues and queues are given up. What every run keeps is stated
beside the subscriptions that it has made: each has the queue of its number, and its id is that number as
a counter of 64 bits has it. So the ids ascend until the counter is through and come again after that,
while the queues never do, and whatever is queued was made for the subscription whose queue it is in.

What one step does is stated for the hub after any run. Seen from one subscription, a hub is no more than
whether it is served and what is in its queue, and each step of a run changes that in a way that depends on
this subscription alone, as long as no other is given its id.
-/

namespace ObjectQuery

namespace Hub

/-- A step of a hub. -/
inductive Action where
  | subscribe (className : String) (filter : Filter) (auth : Auth)
  | unsubscribe (id : Nat)
  | publish (event : LiveEvent) (className : String) (objects : List Json)
  | receive (channel : Nat)
  /-- The reader of a queue gives it up. -/
  | close (channel : Nat)

/-- The hub after a step. -/
def act (hub : Hub) : Action → Hub
  | .subscribe className filter auth => (hub.subscribe className filter auth).2
  | .unsubscribe id => (hub.unsubscribe id).2
  | .publish event className objects => (hub.publish event className objects).2
  | .receive channel => (hub.receive channel).2
  | .close channel => (hub.close channel).2

/-- The hub after some steps. -/
def run (hub : Hub) (actions : List Action) : Hub := actions.foldl act hub

/-- The subscription that a step makes, under the id that it answers with. -/
def makes (hub : Hub) : Action → List Subscription
  | .subscribe className filter auth =>
    [⟨(hub.subscribe className filter auth).1, hub.opened + 1, className, filter.simplify, auth⟩]
  | _ => []

/-- The subscriptions that some steps make, one after another. -/
def made (hub : Hub) : List Action → List Subscription
  | [] => []
  | a :: rest => hub.makes a ++ (hub.act a).made rest

variable {buffer channel : Nat} {made : List Subscription} {hub : Hub} {sub : Subscription}

/-- Taking messages out of a queue one by one leaves those behind the first so many. -/
theorem run_receive (n : Nat) : hub.run (List.replicate n (.receive channel)) =
    { hub with queues := hub.queues.map fun entry =>
      (entry.1, if entry.1 = channel then entry.2.drop n else entry.2) } := by
  induction n generalizing hub with
  | zero => simp [run]
  | succ n ih =>
    rw [List.replicate_succ]
    change (hub.receive channel).2.run _ = _
    rw [ih, receive]
    simp only [List.map_map, Function.comp_def]
    refine congrArg (fun queues => { hub with queues }) (List.map_congr_left fun entry _ => ?_)
    split <;> simp

/-- Draining a queue takes its messages out one by one. -/
theorem drain_eq_run :
    ∃ n, (hub.drain channel).2 = hub.run (List.replicate n (.receive channel)) := by
  refine ⟨hub.pending, ?_⟩
  rw [run_receive, drain]
  refine congrArg (fun queues => { hub with queues }) (List.map_congr_left fun entry hentry => ?_)
  have hlength : entry.2.length ≤ hub.pending :=
    (List.sublist_flatten_of_mem (List.mem_map_of_mem hentry)).length_le
  rw [List.drop_eq_nil_of_le hlength]
  split
  next hchannel => rw [hchannel]
  next => rfl

/-! ## What every run keeps -/

/-- What is kept of a hub, beside the subscriptions that have been made. -/
structure Kept (buffer : Nat) (made : List Subscription) (hub : Hub) : Prop where
  capacity : hub.capacity = max buffer 1
  opened : hub.opened = made.length
  nextId : hub.nextId.toNat = (made.length + 1) % UInt64.size
  channels : made.map (·.channel) = List.range' 1 made.length
  ids : ∀ sub ∈ made, sub.id = sub.channel % UInt64.size
  subscriptions : hub.subscriptions.Sublist made
  apart : (hub.subscriptions.map (·.id)).Nodup
  keys : (hub.queues.map Prod.fst).Sublist (made.map (·.channel))
  bounded : ∀ entry ∈ hub.queues, entry.2.length ≤ hub.capacity
  admitted : ∀ entry ∈ hub.queues, ∀ message ∈ entry.2,
    ∀ sub ∈ made, sub.channel = entry.1 → sub.Admits message

/-- Before any step nothing has been made and nothing is queued. -/
theorem kept_new : Kept buffer [] (new buffer) where
  capacity := rfl
  opened := rfl
  nextId := rfl
  channels := rfl
  ids := nofun
  subscriptions := .slnil
  apart := .nil
  keys := .slnil
  bounded := nofun
  admitted := nofun

namespace Kept

/-- No two subscriptions have been given one queue. -/
theorem nodup_made (h : Kept buffer made hub) : (made.map (·.channel)).Nodup := by
  rw [h.channels]
  exact List.nodup_range'

/-- No two of the subscriptions that are served feed one queue. -/
theorem nodup_subscriptions (h : Kept buffer made hub) :
    (hub.subscriptions.map (·.channel)).Nodup :=
  h.nodup_made.sublist (h.subscriptions.map _)

/-- No two queues have one number. -/
theorem nodup_keys (h : Kept buffer made hub) : (hub.queues.map Prod.fst).Nodup :=
  h.nodup_made.sublist h.keys

/-- Subscriptions of one queue are the same. -/
theorem eq_of_channel (h : Kept buffer made hub) {other : Subscription} (hsub : sub ∈ made)
    (hother : other ∈ made) (hchannel : sub.channel = other.channel) : sub = other :=
  List.inj_on_of_nodup_map h.nodup_made hsub hother hchannel

/-- The queues are numbered in the order in which the subscriptions are made. -/
theorem channel_getElem (h : Kept buffer made hub) {n : Nat} (hn : n < made.length) :
    made[n].channel = n + 1 := by
  have hmap : (made.map (·.channel))[n]? = (List.range' 1 made.length)[n]? := by rw [h.channels]
  rw [List.getElem?_map, List.getElem?_eq_getElem hn, List.getElem?_range' hn] at hmap
  have hchannel : made[n].channel = 1 + 1 * n := Option.some.inj hmap
  omega

/-- The ids are the numbers of the queues, as a counter of 64 bits has them. -/
theorem id_getElem (h : Kept buffer made hub) {n : Nat} (hn : n < made.length) :
    made[n].id = (n + 1) % UInt64.size := by
  rw [h.ids _ (List.getElem_mem hn), h.channel_getElem hn]

/-- The number of a queue is at most that of the last one that has been opened. -/
theorem channel_le (h : Kept buffer made hub) (hsub : sub ∈ made) : sub.channel ≤ hub.opened := by
  obtain ⟨n, hn, rfl⟩ := List.getElem_of_mem hsub
  rw [h.channel_getElem hn, h.opened]
  exact hn

/-- A queue that is there was opened for a subscription. -/
theorem exists_of_queue? (h : Kept buffer made hub) {queue : List LiveMessage}
    (hqueue : hub.queue? channel = some queue) : ∃ sub ∈ made, sub.channel = channel :=
  List.mem_map.mp (h.keys.subset (List.mem_map_of_mem (mem_of_queue? hqueue)))

/-- The number of the next queue is that of none. -/
theorem queue?_next (h : Kept buffer made hub) : hub.queue? (hub.opened + 1) = none := by
  cases hqueue : hub.queue? (hub.opened + 1) with
  | none => rfl
  | some queue =>
    obtain ⟨sub, hsub, hchannel⟩ := h.exists_of_queue? hqueue
    have hle : sub.channel ≤ hub.opened := h.channel_le hsub
    omega

/-! ### Ids -/

/-- The ids ascend as long as the counter has not come to its end. -/
theorem ascending_iff (h : Kept buffer made hub) :
    made.Pairwise (fun sub later => sub.id < later.id) ↔ made.length < UInt64.size := by
  rw [List.pairwise_iff_getElem]
  constructor
  · intro hascending
    apply Nat.lt_of_not_le
    intro hthrough
    -- the last number of the counter is followed by zero, which is less than the first id
    have hfirst : 0 < made.length := Nat.lt_of_lt_of_le (by decide) hthrough
    have hlast : UInt64.size - 1 < made.length := Nat.lt_of_lt_of_le (by decide) hthrough
    have hlt := hascending 0 (UInt64.size - 1) hfirst hlast (by decide)
    rw [h.id_getElem hfirst, h.id_getElem hlast] at hlt
    exact absurd hlt (by decide)
  · intro hshort i j hi hj hij
    rw [h.id_getElem hi, h.id_getElem hj, Nat.mod_eq_of_lt (by omega), Nat.mod_eq_of_lt (by omega)]
    omega

/-- No id is given twice as long as the counter has not gone through all of its numbers. -/
theorem nodup_ids_iff (h : Kept buffer made hub) :
    (made.map (·.id)).Nodup ↔ made.length ≤ UInt64.size := by
  rw [List.nodup_iff_pairwise_ne, List.pairwise_map, List.pairwise_iff_getElem]
  constructor
  · intro hdistinct
    apply Nat.le_of_not_lt
    intro hthrough
    have hfirst : 0 < made.length := Nat.zero_lt_of_lt hthrough
    refine hdistinct 0 UInt64.size hfirst hthrough (by decide) ?_
    rw [h.id_getElem hfirst, h.id_getElem hthrough]
    decide
  · intro hshort i j hi hj hij
    rw [h.id_getElem hi, h.id_getElem hj]
    simp only [UInt64.size] at hshort ⊢
    omega

/-- The next id is new as long as the counter has not gone through all of its numbers. -/
theorem nextId_new_iff (h : Kept buffer made hub) :
    (∀ sub ∈ made, sub.id ≠ hub.nextId.toNat) ↔ made.length < UInt64.size := by
  rw [h.nextId]
  constructor
  · intro hnew
    apply Nat.lt_of_not_le
    intro hthrough
    -- the one that was made a whole turn of the counter ago has the same id
    have hn : made.length - UInt64.size < made.length := Nat.sub_lt_self (by decide) hthrough
    refine hnew _ (List.getElem_mem hn) ?_
    rw [h.id_getElem hn]
    simp only [UInt64.size] at hthrough ⊢
    omega
  · intro hshort sub hsub
    obtain ⟨n, hn, rfl⟩ := List.getElem_of_mem hsub
    rw [h.id_getElem hn]
    simp only [UInt64.size] at hshort ⊢
    omega

/-! ### Steps -/

/-- A new subscription has the next number, and its id is that of the counter. -/
theorem subscribe (h : Kept buffer made hub) (className : String) (filter : Filter) (auth : Auth) :
    Kept buffer (made ++ hub.makes (.subscribe className filter auth))
      (hub.act (.subscribe className filter auth)) where
  capacity := h.capacity
  opened := by
    rw [List.length_append]
    exact congrArg (· + 1) h.opened
  nextId := by
    rw [List.length_append]
    show (hub.nextId + 1).toNat = (made.length + 1 + 1) % UInt64.size
    rw [UInt64.toNat_add, UInt64.toNat_one, h.nextId]
    exact Nat.mod_add_mod (made.length + 1) UInt64.size 1
  channels := by
    rw [List.map_append, List.length_append, h.channels]
    show List.range' 1 made.length ++ [hub.opened + 1] = List.range' 1 (made.length + 1)
    rw [List.range'_1_concat, h.opened, Nat.add_comm]
  ids sub hsub := by
    rcases List.mem_append.mp hsub with hsub | hsub
    · exact h.ids sub hsub
    · obtain rfl := List.mem_singleton.mp hsub
      show hub.nextId.toNat = (hub.opened + 1) % UInt64.size
      rw [h.nextId, h.opened]
  subscriptions := (List.filter_sublist.trans h.subscriptions).append (.refl _)
  apart := by
    rw [Hub.act, Hub.subscribe, List.map_append, List.nodup_append]
    refine ⟨h.apart.sublist (List.filter_sublist.map _), List.nodup_singleton _, ?_⟩
    intro id hid new hnew
    obtain ⟨other, hother, rfl⟩ := List.mem_map.mp hid
    obtain rfl := List.mem_singleton.mp hnew
    exact bne_iff_ne.mp (List.mem_filter.mp hother).2
  keys := by
    simpa [act, makes, Hub.subscribe] using h.keys
  bounded entry hentry := by
    rcases List.mem_append.mp hentry with hentry | hentry
    · exact h.bounded entry hentry
    · obtain rfl := List.mem_singleton.mp hentry
      exact Nat.zero_le _
  admitted entry hentry message hmessage sub hsub hchannel := by
    rcases List.mem_append.mp hentry with hentry | hentry
    · rcases List.mem_append.mp hsub with hsub | hsub
      · exact h.admitted entry hentry message hmessage sub hsub hchannel
      · -- the queue of the new subscription is none of those that were there
        obtain rfl := List.mem_singleton.mp hsub
        exact absurd hchannel.symm (queue?_eq_none.mp h.queue?_next entry hentry)
    · obtain rfl := List.mem_singleton.mp hentry
      cases hmessage

/-- Cancelling a subscription takes it away from those that are served, and changes no queue. -/
theorem unsubscribe (h : Kept buffer made hub) (id : Nat) :
    Kept buffer made (hub.unsubscribe id).2 :=
  { h with
    subscriptions := List.filter_sublist.trans h.subscriptions
    apart := h.apart.sublist (List.filter_sublist.map _) }

/-- Taking a message out of a queue leaves some of those that were there, in their order. -/
theorem receive (h : Kept buffer made hub) (channel : Nat) :
    Kept buffer made (hub.receive channel).2 :=
  { h with
    keys := by simpa [Hub.receive, Function.comp_def] using h.keys
    bounded := by
      intro entry hentry
      obtain ⟨before, hbefore, rfl⟩ := List.mem_map.mp hentry
      have hlength := h.bounded before hbefore
      dsimp only
      split
      next => exact Nat.le_trans (List.tail_sublist _).length_le hlength
      next => exact hlength
    admitted := by
      intro entry hentry message hmessage
      obtain ⟨before, hbefore, rfl⟩ := List.mem_map.mp hentry
      refine h.admitted before hbefore message ?_
      dsimp only at hmessage
      split at hmessage
      next => exact List.mem_of_mem_tail hmessage
      next => exact hmessage }

/-- Giving up a queue leaves the others, and the subscription until the next message for it. -/
theorem close (h : Kept buffer made hub) (channel : Nat) : Kept buffer made (hub.close channel).2 :=
  { h with
    keys := (List.filter_sublist.map _).trans h.keys
    bounded := fun entry hentry => h.bounded entry (List.mem_filter.mp hentry).1
    admitted := fun entry hentry => h.admitted entry (List.mem_filter.mp hentry).1 }

/-- What a publication adds to a queue finds a place there and is for the subscription of the queue. -/
theorem publish (h : Kept buffer made hub) (event : LiveEvent) (className : String)
    (objects : List Json) : Kept buffer made (hub.publish event className objects).2 :=
  { h with
    subscriptions := List.filter_sublist.trans h.subscriptions
    apart := h.apart.sublist (List.filter_sublist.map _)
    keys := by
      rw [publish_snd]
      exact enqueue_keys.symm ▸ h.keys
    bounded := by
      intro entry hentry
      obtain ⟨before, hbefore, rfl⟩ := List.mem_map.mp hentry
      have hlength := h.bounded before hbefore
      have harrivals : (hub.arrivals event className objects before.1).length ≤
          hub.capacity - before.2.length :=
        length_arrivals_le h.nodup_subscriptions (queue?_of_mem h.nodup_keys hbefore)
      change (before.2 ++ hub.arrivals event className objects before.1).length ≤ hub.capacity
      rw [List.length_append]
      omega
    admitted := by
      intro entry hentry message hmessage sub hsub hchannel
      obtain ⟨before, hbefore, rfl⟩ := List.mem_map.mp hentry
      rcases List.mem_append.mp hmessage with hmessage | hmessage
      · exact h.admitted before hbefore message hmessage sub hsub hchannel
      · obtain ⟨served, hserved, hkey, hadmits⟩ := exists_of_mem_arrivals hmessage
        obtain rfl :=
          h.eq_of_channel hsub (h.subscriptions.subset hserved) (hchannel.trans hkey.symm)
        exact hadmits }

/-- What is kept is kept by every step. -/
theorem act (h : Kept buffer made hub) (a : Action) : Kept buffer (made ++ hub.makes a) (hub.act a) := by
  cases a with
  | subscribe className filter auth => exact h.subscribe className filter auth
  | unsubscribe id => exact (List.append_nil made).symm ▸ h.unsubscribe id
  | publish event className objects =>
    exact (List.append_nil made).symm ▸ h.publish event className objects
  | receive channel => exact (List.append_nil made).symm ▸ h.receive channel
  | close channel => exact (List.append_nil made).symm ▸ h.close channel

/-- What is kept is kept by every run. -/
theorem run (h : Kept buffer made hub) (actions : List Action) :
    Kept buffer (made ++ hub.made actions) (hub.run actions) := by
  induction actions generalizing made hub with
  | nil => exact (List.append_nil made).symm ▸ h
  | cons a rest ih =>
    rw [Hub.made, ← List.append_assoc]
    exact ih (h.act a)

end Kept

/-! ## What comes to an end -/

/-- Whether a step takes a message out of a queue. -/
def Action.receives (channel : Nat) : Action → Bool
  | .receive other => other == channel
  | _ => false

/-- No step takes back that a queue has been opened. -/
theorem opened_le_act (a : Action) : hub.opened ≤ (hub.act a).opened := by
  cases a with
  | subscribe className filter auth => exact Nat.le_succ _
  | _ => exact Nat.le_refl _

/-- A queue that is not fed is fed by no step, once it has been opened. -/
theorem feeds_act (h : hub.feeds channel = false) (hopened : channel ≤ hub.opened) (a : Action) :
    (hub.act a).feeds channel = false := by
  have hfilter (keep : Subscription → Bool) :
      ((hub.subscriptions.filter keep).any fun sub => sub.channel == channel) = false :=
    List.any_eq_false.mpr fun sub hsub => List.any_eq_false.mp h sub (List.mem_filter.mp hsub).1
  cases a with
  | subscribe className filter auth =>
    have hnew : (hub.opened + 1 == channel) = false := beq_eq_false_iff_ne.mpr (by omega)
    refine List.any_append.trans ?_
    rw [List.any_cons, hnew, List.any_nil, Bool.or_false, Bool.or_false]
    exact hfilter _
  | unsubscribe id => exact hfilter _
  | publish event className objects => exact hfilter _
  | receive other => exact h
  | close other => exact h

/-- A queue that is not fed is left as it is but for what is taken out of it. -/
theorem queue?_act_of_unfed (h : hub.feeds channel = false) (hopened : channel ≤ hub.opened)
    {a : Action} {queue : List LiveMessage} (hqueue : (hub.act a).queue? channel = some queue) :
    ∃ before, hub.queue? channel = some before ∧
      queue = before.drop (if a.receives channel then 1 else 0) := by
  cases a with
  | subscribe className filter auth =>
    exact ⟨queue, (queue?_subscribe_of_ne (by omega)).symm.trans hqueue, rfl⟩
  | unsubscribe id => exact ⟨queue, hqueue, rfl⟩
  | publish event className objects =>
    obtain ⟨before, hbefore, rfl⟩ := Option.map_eq_some_iff.mp (queue?_publish.symm.trans hqueue)
    rw [arrivals_eq_nil h, List.append_nil]
    exact ⟨before, hbefore, rfl⟩
  | receive other =>
    obtain ⟨before, hbefore, rfl⟩ := Option.map_eq_some_iff.mp (queue?_receive.symm.trans hqueue)
    refine ⟨before, hbefore, ?_⟩
    by_cases hother : channel = other
    · simp [Action.receives, hother]
    · simp [Action.receives, hother, Ne.symm hother]
  | close other =>
    by_cases hother : channel = other
    · subst hother
      exact absurd (queue?_close_self.symm.trans hqueue) nofun
    · exact ⟨queue, (queue?_close_of_ne hother).symm.trans hqueue, rfl⟩

/-- A queue that is not fed loses one message for each that is taken out, and gets none. -/
theorem queue?_run_of_unfed (h : hub.feeds channel = false) (hopened : channel ≤ hub.opened)
    {actions : List Action} {queue : List LiveMessage}
    (hqueue : (hub.run actions).queue? channel = some queue) :
    ∃ before, hub.queue? channel = some before ∧
      queue = before.drop (actions.countP (·.receives channel)) := by
  induction actions generalizing hub with
  | nil => exact ⟨queue, hqueue, rfl⟩
  | cons a rest ih =>
    obtain ⟨between, hbetween, rfl⟩ :=
      ih (feeds_act h hopened a) (Nat.le_trans hopened (opened_le_act a)) hqueue
    obtain ⟨before, hbefore, rfl⟩ := queue?_act_of_unfed h hopened hbetween
    refine ⟨before, hbefore, ?_⟩
    rw [List.drop_drop, List.countP_cons, Nat.add_comm]

/-- A queue that has been given up is opened by no step. -/
theorem queue?_act_of_closed (h : hub.queue? channel = none) (hopened : channel ≤ hub.opened)
    (a : Action) : (hub.act a).queue? channel = none := by
  cases a with
  | subscribe className filter auth =>
    exact (queue?_subscribe_of_ne (by omega)).trans h
  | unsubscribe id => exact h
  | publish event className objects =>
    exact queue?_publish.trans (by rw [h, Option.map_none])
  | receive other => exact queue?_receive.trans (by rw [h, Option.map_none])
  | close other =>
    by_cases hother : channel = other
    · subst hother
      exact queue?_close_self
    · exact (queue?_close_of_ne hother).trans h

/-- A queue that has been given up stays so. -/
theorem queue?_run_of_closed (h : hub.queue? channel = none) (hopened : channel ≤ hub.opened)
    (actions : List Action) : (hub.run actions).queue? channel = none := by
  induction actions generalizing hub with
  | nil => exact h
  | cons a rest ih =>
    exact ih (queue?_act_of_closed h hopened a) (Nat.le_trans hopened (opened_le_act a))

/-! ## What one subscription sees -/

/-- What a hub holds for one subscription. -/
@[ext]
structure Share where
  /-- Whether it gets messages. -/
  served : Bool
  /-- What is in its queue, unless that has been given up. -/
  queue : Option (List LiveMessage)

/-- What a hub holds for a subscription that has been made in it. -/
def share (hub : Hub) (sub : Subscription) : Share := ⟨hub.feeds sub.channel, hub.queue? sub.channel⟩

/--
What a step makes of a subscription's share, where queues hold so many messages. A publication adds the
first messages for it, as many as there are places, and ends its service if there are some and its queue
has been given up.
-/
def Share.act (capacity : Nat) (sub : Subscription) (share : Share) : Action → Share
  | .subscribe _ _ _ => share
  | .unsubscribe id => { share with served := share.served && sub.id != id }
  | .publish event className objects =>
    let messages := sub.messages event className objects
    { served := share.served && (share.queue.isSome || messages.isEmpty)
      queue := if share.served then
          share.queue.map fun queue => queue ++ messages.take (capacity - queue.length)
        else share.queue }
  | .receive channel =>
    { share with queue := if channel = sub.channel then share.queue.map List.tail else share.queue }
  | .close channel =>
    { share with queue := if channel = sub.channel then none else share.queue }

namespace Kept

/-- A subscription gets messages if it is among those that are served. -/
theorem feeds_iff (h : Kept buffer made hub) (hsub : sub ∈ made) :
    hub.feeds sub.channel = true ↔ sub ∈ hub.subscriptions := by
  rw [feeds, List.any_eq_true]
  constructor
  · intro hfed
    obtain ⟨other, hother, hchannel⟩ := hfed
    obtain rfl := h.eq_of_channel (h.subscriptions.subset hother) hsub (eq_of_beq hchannel)
    exact hother
  · intro hserved
    exact ⟨sub, hserved, beq_self_eq_true _⟩

/-- Where some subscriptions are dropped, one is still served if it was and is not dropped. -/
theorem any_filter (h : Kept buffer made hub) (hsub : sub ∈ made) (keep : Subscription → Bool) :
    ((hub.subscriptions.filter keep).any fun other => other.channel == sub.channel) =
      (hub.feeds sub.channel && keep sub) := by
  rw [Bool.eq_iff_iff, Bool.and_eq_true, h.feeds_iff hsub, List.any_eq_true]
  constructor
  · intro hkept
    obtain ⟨other, hother, hchannel⟩ := hkept
    obtain ⟨hserved, hkeep⟩ := List.mem_filter.mp hother
    obtain rfl := h.eq_of_channel (h.subscriptions.subset hserved) hsub (eq_of_beq hchannel)
    exact ⟨hserved, hkeep⟩
  · intro hkept
    exact ⟨sub, List.mem_filter.mpr hkept, beq_self_eq_true _⟩

/-- A publication adds to the queue of a subscription what finds a place there, if it is served. -/
theorem queue?_publish (h : Kept buffer made hub) (hsub : sub ∈ made) (event : LiveEvent)
    (className : String) (objects : List Json) :
    (hub.publish event className objects).2.queue? sub.channel =
      if hub.feeds sub.channel then
        (hub.queue? sub.channel).map fun queue =>
          queue ++ (sub.messages event className objects).take (hub.capacity - queue.length)
      else hub.queue? sub.channel := by
  rw [Hub.queue?_publish]
  cases hfed : hub.feeds sub.channel with
  | false =>
    rw [arrivals_eq_nil hfed]
    simp
  | true =>
    rw [if_pos rfl, arrivals_eq h.nodup_subscriptions ((h.feeds_iff hsub).mp hfed)]
    unfold accepted
    cases hub.queue? sub.channel <;> rfl

/-- What a step makes of the share of a subscription depends on that subscription alone. -/
theorem share_act (h : Kept buffer made hub) (hsub : sub ∈ made) (a : Action)
    (hid : ∀ other ∈ hub.makes a, other.id ≠ sub.id) :
    (hub.act a).share sub = (hub.share sub).act hub.capacity sub a := by
  cases a with
  | subscribe className filter auth =>
    have hchannel : sub.channel ≠ hub.opened + 1 := Nat.ne_of_lt (Nat.lt_succ_of_le (h.channel_le hsub))
    have hkept : (sub.id != hub.nextId.toNat) = true :=
      bne_iff_ne.mpr (hid _ List.mem_cons_self).symm
    have hnew : (hub.opened + 1 == sub.channel) = false := beq_eq_false_iff_ne.mpr hchannel.symm
    have hfeeds : (hub.act (.subscribe className filter auth)).feeds sub.channel =
        hub.feeds sub.channel := by
      refine List.any_append.trans ?_
      rw [h.any_filter hsub, List.any_cons, hnew, List.any_nil, Bool.or_false, Bool.or_false]
      show (hub.feeds sub.channel && (sub.id != hub.nextId.toNat)) = hub.feeds sub.channel
      rw [hkept, Bool.and_true]
    exact Share.ext hfeeds (queue?_subscribe_of_ne hchannel)
  | unsubscribe id =>
    exact Share.ext (h.any_filter hsub _) rfl
  | publish event className objects =>
    exact Share.ext (h.any_filter hsub _) (h.queue?_publish hsub event className objects)
  | receive channel =>
    have hqueue : (hub.receive channel).2.queue? sub.channel =
        if channel = sub.channel then (hub.queue? sub.channel).map List.tail
        else hub.queue? sub.channel := by
      rw [queue?_receive]
      by_cases hchannel : channel = sub.channel
      · simp [hchannel]
      · simp [hchannel, Ne.symm hchannel]
    exact Share.ext rfl hqueue
  | close channel =>
    have hqueue : (hub.close channel).2.queue? sub.channel =
        if channel = sub.channel then none else hub.queue? sub.channel := by
      by_cases hchannel : channel = sub.channel
      · rw [if_pos hchannel, hchannel, queue?_close_self]
      · rw [if_neg hchannel, queue?_close_of_ne (Ne.symm hchannel)]
    exact Share.ext rfl hqueue

/-- No step changes how many messages a queue holds. -/
theorem capacity_act (a : Action) : (hub.act a).capacity = hub.capacity := by
  cases a <;> rfl

/-- What a run makes of the share of a subscription, as long as its id is given to no other. -/
theorem share_run (h : Kept buffer made hub) (hsub : sub ∈ made) (actions : List Action)
    (hid : ∀ other ∈ hub.made actions, other.id ≠ sub.id) :
    (hub.run actions).share sub = actions.foldl (Share.act hub.capacity sub) (hub.share sub) := by
  induction actions generalizing made hub with
  | nil => rfl
  | cons a rest ih =>
    have hfirst := h.share_act hsub a fun other hother => hid other (List.mem_append_left _ hother)
    have hrest := ih (h.act a) (List.mem_append_left _ hsub) fun other hother =>
      hid other (List.mem_append_right _ hother)
    rw [List.foldl_cons, ← hfirst, ← capacity_act a]
    exact hrest

end Kept

/-! ## The laws -/

/-- What a new subscription changes in a hub. -/
structure Subscribed (hub : Hub) (sub : Subscription) (after : Hub) : Prop where
  /-- It is served, and so is every other that was, but for one of its id. -/
  served : ∀ other, other ∈ after.subscriptions ↔
    other = sub ∨ other ∈ hub.subscriptions ∧ other.id ≠ sub.id
  unopened : hub.queue? sub.channel = none
  /-- Its queue is open and empty. -/
  opened : after.queue? sub.channel = some []
  others : ∀ channel, channel ≠ sub.channel → after.queue? channel = hub.queue? channel

/-- What the news of some objects changes in a hub, if so many messages are queued for it. -/
structure Published (hub : Hub) (event : LiveEvent) (className : String) (objects : List Json)
    (delivered : Nat) (after : Hub) : Prop where
  /-- A subscriber gets the first of the objects it wants, as many as its queue has places. -/
  queued : ∀ sub ∈ hub.subscriptions, ∀ queue, hub.queue? sub.channel = some queue →
    after.queue? sub.channel = some (queue ++
      ((objects.filter (sub.wants className)).take (hub.capacity - queue.length)).map fun object =>
        ⟨sub.id, event, className, object⟩)
  others : ∀ channel, hub.feeds channel = false → after.queue? channel = hub.queue? channel
  closed : ∀ channel, hub.queue? channel = none → after.queue? channel = none
  delivered : after.pending = hub.pending + delivered
  /-- A subscription is removed if it wants one of the objects and its queue has been given up. -/
  removed : ∀ sub, sub ∈ after.subscriptions ↔ sub ∈ hub.subscriptions ∧
    ¬ (hub.queue? sub.channel = none ∧ ∃ object ∈ objects, sub.wants className object = true)

/-- After any run a new subscription is recorded as it was asked for, with a queue of its own. -/
theorem Kept.subscribed (h : Kept buffer made hub) (className : String) (filter : Filter)
    (auth : Auth) :
    Subscribed hub
      ⟨(hub.subscribe className filter auth).1, made.length + 1, className, filter.simplify, auth⟩
      (hub.subscribe className filter auth).2 := by
  rw [← h.opened]
  exact {
    served := fun other => mem_subscribe
    unopened := h.queue?_next
    opened := queue?_subscribe_self h.queue?_next
    others := fun channel hchannel => queue?_subscribe_of_ne hchannel }

/-- After any run a publication reaches the subscriptions that are served, each by its own queue. -/
theorem Kept.published (h : Kept buffer made hub) (event : LiveEvent) (className : String)
    (objects : List Json) :
    Published hub event className objects (hub.publish event className objects).1
      (hub.publish event className objects).2 where
  queued sub hsub queue hqueue := by
    have hmade : sub ∈ made := h.subscriptions.subset hsub
    rw [h.queue?_publish hmade, if_pos ((h.feeds_iff hmade).mpr hsub), hqueue, Option.map_some,
      Subscription.messages, List.map_take]
  others channel hunfed := by
    rw [Hub.queue?_publish, arrivals_eq_nil hunfed]
    simp
  closed channel hclosed := by rw [Hub.queue?_publish, hclosed, Option.map_none]
  delivered := pending_publish h.apart h.nodup_subscriptions h.nodup_keys
  removed sub := by
    rw [publish_snd, List.mem_filter]
    refine and_congr_right fun _ => ?_
    rw [Bool.or_eq_true, List.isEmpty_iff, Subscription.messages_eq_nil]
    cases hub.queue? sub.channel <;> simp

/--
What is true of a hub, beside the subscriptions that have been made in it. The ids are those of a counter
of 64 bits, and ascend until it is through; then they come again, while queues never do.
-/
structure Lawful (buffer : Nat) (made : List Subscription) (hub : Hub) : Prop where
  numbered : ∀ n (h : n < made.length),
    made[n].channel = n + 1 ∧ made[n].id = (n + 1) % UInt64.size
  ascending : made.Pairwise (fun sub later => sub.id < later.id) ↔ made.length < UInt64.size
  distinct : (made.map (·.id)).Nodup ↔ made.length ≤ UInt64.size
  unused : ∀ className filter auth,
    (∀ sub ∈ made, sub.id ≠ (hub.subscribe className filter auth).1) ↔ made.length < UInt64.size
  served : ∀ sub ∈ hub.subscriptions, sub ∈ made
  bounded : ∀ channel queue, hub.queue? channel = some queue → queue.length ≤ max buffer 1
  admitted : ∀ channel queue, hub.queue? channel = some queue →
    ∃ sub ∈ made, sub.channel = channel ∧ ∀ message ∈ queue, sub.Admits message
  subscribed : ∀ className filter auth, Subscribed hub
    ⟨(hub.subscribe className filter auth).1, made.length + 1, className, filter.simplify, auth⟩
    (hub.subscribe className filter auth).2
  /-- A publication is what comes of sending its messages one after another. -/
  sent : ∀ event className objects,
    hub.publish event className objects = hub.deliver event className objects
  published : ∀ event className objects,
    Published hub event className objects (hub.publish event className objects).1
      (hub.publish event className objects).2
  shared : ∀ sub ∈ made, (hub.share sub).served = true ↔ sub ∈ hub.subscriptions
  /--
  A subscription stays as it is, served and with its queue, but for what the steps do that concern it,
  until another is given its id.
  -/
  followed : ∀ sub ∈ made, ∀ later, (∀ other ∈ hub.made later, other.id ≠ sub.id) →
    (hub.run later).share sub = later.foldl (Share.act (max buffer 1) sub) (hub.share sub)
  /-- Once a subscription is cancelled, messages are taken out of its queue and none is added. -/
  unsubscribed : ∀ sub ∈ made, ∀ later queue,
    ((hub.unsubscribe sub.id).2.run later).queue? sub.channel = some queue →
      ∃ before, hub.queue? sub.channel = some before ∧
        queue = before.drop (later.countP (·.receives sub.channel))
  /-- Once a queue is given up there is none for its subscription. -/
  closed : ∀ sub ∈ made, ∀ later,
    ((hub.close sub.channel).2.run later).queue? sub.channel = none

/-- Whatever the size of its queues and whatever is done with it, a hub is lawful. -/
theorem run_lawful (buffer : Nat) (actions : List Action) :
    Lawful buffer ((new buffer).made actions) ((new buffer).run actions) := by
  have h : Kept buffer ((new buffer).made actions) ((new buffer).run actions) := kept_new.run actions
  generalize (new buffer).made actions = made at h
  generalize (new buffer).run actions = hub at h
  exact {
    numbered := fun n hn => ⟨h.channel_getElem hn, h.id_getElem hn⟩
    ascending := h.ascending_iff
    distinct := h.nodup_ids_iff
    unused := fun _ _ _ => h.nextId_new_iff
    served := fun _ hsub => h.subscriptions.subset hsub
    bounded := fun channel queue hqueue => h.capacity ▸ h.bounded _ (mem_of_queue? hqueue)
    admitted := fun channel queue hqueue => by
      obtain ⟨sub, hsub, hchannel⟩ := h.exists_of_queue? hqueue
      exact ⟨sub, hsub, hchannel, fun message hmessage =>
        h.admitted _ (mem_of_queue? hqueue) message hmessage sub hsub hchannel⟩
    subscribed := h.subscribed
    sent := fun _ _ _ => publish_eq_deliver h.apart h.nodup_subscriptions
    published := h.published
    shared := fun _ hsub => h.feeds_iff hsub
    followed := fun _ hsub later hid => h.capacity ▸ h.share_run hsub later hid
    unsubscribed := fun sub hsub later queue hqueue =>
      have hunfed : (hub.unsubscribe sub.id).2.feeds sub.channel = false := by
        refine (h.any_filter hsub _).trans ?_
        rw [bne_self_eq_false, Bool.and_false]
      queue?_run_of_unfed hunfed (h.channel_le hsub) hqueue
    closed := fun sub hsub later => queue?_run_of_closed queue?_close_self (h.channel_le hsub) later }

end Hub

end ObjectQuery
