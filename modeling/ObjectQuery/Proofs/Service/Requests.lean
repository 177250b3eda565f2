import ObjectQuery.Proofs.Live.Delivery
import ObjectQuery.Proofs.Service.Calls

/-!
# What a request may cause

A request is seen from outside by the calls it sends to the store and by what subscribers are told.
Whatever the store answers, each call carries a query that the gate has accepted for the caller, and
beside it nothing that the gate has not admitted. Subscribers are told after the last call, and of
what is answered alone: a request that ends in an error has told them nothing.
-/

namespace ObjectQuery

namespace Serve

variable {P : StoreCall → Prop}

/-- A loop sends what its items send, and its answers are those of its items. -/
theorem sends_mapM {R : α → β → Prop} {f : α → Serve β} {xs : List α}
    (hf : ∀ x ∈ xs, Sends P (R x) (f x)) : Sends P (List.Forall₂ R xs) (xs.mapM f) := by
  induction xs with
  | nil => exact sends_pure .nil
  | cons x xs ih =>
    rw [List.mapM_cons]
    refine sends_bind (hf x List.mem_cons_self) fun y hy => ?_
    refine sends_bind (ih fun x hx => hf x (List.mem_cons_of_mem _ hx)) fun ys hys => ?_
    exact sends_pure (.cons hy hys)

/-- An answer that is handed on in another form has sent what it has. -/
theorem sends_map {x : Serve α} {form : α → β} (hx : Sends P (fun _ => True) x) :
    Sends P (fun _ => True) (do return form (← x)) :=
  sends_bind hx fun _ _ => sends_pure trivial

/-- Nothing is sent unless a query is accepted. -/
theorem sends_accepted {accepted : Result Query} {reply : List StoreCall → Result α}
    {call : Query → StoreCall} (h : ∀ q, accepted = .ok q → P (call q)) :
    Sends P (fun _ => True) (do Session.send reply (call (← accepted))) :=
  sends_bind (sends_lift fun _ hq => hq) fun q hq => sends_send (h q hq) fun _ _ _ => trivial

/-! ## Subscribers -/

/-- A request tells subscribers nothing, whether it is answered or refused. -/
def Silent (x : Serve α) : Prop := ∀ s : Session, (x.run.run s).2.hub = s.hub

/-- An answer is told to subscribers as `told` says; a refusal is not told. -/
def Tells (told : α → Hub → Hub) (x : Serve α) : Prop :=
  ∀ s : Session, (x.run.run s).2.hub =
    match (x.run.run s).1 with
    | .ok a => told a s.hub
    | .error _ => s.hub

theorem silent_pure {a : α} : Silent (pure a : Serve α) := fun _ => rfl

theorem silent_throw {e : Error} : Silent (throw e : Serve α) := fun _ => rfl

/-- A check tells nothing. -/
theorem silent_lift {r : Result α} : Silent (liftM r : Serve α) := by
  cases r <;> exact fun _ => rfl

theorem silent_send {reply : List StoreCall → Result α} {call : StoreCall} :
    Silent (Session.send reply call) := fun _ => rfl

theorem silent_draw : Silent Session.draw := fun _ => rfl

/-- What is told behind a request that tells nothing is told in all. -/
theorem tells_bind {told : β → Hub → Hub} {x : Serve α} {f : α → Serve β} (hx : Silent x)
    (hf : ∀ a, Tells told (f a)) : Tells told (x >>= f) := by
  intro s
  have hfirst := hx s
  rw [run_bind]
  cases hrun : x.run.run s with
  | mk r mid =>
    rw [hrun] at hfirst
    cases r with
    | error e => exact hfirst
    | ok a => exact (hf a mid).trans (by rw [show mid.hub = s.hub from hfirst])

/-- To be silent is to leave the hub as it is, whatever the outcome. -/
theorem silent_iff_tells {x : Serve α} : Silent x ↔ Tells (fun _ hub => hub) x := by
  refine forall_congr' fun s => ?_
  cases (x.run.run s).1 <;> exact Iff.rfl

/-- Two silent steps are silent. -/
theorem silent_bind {x : Serve α} {f : α → Serve β} (hx : Silent x) (hf : ∀ a, Silent (f a)) :
    Silent (x >>= f) :=
  silent_iff_tells.mpr (tells_bind hx fun a => silent_iff_tells.mp (hf a))

/-- A silent step with a silent handler is silent. -/
theorem silent_tryCatch {x : Serve α} {handle : Error → Serve α} (hx : Silent x)
    (hh : ∀ e, Silent (handle e)) : Silent (tryCatch x handle) := by
  intro s
  have hfirst := hx s
  rw [run_tryCatch]
  cases hrun : x.run.run s with
  | mk r mid =>
    rw [hrun] at hfirst
    cases r with
    | ok a => exact hfirst
    | error e => exact (hh e mid).trans hfirst

/-- Silent steps for each item are silent. -/
theorem silent_mapM {f : α → Serve β} (hf : ∀ x, Silent (f x)) (xs : List α) :
    Silent (xs.mapM f) := by
  induction xs with
  | nil => exact silent_pure
  | cons x xs ih =>
    rw [List.mapM_cons]
    exact silent_bind (hf x) fun _ => silent_bind ih fun _ => silent_pure

/-- An answer is told in the same way when it is handed on in another form. -/
theorem tells_map {told : α → Hub → Hub} {told' : β → Hub → Hub} {x : Serve α} {form : α → β}
    (hx : Tells told x) (h : ∀ a, told' (form a) = told a) :
    Tells told' (do return form (← x)) := by
  intro s
  have hfirst := hx s
  rw [run_bind]
  cases hrun : x.run.run s with
  | mk r mid =>
    rw [hrun] at hfirst
    cases r with
    | error e => exact hfirst
    | ok a => exact hfirst.trans (congrFun (h a).symm s.hub)

end Serve

namespace Service

open Serve

variable {sv : Service} {caller : Caller} {className : String}

/-- Giving an object an id is silent: it only draws one. -/
theorem silent_withId (attributes : List (String × Json)) : Silent (sv.withId attributes) := by
  unfold withId
  split
  next => exact silent_bind silent_draw fun _ => silent_pure
  next => exact silent_pure

/-- However often a call is made anew, nothing is told between. -/
theorem silent_sendAnew {renews : Bool} {call : Serve StoreCall} (hcall : Silent call)
    (retries : Nat) : Silent (sv.sendAnew renews call retries) := by
  induction retries with
  | zero =>
    unfold sendAnew
    exact silent_bind hcall fun _ => silent_send
  | succ retries ih =>
    unfold sendAnew
    refine silent_bind hcall fun _ => silent_tryCatch silent_send fun e => ?_
    split
    next => exact ih
    next => exact silent_throw

/-! ## Requests -/

/-- What a caller asks for on a class. -/
inductive Request where
  | find (options : FindOptions)
  | get (id : String) (includes : List String)
  | count (options : FindOptions)
  | random (options : FindOptions) (weight : Option String)
  | explain (options : FindOptions)
  | insert (objects : List (List (String × Json))) (includes : List String)
  | update (options : FindOptions) (document : List (String × Json))
  | upsert (options : FindOptions) (document onInsert : List (String × Json))
  | delete (options : FindOptions)

/-- What is answered. -/
inductive Answer where
  | objects (items : List Json)
  | object (item : Option Json)
  | count (n : Nat)
  | plan (v : Json)

/-- Serves a request. -/
def serve (sv : Service) (caller : Caller) (className : String) : Request → Serve Answer
  | .find options => return .objects (← sv.find caller className options)
  | .get id includes => return .object (← sv.get caller className id includes)
  | .count options => return .count (← sv.count caller className options)
  | .random options weight => return .objects (← sv.random caller className options weight)
  | .explain options => return .plan (← sv.explain caller className options)
  | .insert objects includes => return .objects (← sv.insert caller className objects includes)
  | .update options document => return .objects (← sv.update caller className options document)
  | .upsert options document onInsert =>
    return .objects (← sv.upsert caller className options document onInsert)
  | .delete options => return .objects (← sv.delete caller className options)

/-! ## Calls -/

/-- What a gate has accepted and checked before a call is sent for a request on a class. -/
inductive Admits (g : Gate) (className : String) : Request → StoreCall → Prop where
  | find {options : FindOptions} {q : Query} (hq : g.accept className options .find = .ok q) :
    Admits g className (.find options) (.find q)
  | get {id : String} {includes : List String} {q : Query}
    (hq : g.accept className
      { filter := some (.obj [(Field.id, .str id)]), includes, limit := some 1 } .find = .ok q) :
    Admits g className (.get id includes) (.find q)
  | count {options : FindOptions} {q : Query} (hq : g.accept className options .count = .ok q) :
    Admits g className (.count options) (.count q)
  | random {options : FindOptions} {weight : Option String} {q : Query}
    (hq : g.accept className options .find = .ok q)
    (hweight : ∀ path ∈ weight, g.authorizePath className path = .ok ()) :
    Admits g className (.random options weight) (.random q weight)
  | explain {options : FindOptions} {q : Query} (hq : g.accept className options .find = .ok q) :
    Admits g className (.explain options) (.explain q)
  /-- The rows are the objects, which have passed, with an id for each that has none. -/
  | insert {objects rows : List (List (String × Json))} {includes : List String} {q : Query}
    (hobjects : ∀ attributes ∈ objects, g.checkAttributes className attributes .create = .ok ())
    (hq : g.accept className { includes } .create = .ok q)
    (hrows : List.Forall₂ IsRow objects rows) :
    Admits g className (.insert objects includes) (.insert q rows)
  | update {options : FindOptions} {document : List (String × Json)} {q : Query}
    (hdocument : g.checkAttributes className document .update = .ok ())
    (hq : g.accept className options .update = .ok q) :
    Admits g className (.update options document) (.update q document)
  /-- The row is what the two documents make, each of which has passed, with an id if it has none. -/
  | upsert {options : FindOptions} {document onInsert object row : List (String × Json)} {q : Query}
    (hdocument : g.checkAttributes className document .update = .ok ())
    (honInsert : g.checkAttributes className onInsert .create = .ok ())
    (hcreate : ∃ created, g.accept className {} .create = .ok created)
    (hq : g.accept className options .update = .ok q)
    (hobject : upsertObject document onInsert = .ok object) (hrow : IsRow object row) :
    Admits g className (.upsert options document onInsert) (.upsert q document row)
  | delete {options : FindOptions} {q : Query} (hq : g.accept className options .delete = .ok q) :
    Admits g className (.delete options) (.delete q)

/-- Every call that is sent for a request has been admitted by the caller's gate. -/
theorem sends_serve (request : Request) : Sends (Admits (sv.gate caller) className request)
    (fun _ => True) (sv.serve caller className request) := by
  cases request with
  | find options => exact sends_map (sends_accepted fun _ => .find)
  | get id includes => exact sends_map (sends_map (sends_accepted fun _ => .get))
  | count options => exact sends_map (sends_accepted fun _ => .count)
  | explain options => exact sends_map (sends_accepted fun _ => .explain)
  | random options weight =>
    refine sends_map (sends_bind (sends_lift fun _ h => h) fun q hq => ?_)
    cases weight with
    | none => exact sends_send (.random hq nofun) fun _ _ _ => trivial
    | some path =>
      refine sends_bind (sends_lift fun () h => h) fun () hpath => ?_
      refine sends_send (.random hq ?_) fun _ _ _ => trivial
      rintro _ ⟨⟩
      exact hpath
  | insert objects includes =>
    refine sends_map (sends_bind (sends_lift fun () h => h) fun () hobjects => ?_)
    refine sends_bind (sends_lift fun _ h => h) fun q hq => ?_
    refine sends_bind (sends_sendAnew ?_ _) fun created _ => ?_
    · refine sends_bind (sends_mapM fun attributes _ => sends_withId attributes) fun rows hrows => ?_
      exact sends_pure (.insert (Result.forM_eq_ok.mp hobjects) hq hrows)
    · exact sends_bind sends_publish fun _ _ => sends_pure trivial
  | update options document =>
    refine sends_map (sends_bind (sends_lift fun () h => h) fun () hdocument => ?_)
    refine sends_bind (sends_lift fun _ h => h) fun q hq => ?_
    refine sends_bind (sends_send (.update hdocument hq) fun _ _ _ => trivial) fun updated _ => ?_
    exact sends_bind sends_publish fun _ _ => sends_pure trivial
  | upsert options document onInsert =>
    refine sends_map (sends_bind (sends_lift fun () h => h) fun () hdocument => ?_)
    refine sends_bind (sends_lift fun () h => h) fun () honInsert => ?_
    refine sends_bind (sends_lift fun _ h => h) fun created hcreate => ?_
    refine sends_bind (sends_lift fun _ h => h) fun q hq => ?_
    refine sends_bind (sends_lift fun _ h => h) fun object hobject => ?_
    refine sends_bind (sends_sendAnew ?_ _) fun objects _ => ?_
    · refine sends_bind (sends_withId object) fun row hrow => sends_pure ?_
      exact .upsert hdocument honInsert ⟨created, hcreate⟩ hq hobject hrow
    · refine sends_bind sends_publish fun _ _ => ?_
      exact sends_bind sends_publish fun _ _ => sends_pure trivial
  | delete options =>
    refine sends_map (sends_bind (sends_lift fun _ h => h) fun q hq => ?_)
    refine sends_bind (sends_send (.delete hq) fun _ _ _ => trivial) fun deleted _ => ?_
    exact sends_bind sends_publish fun _ _ => sends_pure trivial

/-! ## News -/

/-- The objects that a request has changed, of those that are answered. -/
def Request.changed : Request → Answer → List Json
  | .insert .., .objects items | .update .., .objects items | .upsert .., .objects items
  | .delete _, .objects items => items
  | _, _ => []

/-- What happened to an object that a request has changed. -/
def Request.event? : Request → Json → Option LiveEvent
  | .insert .., _ => some .create
  | .update .., _ => some .update
  | .upsert .., object => some (if isFirstVersion object then .create else .update)
  | .delete _, _ => some .delete
  | _, _ => none

/-- What is told of an answer, event by event. -/
def Request.news : Request → Answer → List (LiveEvent × List Json)
  | .insert .., .objects items => [(.create, items)]
  | .update .., .objects items => [(.update, items)]
  | .upsert .., .objects items =>
    [(.create, items.filter isFirstVersion), (.update, items.filter fun o => !isFirstVersion o)]
  | .delete _, .objects items => [(.delete, items)]
  | _, _ => []

/-- A hub to which news of a class has been published. -/
def tell (className : String) (news : List (LiveEvent × List Json)) (hub : Hub) : Hub :=
  news.foldl (fun hub entry => (hub.publish entry.1 className entry.2).2) hub

/-- The news is of the objects that were changed, each once. -/
theorem Request.news_perm (request : Request) (answer : Answer) :
    ((request.news answer).flatMap (·.2)).Perm (request.changed answer) := by
  cases answer with
  | objects items =>
    cases request with
    | insert | update | delete => simp [news, changed]
    | upsert => simpa [news, changed] using List.filter_append_perm isFirstVersion items
    | find | get | count | random | explain => exact .nil
  | object | count | plan => cases request <;> exact .nil

/-- The news of an object is what happened to it. -/
theorem Request.event?_of_mem_news {request : Request} {answer : Answer}
    {entry : LiveEvent × List Json} (hentry : entry ∈ request.news answer) {object : Json}
    (hobject : object ∈ entry.2) : request.event? object = some entry.1 := by
  cases answer with
  | objects items =>
    cases request with
    | insert | update | delete =>
      obtain rfl := List.mem_singleton.mp hentry
      rfl
    | upsert =>
      simp only [news, List.mem_cons, List.not_mem_nil, or_false] at hentry
      obtain rfl | rfl := hentry
      · simp [event?, (List.mem_filter.mp hobject).2]
      · simpa [event?] using (List.mem_filter.mp hobject).2
    | find | get | count | random | explain => cases hentry
  | object | count | plan => cases request <;> cases hentry

/-- Where no subscription is served nobody is told. -/
theorem tell_of_isEmpty {hub : Hub} (h : hub.isEmpty = true) (news : List (LiveEvent × List Json)) :
    tell className news hub = hub := by
  induction news with
  | nil => rfl
  | cons entry rest ih =>
    rw [tell, List.foldl_cons, Hub.publish_of_isEmpty h]
    exact ih

/-- What is answered has been told as one event. -/
theorem tells_publish {event : LiveEvent} {objects : List Json} :
    Tells (fun items => tell className [(event, items)]) (do
      Session.publish event className objects
      return objects) :=
  fun _ => rfl

/-- An insertion tells of the created objects, and of nothing else. -/
theorem tells_insert (objects : List (List (String × Json))) (includes : List String) :
    Tells (fun items => tell className [(.create, items)])
      (sv.insert caller className objects includes) := by
  unfold insert
  refine tells_bind silent_lift fun _ => tells_bind silent_lift fun q => ?_
  refine tells_bind (silent_sendAnew ?_ _) fun created => tells_publish
  exact silent_bind (silent_mapM silent_withId objects) fun _ => silent_pure

/-- An update tells of the updated objects. -/
theorem tells_update (options : FindOptions) (document : List (String × Json)) :
    Tells (fun items => tell className [(.update, items)])
      (sv.update caller className options document) := by
  unfold update
  refine tells_bind silent_lift fun _ => tells_bind silent_lift fun q => ?_
  exact tells_bind silent_send fun updated => tells_publish

/--
An upsert tells of the created objects and of the updated ones, told apart by their first version.
-/
theorem tells_upsert (options : FindOptions) (document onInsert : List (String × Json)) :
    Tells (fun items => tell className [(.create, items.filter isFirstVersion),
      (.update, items.filter fun o => !isFirstVersion o)])
      (sv.upsert caller className options document onInsert) := by
  unfold upsert
  refine tells_bind silent_lift fun _ => tells_bind silent_lift fun _ => ?_
  refine tells_bind silent_lift fun _ => tells_bind silent_lift fun q => ?_
  refine tells_bind silent_lift fun object => ?_
  refine tells_bind (silent_sendAnew ?_ _) fun objects => ?_
  · exact silent_bind (silent_withId object) fun _ => silent_pure
  · exact fun _ => rfl

/-- A deletion tells of the deleted objects. -/
theorem tells_delete (options : FindOptions) :
    Tells (fun items => tell className [(.delete, items)])
      (sv.delete caller className options) := by
  unfold delete
  exact tells_bind silent_lift fun q => tells_bind silent_send fun deleted => tells_publish

/-- What subscribers are told is the news of the answer. -/
theorem tells_serve (request : Request) :
    Tells (fun answer => tell className (request.news answer))
      (sv.serve caller className request) := by
  have hread {α : Type} {x : Serve α} {form : α → Answer} (hx : Silent x)
      (hnews : ∀ a, request.news (form a) = []) :
      Tells (fun answer => tell className (request.news answer)) (do return form (← x)) :=
    tells_map (silent_iff_tells.mp hx) fun a => by rw [hnews]; rfl
  have haccepted {α : Type} {accepted : Result Query} {reply : List StoreCall → Result α}
      {call : Query → StoreCall} : Silent (do Session.send reply (call (← accepted))) :=
    silent_bind silent_lift fun _ => silent_send
  cases request with
  | find options => exact hread haccepted fun _ => rfl
  | get id includes => exact hread (silent_bind haccepted fun _ => silent_pure) fun _ => rfl
  | count options => exact hread haccepted fun _ => rfl
  | explain options => exact hread haccepted fun _ => rfl
  | random options weight =>
    refine hread (silent_bind silent_lift fun q => ?_) fun _ => rfl
    cases weight with
    | none => exact silent_send
    | some path => exact silent_bind silent_lift fun _ => silent_send
  | insert objects includes => exact tells_map (tells_insert objects includes) fun _ => rfl
  | update options document => exact tells_map (tells_update options document) fun _ => rfl
  | upsert options document onInsert =>
    exact tells_map (tells_upsert options document onInsert) fun _ => rfl
  | delete options => exact tells_map (tells_delete options) fun _ => rfl

/-! ## Both together -/

/-- What a request may leave behind in a session, and what it is answered. -/
structure Leaves (g : Gate) (className : String) (request : Request) (session : Session)
    (run : Result Answer × Session) : Prop where
  /-- Each call that is sent has been admitted. -/
  admitted : ∃ sent, run.2.calls = session.calls ++ sent ∧
    ∀ call ∈ sent, Admits g className request call
  /-- A refusal, by the gate or by the store, is not told to subscribers. -/
  refused : ∀ e, run.1 = .error e → run.2.hub = session.hub
  told : ∀ answer, run.1 = .ok answer →
    run.2.hub = tell className (request.news answer) session.hub
  unheard : session.hub.isEmpty = true → run.2.hub = session.hub
  /-- Each of the objects that were changed is told once. -/
  once : ∀ answer, run.1 = .ok answer →
    ((request.news answer).flatMap (·.2)).Perm (request.changed answer)
  events : ∀ answer, run.1 = .ok answer → ∀ entry ∈ request.news answer,
    ∀ object ∈ entry.2, request.event? object = some entry.1

/--
Whatever is asked, by whomever, and whatever the store answers: nothing reaches the store that the gate
has not admitted, and subscribers are told what happened to the objects that the answer says were changed.
-/
theorem serve_leaves (sv : Service) (caller : Caller) (className : String) (request : Request)
    (session : Session) :
    Leaves (sv.gate caller) className request session
      ((sv.serve caller className request).run.run session) := by
  have hsends : Sends _ _ (sv.serve caller className request) := sends_serve request
  obtain ⟨sent, hsent, hadmitted, -⟩ := hsends session
  have htold : Tells _ (sv.serve caller className request) := tells_serve request
  have htold := htold session
  refine ⟨⟨sent, hsent, hadmitted⟩, fun e he => ?_, fun answer hanswer => ?_, fun hempty => ?_, ?_, ?_⟩
  · rw [htold, he]
  · rw [htold, hanswer]
  · rw [htold]
    split
    next => exact tell_of_isEmpty hempty _
    next => rfl
  · exact fun answer _ => request.news_perm answer
  · exact fun answer _ _ hentry _ hobject => Request.event?_of_mem_news hentry hobject

end Service

end ObjectQuery
