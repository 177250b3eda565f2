import ObjectQuery.Proofs.Json
import ObjectQuery.Proofs.Service.Calls

/-!
# Attempts at an insertion

An object without an id gets one of the service's own making, and the store may answer that it is
taken. The call is then made anew with other identifiers, at most so many times; any other answer is
that of the request. Here it is said what the store sees of this, whatever it answers: how many calls
there are, which answers stand between them, and that they differ in nothing but the new identifiers.
-/

namespace ObjectQuery.Service

variable {sv : Service} {store : Store} {renews : Bool} {retries : Nat}

/-! ## A run of attempts -/

/-- The calls `sent` behind the calls `before` are the attempts that lead to an outcome. -/
structure Attempts (store : Store) (renews : Bool) (retries : Nat) (before sent : List StoreCall)
    (outcome : Result (List Json)) : Prop where
  made : 1 ≤ sent.length
  bounded : sent.length ≤ retries + 1
  /-- Every attempt but the last one failed since an identifier is taken. -/
  failed : ∀ k, 1 ≤ k → k < sent.length →
    ∃ e, store.objects (before ++ sent.take k) = .error e ∧ store.isTaken e = true
  /-- Without identifiers to renew there is one attempt. -/
  renewed : 1 < sent.length → renews = true
  /-- The outcome is the answer to the last attempt. -/
  answered : outcome = store.objects (before ++ sent)
  /-- That an identifier is taken is an outcome only where no further attempt may be made. -/
  exhausted : ∀ e, outcome = .error e → store.isTaken e = true →
    renews = false ∨ sent.length = retries + 1

namespace Attempts

variable {before sent : List StoreCall} {call : StoreCall} {outcome : Result (List Json)}

/-- The first attempt is the last one if its answer is not to be followed by another. -/
theorem single
    (h : ∀ e, store.objects (before ++ [call]) = .error e → store.isTaken e = true →
      renews = false ∨ retries = 0) :
    Attempts store renews retries before [call] (store.objects (before ++ [call])) where
  made := Nat.le_refl 1
  bounded := Nat.le_add_left 1 retries
  failed := fun k hpos hlt => absurd hpos (Nat.not_le_of_lt hlt)
  renewed := fun h => absurd h (Nat.lt_irrefl 1)
  answered := rfl
  exhausted := fun e he htaken => (h e he htaken).imp_right fun h => by rw [h]; rfl

/-- A failed attempt before the others. -/
theorem cons {e : Error} (hrenews : renews = true)
    (he : store.objects (before ++ [call]) = .error e) (htaken : store.isTaken e = true)
    (h : Attempts store renews retries (before ++ [call]) sent outcome) :
    Attempts store renews (retries + 1) before (call :: sent) outcome where
  made := Nat.le_add_left 1 sent.length
  bounded := Nat.succ_le_succ h.bounded
  failed := by
    intro k hpos hlt
    obtain ⟨k, rfl⟩ := Nat.exists_eq_add_of_le' hpos
    rw [List.take_succ_cons]
    cases k with
    | zero => exact ⟨e, he, htaken⟩
    | succ k =>
      have hrest := h.failed (k + 1) (Nat.le_add_left 1 k) (Nat.lt_of_succ_lt_succ hlt)
      rwa [List.append_assoc, List.singleton_append] at hrest
  renewed := fun _ => hrenews
  answered := by
    rw [h.answered, List.append_assoc, List.singleton_append]
  exhausted := fun e he htaken =>
    (h.exhausted e he htaken).imp_right fun hlength => congrArg (· + 1) hlength

end Attempts

/-- A call is made up without asking the store; it is as `P` says. -/
def Makes (P : StoreCall → Prop) (call : Serve StoreCall) : Prop :=
  ∀ s : Session, ∃ c mid, call.run.run s = (.ok c, mid) ∧ mid.calls = s.calls ∧ P c

/-- The attempts at a call are as `P` says of what the call makes up. -/
theorem attempts_sendAnew (sv : Service) (renews : Bool) {P : StoreCall → Prop}
    {call : Serve StoreCall} (hcall : Makes P call) (retries : Nat) (s : Session) :
    ∃ sent, ((sv.sendAnew renews call retries).run.run s).2.calls = s.calls ++ sent ∧
      Attempts sv.store renews retries s.calls sent
        ((sv.sendAnew renews call retries).run.run s).1 ∧
      ∀ c ∈ sent, P c := by
  induction retries generalizing s with
  | zero =>
    obtain ⟨c, mid, hrun, hcalls, hc⟩ := hcall s
    have hsend : (sv.sendAnew renews call 0).run.run s =
        (sv.store.objects (s.calls ++ [c]), { mid with calls := s.calls ++ [c] }) := by
      rw [sendAnew, Serve.run_bind, hrun, ← hcalls]
      rfl
    rw [hsend]
    exact ⟨[c], rfl, .single fun _ _ _ => .inr rfl, List.forall_mem_singleton.mpr hc⟩
  | succ retries ih =>
    obtain ⟨c, mid, hrun, hcalls, hc⟩ := hcall s
    have hsend : (Session.send sv.store.objects c).run.run mid =
        (sv.store.objects (s.calls ++ [c]), { mid with calls := s.calls ++ [c] }) := by
      rw [← hcalls]
      rfl
    rw [sendAnew, Serve.run_bind, hrun]
    dsimp only
    rw [Serve.run_tryCatch, hsend]
    cases hreply : sv.store.objects (s.calls ++ [c]) with
    | ok objects =>
      have hlast : Attempts sv.store renews (retries + 1) s.calls [c] (.ok objects) :=
        hreply ▸ .single fun e he _ => nomatch hreply.symm.trans he
      exact ⟨[c], rfl, hlast, List.forall_mem_singleton.mpr hc⟩
    | error e =>
      by_cases hagain : (renews && sv.store.isTaken e) = true
      · -- the rest are the attempts of one retry less, behind this call
        obtain ⟨hrenews, htaken⟩ := Bool.and_eq_true_iff.mp hagain
        obtain ⟨rest, hrest, hattempts, hall⟩ := ih { mid with calls := s.calls ++ [c] }
        simp only [if_pos hagain]
        refine ⟨c :: rest, ?_, .cons hrenews hreply htaken hattempts,
          List.forall_mem_cons.mpr ⟨hc, hall⟩⟩
        rw [hrest, List.append_assoc, List.singleton_append]
      · simp only [if_neg hagain]
        have hlast : Attempts sv.store renews (retries + 1) s.calls [c] (.error e) := by
          refine hreply ▸ .single fun e' he' htaken => .inl ?_
          cases hreply.symm.trans he'
          simpa [htaken] using hagain
        exact ⟨[c], rfl, hlast, List.forall_mem_singleton.mpr hc⟩

/-! ## Rows -/

/-- A row has what an object has under each of its keys, and beyond it at most an id. -/
structure Completes (attributes row : List (String × Json)) : Prop where
  keeps : ∀ key value, Json.member? attributes key = some value →
    Json.member? row key = some value
  identified : (Json.member? row Field.id).isSome
  addsId : ∀ key, key ≠ Field.id → Json.member? row key = Json.member? attributes key

theorem member?_append_id {attributes : List (String × Json)} {id : Json} {key : String} :
    Json.member? (attributes ++ [(Field.id, id)]) key =
      (Json.member? attributes key).or (if key = Field.id then some id else none) := by
  induction attributes with
  | nil => exact Json.member?_cons
  | cons m rest ih =>
    rw [List.cons_append, Json.member?_cons, Json.member?_cons, ih]
    split <;> rfl

theorem IsRow.completes {attributes row : List (String × Json)} (h : IsRow attributes row) :
    Completes attributes row := by
  rcases h with ⟨hhas, rfl⟩ | ⟨hlacks, id, rfl⟩
  · refine ⟨fun _ _ h => h, ?_, fun _ _ => rfl⟩
    unfold lacksId at hhas
    simpa using hhas
  · refine ⟨fun key value hkey => ?_, ?_, fun key hkey => ?_⟩
    · rw [member?_append_id, hkey, Option.some_or]
    · simp [member?_append_id]
    · rw [member?_append_id, if_neg hkey, Option.or_none]

/-- Identifying an object asks the store nothing and never fails. -/
theorem run_withId (sv : Service) (attributes : List (String × Json)) (s : Session) :
    ∃ row mid, (sv.withId attributes).run.run s = (.ok row, mid) ∧ mid.calls = s.calls ∧
      IsRow attributes row := by
  unfold withId
  split
  · next hlacks => exact ⟨_, _, rfl, rfl, .inr ⟨hlacks, _, rfl⟩⟩
  · next hhas => exact ⟨_, _, rfl, rfl, .inl ⟨by simpa using hhas, rfl⟩⟩

theorem run_mapM_withId (sv : Service) (objects : List (List (String × Json))) (s : Session) :
    ∃ rows mid, (objects.mapM sv.withId).run.run s = (.ok rows, mid) ∧ mid.calls = s.calls ∧
      List.Forall₂ Completes objects rows := by
  induction objects generalizing s with
  | nil => exact ⟨[], s, rfl, rfl, .nil⟩
  | cons attributes rest ih =>
    obtain ⟨row, mid, hrow, hmid, hisRow⟩ := run_withId sv attributes s
    obtain ⟨rows, last, hrows, hlast, hall⟩ := ih mid
    refine ⟨row :: rows, last, ?_, hlast.trans hmid, .cons hisRow.completes hall⟩
    rw [List.mapM_cons, Serve.run_bind, hrow]
    dsimp only
    rw [Serve.run_bind, hrows]
    rfl

/-! ## Requests -/

/-- What is checked of an insertion before the store is asked. -/
def admitInsert (g : Gate) (className : String) (objects : List (List (String × Json)))
    (includes : List String) : Result Query := do
  objects.forM fun attributes => g.checkAttributes className attributes .create
  g.accept className { includes } .create

/-- What is checked of an upsert before the store is asked, and the object it may insert. -/
def admitUpsert (g : Gate) (className : String) (options : FindOptions)
    (document onInsert : List (String × Json)) : Result (Query × List (String × Json)) := do
  g.checkAttributes className document .update
  g.checkAttributes className onInsert .create
  let _ ← g.accept className {} .create
  let q ← g.accept className options .update
  return (q, ← upsertObject document onInsert)

/-- Refused before any call, or served by attempts at calls as `IsCall` says. -/
def ServedBy (sv : Service) (session : Session) (renews : α → Bool) (IsCall : α → StoreCall → Prop)
    (admitted : Result α) (run : Result (List Json) × Session) : Prop :=
  match admitted with
  | .error e => run = (.error e, session)
  | .ok a => ∃ sent, run.2.calls = session.calls ++ sent ∧
      Attempts sv.store (renews a) sv.limits.insertRetries session.calls sent run.1 ∧
      ∀ call ∈ sent, IsCall a call

variable {admitted : Result α} {need : α → Bool} {IsCall : α → StoreCall → Prop}

/-- A check that fails is the outcome, and the session is as before. -/
theorem servedBy_check {r : Result β} {more : β → Result α} {x : β → Serve (List Json)}
    {s : Session} (h : ∀ b, ServedBy sv s need IsCall (more b) ((x b).run.run s)) :
    ServedBy sv s need IsCall (r >>= more) (((liftM r : Serve β) >>= x).run.run s) := by
  rw [Serve.run_lift_bind]
  cases r with
  | error e => rfl
  | ok b => exact h b

/-- What is told to subscribers behind the attempts changes neither calls nor outcome. -/
theorem servedBy_publish (need : α → Bool) (a : α) {call : Serve StoreCall}
    (hcall : Makes (IsCall a) call) (tell : List Json → Serve Unit)
    (htell : ∀ objects s, ∃ hub, (tell objects).run.run s = (.ok (), { s with hub }))
    (s : Session) :
    ServedBy sv s need IsCall (.ok a)
      ((do
        let objects ← sv.sendAnew (need a) call sv.limits.insertRetries
        tell objects
        return objects : Serve (List Json)).run.run s) := by
  obtain ⟨sent, hsent, hattempts, hall⟩ :=
    attempts_sendAnew sv (need a) hcall sv.limits.insertRetries s
  refine ⟨sent, ?_, ?_, hall⟩
  all_goals
    rw [Serve.run_bind]
    cases hrun : (sv.sendAnew (need a) call sv.limits.insertRetries).run.run s with
    | mk r last =>
      rw [hrun] at hsent hattempts
      cases r with
      | error e => assumption
      | ok objects =>
        obtain ⟨hub, hhub⟩ := htell objects last
        dsimp only
        rw [Serve.run_bind, hhub]
        assumption

theorem servedBy_insert (sv : Service) (caller : Caller) (className : String)
    (objects : List (List (String × Json))) (includes : List String) (session : Session) :
    ServedBy sv session (fun _ => objects.any lacksId)
      (fun q call => ∃ rows, call = .insert q rows ∧ List.Forall₂ Completes objects rows)
      (admitInsert (sv.gate caller) className objects includes)
      ((sv.insert caller className objects includes).run.run session) := by
  refine servedBy_check fun () => ?_
  nth_rewrite 1 [← bind_pure ((sv.gate caller).accept className _ .create)]
  refine servedBy_check fun q => ?_
  refine servedBy_publish (fun _ => objects.any lacksId) q (fun s => ?_)
    (Session.publish .create className) (fun _ s => ⟨_, rfl⟩) session
  obtain ⟨rows, mid, hrun, hmid, hrows⟩ := run_mapM_withId sv objects s
  refine ⟨.insert q rows, mid, ?_, hmid, rows, rfl, hrows⟩
  rw [Serve.run_bind, hrun]
  rfl

theorem servedBy_upsert (sv : Service) (caller : Caller) (className : String)
    (options : FindOptions) (document onInsert : List (String × Json)) (session : Session) :
    ServedBy sv session (fun admitted => lacksId admitted.2)
      (fun admitted call => ∃ row, call = .upsert admitted.1 document row ∧
        Completes admitted.2 row)
      (admitUpsert (sv.gate caller) className options document onInsert)
      ((sv.upsert caller className options document onInsert).run.run session) := by
  refine servedBy_check fun () => ?_
  refine servedBy_check fun () => ?_
  refine servedBy_check fun _ => ?_
  refine servedBy_check fun q => ?_
  refine servedBy_check fun object => ?_
  refine servedBy_publish (fun admitted => lacksId admitted.2) (q, object) (fun s => ?_)
    (fun objects => do
      Session.publish .create className (objects.filter isFirstVersion)
      Session.publish .update className (objects.filter fun o => !isFirstVersion o))
    (fun _ s => ⟨_, rfl⟩) session
  obtain ⟨row, mid, hrun, hmid, hrow⟩ := run_withId sv object s
  refine ⟨.upsert q document row, mid, ?_, hmid, row, rfl, hrow.completes⟩
  rw [Serve.run_bind, hrun]
  rfl

/--
Insertions and upserts that are refused never reach the store. The others make at least one call and
at most one more than there are retries; all but the last one failed since an identifier was taken,
and the answer to the last one is the outcome. Only a request with an object that has no id is made
anew, and such a request reports a taken identifier only if no retry is left. Each call has the same
query, the same update and one row for each object, which has all that the object has, and an id.
-/
theorem insert_upsert_servedBy (sv : Service) (caller : Caller) (className : String)
    (session : Session) :
    (∀ objects includes,
      ServedBy sv session (fun _ => objects.any lacksId)
        (fun q call => ∃ rows, call = .insert q rows ∧ List.Forall₂ Completes objects rows)
        (admitInsert (sv.gate caller) className objects includes)
        ((sv.insert caller className objects includes).run.run session)) ∧
    ∀ options document onInsert,
      ServedBy sv session (fun admitted => lacksId admitted.2)
        (fun admitted call => ∃ row, call = .upsert admitted.1 document row ∧
          Completes admitted.2 row)
        (admitUpsert (sv.gate caller) className options document onInsert)
        ((sv.upsert caller className options document onInsert).run.run session) :=
  ⟨fun objects includes => servedBy_insert sv caller className objects includes session,
    fun options document onInsert =>
      servedBy_upsert sv caller className options document onInsert session⟩

end ObjectQuery.Service
