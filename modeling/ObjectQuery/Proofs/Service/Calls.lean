import ObjectQuery.Proofs.Result
import ObjectQuery.Service.Basic

/-!
# What a request sends to the store

A request only adds calls to those of its session, whether it is answered or refused. What its calls
and its answer satisfy is read off its parts: there is one rule for each way in which requests are
composed.
-/

namespace ObjectQuery

namespace Serve

/-- A request goes on where another ends, unless that one is refused. -/
theorem run_bind {x : Serve α} {f : α → Serve β} {s : Session} :
    (x >>= f).run.run s =
      match x.run.run s with
      | (.ok a, mid) => (f a).run.run mid
      | (.error e, mid) => (.error e, mid) := by
  simp only [ExceptT.run_bind, StateT.run_bind]
  cases x.run.run s with
  | mk r mid => cases r <;> rfl

/-- An error is handled where it occurs; the session keeps what came before. -/
theorem run_tryCatch {x : Serve α} {handle : Error → Serve α} {s : Session} :
    (tryCatch x handle).run.run s =
      match x.run.run s with
      | (.ok a, mid) => (.ok a, mid)
      | (.error e, mid) => (handle e).run.run mid := by
  show (ExceptT.tryCatch x handle).run.run s = _
  simp only [ExceptT.tryCatch, ExceptT.run_mk, StateT.run_bind]
  change (x.run.run s >>= _) = _
  cases x.run.run s with
  | mk r mid => cases r <;> rfl

/-- A check leaves the session to what comes behind it. -/
theorem run_lift_bind {r : Result α} {f : α → Serve β} {s : Session} :
    ((liftM r : Serve α) >>= f).run.run s =
      match r with
      | .ok a => (f a).run.run s
      | .error e => (.error e, s) := by
  rw [run_bind]
  cases r <;> rfl

end Serve

/-- Every call that a request sends satisfies `P`, and its answer satisfies `Q`. -/
def Serve.Sends (P : StoreCall → Prop) (Q : α → Prop) (x : Serve α) : Prop :=
  ∀ s : Session, ∃ sent, (x.run.run s).2.calls = s.calls ++ sent ∧ (∀ call ∈ sent, P call) ∧
    ∀ a, (x.run.run s).1 = .ok a → Q a

namespace Serve

variable {P : StoreCall → Prop} {Q : α → Prop}

/-- A request that neither sends nor changes calls. -/
private theorem sends_of_calls_eq {x : Serve α} (hcalls : ∀ s, (x.run.run s).2.calls = s.calls)
    (hanswer : ∀ s a, (x.run.run s).1 = .ok a → Q a) : Sends P Q x := by
  intro s
  refine ⟨[], ?_, nofun, hanswer s⟩
  rw [hcalls, List.append_nil]

theorem sends_pure {a : α} (h : Q a) : Sends P Q (pure a) := by
  refine sends_of_calls_eq (fun _ => rfl) ?_
  intro _ a' hrun
  cases hrun
  exact h

theorem sends_throw {e : Error} : Sends P Q (throw e) :=
  sends_of_calls_eq (fun _ => rfl) fun _ _ hrun => nomatch hrun

/-- A check sends nothing. -/
theorem sends_lift {r : Result α} (h : ∀ a, r = .ok a → Q a) : Sends P Q (liftM r) := by
  cases r with
  | error e => exact sends_of_calls_eq (fun _ => rfl) fun _ _ hrun => nomatch hrun
  | ok a =>
    refine sends_of_calls_eq (fun _ => rfl) ?_
    intro _ a' hrun
    cases hrun
    exact h a rfl

theorem sends_bind {R : β → Prop} {x : Serve α} {f : α → Serve β} (hx : Sends P Q x)
    (hf : ∀ a, Q a → Sends P R (f a)) : Sends P R (x >>= f) := by
  intro s
  obtain ⟨sent, hsent, hall, hanswer⟩ := hx s
  rw [run_bind]
  cases hrun : x.run.run s with
  | mk r mid =>
    rw [hrun] at hsent hanswer
    cases r with
    | error e => exact ⟨sent, hsent, hall, fun _ h => nomatch h⟩
    | ok a =>
      obtain ⟨more, hmore, hrest, hlast⟩ := hf a (hanswer a rfl) mid
      refine ⟨sent ++ more, ?_, List.forall_mem_append.mpr ⟨hall, hrest⟩, hlast⟩
      rw [hmore, hsent, List.append_assoc]

/-- What was sent before an error stays sent. -/
theorem sends_tryCatch {x : Serve α} {handle : Error → Serve α} (hx : Sends P Q x)
    (hh : ∀ e, Sends P Q (handle e)) : Sends P Q (tryCatch x handle) := by
  intro s
  obtain ⟨sent, hsent, hall, hanswer⟩ := hx s
  rw [run_tryCatch]
  cases hrun : x.run.run s with
  | mk r mid =>
    rw [hrun] at hsent hanswer
    cases r with
    | ok a => exact ⟨sent, hsent, hall, hanswer⟩
    | error e =>
      obtain ⟨more, hmore, hrest, hlast⟩ := hh e mid
      refine ⟨sent ++ more, ?_, List.forall_mem_append.mpr ⟨hall, hrest⟩, hlast⟩
      rw [hmore, hsent, List.append_assoc]

theorem sends_send {reply : List StoreCall → Result α} {call : StoreCall} (h : P call)
    (hanswer : ∀ calls a, reply calls = .ok a → Q a) : Sends P Q (Session.send reply call) :=
  fun _ => ⟨[call], rfl, List.forall_mem_singleton.mpr h, fun a hrun => hanswer _ a hrun⟩

theorem sends_draw : Sends P (fun _ => True) Session.draw :=
  sends_of_calls_eq (fun _ => rfl) fun _ _ _ => trivial

theorem sends_publish {event : LiveEvent} {className : String} {objects : List Json} :
    Sends P (fun _ => True) (Session.publish event className objects) :=
  sends_of_calls_eq (fun _ => rfl) fun _ _ _ => trivial

end Serve

namespace Service

open Serve

variable {sv : Service} {P : StoreCall → Prop}

/-- The row of an object: with an id of its own it is the object, else an id is put behind. -/
def IsRow (attributes row : List (String × Json)) : Prop :=
  lacksId attributes = false ∧ row = attributes ∨
    lacksId attributes = true ∧ ∃ id, row = attributes ++ [(Field.id, .str id)]

theorem sends_withId (attributes : List (String × Json)) :
    Sends P (IsRow attributes) (sv.withId attributes) := by
  unfold withId
  split
  · next hlacks =>
    refine sends_bind sends_draw fun n _ => sends_pure (.inr ⟨hlacks, _, rfl⟩)
  · next hhas =>
    refine sends_pure (.inl ⟨?_, rfl⟩)
    simpa using hhas

/-- However often a call is made anew, each of them satisfies what the call does. -/
theorem sends_sendAnew {renews : Bool} {call : Serve StoreCall} (hcall : Sends P P call)
    (retries : Nat) : Sends P (fun _ => True) (sv.sendAnew renews call retries) := by
  induction retries with
  | zero =>
    unfold sendAnew
    exact sends_bind hcall fun c hc => sends_send hc fun _ _ _ => trivial
  | succ retries ih =>
    unfold sendAnew
    refine sends_bind hcall fun c hc => ?_
    refine sends_tryCatch (sends_send hc fun _ _ _ => trivial) fun e => ?_
    split
    · exact ih
    · exact sends_throw

end Service

end ObjectQuery
