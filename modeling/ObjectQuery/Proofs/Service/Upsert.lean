import ObjectQuery.Proofs.Access.Attributes
import ObjectQuery.Proofs.Json
import ObjectQuery.Proofs.Service.Calls

/-!
# What an upsert may insert

The object that an upsert inserts is put together from its update and from the values for an
insertion. The latter are checked as those of an insertion, the former as an update only. So all that
an insertion of the object would be checked for holds, but for one thing: that the caller is granted
to create the fields that only the update sets.
-/

namespace ObjectQuery

/-! ## The object -/

/-- The operand of an update nests no deeper than the update. -/
theorem Update.depth_operand {raw : Json} {u : Update} (h : Update.decode raw = .ok u) :
    u.operand.depth ≤ raw.depth := by
  unfold decode at h
  split at h
  · next key operand =>
    split at h
    · split at h
      · cases h
        exact Nat.le_of_lt (Json.depth_lt_of_mem List.mem_cons_self)
      · cases h
    · cases h
      exact Nat.le_refl _
  · cases h
    exact Nat.le_refl _

namespace Service

/-- An attribute that an update sets plainly. -/
def SetsPlainly (document : List (String × Json)) (entry : String × Json) : Prop :=
  ∃ raw u, (entry.1, raw) ∈ document ∧ Update.decode raw = .ok u ∧ u.op = .set ∧
    entry.2 = u.operand

theorem of_mem_addPlain {document object plain : List (String × Json)}
    (h : document.foldlM addPlain object = .ok plain) {entry : String × Json}
    (hentry : entry ∈ plain) : entry ∈ object ∨ SetsPlainly document entry := by
  induction document generalizing object with
  | nil =>
    obtain rfl := Result.pure_eq_ok.mp h
    exact .inl hentry
  | cons first rest ih =>
    rw [List.foldlM_cons] at h
    obtain ⟨mid, hmid, hrest⟩ := Result.bind_eq_ok.mp h
    obtain ⟨u, hu, hset⟩ := Result.bind_eq_ok.mp hmid
    rcases ih hrest with hold | ⟨raw, u, hraw, hdecode, hop, hvalue⟩
    · split at hset
      · next hop =>
        obtain rfl := Result.pure_eq_ok.mp hset
        rcases Json.of_mem_setMember hold with rfl | hobject
        · exact .inr ⟨first.2, u, List.mem_cons_self, hu, hop, rfl⟩
        · exact .inl hobject
      · obtain rfl := Result.pure_eq_ok.mp hset
        exact .inl hold
    · exact .inr ⟨raw, u, List.mem_cons_of_mem first hraw, hdecode, hop, hvalue⟩

/-- An attribute of the object is a value for an insertion, or the update sets it plainly. -/
theorem of_mem_upsertObject {document onInsert object : List (String × Json)}
    (h : upsertObject document onInsert = .ok object) {entry : String × Json}
    (hentry : entry ∈ object) : entry ∈ onInsert ∨ SetsPlainly document entry := by
  obtain ⟨plain, hplain, h⟩ := Result.bind_eq_ok.mp h
  obtain rfl := Result.pure_eq_ok.mp h
  rcases Json.of_mem_overlay hentry with habove | hbelow
  · exact .inl habove
  · rcases of_mem_addPlain hplain hbelow with hempty | hsets
    · cases hempty
    · exact .inr hsets

/-! ## Its permissions -/

variable {g : Gate} {className : String} {document onInsert object : List (String × Json)}

/-- What an update may set, an insertion may set as well if its field may be created. -/
theorem checkAttribute_of_setsPlainly {c : Class} {entry : String × Json}
    (h : SetsPlainly document entry)
    (hdocument : ∀ m ∈ document, g.checkAttribute className c .update m = .ok ())
    (hgrants : g.grants c (Gate.keyHead entry.1) .create = true) :
    g.checkAttribute className c .create entry = .ok () := by
  obtain ⟨raw, u, hraw, hdecode, -, hvalue⟩ := h
  obtain ⟨hdepth, hwritable, -, -⟩ := Gate.checkAttribute_eq_ok.mp (hdocument _ hraw)
  refine Gate.checkAttribute_eq_ok.mpr ⟨?_, hwritable, fun _ => rfl, hgrants⟩
  rw [hvalue]
  exact Nat.le_trans (Update.depth_operand hdecode) hdepth

/--
The object of an upsert whose parts have passed their checks may be inserted exactly if the caller is
granted to create the fields that the update contributes.
-/
theorem checkAttributes_upsertObject
    (hdocument : g.checkAttributes className document .update = .ok ())
    (honInsert : g.checkAttributes className onInsert .create = .ok ())
    (h : upsertObject document onInsert = .ok object) :
    ∃ c, g.schema.class? className = some c ∧
      (g.checkAttributes className object .create = .ok () ↔
        ∀ entry ∈ object, entry ∉ onInsert →
          g.grants c (Gate.keyHead entry.1) .create = true) := by
  obtain ⟨c, hc, hupdate⟩ := Gate.checkAttributes_eq_ok.mp hdocument
  obtain ⟨_, hc', hcreate⟩ := Gate.checkAttributes_eq_ok.mp honInsert
  obtain rfl := Option.some.inj (hc.symm.trans hc')
  refine ⟨c, hc, fun hobject entry hentry _ => ?_, fun hgrants => ?_⟩
  · obtain ⟨_, hc', hall⟩ := Gate.checkAttributes_eq_ok.mp hobject
    obtain rfl := Option.some.inj (hc.symm.trans hc')
    exact (Gate.checkAttribute_eq_ok.mp (hall entry hentry)).2.2.2
  · refine Gate.checkAttributes_eq_ok.mpr ⟨c, hc, fun entry hentry => ?_⟩
    by_cases hinsert : entry ∈ onInsert
    · exact hcreate entry hinsert
    · have hsets := (of_mem_upsertObject h hentry).resolve_left hinsert
      exact checkAttribute_of_setsPlainly hsets hupdate (hgrants entry hentry hinsert)

/-! ## The request -/

/-- A call of an upsert: its parts have passed their checks, and its row is that of their object. -/
structure UpsertCall (g : Gate) (className : String) (document onInsert : List (String × Json))
    (call : StoreCall) : Prop where
  mayUpdate : g.checkAttributes className document .update = .ok ()
  mayCreate : g.checkAttributes className onInsert .create = .ok ()
  sends : ∃ q object row, call = .upsert q document row ∧
    upsertObject document onInsert = .ok object ∧ IsRow object row

theorem sends_upsert (sv : Service) (caller : Caller) (className : String) (options : FindOptions)
    (document onInsert : List (String × Json)) :
    (sv.upsert caller className options document onInsert).Sends
      (UpsertCall (sv.gate caller) className document onInsert) fun _ => True := by
  unfold upsert
  refine Serve.sends_bind (Serve.sends_lift fun () h => h) fun () hdocument => ?_
  refine Serve.sends_bind (Serve.sends_lift fun () h => h) fun () honInsert => ?_
  refine Serve.sends_bind (Serve.sends_lift fun _ _ => trivial) fun _ (_ : True) => ?_
  refine Serve.sends_bind (Serve.sends_lift fun _ _ => trivial) fun q (_ : True) => ?_
  refine Serve.sends_bind (Serve.sends_lift fun _ h => h) fun object hobject => ?_
  have hcall : (do return StoreCall.upsert q document (← sv.withId object) : Serve StoreCall).Sends
      (UpsertCall (sv.gate caller) className document onInsert)
      (UpsertCall (sv.gate caller) className document onInsert) := by
    refine Serve.sends_bind (sends_withId object) fun row hrow => Serve.sends_pure ?_
    exact ⟨hdocument, honInsert, q, object, row, rfl, hobject, hrow⟩
  refine Serve.sends_bind (sends_sendAnew hcall _) fun objects _ => ?_
  refine Serve.sends_bind Serve.sends_publish fun _ _ => ?_
  exact Serve.sends_bind Serve.sends_publish fun _ _ => Serve.sends_pure trivial

/--
Every call that an upsert sends has the object of its two parts as row, up to a new id. The caller
could insert that object exactly if it is granted to create the fields that only the update sets:
nothing else is asked of an insertion that the checks of the two parts leave out.
-/
theorem upsert_creates (sv : Service) (caller : Caller) (className : String)
    (options : FindOptions) (document onInsert : List (String × Json)) (session : Session) :
    ∃ sent,
      ((sv.upsert caller className options document onInsert).run.run session).2.calls =
        session.calls ++ sent ∧
      ∀ call ∈ sent, ∃ q object row c, call = .upsert q document row ∧
        upsertObject document onInsert = .ok object ∧ IsRow object row ∧
        sv.schema.class? className = some c ∧
        ((sv.gate caller).checkAttributes className object .create = .ok () ↔
          ∀ entry ∈ object, entry ∉ onInsert →
            (sv.gate caller).grants c (Gate.keyHead entry.1) .create = true) := by
  obtain ⟨sent, hsent, hcalls, -⟩ :=
    sends_upsert sv caller className options document onInsert session
  refine ⟨sent, hsent, fun call hcall => ?_⟩
  obtain ⟨hupdate, hcreate, q, object, row, hupsert, hobject, hrow⟩ := hcalls call hcall
  obtain ⟨c, hc, hiff⟩ := checkAttributes_upsertObject hupdate hcreate hobject
  exact ⟨q, object, row, c, hupsert, hobject, hrow, hc, hiff⟩

/-- Notes whose text may be changed by everyone and set at creation by no one. -/
def retitledNotes : Json :=
  .obj [("Note", .obj [
    ("fields", .obj [("text", .str "string")]),
    ("fieldLevelPermissions", .obj [("text", .obj [("create", .arr [])])])])]

/-- The notes as a schema. -/
def retitledSchema : Schema where
  classes := [("Note", {
    fields := Field.defaults.foldl (fun t f => t.insert f.1 f.2)
      [("text", .primitive .string none)]
    fieldPermissions := [("text", { create := some [] })] })]

/-- The notes in a store that finds and inserts nothing. -/
def retitledService : Service where
  schema := retitledSchema
  limits := .standard
  extraFilter := none
  store := { objects := fun _ => .ok [], count := fun _ => .ok 0, plan := fun _ => .ok .null }
  entropy := id

/-- Anyone inserts a text by an upsert, which an insertion refuses. -/
theorem upsert_creates_refused :
    let caller : Caller := ⟨.anonymous, ⟨0, 0⟩⟩
    let text : List (String × Json) := [("text", .str "x")]
    let session : Session := .start (.new 8)
    Schema.ofJson retitledNotes = .ok retitledService.schema ∧
      upsertObject text [] = .ok text ∧
      (∃ q row, .upsert q text row ∈
        ((retitledService.upsert caller "Note" {} text []).run.run session).2.calls) ∧
      (retitledService.gate caller).checkAttributes "Note" text .create =
        .error (.denied (.onField .create "Note" "text")) := by
  intro caller text session
  have hschema : Schema.ofJson retitledNotes = .ok retitledService.schema := by rfl
  have hsome : ((retitledService.upsert caller "Note" {} text []).run.run session).2.calls.isEmpty =
      false := by
    decide +kernel
  obtain ⟨sent, hsent, hcalls, -⟩ :=
    sends_upsert retitledService caller "Note" {} text [] session
  refine ⟨hschema, rfl, ?_, by rfl⟩
  rw [hsent] at hsome ⊢
  obtain ⟨call, hcall⟩ := List.exists_mem_of_ne_nil _ (List.isEmpty_eq_false_iff.mp hsome)
  obtain ⟨q, object, row, rfl, -, -⟩ := (hcalls call hcall).sends
  exact ⟨q, row, hcall⟩

end Service

end ObjectQuery
