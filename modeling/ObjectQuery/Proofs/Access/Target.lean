import ObjectQuery.Proofs.Access.Visibility
import ObjectQuery.Proofs.Filter.Keys
import ObjectQuery.Proofs.Schema.Passage

/-!
# A request for one object

A filter that is nothing but equalities of `_id` with one id needs only the permission to `get` an
object. Such a filter accepts the object with that id and no other, however the equalities are
written and joined, so the weaker permission opens at most one object of a class.
-/

namespace ObjectQuery

/-! ## Objects with an id -/

/-- The id of an object is a text, or there is none. -/
def Json.HasPlainId (members : List (String × Json)) : Prop :=
  ∀ v, Json.member? members Field.id = some v → v = .null ∨ ∃ text, v = .str text

/-- The object has the id and no other. -/
def Json.HasId (members : List (String × Json)) (id : String) : Prop :=
  Json.member? members Field.id = some (.str id)

namespace Value

theorem getPath_id (members : List (String × Json)) :
    getPath (.obj members) Field.id = (Json.member? members Field.id).getD .null := by
  rw [getPath, show Text.split '.' Field.id = [Field.id] by decide]
  rfl

/-- A text or null equals a text only if it is that text. -/
theorem equals_text {v : Json} (hv : v = .null ∨ ∃ text, v = .str text) {id : String} :
    equals v (.str id) = true ↔ v = .str id := by
  rcases hv with rfl | ⟨text, rfl⟩
  · simp [equals, equalByKind?, asDate?, envelope?, isNumeric]
  · simp [equals, equalByKind?, asDate?, envelope?, isNumeric]

end Value

/-! ## Tests and filters that target an id -/

/-- A test for a plain id accepts that id alone, of null and texts. -/
theorem FieldTest.eval_of_idLiteral? {test : FieldTest} {id : String}
    (h : test.idLiteral? = some id) {v : Json} (hv : v = .null ∨ ∃ text, v = .str text) :
    test.eval v = true ↔ v = .str id := by
  unfold idLiteral? at h
  split at h
  · cases h
    exact Value.equals_text hv
  · next first rest =>
    obtain ⟨hrest, heq⟩ := Option.ite_none_right_eq_some.mp h
    obtain rfl := Option.some.inj heq
    -- Every item of the list is the one id, so the list holds what the id alone does.
    have hall : ∀ x ∈ rest, x = .str first := by
      intro x hx
      have hsame := List.all_eq_true.mp hrest x hx
      cases x <;> simp_all [Json.asStr?]
    have hholds : Value.holds (.str first :: rest) v = true ↔
        Value.equals v (.str first) = true := by
      rw [Value.holds, List.any_cons, Bool.or_eq_true, or_iff_left_of_imp]
      intro hany
      obtain ⟨x, hx, heq⟩ := List.any_eq_true.mp hany
      rwa [hall x hx] at heq
    exact hholds.trans (Value.equals_text hv)
  · cases h

namespace Filter

variable {id : String} {members : List (String × Json)}

/-- Some filters target an id together if there are any and each of them does. -/
theorem commonTarget?_eq_some {items : List Filter} :
    commonTarget? items = some id ↔ items ≠ [] ∧ ∀ f ∈ items, f.targetId? = some id := by
  induction items with
  | nil => simp [commonTarget?]
  | cons f rest ih =>
    cases rest with
    | nil => simp [commonTarget?]
    | cons next rest =>
      rw [commonTarget?, List.forall_mem_cons]
      · have hrest : (∀ g ∈ next :: rest, g.targetId? = some id) ↔
            commonTarget? (next :: rest) = some id :=
          ⟨fun h => ih.mpr ⟨List.cons_ne_nil _ _, h⟩, fun h => (ih.mp h).2⟩
        rw [hrest]
        split
        · next a b ha hb =>
          rw [ha, hb, Option.ite_none_right_eq_some, Option.some.injEq, Option.some.injEq]
          constructor
          · rintro ⟨rfl, rfl⟩
            exact ⟨List.cons_ne_nil _ _, rfl, rfl⟩
          · rintro ⟨-, rfl, rfl⟩
            exact ⟨rfl, rfl⟩
        · next hnone =>
          refine iff_of_false nofun ?_
          rintro ⟨-, hf, hcommon⟩
          exact hnone id id hf hcommon
      · simp

/-- By induction on the filter: only a conjunction may stand above the equalities. -/
theorem eval_of_targetId? {f : Filter} (h : f.targetId? = some id)
    (hid : Json.HasPlainId members) : f.eval (.obj members) = true ↔ Json.HasId members id := by
  induction f using scope_induction with
  | field path test =>
    rw [targetId?] at h
    split at h
    · next hpath =>
      subst hpath
      have hplain : Value.getPath (.obj members) Field.id = .null ∨
          ∃ text, Value.getPath (.obj members) Field.id = .str text := by
        rw [Value.getPath_id]
        cases hfound : Json.member? members Field.id with
        | none => exact .inl rfl
        | some v => exact hid v hfound
      rw [eval_field (by decide)]
      refine (FieldTest.eval_of_idLiteral? h hplain).trans ?_
      rw [Value.getPath_id, Json.HasId]
      cases Json.member? members Field.id <;> simp
    · cases h
  | connective op items ih =>
    cases op with
    | and =>
      obtain ⟨hne, hitems⟩ := commonTarget?_eq_some.mp h
      obtain ⟨first, rest, rfl⟩ := List.exists_cons_of_ne_nil hne
      rw [eval_connective, Connective.join, List.all_map, List.all_eq_true]
      constructor
      · intro hall
        exact (ih first List.mem_cons_self (hitems first List.mem_cons_self)).mp
          (hall first List.mem_cons_self)
      · intro hhas f hf
        exact (ih f hf (hitems f hf)).mpr hhas
    | or => cases h
    | nor => cases h
  | expr e => cases h

end Filter

/-! ## The permission to get one object -/

namespace Gate

/-- An action on a class is authorized where its list allows the caller. -/
theorem authorizeClass_eq_ok {g : Gate} {className : String} {c : Class} {action : ClassAction} :
    g.authorizeClass className c action = .ok () ↔ g.auth.allows (c.acl action) = true := by
  unfold authorizeClass
  split <;> simp_all

/--
A filter that targets an id accepts, among objects with a text as id or none, exactly the object with
that id. So a find is admitted either by the permission to `find`, or by the one to `get` alone, and
then it matches at most the object with the id that the client's filter targets.
-/
theorem accept_targets :
    (∀ (f : Filter) (id : String), f.targetId? = some id → ∀ members, Json.HasPlainId members →
      (f.eval (.obj members) = true ↔ Json.HasId members id)) ∧
    ∀ (g : Gate) (className : String) (options : FindOptions) (q : Query),
      g.accept className options .find = .ok q →
        ∃ c client, g.schema.class? className = some c ∧
          g.readFilter options.filter = .ok client ∧
          (client.targetId? = none ∧ g.auth.allows (c.acl .find) = true ∨
            ∃ id, client.targetId? = some id ∧ g.auth.allows (c.acl .get) = true ∧
              ∀ members, Json.HasPlainId members → q.base.filter.eval (.obj members) = true →
                Json.HasId members id) := by
  refine ⟨fun f id h members hid => Filter.eval_of_targetId? h hid, fun g className options q h => ?_⟩
  obtain ⟨c, client, base, _, _, hc, hclient, hclass, hbase, -, -, -, rfl⟩ := accept_ok h
  refine ⟨c, client, Schema.getClass_eq_ok.mp hc, hclient, ?_⟩
  have hallows := authorizeClass_eq_ok.mp hclass
  cases htarget : client.targetId? with
  | none =>
    rw [neededAction, htarget] at hallows
    exact .inl ⟨rfl, hallows⟩
  | some id =>
    rw [neededAction, htarget] at hallows
    refine .inr ⟨id, rfl, hallows, fun members hid hobject => ?_⟩
    -- The conditions of visibility only take objects away from those of the client's filter.
    have hsame : base.filter = client :=
      Except.ok.inj ((acceptFilter_ok (acceptBase_ok hbase).1).1.symm.trans hclient)
    have hfirst := (Filter.eval_all _ _).mp hobject base.filter (by simp)
    rw [hsame] at hfirst
    have hsimple : client.simplify = client := by
      rcases readFilter_ok hclient with ⟨-, rfl⟩ | ⟨_, f, -, -, rfl⟩
      · rfl
      · exact Filter.simplify_simplify f
    rw [hsimple] at hfirst
    exact (Filter.eval_of_targetId? htarget hid).mp hfirst

/-- Notes that only readers may look for. -/
def heldNotes : Json :=
  .obj [("Note", .obj [
    ("fields", .obj [("text", .str "string")]),
    ("classLevelPermissions", .obj [("find", .arr [.str "role:reader"])])])]

/-- The notes as a schema. -/
def heldSchema : Schema where
  classes := [("Note", {
    fields := Field.defaults.foldl (fun t f => t.insert f.1 f.2) [("text", .primitive .string none)]
    permissions := { find := some ["role:reader"] } })]

/-- A user before the notes. -/
def noteHolder : Gate where
  schema := heldSchema
  auth := ⟨false, some "u", []⟩
  extraFilter := none
  maxDepth := 8
  now := ⟨0, 0⟩

/-- The note with one id, which is asked for twice. -/
def heldNote : FindOptions where
  filter := some (.arr [
    .obj [("_id", .str "n1")],
    .arr [.obj [("_id", .obj [("$in", .arr [.str "n1", .str "n1"])])]]])

/-- The filter that the request comes to. -/
def heldFilter : Filter :=
  .connective .and [
    .field "_id" (.compare .eq (.str "n1")),
    .field "_id" (.oneOf [.str "n1", .str "n1"])]

/-- The user may not look for notes, but gets the one note it names. -/
theorem accept_targets_of_heldNote :
    Schema.ofJson heldNotes = .ok noteHolder.schema ∧ heldFilter.targetId? = some "n1" ∧
      (∀ text, heldFilter.eval (.obj [("text", .str text)]) = false) ∧
      ∃ q, noteHolder.accept "Note" heldNote .find = .ok q ∧
        ∀ members, Json.HasPlainId members → q.base.filter.eval (.obj members) = true →
          Json.HasId members "n1" := by
  obtain ⟨hfilter, hadmitted⟩ := accept_targets
  have htarget : heldFilter.targetId? = some "n1" := by rfl
  refine ⟨by rfl, htarget, fun text => ?_, ?_⟩
  · have hplain : Json.HasPlainId [("text", .str text)] := nofun
    rw [← Bool.not_eq_true, hfilter _ _ htarget _ hplain]
    exact nofun
  · obtain ⟨q, hq⟩ := Result.exists_of_toBool
      (show (noteHolder.accept "Note" heldNote .find).toBool = true by decide +kernel)
    obtain ⟨c, client, hc, hclient, hcase⟩ := hadmitted _ _ _ _ hq
    have hread : noteHolder.readFilter heldNote.filter = .ok heldFilter := by rfl
    cases hclient.symm.trans hread
    rcases hcase with ⟨hnone, -⟩ | ⟨id, hid, -, hobjects⟩
    · cases hnone
    · cases htarget.symm.trans hid
      exact ⟨q, hq, hobjects⟩

end Gate

end ObjectQuery
