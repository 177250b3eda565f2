import ObjectQuery.Proofs.Access.Admission
import ObjectQuery.Proofs.Filter.Normal
import ObjectQuery.Proofs.Instant.Text
import ObjectQuery.Proofs.Value.Kinds

/-!
# What an admitted query lets through

The conditions of visibility are joined with the client's filter and simplified as a whole. What is
proved here is that nothing is lost on the way: an object passes exactly if it passes every part.
-/

namespace ObjectQuery

/-! ## Conjunctions -/

/-- An object passes a simplified conjunction if it passes every part simplified alone. -/
theorem Filter.eval_all (items : List Filter) (object : Json) :
    (Filter.all items).eval object = true ↔ ∀ f ∈ items, f.simplify.eval object = true := by
  have hwf : ∀ f ∈ simplifyItems items, f.WellFormed := simplifyItems_wellFormed items
  rw [all, simplify, eval_connect hwf (.inl rfl), simplifyItems_eq_map, Connective.join]
  simp

/-! ## Conditions on an object -/

namespace Value

/-- Only null equals null. -/
theorem equals_null {v : Json} : equals v .null = true ↔ v = .null := by
  cases v <;> simp [equals, equalByKind?, asDate?, envelope?, isNumeric]

/-- Only what stands for an instant is later than a date, and only if the date's text is read. -/
theorem later_iff {v : Json} {now : Instant} :
    compares .gt v (ofInstant now) = true ↔
      ∃ t clock, asDate? v = some t ∧ Instant.ofText? now.render = some clock ∧
        t.order clock = .gt := by
  have hdate := asDate?_ofInstant now
  have hnumeric : isNumeric (ofInstant now) = false := by
    simp [isNumeric, ofInstant, envelope?, dateTag, decimalTag]
  simp only [compares, order, hdate, hnumeric, Bool.and_false, Bool.false_eq_true, ↓reduceIte]
  cases hv : asDate? v with
  | none => cases v <;> simp [ofInstant]
  | some t =>
    cases hnow : Instant.ofText? now.render with
    | none => cases v <;> simp [ofInstant]
    | some clock => simp [Comparison.admits]

/-- A value lists a token: it is an array with an item equal to one of them. -/
def Lists (tokens : List String) (v : Json) : Prop :=
  ∃ items, v = .arr items ∧ ∃ x ∈ items, ∃ token ∈ tokens, equals x (.str token) = true

/-- A date of expiry that is missing or later than the clock. -/
def Ahead (now : Instant) (v : Json) : Prop :=
  v = .null ∨ compares .gt v (ofInstant now) = true

/-- Ahead of a clock in the years of four digits is what expires later. -/
theorem ahead_of_readable {now : Instant} (hnow : now.Readable) {v : Json} :
    Ahead now v ↔ v = .null ∨ ∃ t, asDate? v = some t ∧ t.order now = .gt := by
  rw [Ahead, later_iff, Instant.ofText?_render hnow]
  simp

/-- Ahead of a clock in other years is only what has no expiry, for the clock's date is not read. -/
theorem ahead_of_signed {now : Instant} (hnow : ¬ (0 ≤ now.year ∧ now.year ≤ 9999)) {v : Json} :
    Ahead now v ↔ v = .null := by
  rw [Ahead, later_iff, Instant.ofText?_render_eq_none hnow]
  simp

end Value

namespace Filter

/-- A test of a path other than the element itself is asked of what stands at the path. -/
theorem eval_field {path : String} (h : path ≠ selfKey) (test : FieldTest) (object : Json) :
    (field path test).eval object = test.eval (Value.getPath object path) := by
  rw [eval, if_neg h]

/-- The filter for an access list accepts an object whose list at the path has one of the tokens. -/
theorem eval_grantsOne {path : String} (h : path ≠ selfKey) (tokens : List String) (object : Json) :
    (grantsOne path tokens).simplify.eval object = true ↔
      Value.Lists tokens (Value.getPath object path) := by
  have hsimplify : (grantsOne path tokens).simplify = grantsOne path tokens := rfl
  rw [hsimplify, grantsOne, eval_field h, FieldTest.eval]
  cases Value.getPath object path <;> simp [Json.asItems?, Value.Lists, Value.holds]

/-- The filter for the expiry accepts an object whose expiry is ahead of the clock. -/
theorem eval_alive (now : Instant) (object : Json) :
    (alive now).simplify.eval object = true ↔
      Value.Ahead now (Value.getPath object Field.expiredAt) := by
  have hwf : (alive now).WellFormed := ⟨.inr (List.cons_ne_nil _ _), trivial, trivial, trivial⟩
  rw [(alive now).eval_simplify hwf nofun, alive, eval_connective]
  simp only [List.map_cons, List.map_nil, eval_field (show Field.expiredAt ≠ selfKey by decide),
    FieldTest.eval, Connective.join, List.any_cons, List.any_nil, id, Bool.or_false,
    Bool.or_eq_true, Value.Ahead]
  rw [Value.compares, Value.equals_null]

end Filter

/-! ## Conditions of visibility -/

namespace Gate

/-- The caller passes the access list of an object, or need not. -/
def Admits (g : Gate) (acl : Option Acl) (path : String) (object : Json) : Prop :=
  g.auth.master = true ∨ acl.any g.auth.allows = true ∨
    Value.Lists g.auth.tokens (Value.getPath object path)

/-- The host's condition on a class, simplified, accepts an object. -/
def HostAccepts (g : Gate) (className : String) (object : Json) : Prop :=
  ∀ condition ∈ g.extraFilter, (condition className).simplify.eval object = true

/-- The conditions of the host on a class, if there are any, accept what the host does. -/
theorem hostConditions_iff {g : Gate} {className : String} {object : Json} :
    (∀ f ∈ g.hostConditions className, f.simplify.eval object = true) ↔
      g.HostAccepts className object := by
  cases h : g.extraFilter <;> simp [hostConditions, HostAccepts, h]

theorem listField_ne_selfKey (action : QueryAction) : listField action ≠ Filter.selfKey := by
  cases action <;> decide

/-- Objects that are not all open have to list the caller. -/
private theorem unless_open {isOpen : Bool} {path : String} (h : path ≠ Filter.selfKey)
    {tokens : List String} {object : Json} :
    (∀ f ∈ if isOpen then [] else [Filter.grantsOne path tokens], f.simplify.eval object = true) ↔
      isOpen = true ∨ Value.Lists tokens (Value.getPath object path) := by
  cases isOpen with
  | true => simp
  | false => simp [Filter.eval_grantsOne h]

/-- The conditions of access lists accept an object that is open, or that lists the caller. -/
theorem listConditions_iff {g : Gate} {c : Class} {action : QueryAction} {object : Json} :
    (∀ f ∈ g.listConditions c action, f.simplify.eval object = true) ↔
      g.Admits (openAcl? c action) (listField action) object := by
  rw [listConditions, unless_open (listField_ne_selfKey action), bypasses, Bool.or_eq_true,
    or_assoc, Admits]

/-- The access list that opens all objects of the class with a name to readers. -/
def readersOf (g : Gate) (className : String) : Option Acl :=
  (g.schema.class? className).bind fun c => openAcl? c .find

/-- A class is read as a whole by the master, or by whom its list for readers allows. -/
theorem readsAll_iff {g : Gate} {className : String} :
    g.readsAll className = true ↔
      g.auth.master = true ∨ (g.readersOf className).any g.auth.allows = true := by
  unfold readsAll readersOf bypasses
  cases g.schema.class? className <;> simp

/-- An object of a class that a query reaches is visible if it passes three conditions. -/
theorem eval_visible (g : Gate) (className : String) (object : Json) :
    (g.visible className).eval object = true ↔
      g.HostAccepts className object ∧ g.Admits (g.readersOf className) Field.readers object ∧
        Value.Ahead g.now (Value.getPath object Field.expiredAt) := by
  have hreaders : Field.readers ≠ Filter.selfKey := by decide
  rw [visible, Filter.eval_all, List.forall_mem_append, List.forall_mem_append,
    hostConditions_iff, unless_open hreaders, readsAll_iff, or_assoc, List.forall_mem_singleton,
    Filter.eval_alive, and_assoc, Admits]

/-- The filter of an admitted query holds the client's own, as it was simplified alone. -/
theorem eval_conditions {client : Filter} (hclient : client.simplify = client) {g : Gate}
    {className : String} {c : Class} {action : QueryAction} {object : Json} :
    (Filter.all (client :: g.hostConditions className ++ g.listConditions c action ++
        [Filter.alive g.now])).eval object = true ↔
      client.eval object = true ∧ g.HostAccepts className object ∧
        g.Admits (openAcl? c action) (listField action) object ∧
          Value.Ahead g.now (Value.getPath object Field.expiredAt) := by
  rw [Filter.eval_all, List.forall_mem_append, List.forall_mem_append, List.forall_mem_cons,
    hclient, hostConditions_iff, listConditions_iff, List.forall_mem_singleton, Filter.eval_alive,
    and_assoc, and_assoc]

/--
An admitted query accepts an object exactly if the client's filter and the conditions of visibility
do, each of them simplified alone. The conditions it carries for other classes are those of
visibility there; an object is found or counted if it passes the client's filter and those of its
class. Under a clock in the years of four digits those objects are ahead that have no expiry or a later
one; the date of another clock is written with a sign, which is not read, and no object with an expiry is
ahead of it.
-/
theorem accept_eval {g : Gate} {className : String} {options : FindOptions} {action : QueryAction}
    {q : Query} (h : g.accept className options action = .ok q) :
    ∃ c client visible,
      g.schema.class? className = some c ∧
      (options.filter = none ∧ client = .truth ∨
        ∃ raw f, options.filter = some raw ∧ Filter.decode false raw = .ok f ∧
          client = f.simplify) ∧
      q.extraFilter = some visible ∧
      (∀ object, q.base.filter.eval object = true ↔
        client.eval object = true ∧ g.HostAccepts className object ∧
          g.Admits (openAcl? c action) (listField action) object ∧
            Value.Ahead g.now (Value.getPath object Field.expiredAt)) ∧
      (∀ name object, (visible name).eval object = true ↔
        g.HostAccepts name object ∧ g.Admits (g.readersOf name) Field.readers object ∧
          Value.Ahead g.now (Value.getPath object Field.expiredAt)) ∧
      (action = .find ∨ action = .count → ∀ object, q.base.filter.eval object = true ↔
        client.eval object = true ∧ (visible className).eval object = true) ∧
      (g.now.Readable → ∀ v, Value.Ahead g.now v ↔
        v = .null ∨ ∃ t, Value.asDate? v = some t ∧ t.order g.now = .gt) ∧
      (¬ (0 ≤ g.now.year ∧ g.now.year ≤ 9999) → ∀ v, Value.Ahead g.now v ↔ v = .null) := by
  obtain ⟨c, _, base, includes, relatedBy, hc, _, _, hbase, _, _, _, rfl⟩ := accept_ok h
  have hclass : g.schema.class? className = some c := by
    unfold Schema.getClass at hc
    split at hc
    · next hfound => rw [hfound, Except.ok.inj hc]
    · cases hc
  have hread := readFilter_ok (acceptFilter_ok (acceptBase_ok hbase).1).1
  have hclient : base.filter.simplify = base.filter := by
    rcases hread with ⟨-, hnone⟩ | ⟨_, f, -, -, hsome⟩
    · rw [hnone]
      rfl
    · rw [hsome, Filter.simplify_simplify]
  refine ⟨c, base.filter, g.visible, hclass, hread, rfl, fun object => eval_conditions hclient,
    fun name object => eval_visible g name object, fun haction object => ?_,
    fun hnow v => Value.ahead_of_readable hnow, fun hnow v => Value.ahead_of_signed hnow⟩
  rw [eval_conditions hclient, eval_visible, readersOf, hclass]
  rcases haction with rfl | rfl <;> rfl

/-- Notes with a text. -/
def plainNotes : Json := .obj [("Note", .obj [("fields", .obj [("text", .str "string")])])]

/-- The notes as a schema. -/
def plainSchema : Schema where
  classes := [("Note", {
    fields := Field.defaults.foldl (fun t f => t.insert f.1 f.2) [("text", .primitive .string none)] })]

/-- A user before the notes, with a clock. -/
def noteReader (now : Instant) : Gate where
  schema := plainSchema
  auth := ⟨false, some "u", []⟩
  extraFilter := none
  maxDepth := 8
  now := now

/-- The texts of the notes with one text. -/
def noteOptions : FindOptions where
  filter := some (.obj [("text", .str "x")])
  includes := ["text"]

/-- The user finds only notes that list it. -/
theorem accept_eval_of_noteReader :
    ∃ q, Schema.ofJson plainNotes = .ok (noteReader ⟨0, 0⟩).schema ∧
      (noteReader ⟨0, 0⟩).accept "Note" noteOptions .find = .ok q ∧
      ∀ object, q.base.filter.eval object = true →
        Value.Lists ["*", "u"] (Value.getPath object Field.readers) := by
  obtain ⟨q, hq⟩ := Result.exists_of_toBool
    (show ((noteReader ⟨0, 0⟩).accept "Note" noteOptions .find).toBool = true by decide +kernel)
  obtain ⟨c, client, visible, hc, -, -, heval, -⟩ := accept_eval hq
  refine ⟨q, by rfl, hq, fun object hobject => ?_⟩
  obtain ⟨-, -, hadmits, -⟩ := (heval object).mp hobject
  cases hc
  rcases hadmits with hmaster | hacl | hlists
  · cases hmaster
  · cases hacl
  · exact hlists

/-- A note that is open to everyone until it expires. -/
def expiring (expiry : Json) : Json :=
  .obj [("text", .str "x"), (Field.readers, .arr [.str "*"]), (Field.expiredAt, expiry)]

/--
At the start of the year 10000 a note is not found that expires within the day. Nor is at any time a note
that expires a minute after that start, if its expiry is written as such a date is; as it is written
elsewhere, the note is found.
-/
theorem accept_eval_signed :
    let start : Instant := ⟨253402300800, 0⟩
    let evening : Json := .obj [("$date", .str "9999-12-31T23:59:59-23:59")]
    let minute : Json := .obj [("$date", .str "9999-12-31T23:59:59-00:01")]
    Schema.ofJson plainNotes = .ok plainSchema ∧
      (∃ q, (noteReader start).accept "Note" noteOptions .find = .ok q ∧
        (Value.asDate? evening).any (fun t => t.order start = .gt) = true ∧
        q.base.filter.eval (expiring evening) = false) ∧
      ∃ q t, (noteReader ⟨0, 0⟩).accept "Note" noteOptions .find = .ok q ∧
        Value.asDate? minute = some t ∧ t.order ⟨0, 0⟩ = .gt ∧
        q.base.filter.eval (expiring minute) = true ∧
        q.base.filter.eval (expiring (Value.ofInstant t)) = false := by
  intro start evening minute
  refine ⟨by rfl, ?clock, ?object⟩
  case clock =>
    obtain ⟨q, hq, hfound⟩ := Result.exists_of_any
      (x := (noteReader start).accept "Note" noteOptions .find)
      (p := fun q => !q.base.filter.eval (expiring evening)) (by decide +kernel)
    exact ⟨q, hq, by decide +kernel, by simpa using hfound⟩
  case object =>
    obtain ⟨q, hq, hfound⟩ := Result.exists_of_any
      (x := (noteReader ⟨0, 0⟩).accept "Note" noteOptions .find)
      (p := fun q => q.base.filter.eval (expiring minute) &&
        !q.base.filter.eval (expiring (Value.ofInstant ⟨253402300859, 0⟩))) (by decide +kernel)
    rw [Bool.and_eq_true, Bool.not_eq_true'] at hfound
    exact ⟨q, ⟨253402300859, 0⟩, hq, by decide +kernel, by decide +kernel, hfound.1, hfound.2⟩

end Gate

end ObjectQuery
