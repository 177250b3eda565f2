import ObjectQuery.Proofs.Access.Target
import ObjectQuery.Proofs.Columns.Agreement
import ObjectQuery.Proofs.Columns.Reads
import ObjectQuery.Proofs.Service.Attempts
import ObjectQuery.Proofs.Service.Upsert

/-!
# Which value of an upsert a column gets

The object that an upsert inserts is laid over by keys, and its row is read by columns. A column has a
key of its own, and it lies in a field that may have one too. What the values for an insertion say of a
column therefore comes before what the update says as long as both spell it alike, or the update says it
inside the field. Where they clash, the update's own key of the column hides the field of the other, a
field replaces a field with all that is in it, and null under a column's own key hides the rest.
-/

namespace ObjectQuery

open ObjectQuery.Path (dotted)

namespace Json

variable {members above : List (String × Json)} {key : String} {value : Json}

/-- A new member is set at the end. -/
theorem setMember_of_new (h : key ∉ members.map (·.1)) :
    setMember members key value = members ++ [(key, value)] := by
  induction members with
  | nil => rfl
  | cons m rest ih =>
    rw [List.map_cons, List.mem_cons, not_or] at h
    rw [setMember, if_neg (Ne.symm h.1), ih h.2, List.cons_append]

/-- Members laid over others come first, key by key. -/
theorem member?_overlay (hkeys : (above.map (·.1)).Nodup) :
    member? (above.foldl (fun object m => setMember object m.1 m.2) members) key =
      (member? above key).or (member? members key) := by
  induction above generalizing members with
  | nil => rfl
  | cons m rest ih =>
    obtain ⟨hfirst, hrest⟩ := List.nodup_cons.mp hkeys
    rw [List.foldl_cons, ih hrest, member?_setMember, member?_cons]
    split
    next heq =>
      subst heq
      rw [member?_eq_none.mpr hfirst]
      rfl
    next => rfl

end Json

namespace Service

variable {document onInsert plain object row : List (String × Json)} {className column key : String}

/-! ## The plain values of an update -/

/-- What an update document sets plainly, in its order. -/
def plainValues (document : List (String × Json)) : List (String × Json) :=
  document.filterMap fun entry =>
    match Update.decode entry.2 with
    | .ok u => if u.op = .set then some (entry.1, u.operand) else none
    | .error _ => none

/-- The plain values of a document are those that it sets plainly. -/
theorem mem_plainValues {entry : String × Json} :
    entry ∈ plainValues document ↔ SetsPlainly document entry := by
  obtain ⟨key, value⟩ := entry
  rw [plainValues, List.mem_filterMap]
  constructor
  · rintro ⟨⟨key', raw⟩, hmem, hset⟩
    dsimp only at hset
    split at hset
    next u hu =>
      split at hset
      next hop =>
        cases hset
        exact ⟨raw, u, hmem, hu, hop, rfl⟩
      next => cases hset
    next => cases hset
  · rintro ⟨raw, u, hmem, hu, hop, rfl⟩
    exact ⟨(key, raw), hmem, by simp only [hu, if_pos hop]⟩

/-- Taking over plain values under new keys appends them in order. -/
theorem addPlain_foldlM (hkeys : (document.map (·.1)).Nodup)
    (hnew : ∀ key ∈ document.map (·.1), key ∉ object.map (·.1))
    (h : document.foldlM addPlain object = .ok plain) : plain = object ++ plainValues document := by
  induction document generalizing object with
  | nil =>
    obtain rfl := Result.pure_eq_ok.mp h
    exact (List.append_nil _).symm
  | cons entry rest ih =>
    obtain ⟨hfirst, hrest⟩ := List.nodup_cons.mp hkeys
    obtain ⟨hnewFirst, hnewRest⟩ := List.forall_mem_cons.mp hnew
    rw [List.foldlM_cons] at h
    obtain ⟨mid, hmid, h⟩ := Result.bind_eq_ok.mp h
    obtain ⟨u, hu, hset⟩ := Result.bind_eq_ok.mp hmid
    obtain rfl := Result.pure_eq_ok.mp hset
    have hplain : plainValues (entry :: rest) =
        if u.op = .set then (entry.1, u.operand) :: plainValues rest else plainValues rest := by
      by_cases hop : u.op = .set <;> simp [plainValues, hu, hop]
    rw [hplain]
    split at h
    next hop =>
      rw [Json.setMember_of_new hnewFirst] at h
      rw [if_pos hop, ih hrest ?_ h, List.append_assoc, List.singleton_append]
      intro key hkey
      rw [List.map_append, List.mem_append, not_or]
      refine ⟨hnewRest key hkey, fun hmem => ?_⟩
      have heq : key = entry.1 := by simpa using hmem
      rw [heq] at hkey
      exact hfirst hkey
    next hop => rw [if_neg hop, ih hrest hnewRest h]

/-- The object of an upsert has what the values for an insertion have, or else what the update sets. -/
theorem member?_upsertObject (hdocument : (document.map (·.1)).Nodup)
    (honInsert : (onInsert.map (·.1)).Nodup) (h : upsertObject document onInsert = .ok object)
    (key : String) :
    Json.member? object key =
      (Json.member? onInsert key).or (Json.member? (plainValues document) key) := by
  obtain ⟨plain, hplain, h⟩ := Result.bind_eq_ok.mp h
  obtain rfl := Result.pure_eq_ok.mp h
  rw [addPlain_foldlM hdocument (fun _ _ => List.not_mem_nil) hplain, List.nil_append,
    Json.member?_overlay honInsert]

/-! ## What is read and what is said of a column -/

/-- One value, or another if that is null. -/
def orElse : Json → Json → Json
  | .null, w => w
  | v, _ => v

/--
What the row of an upsert has for a column: the first value under a key of its own, and only where there
is none what the first value under the key of its field has inside.
-/
def stored (onInsert plain : List (String × Json)) (column : String) : Json :=
  match (Json.member? onInsert column).or (Json.member? plain column) with
  | some v => v
  | none =>
    match Text.split '.' column with
    | [] => .null
    | field :: rest =>
      rest.foldl Value.step (((Json.member? onInsert field).or (Json.member? plain field)).getD .null)

/-- What a document says of a column by the longest key that leads to it and does not say null. -/
def saidFrom (document : List (String × Json)) (key : String) : List String → Json
  | [] => (Json.member? document key).getD .null
  | name :: rest =>
    orElse (saidFrom document (key ++ "." ++ name) rest)
      ((name :: rest).foldl Value.step ((Json.member? document key).getD .null))

/-- What a document says of a column, by its dotted key or inside the object of a shape around it. -/
def said (document : List (String × Json)) (column : String) : Json :=
  match Text.split '.' column with
  | [] => .null
  | field :: rest => saidFrom document field rest

/-- What the values for an insertion say of a column, or else what the update says. -/
def overlaid (onInsert plain : List (String × Json)) (column : String) : Json :=
  orElse (said onInsert column) (said plain column)

/-- The ways in which two documents clash over a column. -/
inductive Clash (onInsert plain : List (String × Json)) (column : String) : Prop where
  /-- Null under the first own key of the column hides what is said otherwise. -/
  | erased (hown : (Json.member? onInsert column).or (Json.member? plain column) = some .null)
      (hsaid : overlaid onInsert plain column ≠ .null)
  /-- The update's own key of the column hides the field of the values for an insertion. -/
  | hidden (hown : Json.member? onInsert column = none)
      (hplain : (Json.member? plain column).isSome = true) (hsaid : said onInsert column ≠ .null)
  /-- A field replaces that of the update although it has nothing for the column. -/
  | replaced {field : String} {rest : List String} {v : Json}
      (hcolumn : Text.split '.' column = field :: rest) (hfield : Json.member? onInsert field = some v)
      (hinside : rest.foldl Value.step v = .null)
      (hown : (Json.member? onInsert column).or (Json.member? plain column) = none)
      (hsaid : said plain column ≠ .null)
  /-- The key of a shape inside the field is asked for by no column. -/
  | inner {document : List (String × Json)} {field : String} {before after : List String}
      (hdocument : document ∈ [onInsert, plain])
      (hcolumn : Text.split '.' column = field :: (before ++ after)) (hbefore : before ≠ [])
      (hafter : after ≠ [])
      (hsaid : after.foldl Value.step ((Json.member? document (dotted field before)).getD .null) ≠ .null)

theorem orElse_null (v : Json) : orElse .null v = v := rfl

theorem orElse_null_right (v : Json) : orElse v .null = v := by cases v <;> rfl

theorem orElse_same (v : Json) : orElse v v = v := by cases v <;> rfl

theorem orElse_of_ne_null {v w : Json} (h : v ≠ .null) : orElse v w = v := by
  cases v <;> first | rfl | exact absurd rfl h

/-- Where no key of a shape inside the field says anything, only the own key and the field do. -/
theorem saidFrom_eq {names : List String}
    (h : ∀ before after, names = before ++ after → before ≠ [] → after ≠ [] →
      after.foldl Value.step ((Json.member? document (dotted key before)).getD .null) = .null) :
    saidFrom document key names =
      orElse ((Json.member? document (dotted key names)).getD .null)
        (names.foldl Value.step ((Json.member? document key).getD .null)) := by
  induction names generalizing key with
  | nil => exact (orElse_same _).symm
  | cons name rest ih =>
    have hrest : saidFrom document (key ++ "." ++ name) rest =
        orElse ((Json.member? document (dotted (key ++ "." ++ name) rest)).getD .null)
          (rest.foldl Value.step ((Json.member? document (key ++ "." ++ name)).getD .null)) :=
      ih fun before after heq hbefore hafter =>
        h (name :: before) after (by rw [heq, List.cons_append]) (List.cons_ne_nil _ _) hafter
    rw [saidFrom, hrest, Path.dotted_cons]
    congr 1
    by_cases hempty : rest = []
    · subst hempty
      exact orElse_same _
    · have hinner : rest.foldl Value.step
          ((Json.member? document (key ++ "." ++ name)).getD .null) = .null :=
        h [name] rest rfl (List.cons_ne_nil _ _) hempty
      rw [hinner, orElse_null_right]

/-- Without a clash a document says of a column what stands under the column or inside its field. -/
theorem said_eq {field : String} {rest : List String} (hdocument : document ∈ [onInsert, plain])
    (hcolumn : Text.split '.' column = field :: rest) (hdotted : dotted field rest = column)
    (h : ¬Clash onInsert plain column) :
    said document column = orElse ((Json.member? document column).getD .null)
      (rest.foldl Value.step ((Json.member? document field).getD .null)) := by
  rw [said, hcolumn]
  dsimp only
  rw [saidFrom_eq, hdotted]
  intro before after heq hbefore hafter
  by_contra hsaid
  exact h (.inner hdocument (by rw [hcolumn, heq]) hbefore hafter hsaid)

/-- Where the two documents do not clash, a column gets what they say in their order. -/
theorem stored_eq_overlaid {field : String} {rest : List String}
    (hcolumn : Text.split '.' column = field :: rest) (hdotted : dotted field rest = column)
    (h : ¬Clash onInsert plain column) :
    stored onInsert plain column = overlaid onInsert plain column := by
  have hinsert := said_eq (List.mem_cons_self : onInsert ∈ [onInsert, plain]) hcolumn hdotted h
  have hupdate := said_eq (by simp : plain ∈ [onInsert, plain]) hcolumn hdotted h
  have herased : (Json.member? onInsert column).or (Json.member? plain column) = some .null →
      overlaid onInsert plain column = .null := fun hown => by
    by_contra hsaid
    exact h (.erased hown hsaid)
  unfold stored
  cases hown : Json.member? onInsert column with
  | some v =>
    rw [Option.some_or]
    dsimp only
    by_cases hv : v = .null
    · subst hv
      exact (herased (by rw [hown, Option.some_or])).symm
    · have hsaid : said onInsert column = v := by
        rw [hinsert, hown, Option.getD_some, orElse_of_ne_null hv]
      rw [overlaid, hsaid, orElse_of_ne_null hv]
  | none =>
    rw [Option.none_or]
    cases hplain : Json.member? plain column with
    | some v =>
      dsimp only
      have hsilent : said onInsert column = .null := by
        by_contra hsaid
        exact h (.hidden hown (by rw [hplain]; rfl) hsaid)
      by_cases hv : v = .null
      · subst hv
        exact (herased (by rw [hown, hplain]; rfl)).symm
      · rw [overlaid, hsilent, orElse_null, hupdate, hplain, Option.getD_some, orElse_of_ne_null hv]
    | none =>
      dsimp only
      rw [hcolumn]
      dsimp only
      rw [overlaid, hinsert, hupdate, hown, hplain, Option.getD_none, orElse_null, orElse_null]
      cases hfield : Json.member? onInsert field with
      | none => rw [Option.getD_none, foldl_step_null, orElse_null, Option.none_or]
      | some v =>
        rw [Option.some_or, Option.getD_some]
        by_cases hinside : rest.foldl Value.step v = .null
        · have hsilent : said plain column = .null := by
            by_contra hsaid
            exact h (.replaced hcolumn hfield hinside (by rw [hown, hplain]; rfl) hsaid)
          rw [hupdate, hplain, Option.getD_none, orElse_null] at hsilent
          rw [hinside, hsilent, orElse_null]
        · rw [orElse_of_ne_null hinside]

/-! ## Cells of the row -/

/-- What a column of a new object with an id gets for a value: that value, or for null its default. -/
def Receives (className : String) (id : Json) (column : String × FieldType) (v : Json) (cell : Sql) :
    Prop :=
  (v = .null → Write.columnValue className [(Field.id, id)] column = .ok cell) ∧
    (v ≠ .null → ∃ p, column.2.bind v = .ok p ∧ cell = .param p)

/-- What an overlaid object gives for a column is what would be stored of both documents. -/
theorem givenValue_eq_stored
    (h : ∀ key, Json.member? object key = (Json.member? onInsert key).or (Json.member? plain key)) :
    Write.givenValue object column = stored onInsert plain column := by
  unfold Write.givenValue stored
  rw [← h column]
  cases Json.member? object column with
  | some v => rfl
  | none =>
    dsimp only
    rw [Value.getPath]
    cases hsplit : Text.split '.' column with
    | nil => exact absurd hsplit (Text.split_ne_nil _ _)
    | cons field rest => rw [List.foldl_cons, Value.step, h field]

/-- No column lies below the id of an object. -/
theorem field_of_column {doc : Json} {s : Schema} {c : Class} {ty : FieldType}
    (hs : Schema.ofJson doc = .ok s) (hc : s.class? className = some c)
    (hcolumn : (column, ty) ∈ c.columns) :
    ∃ field rest, Text.split '.' column = field :: rest ∧ dotted field rest = column ∧
      (field = Field.id → column = Field.id) := by
  have haccepted := Schema.accepted_of_ofJson hs
  obtain ⟨hbelow, -⟩ := (haccepted.mem_columns_iff hc).mp hcolumn
  obtain ⟨field, rest, fieldType, hsplit, hf, hrest⟩ := Class.below?_eq_some.mp hbelow
  have hdotted : dotted field rest = column :=
    Text.split_injective ((haccepted.split_dotted hc hf hrest).trans hsplit.symm)
  refine ⟨field, rest, hsplit, hdotted, ?_⟩
  rintro rfl
  have hid := Schema.field?_default_of_ofJson hs hc (Field.id, .primitive .string none)
    List.mem_cons_self
  obtain rfl := Option.some.inj (hf.symm.trans hid)
  obtain ⟨rfl, -⟩ := FieldType.below?_of_not_shape rfl hrest
  exact hdotted.symm

/-- Besides the id, a row has for a column what its object has. -/
theorem givenValue_of_completes (hrow : Completes object row) {field : String} {rest : List String}
    (hsplit : Text.split '.' column = field :: rest) (hfield : field ≠ Field.id)
    (hcolumn : column ≠ Field.id) :
    Write.givenValue row column = Write.givenValue object column := by
  simp only [Write.givenValue, hrow.addsId column hcolumn, Value.getPath, hsplit, List.foldl_cons,
    Value.step, hrow.addsId field hfield]

/-- An object that has only an id says nothing of another column. -/
theorem givenValue_id {id : Json} {field : String} {rest : List String}
    (hsplit : Text.split '.' column = field :: rest) (hfield : field ≠ Field.id)
    (hcolumn : column ≠ Field.id) : Write.givenValue [(Field.id, id)] column = .null := by
  simp only [Write.givenValue, Json.member?_cons, if_neg hcolumn, Value.getPath, hsplit,
    List.foldl_cons, Value.step, if_neg hfield]
  exact foldl_step_null rest

/-- A read-only column is no part of a shape. -/
theorem split_of_isReadOnly (h : Gate.isReadOnly column = true) : Text.split '.' column = [column] := by
  have hnames : ∀ name ∈ [Field.version, Field.createdAt, Field.updatedAt],
      Text.split '.' name = [name] := by decide
  exact hnames column (Write.isReadOnly_iff.mp h)

/-- No document that passed its checks names what the store writes itself. -/
theorem member?_of_isReadOnly {g : Gate} {action : FieldAction} {attributes : List (String × Json)}
    (hchecked : g.checkAttributes className attributes action = .ok ())
    (hread : Gate.isReadOnly key = true) : key ∉ attributes.map (·.1) := by
  intro hmem
  obtain ⟨entry, hentry, rfl⟩ := List.mem_map.mp hmem
  obtain ⟨c, -, hall⟩ := Gate.checkAttributes_eq_ok.mp hchecked
  obtain ⟨-, hwritable, -⟩ := Gate.checkAttribute_eq_ok.mp (hall entry hentry)
  rw [Write.not_isReadOnly_of_head hwritable.stored] at hread
  cases hread

/-- No object of an upsert that passed its checks has a value for what the store writes itself. -/
theorem member?_upsertObject_of_isReadOnly {g : Gate} (hdocument : (document.map (·.1)).Nodup)
    (honInsert : (onInsert.map (·.1)).Nodup)
    (hupdate : g.checkAttributes className document .update = .ok ())
    (hcreate : g.checkAttributes className onInsert .create = .ok ())
    (h : upsertObject document onInsert = .ok object) (hread : Gate.isReadOnly key = true) :
    Json.member? object key = none := by
  rw [member?_upsertObject hdocument honInsert h,
    Json.member?_eq_none.mpr (member?_of_isReadOnly hcreate hread), Option.none_or,
    Json.member?_eq_none]
  refine fun hmem => member?_of_isReadOnly hupdate hread ?_
  obtain ⟨entry, hentry, rfl⟩ := List.mem_map.mp hmem
  obtain ⟨raw, -, hraw, -⟩ := mem_plainValues.mp hentry
  exact List.mem_map_of_mem (f := (·.1)) hraw

/-- The column of the id gets the id of the object, or the one that completes it. -/
theorem receives_id {ty : FieldType} {id : Json} {cell : Sql} (hrow : Completes object row)
    (hid : Json.member? row Field.id = some id)
    (hcell : Write.columnValue className row (Field.id, ty) = .ok cell) :
    Receives className id (Field.id, ty) (Write.givenValue object Field.id) cell := by
  have hrowId : Write.givenValue row Field.id = id := by rw [Write.givenValue, hid]
  refine ⟨fun _ => hcell ▸ Write.columnValue_congr (by rw [hrowId]; rfl), fun hvalue => ?_⟩
  obtain ⟨v, p, hfill, hbind, rfl⟩ := (Write.columnValue_eq_ok rfl).mp hcell
  have hsame : Write.givenValue object Field.id = id := by
    cases hown : Json.member? object Field.id with
    | some v =>
      obtain rfl := Option.some.inj ((hrow.keeps _ _ hown).symm.trans hid)
      rw [Write.givenValue, hown]
    | none =>
      refine absurd ?_ hvalue
      rw [Write.givenValue, hown, Value.getPath_id, hown]
      rfl
  rw [hrowId, ← hsame, Write.fillIn_of_ne_null hvalue, Except.ok.injEq] at hfill
  exact ⟨p, hfill ▸ hbind, rfl⟩

/-- An object without what the store writes itself says nothing of a column for it. -/
theorem givenValue_of_isReadOnly (hread : Gate.isReadOnly column = true)
    (hnone : Json.member? object column = none) : Write.givenValue object column = .null := by
  rw [Write.givenValue, hnone, Value.getPath, split_of_isReadOnly hread]
  simp only [List.foldl_cons, List.foldl_nil, Value.step, hnone, Option.getD_none]

/-- A column gets what the object of its row has for it. -/
theorem receives_of_columnValue {doc : Json} {s : Schema} {c : Class} {ty : FieldType} {id : Json}
    {cell : Sql} (hs : Schema.ofJson doc = .ok s) (hc : s.class? className = some c)
    (hcolumn : (column, ty) ∈ c.columns)
    (hwritable : ∀ key, Gate.isReadOnly key = true → Json.member? object key = none)
    (hrow : Completes object row) (hid : Json.member? row Field.id = some id)
    (hcell : Write.columnValue className row (column, ty) = .ok cell) :
    Receives className id (column, ty) (Write.givenValue object column) cell := by
  by_cases hname : column = Field.id
  · subst hname
    exact receives_id hrow hid hcell
  obtain ⟨field, rest, hsplit, -, hfield⟩ := field_of_column hs hc hcolumn
  have hfield : field ≠ Field.id := fun h => hname (hfield h)
  have hgiven := givenValue_of_completes hrow hsplit hfield hname
  constructor
  · intro hnull
    rw [← hcell]
    refine Write.columnValue_congr ?_
    rw [givenValue_id hsplit hfield hname, hgiven, hnull]
  · intro hvalue
    have hstored : Gate.isReadOnly column = false :=
      Bool.eq_false_iff.mpr fun hread =>
        hvalue (givenValue_of_isReadOnly hread (hwritable column hread))
    obtain ⟨v, p, hfill, hbind, rfl⟩ := (Write.columnValue_eq_ok hstored).mp hcell
    rw [hgiven, Write.fillIn_of_ne_null hvalue, Except.ok.injEq] at hfill
    exact ⟨p, hfill ▸ hbind, rfl⟩

/--
Every call that an upsert sends has as row the values for an insertion laid over what the update sets
plainly, and an id. In the statement of such a call each column of the class has its cell: it receives
the value under the first key of its own, or else what the first field around it has inside, and for null
its default. Unless the two documents clash over the column, this is what the values for an insertion say
of it, or else what the update says.
-/
theorem upsert_overlays {doc : Json} (sv : Service) (hs : Schema.ofJson doc = .ok sv.schema)
    (caller : Caller) (className : String) (options : FindOptions)
    (document onInsert : List (String × Json)) (hdocument : (document.map (·.1)).Nodup)
    (honInsert : (onInsert.map (·.1)).Nodup) (session : Session) :
    ∃ sent,
      ((sv.upsert caller className options document onInsert).run.run session).2.calls =
        session.calls ++ sent ∧
      ∀ call ∈ sent, ∃ q row id, call = .upsert q document row ∧ q.className = className ∧
        Json.member? row Field.id = some id ∧
        ∀ n sql n', Compile.Runs (Write.upsert sv.schema q document row) n sql n' →
          ∃ c candidates changed cells query, sv.schema.class? className = some c ∧
            sql = Write.withSubqueries
              [candidates, changed, Write.insertInto className cells (Write.otherwise cells)] query ∧
            cells.map (·.1) = c.columns.map (·.1) ∧
            ∀ column ∈ c.columns, ∃ cell, (column.1, cell) ∈ cells ∧
              Receives className id column (stored onInsert (plainValues document) column.1) cell ∧
              (¬Clash onInsert (plainValues document) column.1 →
                Receives className id column (overlaid onInsert (plainValues document) column.1)
                  cell) := by
  have hserved := servedBy_upsert sv caller className options document onInsert session
  cases hadmitted : admitUpsert (sv.gate caller) className options document onInsert with
  | error e =>
    rw [hadmitted] at hserved
    refine ⟨[], ?_, nofun⟩
    rw [show (sv.upsert caller className options document onInsert).run.run session = _ from hserved,
      List.append_nil]
  | ok admitted =>
    rw [hadmitted] at hserved
    obtain ⟨sent, hsent, -, hcalls⟩ := hserved
    refine ⟨sent, hsent, fun call hcall => ?_⟩
    obtain ⟨row, rfl, hrow⟩ := hcalls call hcall
    simp only [admitUpsert, Result.bind_eq_ok, Result.pure_eq_ok] at hadmitted
    obtain ⟨_, hupdate, _, hcreate, _, -, q, haccept, object, hobject, rfl⟩ := hadmitted
    obtain ⟨id, hid⟩ := Option.isSome_iff_exists.mp hrow.identified
    obtain ⟨hclass, hknown, -⟩ := Gate.accept_related haccept
    obtain ⟨c, hc⟩ := Option.isSome_iff_exists.mp hknown
    have hmembers := member?_upsertObject hdocument honInsert hobject
    have hwritable : ∀ key, Gate.isReadOnly key = true → Json.member? object key = none :=
      fun _ => member?_upsertObject_of_isReadOnly hdocument honInsert hupdate hcreate hobject
    refine ⟨q, row, id, rfl, hclass, hid, fun n sql n' hrun => ?_⟩
    obtain rfl := hclass
    obtain ⟨candidates, changed, cells, query, hsql, hcells⟩ := Write.upsert_row hc hrun
    refine ⟨c, candidates, changed, cells, query, hc, hsql, Write.names_of_cells hcells, ?_⟩
    rintro ⟨column, ty⟩ hcolumn
    obtain ⟨cell, hcell, hmem⟩ := Write.exists_cell hcells hcolumn
    have hreceives := receives_of_columnValue hs hc hcolumn hwritable hrow hid hcell
    rw [givenValue_eq_stored hmembers] at hreceives
    refine ⟨cell, hmem, hreceives, fun hclash => ?_⟩
    obtain ⟨field, rest, hsplit, hdotted, -⟩ := field_of_column hs hc hcolumn
    rwa [← stored_eq_overlaid hsplit hdotted hclash]

/-- Notes of a place with a city and a code. -/
def mappedNotes : Json :=
  .obj [("Note", .obj [("fields", .obj [
    ("count", .obj [("type", .str "number"), ("default", .num (.int 1))]),
    ("place", .obj [("type", .str "shape"), ("shape", .obj [
      ("city", .str "string"), ("code", .str "string")])])])])]

/-- The notes as a schema. -/
def mappedSchema : Schema where
  classes := [("Note", {
    fields := Field.defaults.foldl (fun t f => t.insert f.1 f.2)
      [("count", .primitive .number (some (.num (.int 1)))),
        ("place", .shape [("city", .primitive .string none), ("code", .primitive .string none)])] })]

/-- The notes in a store that finds and inserts nothing. -/
def mappedService : Service where
  schema := mappedSchema
  limits := .standard
  extraFilter := none
  store := { objects := fun _ => .ok [], count := fun _ => .ok 0, plan := fun _ => .ok .null }
  entropy := id

/-- An update of the whole place. -/
def moved : List (String × Json) := [("place", .obj [("city", .str "Rome"), ("code", .str "1")])]

/-- A city of its own for an insertion. -/
def settled : List (String × Json) := [("place.city", .str "Oslo")]

/-- Below a field with two names there is no room for a key between field and column. -/
theorem not_inner {field name : String} {before after : List String} {head : String}
    (h : [field, name] = head :: (before ++ after)) (hbefore : before ≠ []) (hafter : after ≠ []) :
    False := by
  have hlength := congrArg List.length (List.cons.inj h).2
  rw [List.length_append] at hlength
  have hleft := List.length_pos_of_ne_nil hbefore
  have hright := List.length_pos_of_ne_nil hafter
  simp at hlength
  omega

theorem not_clash_city : ¬Clash settled (plainValues moved) "place.city" := by
  have hown : Json.member? settled "place.city" = some (.str "Oslo") := rfl
  rintro (⟨herased, -⟩ | ⟨hhidden, -⟩ | ⟨-, -, -, hreplaced, -⟩ | ⟨-, hcolumn, hbefore, hafter, -⟩)
  · rw [hown] at herased
    cases herased
  · rw [hown] at hhidden
    cases hhidden
  · rw [hown] at hreplaced
    cases hreplaced
  · exact not_inner hcolumn hbefore hafter

theorem not_clash_code : ¬Clash settled (plainValues moved) "place.code" := by
  rintro (⟨herased, -⟩ | ⟨-, hhidden, -⟩ | ⟨hcolumn, hfield, -⟩ | ⟨-, hcolumn, hbefore, hafter, -⟩)
  · cases (show (none : Option Json) = some .null from herased)
  · cases (show false = true from hhidden)
  · obtain ⟨rfl, -⟩ := List.cons.inj (show ["place", "code"] = _ from hcolumn)
    cases (show (none : Option Json) = some _ from hfield)
  · exact not_inner hcolumn hbefore hafter

/-- Whether the statement of an upsert compiles. -/
def compiles (s : Schema) : StoreCall → Bool
  | .upsert q document row => ((Write.upsert s q document row).run.run 0).1.toOption.any fun _ => true
  | _ => false

/-- The city of a new note is that for an insertion, its code that of the update. -/
theorem upsert_overlays_of_moved :
    let session := Session.start (.new 8)
    Schema.ofJson mappedNotes = .ok mappedService.schema ∧ (moved.map (·.1)).Nodup ∧
      (settled.map (·.1)).Nodup ∧ ∃ q row sql n' candidates changed cells query,
        .upsert q moved row ∈
          ((mappedService.upsert ⟨.anonymous, ⟨0, 0⟩⟩ "Note" {} moved settled).run.run session).2.calls ∧
        Compile.Runs (Write.upsert mappedSchema q moved row) 0 sql n' ∧
        sql = Write.withSubqueries
          [candidates, changed, Write.insertInto "Note" cells (Write.otherwise cells)] query ∧
        ("place.city", .param (.text "Oslo")) ∈ cells ∧ ("place.code", .param (.text "1")) ∈ cells := by
  intro session
  have hschema : Schema.ofJson mappedNotes = .ok mappedService.schema := by rfl
  have hmoved : (moved.map (·.1)).Nodup := by decide
  have hsettled : (settled.map (·.1)).Nodup := by decide
  refine ⟨hschema, hmoved, hsettled, ?_⟩
  obtain ⟨sent, hsent, hcalls⟩ := upsert_overlays mappedService hschema ⟨.anonymous, ⟨0, 0⟩⟩ "Note" {}
    moved settled hmoved hsettled session
  rw [show session.calls = [] from rfl, List.nil_append] at hsent
  have hcompiles : sent.any (compiles mappedSchema) = true := by
    rw [← hsent]
    decide +kernel
  obtain ⟨call, hcall, hcompiles⟩ := List.any_eq_true.mp hcompiles
  obtain ⟨q, row, id, rfl, -, -, hcells⟩ := hcalls call hcall
  obtain ⟨sql, n', hrun, -⟩ := Compile.exists_runs_of_any hcompiles
  obtain ⟨c, candidates, changed, cells, query, hc, hsql, -, hcolumns⟩ := hcells 0 sql n' hrun
  obtain rfl : _ = c := Option.some.inj hc
  obtain ⟨_, hcity, -, hsaidCity⟩ := hcolumns ("place.city", .primitive .string none)
    (List.mem_of_getElem? (i := 8) rfl)
  obtain ⟨_, hcode, -, hsaidCode⟩ := hcolumns ("place.code", .primitive .string none)
    (List.mem_of_getElem? (i := 9) rfl)
  obtain ⟨_, hbind, rfl⟩ := (hsaidCity not_clash_city).2 nofun
  obtain rfl := Except.ok.inj hbind
  obtain ⟨_, hbind, rfl⟩ := (hsaidCode not_clash_code).2 nofun
  obtain rfl := Except.ok.inj hbind
  exact ⟨q, row, sql, n', candidates, changed, cells, query, hsent ▸ hcall, hrun,
    hsql, hcity, hcode⟩

/-- The row of the object of an upsert, with some id. -/
def rowOf (document onInsert : List (String × Json)) : Result (List (String × Sql)) := do
  let object ← upsertObject document onInsert
  Write.row mappedSchema "Note" (object ++ [(Field.id, .str "n")])

/--
A city of the update's own stands before the place for an insertion, a place for an insertion takes the
code of the update's place away, and null takes a number away.
-/
theorem upsert_overlays_clash :
    let place : List (String × Json) := [("place", .obj [("city", .str "Oslo")])]
    let city : List (String × Json) := [("place.city", .str "Rome")]
    let two : List (String × Json) := [("count", .num (.int 2))]
    let uncounted : List (String × Json) := [("count", .null)]
    Schema.ofJson mappedNotes = .ok mappedSchema ∧
      (overlaid place (plainValues city) "place.city" = .str "Oslo" ∧
        ∃ row, rowOf city place = .ok row ∧
          row.lookup "place.city" = some (.param (.text "Rome"))) ∧
      (overlaid place (plainValues moved) "place.code" = .str "1" ∧
        ∃ row, rowOf moved place = .ok row ∧ row.lookup "place.code" = some (.param .null)) ∧
      (overlaid uncounted (plainValues two) "count" = .num (.int 2) ∧
        ∃ row, rowOf two uncounted = .ok row ∧ row.lookup "count" = some (.param (.float 1))) :=
  ⟨by rfl, ⟨by rfl, _, by rfl, by rfl⟩, ⟨by rfl, _, by rfl, by rfl⟩, by rfl, _, by rfl, by rfl⟩

end Service

end ObjectQuery
