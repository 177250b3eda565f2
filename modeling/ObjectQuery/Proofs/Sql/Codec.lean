import ObjectQuery.Proofs.Columns.Created
import ObjectQuery.Proofs.Instant.Text
import ObjectQuery.Proofs.Numeral.Decimal
import ObjectQuery.Proofs.Value.Order
import ObjectQuery.Sql.Codec

/-!
# Values written back

A store shows what a column holds as a document: numbers as numbers, decimals and instants as their
text, arrays item by item, JSON as it is. What is bound for a column, shown and read, is a value that
binds as the same parameter, so a value that is read and written back leaves the column as it was. The
value itself may change its spelling: a bare date gets its envelope, an id becomes an object.

A date is read as its instant in universal time. That has four digits for its year where the text has,
but for the hours by which an offset reaches over either end of those years: there it is written with a
sign, and is no date any more.
-/

namespace ObjectQuery

/-- What a store shows of a parameter it holds. A number may be spelled in any way that denotes it. -/
inductive Param.Shown : Param → Json → Prop where
  | bool (b : Bool) : Shown (.bool b) (.bool b)
  | float {x : Float} {n : Number} (h : n.toFloat = x) : Shown (.float x) (.num n)
  | text (s : String) : Shown (.text s) (.str s)
  | decimal (digits : String) : Shown (.decimal digits) (.str digits)
  | timestamp (t : Instant) : Shown (.timestamp t) (.str t.render)
  | json (v : Json) : Shown (.json v) v
  | textArray (items : List String) : Shown (.textArray items) (.arr (items.map .str))
  | floatArray {items : List Float} {shown : List Number}
    (h : items = shown.map Number.toFloat) : Shown (.floatArray items) (.arr (shown.map .num))

/-! ## Tokens -/

/-- A token is taken apart where the name of its class ends, whatever the id holds. -/
theorem splitToken?_objectToken {target : String} (h : Schema.isName target = true) (id : String) :
    splitToken? (objectToken target id) = some (target, id) := by
  have hdollar := Schema.not_mem_of_isName h (c := '$') (by decide)
  have hkept : ∀ c ∈ target.toList, decide (c ≠ '$') = true := by
    intro c hc
    exact decide_eq_true fun heq => hdollar (heq ▸ hc)
  have hchars : (objectToken target id).toList = target.toList ++ '$' :: id.toList := by
    simp [objectToken, String.toList_append]
  unfold splitToken? Text.cut?
  dsimp only
  rw [hchars, List.dropWhile_append_of_pos hkept, List.takeWhile_append_of_pos hkept]
  simp

namespace FieldType

/-- What a token is read as refers to the object it was made of. -/
theorem readReference?_token {target : String} (h : Schema.isName target = true) (id : String) :
    ∃ w, readReference? (.str (objectToken target id)) = some w ∧
      tokenOf? target w = some (objectToken target id) := by
  refine ⟨.obj [("_id", .str id)], ?_, rfl⟩
  simp only [readReference?, splitToken?_objectToken h, Option.map_some, Option.getD_some]

/-! ## Types one by one -/

/--
A parameter that is held is shown in some way, and however it is shown, it is read as a value that
binds as the same parameter.
-/
def WritesBack (ty : FieldType) (p : Param) : Prop :=
  (∃ shown, p.Shown shown) ∧
    ∀ shown, p.Shown shown → ∃ w, ty.read shown = .ok w ∧ ty.bind w = .ok p

variable {ty : FieldType} {v w : Json} {p : Param}

theorem isNull_eq_false (hv : v ≠ .null) : v.isNull = false := by
  cases v <;> first | rfl | exact absurd rfl hv

theorem bind_eq_ok (hv : v ≠ .null) :
    ty.bind v = .ok p ↔ ty.isDerived = false ∧ ty.bindValue? v = some p := by
  rw [bind, if_neg (by rw [isNull_eq_false hv]; decide)]
  split
  · next hderived => simp [hderived]
  · next hderived =>
    rw [Bool.not_eq_true] at hderived
    split <;> simp_all

theorem read_eq_readValue (hv : v ≠ .null) : ty.read v = ty.readValue v := by
  unfold read
  split
  · exact absurd rfl hv
  · exact absurd rfl hv
  · rfl

/-- A value that is read as it is, and binds as the parameter it shows, is written back. -/
theorem WritesBack.of_shown (hshown : ∃ shown, p.Shown shown)
    (hread : ∀ shown, p.Shown shown → shown ≠ .null ∧ ty.isDerived = false ∧
      ∃ w, ty.readValue shown = .ok w ∧ w ≠ .null ∧ ty.bindValue? w = some p) :
    ty.WritesBack p := by
  refine ⟨hshown, fun shown h => ?_⟩
  obtain ⟨hnull, hderived, w, hvalue, hw, hbind⟩ := hread shown h
  exact ⟨w, (read_eq_readValue hnull).trans hvalue, (bind_eq_ok hw).mpr ⟨hderived, hbind⟩⟩

theorem readDate?_ofText? {v : Json} {t : Instant} (h : readDate? v = some t) :
    ∃ text, Instant.ofText? text = some t := by
  unfold readDate? at h
  split at h
  · exact ⟨_, h⟩
  · obtain ⟨text, -, htext⟩ := Option.bind_eq_some_iff.mp h
    exact ⟨text, htext⟩

theorem asDecimal?_inRange {v : Json} {d : Numeral.Decimal} (h : Value.asDecimal? v = some d) :
    d.InRange := by
  unfold Value.asDecimal? at h
  split at h
  · rcases Option.or_eq_some_iff.mp h with h | ⟨-, h⟩
    · exact Numeral.Decimal.ofText?_inRange h
    · exact Numeral.Decimal.ofFloat?_inRange h
  · obtain ⟨text, -, htext⟩ := Option.bind_eq_some_iff.mp h
    exact Numeral.Decimal.ofText?_inRange htext

theorem writesBack_date {t : Instant} (default? : Option Json) (h : t.Readable) :
    (primitive .date default?).WritesBack (.timestamp t) := by
  have hread : Instant.ofText? t.render = some t := Instant.ofText?_render h
  refine .of_shown ⟨_, .timestamp t⟩ fun shown hshown => ?_
  cases hshown with
  | timestamp =>
    refine ⟨nofun, rfl, Value.ofInstant t, ?_, nofun, ?_⟩
    · simp only [readValue, readDate?, hread]
    · have henvelope : Value.asDate? (Value.ofInstant t) = some t := by
        rw [Value.asDate?_ofInstant, hread]
      simp only [bindValue?, bindKind?, readDate?, Value.ofInstant] at henvelope ⊢
      rw [henvelope, Option.map_some]

theorem writesBack_decimal {d : Numeral.Decimal} (default? : Option Json) (h : d.InRange) :
    (primitive .decimal default?).WritesBack (.decimal d.render) := by
  have hread : Numeral.Decimal.ofText? d.render = some d := Numeral.Decimal.ofText?_render h
  refine .of_shown ⟨_, .decimal _⟩ fun shown hshown => ?_
  cases hshown with
  | decimal =>
    refine ⟨nofun, rfl, Value.ofDecimal d, ?_, nofun, ?_⟩
    · simp only [readValue, hread]
    · have henvelope : Value.asDecimal? (Value.ofDecimal d) = some d := by
        rw [Value.asDecimal?, Value.ofDecimal, Value.envelope?, if_pos rfl, Option.bind_some, hread]
        intro n hn
        cases hn
      simp only [bindValue?, bindKind?, PrimitiveKind.constant?, henvelope, Option.map_some]

/-- What a primitive kind binds is written back; an instant needs a year of four digits for it. -/
theorem writesBack_kind {kind : PrimitiveKind} (default? : Option Json)
    (h : bindKind? kind v = some p)
    (hyear : ∀ t, p = .timestamp t → 0 ≤ t.year ∧ t.year ≤ 9999) :
    (primitive kind default?).WritesBack p := by
  cases kind with
  | boolean =>
    obtain ⟨b, -, rfl⟩ := Option.map_eq_some_iff.mp h
    refine .of_shown ⟨_, .bool b⟩ fun shown hshown => ?_
    cases hshown
    exact ⟨nofun, rfl, .bool b, rfl, nofun, rfl⟩
  | number =>
    obtain ⟨x, -, rfl⟩ := Option.map_eq_some_iff.mp h
    refine .of_shown ⟨.num (.float x), .float rfl⟩ fun shown hshown => ?_
    cases hshown with
    | @float _ n hn =>
      subst hn
      exact ⟨nofun, rfl, .num n, rfl, nofun, rfl⟩
  | decimal =>
    obtain ⟨d, hd, rfl⟩ := Option.map_eq_some_iff.mp h
    exact writesBack_decimal default? (asDecimal?_inRange hd)
  | string =>
    obtain ⟨s, -, rfl⟩ := Option.map_eq_some_iff.mp h
    refine .of_shown ⟨_, .text s⟩ fun shown hshown => ?_
    cases hshown
    exact ⟨nofun, rfl, .str s, rfl, nofun, rfl⟩
  | stringArray =>
    cases v with
    | arr items =>
      obtain ⟨texts, -, rfl⟩ := Option.map_eq_some_iff.mp h
      refine .of_shown ⟨_, .textArray texts⟩ fun shown hshown => ?_
      cases hshown
      refine ⟨nofun, rfl, .arr (texts.map .str), rfl, nofun, ?_⟩
      have hitems : (texts.map Json.str).mapM Json.asStr? = some texts :=
        Result.optionMapM_eq_some.mpr
          (List.forall₂_map_left_iff.mpr (List.forall₂_same.mpr fun _ _ => rfl))
      simp only [bindValue?, bindKind?, hitems, Option.map_some]
    | null | bool _ | num _ | str _ | obj _ => cases h
  | date =>
    obtain ⟨t, ht, rfl⟩ := Option.map_eq_some_iff.mp h
    obtain ⟨text, htext⟩ := readDate?_ofText? ht
    exact writesBack_date default? (Instant.readable_of_ofText? htext (hyear t rfl))
  | object =>
    cases v with
    | obj members =>
      cases h
      refine .of_shown ⟨_, .json _⟩ fun shown hshown => ?_
      cases hshown
      exact ⟨nofun, rfl, .obj members, rfl, nofun, rfl⟩
    | null | bool _ | num _ | str _ | arr _ => cases h
  | array =>
    cases v with
    | arr items =>
      cases h
      refine .of_shown ⟨_, .json _⟩ fun shown hshown => ?_
      cases hshown
      exact ⟨nofun, rfl, .arr items, rfl, nofun, rfl⟩
    | null | bool _ | num _ | str _ | obj _ => cases h

theorem writesBack_vector {dimension : Nat} (default? : Option (List Float)) {items : List Json}
    {xs : List Float} (hlength : items.length = dimension)
    (h : items.mapM Json.asFloat? = some xs) :
    (vector dimension default?).WritesBack (.floatArray xs) := by
  have hxs : xs.length = dimension := (Result.optionMapM_eq_some.mp h).length_eq ▸ hlength
  have hshown : xs = (xs.map Number.float).map Number.toFloat := by
    rw [List.map_map]
    exact (List.map_id xs).symm
  refine .of_shown ⟨_, .floatArray hshown⟩ fun shown hshown => ?_
  cases hshown with
  | @floatArray _ numbers hnumbers =>
    subst hnumbers
    have hitems : (numbers.map Json.num).mapM Json.asFloat? =
        some (numbers.map Number.toFloat) :=
      Result.optionMapM_eq_some.mpr (by simp [List.forall₂_map_left_iff, List.forall₂_map_right_iff,
        List.forall₂_same, Json.asFloat?])
    refine ⟨by simp, rfl, .arr (numbers.map .num), rfl, by simp, ?_⟩
    simp only [List.length_map] at hxs
    simp only [bindValue?, List.length_map, hxs, ↓reduceIte, hitems, Option.map_some]

/-- What is read from the token of a target refers to its object. -/
theorem writesBack_pointer {target token : String} (htarget : Schema.isName target = true)
    (h : tokenOf? target v = some token) : (pointer target).WritesBack (.text token) := by
  obtain ⟨id, -, rfl⟩ := Option.map_eq_some_iff.mp h
  obtain ⟨w, hread, hw⟩ := readReference?_token htarget id
  refine .of_shown ⟨_, .text _⟩ fun shown hshown => ?_
  cases hshown
  refine ⟨nofun, rfl, w, ?_, ?_, ?_⟩
  · simp only [readValue, hread]
  · rintro rfl
    cases hw
  · simp only [bindValue?, hw, Option.map_some]

theorem writesBack_relation {target : String} (htarget : Schema.isName target = true)
    {items : List Json} {tokens : List String} (h : items.mapM (tokenOf? target) = some tokens) :
    (relation target none).WritesBack (.textArray tokens) := by
  -- Each token is read as an object that refers to what the token was made of.
  obtain ⟨ws, hws⟩ : ∃ ws, List.Forall₂ (fun token w => readReference? (.str token) = some w ∧
      tokenOf? target w = some token) tokens ws := by
    refine Result.exists_forall₂ fun token htoken => ?_
    obtain ⟨item, -, hitem⟩ :=
      Result.exists_left_of_forall₂ (Result.optionMapM_eq_some.mp h) token htoken
    obtain ⟨id, -, rfl⟩ := Option.map_eq_some_iff.mp hitem
    exact readReference?_token htarget id
  have hbind : ws.mapM (tokenOf? target) = some tokens :=
    Result.optionMapM_eq_some.mpr (hws.flip.imp fun _ _ hw => hw.2)
  refine .of_shown ⟨_, .textArray tokens⟩ fun shown hshown => ?_
  cases hshown
  refine ⟨nofun, rfl, .arr ws, ?_, nofun, ?_⟩
  · refine Result.map_eq_ok.mpr ⟨ws, Result.mapM_eq_ok.mpr ?_, rfl⟩
    refine List.forall₂_map_left_iff.mpr (hws.imp fun token w hw => ?_)
    simp only [hw.1]
  · simp only [bindValue?, hbind, Option.map_some]

/-- What a type binds is written back, whatever the spelling of the value that was bound. -/
theorem writesBack_of_bind {s : Schema} (hclasses : ∀ className c, s.class? className = some c →
    Schema.isName className = true) (hty : s.WellTyped ty) (hv : v ≠ .null)
    (h : ty.bind v = .ok p) (hyear : ∀ t, p = .timestamp t → 0 ≤ t.year ∧ t.year ≤ 9999) :
    ty.WritesBack p := by
  have hname : ∀ {target}, (s.class? target).isSome = true → Schema.isName target = true := by
    intro target htarget
    obtain ⟨c, hc⟩ := Option.isSome_iff_exists.mp htarget
    exact hclasses target c hc
  obtain ⟨-, h⟩ := (bind_eq_ok hv).mp h
  unfold bindValue? at h
  split at h
  · exact writesBack_kind _ h hyear
  · split at h
    · next hlength =>
      obtain ⟨xs, hxs, rfl⟩ := Option.map_eq_some_iff.mp h
      exact writesBack_vector _ hlength hxs
    · cases h
  · obtain ⟨token, htoken, rfl⟩ := Option.map_eq_some_iff.mp h
    exact writesBack_pointer (hname hty) htoken
  · obtain ⟨tokens, htokens, rfl⟩ := Option.map_eq_some_iff.mp h
    exact writesBack_relation (hname hty) htokens
  · cases h

/-! ## Dates in universal time -/

/-- A date is read as its instant, and bound as it. -/
theorem read_of_asDate? {t : Instant} (default? : Option Json) (h : Value.asDate? v = some t) :
    (primitive .date default?).read v = .ok (Value.ofInstant t) ∧
      (primitive .date default?).bind v = .ok (.timestamp t) := by
  obtain ⟨text, rfl, -⟩ := Value.asDate?_eq_some.mp h
  have hdate : readDate? (.obj [(Value.dateTag, .str text)]) = some t := h
  constructor
  · rw [read_eq_readValue (by simp), readValue, hdate]
  · rw [bind_eq_ok (by simp)]
    exact ⟨rfl, congrArg (Option.map Param.timestamp) hdate⟩

/-- What is no date is neither read nor bound. -/
theorem read_of_not_date (default? : Option Json) (hv : v ≠ .null) (h : readDate? v = none) :
    (primitive .date default?).read v =
        .error (.dataType (.undecodable v (primitive .date default?))) ∧
      (primitive .date default?).bind v =
        .error (.dataType (.mismatch v (primitive .date default?))) := by
  have hbind : bindValue? (primitive .date default?) v = none :=
    congrArg (Option.map Param.timestamp) h
  constructor
  · rw [read_eq_readValue hv, readValue, h]
  · simp only [bind, isNull_eq_false hv, hbind, isDerived, Bool.false_eq_true, ↓reduceIte]

/--
A date is read as its instant in universal time. That is a date of the same instant, equal to what was
read, and read and bound as it is, if the year has four digits there. If not, it is a year next to those
of four digits, and what is written is no date: it is neither read nor bound.
-/
theorem restated_date (default? : Option Json) {v : Json} {t : Instant}
    (h : Value.asDate? v = some t) :
    (primitive .date default?).read v = .ok (Value.ofInstant t) ∧
      (0 ≤ t.year ∧ t.year ≤ 9999 →
        Value.asDate? (Value.ofInstant t) = some t ∧
        Value.equals v (Value.ofInstant t) = true ∧
        Value.order v (Value.ofInstant t) = some .eq ∧
        (primitive .date default?).read (Value.ofInstant t) = .ok (Value.ofInstant t) ∧
        (primitive .date default?).bind (Value.ofInstant t) = .ok (.timestamp t)) ∧
      (¬(0 ≤ t.year ∧ t.year ≤ 9999) →
        (t.year = -1 ∨ t.year = 10000) ∧
        Value.asDate? (Value.ofInstant t) = none ∧
        (primitive .date default?).read (Value.ofInstant t) =
          .error (.dataType (.undecodable (Value.ofInstant t) (primitive .date default?))) ∧
        (primitive .date default?).bind (Value.ofInstant t) =
          .error (.dataType (.mismatch (Value.ofInstant t) (primitive .date default?)))) := by
  obtain ⟨text, -, htext⟩ := Value.asDate?_eq_some.mp h
  refine ⟨(read_of_asDate? default? h).1, fun hyear => ?_, fun hyear => ?_⟩
  · have hself : Value.asDate? (Value.ofInstant t) = some t := by
      rw [Value.asDate?_ofInstant]
      exact (Instant.ofText?_render_iff htext).mpr hyear
    have horder := Value.rankedBy_date.order_eq h hself
    rw [Instant.order_eq_iff.mpr rfl] at horder
    exact ⟨hself, (Value.equals_of_dates h hself).mpr rfl, horder, read_of_asDate? default? hself⟩
  · have hnone : Value.asDate? (Value.ofInstant t) = none := by
      rw [Value.asDate?_ofInstant, Instant.ofText?_render_eq_none hyear]
    have hbounds := Instant.year_of_ofText? htext
    exact ⟨by omega, hnone, read_of_not_date default? (by simp [Value.ofInstant]) hnone⟩

/-- The last leap second that is read, in small letters and with a digit too many. -/
theorem restated_date_of_lastSecond :
    Value.asDate? (.obj [("$date", .str "9999-12-31t23:59:60.1234567899z")]) =
        some ⟨253402300799, 1123456789⟩ ∧
      Value.equals (.obj [("$date", .str "9999-12-31t23:59:60.1234567899z")])
        (.obj [("$date", .str "9999-12-31T23:59:60.123456789+00:00")]) = true := by
  have hdate : Value.asDate? (.obj [("$date", .str "9999-12-31t23:59:60.1234567899z")]) =
      some ⟨253402300799, 1123456789⟩ := by decide +kernel
  have htext : Instant.render ⟨253402300799, 1123456789⟩ =
      "9999-12-31T23:59:60.123456789+00:00" := by decide +kernel
  obtain ⟨-, hstays, -⟩ := restated_date none hdate
  obtain ⟨-, hequals, -⟩ := hstays (by decide +kernel)
  rw [Value.ofInstant, htext] at hequals
  exact ⟨hdate, hequals⟩

/-- The start of the first year, one minute east of universal time, is read and lost. -/
theorem restated_date_lost :
    Value.asDate? (.obj [("$date", .str "0000-01-01T00:00:00+00:01")]) = some ⟨-62167219260, 0⟩ ∧
      Instant.render ⟨-62167219260, 0⟩ = "-0001-12-31T23:59:00+00:00" ∧
      Value.asDate? (Value.ofInstant ⟨-62167219260, 0⟩) = none := by
  decide +kernel

end FieldType

/-! ## Columns -/

namespace Schema

/--
A value that was stored in a column of an accepted schema and is read from there stores the same when
it is written back, as long as an instant has a year of four digits in universal time.
-/
theorem writesBack_column {document : Json} {s : Schema} (hs : ofJson document = .ok s)
    {className column : String} {ty : FieldType} (hty : s.typeIn? className column = some ty)
    {v : Json} (hv : v ≠ .null) {p : Param} (h : ty.bind v = .ok p)
    (hyear : ∀ t, p = .timestamp t → 0 ≤ t.year ∧ t.year ≤ 9999) :
    ty.WritesBack p := by
  obtain ⟨c, hc, hbelow⟩ := Option.bind_eq_some_iff.mp hty
  have htyped := ((accepted_of_ofJson hs).wellTyped_below hc hbelow).2
  exact FieldType.writesBack_of_bind (fun _ _ => isName_class_of_ofJson hs) htyped hv h hyear

/-- Orders have a total, the instant they were placed at and those who bought together. -/
def orders : Json :=
  .obj [
    ("Order", .obj [("fields", .obj [
      ("buyers", .obj [("type", .str "relation"), ("target", .str "User")]),
      ("placed", .str "date"),
      ("total", .str "decimal")])]),
    ("User", .obj [("fields", .obj [])])]

/-- The orders as a schema. -/
def orderSchema : Schema where
  classes := [
    ("Order", {
      fields := Field.defaults.foldl (fun t f => t.insert f.1 f.2)
        [("buyers", .relation "User" none), ("placed", .primitive .date none),
          ("total", .primitive .decimal none)] }),
    ("User", { fields := Field.defaults.foldl (fun t f => t.insert f.1 f.2) [] })]

/--
A total with a trailing zero, a leap second written in another zone, and an id with the mark that ends
the class in a token are all written back.
-/
theorem writesBack_column_orders :
    ofJson orders = .ok orderSchema ∧
      (∃ ty, orderSchema.typeIn? "Order" "total" = some ty ∧
        ty.bind (.obj [("$decimal", .str "-1.50")]) = .ok (.decimal "-1.50") ∧
        ty.WritesBack (.decimal "-1.50")) ∧
      (∃ ty, orderSchema.typeIn? "Order" "placed" = some ty ∧
        ty.bind (.str "2017-01-01T00:59:60.5+01:00") =
          .ok (.timestamp ⟨1483228799, 1500000000⟩) ∧
        ty.WritesBack (.timestamp ⟨1483228799, 1500000000⟩)) ∧
      ∃ ty, orderSchema.typeIn? "Order" "buyers" = some ty ∧
        ty.bind (.arr [.str "a$b", .obj [("_id", .str "c")]]) =
          .ok (.textArray ["User$a$b", "User$c"]) ∧
        ty.WritesBack (.textArray ["User$a$b", "User$c"]) := by
  have hs : ofJson orders = .ok orderSchema := by rfl
  refine ⟨hs, ?total, ?placed, ?buyers⟩
  case total =>
    have hty : orderSchema.typeIn? "Order" "total" = some (.primitive .decimal none) := by rfl
    have hread : Value.asDecimal? (.obj [("$decimal", .str "-1.50")]) = some ⟨-150, 2⟩ := by
      decide +kernel
    have htext : Numeral.Decimal.render ⟨-150, 2⟩ = "-1.50" := by decide +kernel
    have hbind : (FieldType.primitive .decimal none).bind (.obj [("$decimal", .str "-1.50")]) =
        .ok (.decimal "-1.50") := by
      have hdecimal := congrArg (Option.map fun d => Param.decimal (Numeral.Decimal.render d)) hread
      rw [Option.map_some, htext] at hdecimal
      rw [FieldType.bind_eq_ok (by simp)]
      exact ⟨rfl, hdecimal⟩
    exact ⟨_, hty, hbind, writesBack_column hs hty (by simp) hbind nofun⟩
  case placed =>
    have hty : orderSchema.typeIn? "Order" "placed" = some (.primitive .date none) := by rfl
    have hread : FieldType.readDate? (.str "2017-01-01T00:59:60.5+01:00") =
        some ⟨1483228799, 1500000000⟩ := by
      decide +kernel
    have hbind : (FieldType.primitive .date none).bind (.str "2017-01-01T00:59:60.5+01:00") =
        .ok (.timestamp ⟨1483228799, 1500000000⟩) := by
      rw [FieldType.bind_eq_ok (by simp)]
      exact ⟨rfl, congrArg (Option.map Param.timestamp) hread⟩
    refine ⟨_, hty, hbind, writesBack_column hs hty (by simp) hbind fun t ht => ?_⟩
    cases ht
    decide +kernel
  case buyers =>
    have hty : orderSchema.typeIn? "Order" "buyers" = some (.relation "User" none) := by rfl
    have hbind : (FieldType.relation "User" none).bind
        (.arr [.str "a$b", .obj [("_id", .str "c")]]) =
          .ok (.textArray ["User$a$b", "User$c"]) := by rfl
    exact ⟨_, hty, hbind, writesBack_column hs hty (by simp) hbind nofun⟩

end Schema

end ObjectQuery
