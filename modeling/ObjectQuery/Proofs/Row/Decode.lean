import ObjectQuery.Proofs.Row.Levels

/-!
# Every value of a row is where its key says

The values of a row of separate keys are found in its object under their paths. What a left join did
not find is null as a whole, groups stand for themselves, nothing is added, and the order of the keys
does not matter.
-/

namespace ObjectQuery.Row

variable {s : Schema} {className : String} {c : Class} {row : List (String × Json)}

/-! ## Values of documents -/

/-- The document of a relation that is an array of rows. -/
def IsRows (ty : FieldType) (v : Json) : Prop :=
  ∃ target foreign, ∃ rows : List (List (String × Json)),
    ty = .relation target foreign ∧ v = .arr (rows.map .obj)

/--
The value of a document: rows of a relation's members are objects of its class, anything else is read
by its type.
-/
inductive Decodes (s : Schema) : FieldType → Json → Json → Prop
  | rows {target : String} {foreign : Option String} {rows : List (List (String × Json))}
      {objects : List Json} : rows.mapM (decode s target) = .ok objects →
      Decodes s (.relation target foreign) (.arr (rows.map .obj)) (.arr objects)
  | plain {ty : FieldType} {v w : Json} : ¬ IsRows ty v → ty.read v = .ok w → Decodes s ty v w

/-- Items that are rows are decoded one by one. -/
theorem decodeItems_rows (rows : List (List (String × Json))) :
    decodeItems s className (rows.map .obj) = rows.mapM (decode s className) := by
  induction rows with
  | nil => rfl
  | cons row rest ih =>
    rw [List.map_cons, decodeItems, ih, List.mapM_cons]
    simp only [decode, bind_assoc, pure_bind]

/-- Items that are all objects are rows. -/
theorem exists_rows {items : List Json} (h : items.all isObject = true) :
    ∃ rows : List (List (String × Json)), items = rows.map .obj := by
  induction items with
  | nil => exact ⟨[], rfl⟩
  | cons item rest ih =>
    obtain ⟨hitem, hrest⟩ := Bool.and_eq_true_iff.mp h
    obtain ⟨rows, rfl⟩ := ih hrest
    cases item with
    | obj row => exact ⟨row :: rows, rfl⟩
    | _ => cases hitem

/-- Rows are objects, each of them. -/
theorem all_isObject (rows : List (List (String × Json))) :
    (rows.map Json.obj).all isObject = true := by
  simp [isObject, Json.asMembers?]

/-- A value that is no list of rows is read by its type. -/
theorem decodeValue_of_plain {ty : FieldType} {v : Json} (h : ¬ IsRows ty v) :
    decodeValue s ty v = ty.read v := by
  cases v with
  | arr items =>
    cases ty with
    | relation target foreign =>
      rw [decodeValue]
      refine if_neg fun hall => h ?_
      obtain ⟨rows, rfl⟩ := exists_rows hall
      exact ⟨target, foreign, rows, rfl, rfl⟩
    | _ => rw [decodeValue]; simp
  | _ => rw [decodeValue]; simp

/-- Decoding a value succeeds with what the rules say of it, and with nothing else. -/
theorem decodeValue_eq_ok {ty : FieldType} {v w : Json} :
    decodeValue s ty v = .ok w ↔ Decodes s ty v w := by
  by_cases hrows : IsRows ty v
  · obtain ⟨target, foreign, rows, rfl, rfl⟩ := hrows
    have hitems : decodeValue s (.relation target foreign) (.arr (rows.map .obj)) =
        (rows.mapM (decode s target)).map .arr := by
      rw [decodeValue]
      simp only [all_isObject, if_true, decodeItems_rows]
    rw [hitems, Result.map_eq_ok]
    constructor
    · rintro ⟨objects, hobjects, rfl⟩
      exact .rows hobjects
    · intro h
      generalize hv : Json.arr (rows.map .obj) = v at h
      cases h with
      | rows hobjects =>
        have heq := (List.map_inj_right fun _ _ => Json.obj.inj).mp (Json.arr.inj hv)
        exact ⟨_, heq ▸ hobjects, rfl⟩
      | plain hplain _ => exact absurd ⟨_, _, _, rfl, hv.symm⟩ hplain
  · rw [decodeValue_of_plain hrows]
    refine ⟨.plain hrows, fun h => ?_⟩
    cases h with
    | rows _ => exact absurd ⟨_, _, _, rfl, rfl⟩ hrows
    | plain _ hread => exact hread

/-! ## Rows by their keys -/

/-- A row holds under a key, which is no group's, a value of a type. -/
def Holds (s : Schema) (className : String) (row : List (String × Json)) (key : String)
    (ty : FieldType) (value : Json) : Prop :=
  ∃ v, (key, v) ∈ row ∧ isGroupKey key = false ∧
    typeAt s className (Text.split '.' key) = .ok ty ∧ Decodes s ty v value

/-- Names lead to a pointer, and the row holds no id for its target, or null. -/
def MissesTarget (s : Schema) (className : String) (row : List (String × Json))
    (names : List String) : Prop :=
  (∃ target, typeAt s className names = .ok (.pointer target)) ∧
    ∀ key ty value, Holds s className row key ty value →
      Text.split '.' key = names ++ [Field.id] → value = .null

/-- The names a key leads through; that of a group is one name. -/
def namesOf (key : String) : List String :=
  if isGroupKey key then [key] else Text.split '.' key

/-- The value of an entry of a row at its names. -/
def placement (s : Schema) (className : String) (entry : String × Json) : List String × Json :=
  if isGroupKey entry.1 then ([entry.1], entry.2)
  else
    let names := Text.split '.' entry.1
    (names, ((typeAt s className names).bind (decodeValue s · entry.2)).toOption.getD .null)

/-- An entry that is a group's or holds a value. -/
def Decodable (s : Schema) (className : String) (entry : String × Json) : Prop :=
  isGroupKey entry.1 = false →
    ∃ ty w, typeAt s className (Text.split '.' entry.1) = .ok ty ∧ Decodes s ty entry.2 w

/-- A plain name is no key of a group. -/
theorem isGroupKey_of_isName {key : String} (h : Schema.isName key = true) :
    isGroupKey key = false := by
  unfold Schema.isName at h
  split at h
  · cases h
  · next first rest hchars =>
    have hstart := (Bool.and_eq_true_iff.mp h).1
    have hne : ('$' == first) = false := by
      refine beq_eq_false_iff_ne.mpr ?_
      rintro rfl
      exact absurd hstart (by decide)
    have hopening : "$".toList = ['$'] := rfl
    rw [isGroupKey, Text.opensWith, hchars, hopening, List.isPrefixOf, hne, Bool.false_and]

/-- A group is placed under its key, verbatim. -/
theorem placement_of_group {entry : String × Json} (h : isGroupKey entry.1 = true) :
    placement s className entry = ([entry.1], entry.2) := if_pos h

/-- A typed key is placed at the names between its dots, with the value it decodes to. -/
theorem placement_of_holds {key : String} {v w : Json} {ty : FieldType}
    (hkey : isGroupKey key = false) (hty : typeAt s className (Text.split '.' key) = .ok ty)
    (hw : Decodes s ty v w) : placement s className (key, v) = (Text.split '.' key, w) := by
  have hvalue := decodeValue_eq_ok.mpr hw
  rw [placement, if_neg (Bool.eq_false_iff.mp hkey)]
  simp [hty, hvalue, Except.bind, Except.toOption]

/-- A row that decodes is folded from the values at its keys. -/
theorem decodeMembers_eq {done : List (String × Json)}
    (h : ∀ entry ∈ row, Decodable s className entry) :
    decodeMembers s className done row = .ok (placeAll done (row.map (placement s className))) := by
  induction row generalizing done with
  | nil => rfl
  | cons entry rest ih =>
    obtain ⟨key, v⟩ := entry
    obtain ⟨hfirst, hrest⟩ := List.forall_mem_cons.mp h
    rw [decodeMembers, List.map_cons, placeAll_cons]
    cases hkey : isGroupKey key with
    | true =>
      rw [if_pos rfl, ih hrest, placement_of_group hkey]
      rfl
    | false =>
      obtain ⟨ty, w, hty, hw⟩ := hfirst hkey
      rw [if_neg Bool.false_ne_true, placement_of_holds hkey hty hw]
      exact Result.bind_eq_ok.mpr ⟨ty, hty,
        Result.bind_eq_ok.mpr ⟨w, decodeValue_eq_ok.mpr hw, ih hrest⟩⟩

/-! ## Separate keys -/

/-- The first name of a typed key is a field, so it names no group. -/
theorem isGroupKey_of_typeAt (hs : s.Accepted) {name : String} {rest : List String}
    {ty : FieldType} (h : typeAt s className (name :: rest) = .ok ty) :
    isGroupKey name = false := by
  obtain ⟨c, hc, fieldType, hf, -⟩ := typeAt_eq_ok.mp h
  exact isGroupKey_of_isName (hs.wellTyped hc hf).1

/-- Where an entry is placed does not depend on its value. -/
theorem fst_placement {entry : String × Json} :
    (placement s className entry).1 = namesOf entry.1 := by
  rw [placement, namesOf]
  split <;> rfl

/-- Keys of which none is a part of the other lead apart. -/
theorem separate_namesOf (hs : s.Accepted) {a b : String × Json}
    (ha : Decodable s className a) (hb : Decodable s className b)
    (h : Separate (Text.split '.' a.1) (Text.split '.' b.1)) :
    Separate (namesOf a.1) (namesOf b.1) := by
  -- A group's key is no field, so it leads nowhere that a typed key leads.
  have hmixed : ∀ {a b : String × Json}, isGroupKey a.1 = true → isGroupKey b.1 = false →
      Decodable s className b → Separate [a.1] (Text.split '.' b.1) := by
    intro a b ha hb htyped
    obtain ⟨ty, w, hty, -⟩ := htyped hb
    cases hsplit : Text.split '.' b.1 with
    | nil =>
      rw [hsplit] at hty
      cases hty
    | cons name rest =>
      rw [hsplit] at hty
      have hne : a.1 ≠ name := fun heq => by
        rw [heq, isGroupKey_of_typeAt hs hty] at ha
        cases ha
      constructor
      · intro hlead
        exact hne (List.cons_prefix_cons.mp hlead).1
      · intro hlead
        exact hne (List.cons_prefix_cons.mp hlead).1.symm
  cases hkeya : isGroupKey a.1 <;> cases hkeyb : isGroupKey b.1 <;>
    simp only [namesOf, hkeya, hkeyb, if_true, Bool.false_eq_true, if_false]
  · exact h
  · exact (hmixed hkeyb hkeya ha).symm
  · exact hmixed hkeya hkeyb hb
  · have hne : a.1 ≠ b.1 := fun heq => h.1 (heq ▸ List.prefix_refl _)
    constructor
    · intro hlead
      exact hne (List.cons_prefix_cons.mp hlead).1
    · intro hlead
      exact hne (List.cons_prefix_cons.mp hlead).1.symm

/-! ## The object of a row -/

/-- A row whose entries decode, with keys of which none is a part of another. -/
structure Readable (s : Schema) (className : String) (row : List (String × Json)) : Prop where
  decodes : ∀ entry ∈ row, Decodable s className entry
  apart : row.Pairwise fun a b => Separate (Text.split '.' a.1) (Text.split '.' b.1)

/-- The values of a row at their names. -/
def placements (s : Schema) (className : String) (row : List (String × Json)) : Placements :=
  row.map (placement s className)

namespace Readable

/-- The order of a row does not matter to reading it. -/
theorem of_perm {others : List (String × Json)} (h : Readable s className row)
    (hperm : row.Perm others) : Readable s className others where
  decodes entry hmem := h.decodes entry (hperm.mem_iff.mpr hmem)
  apart := (hperm.pairwise_iff Separate.symm).mp h.apart

/-- The entries of a readable row are placed apart. -/
theorem unnested (hs : s.Accepted) (h : Readable s className row) :
    Unnested (placements s className row) := by
  refine List.pairwise_map.mpr (h.apart.imp_of_mem fun ha hb hseparate => ?_)
  rw [fst_placement, fst_placement]
  exact separate_namesOf hs (h.decodes _ ha) (h.decodes _ hb) hseparate

/--
Each entry of a readable row is placed along the fields of the class, or under the key of a group.
-/
theorem walks (hs : s.Accepted) (hc : s.class? className = some c) (h : Readable s className row) :
    Walks s c.field? (placements s className row) := by
  intro entry hmem
  obtain ⟨⟨key, v⟩, hentry, rfl⟩ := List.mem_map.mp hmem
  cases hkey : isGroupKey key with
  | true =>
    refine .inr ⟨key, by rw [placement_of_group hkey], ?_⟩
    cases hf : c.field? key with
    | none => rfl
    | some ty =>
      cases (isGroupKey_of_isName (hs.wellTyped hc hf).1).symm.trans hkey
  | false =>
    obtain ⟨ty, w, hty, hw⟩ := h.decodes _ hentry hkey
    obtain ⟨c', hc', hleads⟩ := typeAt_eq_ok.mp hty
    cases hc.symm.trans hc'
    exact .inl ⟨ty, by rwa [placement_of_holds hkey hty hw]⟩

/-- What a row holds under a key is placed at the names of the key. -/
theorem mem_of_holds {key : String} {ty : FieldType} {w : Json}
    (h : Holds s className row key ty w) :
    (Text.split '.' key, w) ∈ placements s className row := by
  obtain ⟨v, hmem, hkey, hty, hw⟩ := h
  exact List.mem_map.mpr ⟨_, hmem, placement_of_holds hkey hty hw⟩

/-- A value at its names is a group's or one that the row holds. -/
theorem of_mem_placements (h : Readable s className row) {names : List String} {w : Json}
    (hmem : (names, w) ∈ placements s className row) :
    (∃ key, isGroupKey key = true ∧ names = [key]) ∨
      ∃ key ty, Holds s className row key ty w ∧ names = Text.split '.' key := by
  obtain ⟨⟨key, v⟩, hentry, heq⟩ := List.mem_map.mp hmem
  cases hkey : isGroupKey key with
  | true =>
    rw [placement_of_group hkey] at heq
    cases heq
    exact .inl ⟨key, hkey, rfl⟩
  | false =>
    obtain ⟨ty, value, hty, hw⟩ := h.decodes _ hentry hkey
    rw [placement_of_holds hkey hty hw] at heq
    cases heq
    exact .inr ⟨key, ty, ⟨v, hentry, hkey, hty, hw⟩, rfl⟩

/-- A row misses the target of a pointer when its placements do. -/
theorem missesTarget_iff (hc : s.class? className = some c) (h : Readable s className row)
    {names : List String} :
    MissesTarget s className row names ↔ Misses s c.field? (placements s className row) names := by
  have hleads : ∀ {ty}, typeAt s className names = .ok ty ↔ Level.Leads s c.field? names ty := by
    intro ty
    rw [typeAt_eq_ok]
    exact ⟨fun ⟨c', hc', hty⟩ => by cases hc.symm.trans hc'; exact hty, fun hty => ⟨c, hc, hty⟩⟩
  simp only [MissesTarget, Misses, hleads]
  refine and_congr_right ?_
  rintro ⟨target, htarget⟩
  have hne : names ≠ [] := by
    rintro rfl
    exact htarget.elim
  constructor
  · intro hnull w hmem
    rcases h.of_mem_placements hmem with ⟨key, -, heq⟩ | ⟨key, ty, hholds, heq⟩
    · cases names with
      | nil => exact absurd rfl hne
      | cons name rest => simp at heq
    · exact hnull key ty w hholds heq.symm
  · intro hnull key ty w hholds heq
    exact hnull w (heq ▸ mem_of_holds hholds)

/-- A readable row has an object: its values folded, and cleared of missing targets. -/
theorem exists_decode (hs : s.Accepted) (hc : s.class? className = some c)
    (h : Readable s className row) :
    ∃ members, decode s className row = .ok (.obj members) ∧
      clearMembers s c.field? (placeAll [] (placements s className row)) = .ok members := by
  obtain ⟨members, hmembers⟩ : ∃ members,
      clearMembers s c.field? (placeAll [] (placements s className row)) = .ok members := by
    refine clearMembers_total fun m _ => ?_
    rw [clearMember]
    cases hf : c.field? m.1 with
    | none => exact ⟨_, rfl⟩
    | some ty => exact clear_total hs (hs.wellTyped hc hf).2 m.2
  refine ⟨members, ?_, hmembers⟩
  have hplaced : decodeMembers s className [] row = .ok (placeAll [] (placements s className row)) :=
    decodeMembers_eq h.decodes
  simp only [decode, clearObject, Result.bind_eq_ok, Result.pure_eq_ok]
  exact ⟨_, hplaced, members, ⟨c, Schema.getClass_eq_ok.mpr hc, hmembers⟩, rfl⟩

end Readable

/--
The object of a readable row. Each value stands where its key says, unless a pointer on the way has
missed its target: that pointer is null, with everything below it. A value that is itself a shape or
a pointer is cleared of the targets that it misses; a group stands under its key; nothing else is
there; and the order of the row shows in the order of the members only.
-/
theorem decode_places {document : Json} (hs : Schema.ofJson document = .ok s)
    (hclass : (s.class? className).isSome = true) (h : Readable s className row) :
    ∃ members, decode s className row = .ok (.obj members) ∧
      (∀ key ty value, Holds s className row key ty value →
        (∀ front back, Text.split '.' key = front ++ back → back ≠ [] →
          MissesTarget s className row front →
            front.foldl Value.step (.obj members) = .null ∧
              Value.getPath (.obj members) key = .null) ∧
        ((∀ front back, Text.split '.' key = front ++ back → back ≠ [] →
          ¬ MissesTarget s className row front) →
            clear s ty value = .ok (Value.getPath (.obj members) key) ∧
              (ty.isShape = false → (∀ target, ty ≠ .pointer target) →
                Value.getPath (.obj members) key = value))) ∧
      (∀ key v, (key, v) ∈ row → isGroupKey key = true → Json.member? members key = some v) ∧
      (∀ names v, names ≠ [] → standsAt? (.obj members) names = some v →
        ∃ entry ∈ row, namesOf entry.1 <+: names ∨ names <+: namesOf entry.1) ∧
      ∀ others, row.Perm others → ∃ members', decode s className others = .ok (.obj members') ∧
        Reordered (.obj members) (.obj members') := by
  have hids := hasIds_of_ofJson hs
  have hs := Schema.accepted_of_ofJson hs
  obtain ⟨c, hc⟩ := Option.isSome_iff_exists.mp hclass
  obtain ⟨members, hdecode, hcleared⟩ := h.exists_decode hs hc
  have hfree := h.unnested hs
  have hwalks := h.walks hs hc
  refine ⟨members, hdecode, fun key ty value hholds => ⟨?_, fun hfound => ?_⟩, ?_, ?_, ?_⟩
  · intro front back hsplit hback hmisses
    have hnull : front.foldl Value.step (.obj members) = .null := by
      have hmem : (front ++ back, value) ∈ placements s className row :=
        hsplit ▸ Readable.mem_of_holds hholds
      exact value_of_misses hids hfree hwalks hcleared hmem hback
        ((h.missesTarget_iff hc).mp hmisses)
    refine ⟨hnull, ?_⟩
    rw [Value.getPath, hsplit, List.foldl_append, hnull, foldl_step_null]
  · have hvalue : clear s ty value = .ok (Value.getPath (.obj members) key) := by
      have ⟨_, _, _, hty, _⟩ := hholds
      obtain ⟨c', hc', hleads⟩ := typeAt_eq_ok.mp hty
      cases hc.symm.trans hc'
      exact value_of_found hids hfree hwalks hcleared (Readable.mem_of_holds hholds) hleads
        fun front back hsplit hback hmisses =>
          hfound front back hsplit hback ((h.missesTarget_iff hc).mpr hmisses)
    refine ⟨hvalue, fun hshape hpointer => ?_⟩
    rw [clear_of_flat value hshape hpointer, Except.ok.injEq] at hvalue
    exact hvalue.symm
  · intro key v hmem hkey
    have hplaced : ([key], v) ∈ placements s className row :=
      List.mem_map.mpr ⟨_, hmem, placement_of_group hkey⟩
    obtain ⟨v', hmember, hclear⟩ := member?_of_mem hfree hcleared hplaced
    have hf : c.field? key = none := by
      cases hf : c.field? key with
      | none => rfl
      | some ty => cases (isGroupKey_of_isName (hs.wellTyped hc hf).1).symm.trans hkey
    rw [clearMember, hf] at hclear
    cases hclear
    exact hmember
  · intro names v hne hstands
    obtain ⟨_, hmem, hrelated⟩ := of_standsAt? hids hfree hwalks hcleared hne hstands
    obtain ⟨entry, hentry, rfl⟩ := List.mem_map.mp hmem
    exact ⟨entry, hentry, fst_placement ▸ hrelated⟩
  · intro others hperm
    have hothers := h.of_perm hperm
    obtain ⟨members', hdecode', hcleared'⟩ := hothers.exists_decode hs hc
    exact ⟨members', hdecode',
      reordered_of_perm hids (hperm.map _) hfree hwalks hcleared hcleared'⟩

/-- Notes have an address and an author, and authors work for a company. -/
def employedNotes : Json :=
  .obj [
    ("Company", .obj [("fields", .obj [("name", .str "string")])]),
    ("Note", .obj [("fields", .obj [
      ("address", .obj [("type", .str "shape"), ("shape", .obj [("city", .str "string")])]),
      ("author", .obj [("type", .str "pointer"), ("target", .str "User")])])]),
    ("User", .obj [("fields", .obj [
      ("company", .obj [("type", .str "pointer"), ("target", .str "Company")])])])]

/-- The classes as a schema. -/
def employedSchema : Schema where
  classes := [
    ("Company", {
      fields := Field.defaults.foldl (fun t f => t.insert f.1 f.2)
        [("name", .primitive .string none)] }),
    ("Note", {
      fields := Field.defaults.foldl (fun t f => t.insert f.1 f.2)
        [("address", .shape [("city", .primitive .string none)]), ("author", .pointer "User")] }),
    ("User", {
      fields := Field.defaults.foldl (fun t f => t.insert f.1 f.2)
        [("company", .pointer "Company")] })]

/-- The row of a note whose author has no company. -/
def freelanceRow : List (String × Json) :=
  [("author.company.name", .null), ("_id", .str "n1"), ("address.city", .str "Oslo"),
    ("author._id", .str "u1"), ("author.company._id", .null), ("$tags.count", .num (.int 3))]

/-- An entry that decodes, by computation, is decodable. -/
theorem decodable_of_toBool {entry : String × Json}
    (h : isGroupKey entry.1 = true ∨ ((typeAt s className (Text.split '.' entry.1)).bind
      (decodeValue s · entry.2)).toBool = true) : Decodable s className entry := by
  intro hkey
  obtain ⟨w, hw⟩ := Result.exists_of_toBool (h.resolve_left (Bool.eq_false_iff.mp hkey))
  obtain ⟨ty, hty, hvalue⟩ := Result.bind_eq_ok.mp hw
  exact ⟨ty, w, hty, decodeValue_eq_ok.mp hvalue⟩

/-- The note has its city and its group, and nothing of the company that is not there. -/
theorem decode_places_of_freelanceRow :
    ∃ members, Schema.ofJson employedNotes = .ok employedSchema ∧
      Readable employedSchema "Note" freelanceRow ∧
      decode employedSchema "Note" freelanceRow = .ok (.obj members) ∧
      Value.getPath (.obj members) "address.city" = .str "Oslo" ∧
      Value.getPath (.obj members) "author.company.name" = .null ∧
      Json.member? members "$tags.count" = some (.num (.int 3)) := by
  have hschema : Schema.ofJson employedNotes = .ok employedSchema := by rfl
  have hreadable : Readable employedSchema "Note" freelanceRow := by
    refine ⟨fun entry hentry => decodable_of_toBool ?_, by decide +kernel⟩
    revert entry
    decide +kernel
  obtain ⟨members, hdecode, hvalues, hgroups, -⟩ := decode_places hschema rfl hreadable
  have hcity : Holds employedSchema "Note" freelanceRow "address.city"
      (.primitive .string none) (.str "Oslo") :=
    ⟨.str "Oslo", by simp [freelanceRow], rfl, rfl, decodeValue_eq_ok.mp rfl⟩
  have hcompany : Holds employedSchema "Note" freelanceRow "author.company.name"
      (.primitive .string none) .null :=
    ⟨.null, by simp [freelanceRow], rfl, rfl, decodeValue_eq_ok.mp rfl⟩
  have hfound : ∀ front back, Text.split '.' "address.city" = front ++ back → back ≠ [] →
      ¬ MissesTarget employedSchema "Note" freelanceRow front := by
    rintro front back hsplit hback ⟨⟨target, htarget⟩, -⟩
    have hsplit : ["address", "city"] = front ++ back := hsplit
    match front, hsplit with
    | [], _ => cases htarget
    | [_], rfl => cases htarget
    | [_, _], rfl => exact hback rfl
  have hmisses : MissesTarget employedSchema "Note" freelanceRow ["author", "company"] := by
    refine ⟨⟨"Company", rfl⟩, ?_⟩
    rintro key ty value ⟨v, hmem, -, hty, hvalue⟩ hsplit
    simp only [freelanceRow, List.mem_cons, Prod.mk.injEq, List.not_mem_nil, or_false] at hmem
    rcases hmem with ⟨rfl, -⟩ | ⟨rfl, -⟩ | ⟨rfl, -⟩ | ⟨rfl, -⟩ | ⟨rfl, rfl⟩ | ⟨rfl, -⟩
    · exact absurd hsplit (by decide)
    · exact absurd hsplit (by decide)
    · exact absurd hsplit (by decide)
    · exact absurd hsplit (by decide)
    · cases Except.ok.inj hty
      exact (Except.ok.inj (decodeValue_eq_ok.mpr hvalue)).symm
    · exact absurd hsplit (by decide)
  refine ⟨members, hschema, hreadable, hdecode, ?_, ?_, ?_⟩
  · exact ((hvalues _ _ _ hcity).2 hfound).2 rfl fun _ => nofun
  · exact ((hvalues _ _ _ hcompany).1 ["author", "company"] ["name"] rfl
      (List.cons_ne_nil _ _) hmisses).2
  · exact hgroups "$tags.count" (.num (.int 3)) (by simp [freelanceRow]) rfl

end ObjectQuery.Row
