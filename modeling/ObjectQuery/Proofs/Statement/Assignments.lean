import ObjectQuery.Proofs.Columns.Writes

/-!
# Assignments of an update

The keys of an update document are spelled as paths, and several of them may change one column: as a
whole, in places inside the document that it holds, or as a leaf of a shape that is set. What a key
asks for is a list of changes, each of one column, and the SET list is what comes of carrying out the
changes of all keys in order. So the value of a column is that of the changes to it alone, each applied
to what the ones before it made of the column, and no column is assigned twice.

The statement assigns the version and the time of update itself. Keys may not start with what the
statement keeps itself, and a column is called by the field that its key starts with, which leaves these
columns to the statement in whatever way a key is spelled.
-/

namespace ObjectQuery

open ObjectQuery.Path (dotted)

/-! ## Heads of keys -/

/-- What is read of a part that starts with a field starts with its name. -/
theorem Path.name_of_readPart {part : List Char} {name : String} {rest : List Segment}
    (h : readPart true part = some (.field name :: rest)) :
    name = String.ofList (part.takeWhile (· ≠ '[')) := by
  unfold readPart at h
  dsimp only at h
  split at h
  · simp at h
  · split at h
    · next segment hname =>
      obtain ⟨brackets, -, heq⟩ := Option.map_eq_some_iff.mp h
      obtain rfl : segment = .field name := (List.cons.inj heq).1
      unfold readName at hname
      split at hname
      · obtain ⟨_, -, hindex⟩ := Option.map_eq_some_iff.mp hname
        cases hindex
      · cases hname
        rfl
    · cases h

/-- A text is split at its first separator, or not at all. -/
theorem Text.head_splitChars (sep : Char) (cs : List Char) :
    ∃ rest, splitChars sep cs = cs.takeWhile (· ≠ sep) :: rest := by
  induction cs with
  | nil => exact ⟨[], rfl⟩
  | cons c cs ih =>
    obtain ⟨rest, hrest⟩ := ih
    rw [splitChars]
    by_cases hc : c = sep
    · exact ⟨splitChars sep cs, by simp [hc]⟩
    · exact ⟨rest, by simp [hc, hrest]⟩

/-- A path that starts with a field is spelled with its name before the first dot or bracket. -/
theorem Gate.keyHead_of_parse {key name : String} {rest : List Segment}
    (h : Path.parse key = .ok (.field name :: rest)) : keyHead key = name := by
  obtain ⟨parts, hsplit⟩ := Text.head_splitChars '.' key.toList
  have hread := Path.parse_eq_ok.mp h
  rw [hsplit, Path.readParts] at hread
  split at hread
  · next first hfirst =>
    obtain ⟨more, -, heq⟩ := Option.map_eq_some_iff.mp hread
    obtain ⟨segment, others, rfl⟩ := List.exists_cons_of_ne_nil (Path.readPart_ne_nil hfirst)
    obtain ⟨rfl, -⟩ := List.cons.inj heq
    rw [Path.name_of_readPart hfirst, List.takeWhile_takeWhile, keyHead]
    congr 2
    funext c
    grind
  · cases hread

/-! ## Leaves of a shape -/

/-- A leaf of a type is the type itself, or lies below it. -/
theorem FieldType.name_of_leaf {ty : FieldType} {path : String} {leaf : String × FieldType}
    (h : leaf ∈ ty.leaves path) :
    leaf.1 = path ∧ ty.isShape = false ∨ ∃ rest, leaf.1 = path ++ "." ++ rest := by
  induction ty using FieldType.nested_induction generalizing path with
  | primitive | vector | pointer | relation =>
    obtain rfl := List.mem_singleton.mp h
    exact .inl ⟨rfl, rfl⟩
  | shape fields ih =>
    obtain ⟨m, hm, hleaf⟩ := mem_fieldLeaves_iff.mp h
    rcases ih m hm hleaf with ⟨hname, -⟩ | ⟨rest, hname⟩
    · exact .inr ⟨m.1, hname⟩
    · exact .inr ⟨m.1 ++ "." ++ rest, by simp only [hname, String.append_assoc]⟩

/-! ## Columns by their names -/

namespace Schema

variable {s : Schema} {className : String} {c : Class} {field : String} {names : List String}
  {fieldType ty : FieldType}

/-- The column that a key begins with is found by names, the first of which is the key's head. -/
theorem names_of_column {key name : String} {path : ColumnPath}
    (h : s.column className key = .ok ⟨name, ty, path⟩) :
    ∃ c field names fieldType, s.class? className = some c ∧ c.field? field = some fieldType ∧
      Gate.keyHead key = field ∧ name = dotted field names ∧
      fieldType.below? names = some ty := by
  obtain ⟨segments, hparse, hcolumn⟩ := Result.bind_eq_ok.mp h
  obtain ⟨c, field, rest, fieldType, hc, rfl, hf, hbelow⟩ := columnOf_eq_ok.mp hcolumn
  obtain ⟨⟨names, hty, hname⟩, -⟩ := below?_of_columnBelow hbelow
  exact ⟨c, field, names, fieldType, hc, hf, Gate.keyHead_of_parse hparse, hname, hty⟩

/-- A field and names inside its shape make a path of the class, and its parts are the names. -/
theorem Accepted.typeIn?_dotted (hs : s.Accepted) (hc : s.class? className = some c)
    (hf : c.field? field = some fieldType) (hty : fieldType.below? names = some ty) :
    s.typeIn? className (dotted field names) = some ty ∧
      Text.split '.' (dotted field names) = field :: names := by
  have hsplit := hs.split_dotted hc hf hty
  refine ⟨?_, hsplit⟩
  rw [typeIn?, hc, Option.bind_some, hsplit]
  exact Class.below?_eq_some.mpr ⟨field, names, fieldType, rfl, hf, hty⟩

end Schema

namespace Write

/-! ## Changes -/

/-- One update of one column: of the whole of it, or of a place inside the document that it holds. -/
structure Change where
  column : String
  type : FieldType
  path : List String
  update : Update

namespace Change

/-- What a change makes of the current value of its column. -/
def apply (change : Change) (current : Sql) : Result Sql :=
  change.update.apply current change.type change.path

/-- Carries out a change behind those that have been carried out. -/
def assign (root : Target) (sets : Assignments) (change : Change) : Result Assignments :=
  sets.apply root change.path (change.column, change.type, change.update)

/-- A leaf of a shape is set to what a value has at the place that the leaf has in the shape. -/
def SetsLeaf (shape : String) (value : Json) (leaf : String × FieldType) (change : Change) : Prop :=
  ∃ rest, leaf.1 = shape ++ "." ++ rest ∧
    change = ⟨leaf.1, leaf.2, [], ⟨.set, Value.getPath value rest⟩⟩

end Change

/-- What a key of an update document asks for: the changes of columns that it stands for. -/
inductive Asks (s : Schema) (className : String) : String × Json → List Change → Prop where
  /-- The key is a column. -/
  | whole {key name : String} {raw : Json} {ty : FieldType} {u : Update}
      (decoded : Update.decode raw = .ok u)
      (found : s.column className key = .ok ⟨name, ty, .column⟩)
      (stored : ty.isDerived = false) (plain : ty.isShape = false) :
      Asks s className (key, raw) [⟨name, ty, [], u⟩]
  /-- The key is a place inside a document. -/
  | inside {key name : String} {raw : Json} {ty : FieldType} {path : List String} {u : Update}
      (decoded : Update.decode raw = .ok u)
      (found : s.column className key = .ok ⟨name, ty, .json path⟩)
      (stored : ty.isDerived = false) :
      Asks s className (key, raw) [⟨name, ty, path, u⟩]
  /-- The key is a shape, which can only be set; so are its leaves, each to its part of the value. -/
  | spread {key name : String} {raw value : Json} {ty : FieldType} {changes : List Change}
      (decoded : Update.decode raw = .ok ⟨.set, value⟩)
      (found : s.column className key = .ok ⟨name, ty, .column⟩) (shape : ty.isShape = true)
      (leaves : List.Forall₂ (Change.SetsLeaf name value) (ty.leaves name) changes) :
      Asks s className (key, raw) changes

variable {s : Schema} {root : Target} {className : String} {sets sets' : Assignments}

/-- The updates of a shape's leaves are those changes. -/
theorem foldlM_shapeUpdates {shape : String} {value : Json} {leaves : List (String × FieldType)}
    {changes : List Change} (h : List.Forall₂ (Change.SetsLeaf shape value) leaves changes)
    (sets : Assignments) :
    (leaves.map fun leaf => (leaf.1, leaf.2, (⟨.set, Value.getPath value
      (String.ofList (leaf.1.toList.drop (shape.length + 1)))⟩ : Update))).foldlM
        (Assignments.apply root []) sets = changes.foldlM (Change.assign root) sets := by
  induction h generalizing sets with
  | nil => rfl
  | @cons leaf change leaves changes hleaf _ ih =>
    obtain ⟨rest, hname, rfl⟩ := hleaf
    have hrest : String.ofList (leaf.1.toList.drop (shape.length + 1)) = rest := by
      simp [hname, ← String.length_toList]
    rw [List.map_cons, List.foldlM_cons, List.foldlM_cons, hrest]
    exact bind_congr fun sets => ih sets

/-- A single change is made by applying its update to the column. -/
theorem foldlM_singleton {change : Change} :
    [change].foldlM (Change.assign root) sets = .ok sets' ↔
      sets.apply root change.path (change.column, change.type, change.update) = .ok sets' := by
  simp [Change.assign]

/-- A shape value spreads over all leaves of the shape. -/
theorem exists_spread {shape : String} {ty : FieldType} (hshape : ty.isShape = true)
    (value : Json) : ∃ changes, List.Forall₂ (Change.SetsLeaf shape value) (ty.leaves shape) changes :=
  Result.exists_forall₂ fun leaf hleaf => by
    rcases FieldType.name_of_leaf hleaf with ⟨-, hplain⟩ | ⟨rest, hname⟩
    · rw [hshape] at hplain
      cases hplain
    · exact ⟨_, rest, hname, rfl⟩

/-- A key that goes through starts with no fixed field, and the changes it asks for go through. -/
theorem asks_of_assignKey {entry : String × Json} (h : assignKey s root sets entry = .ok sets') :
    isFixed (Gate.keyHead entry.1) = false ∧ ∃ changes, Asks s root.className entry changes ∧
      changes.foldlM (Change.assign root) sets = .ok sets' := by
  obtain ⟨hhead, h⟩ := Result.refuse_eq_ok.mp h
  refine ⟨Bool.eq_false_iff.mpr hhead, ?_⟩
  obtain ⟨u, hu, h⟩ := Result.bind_eq_ok.mp h
  obtain ⟨⟨name, ty, path⟩, hfound, h⟩ := Result.bind_eq_ok.mp h
  obtain ⟨hstored, h⟩ := Result.refuse_eq_ok.mp h
  have hstored := Bool.eq_false_iff.mpr hstored
  cases path with
  | column =>
    dsimp only at h
    split at h
    next hshape =>
      obtain ⟨hset, h⟩ := Result.refuse_eq_ok.mp h
      obtain ⟨op, value⟩ := u
      obtain rfl : op = .set := of_not_not hset
      obtain ⟨changes, hchanges⟩ := exists_spread hshape value
      exact ⟨changes, .spread hu hfound hshape hchanges, foldlM_shapeUpdates hchanges sets ▸ h⟩
    next hshape =>
      exact ⟨_, .whole hu hfound hstored (Bool.eq_false_iff.mpr hshape), foldlM_singleton.mpr h⟩
  | json path => exact ⟨_, .inside hu hfound hstored, foldlM_singleton.mpr h⟩
  | vectorElement | relationElement | pointer => cases h

/-- A key that no fixed field takes makes the changes it asks for, in order. -/
theorem assignKey_of_asks {entry : String × Json} {changes : List Change}
    (hhead : isFixed (Gate.keyHead entry.1) = false) (hasks : Asks s root.className entry changes)
    (h : changes.foldlM (Change.assign root) sets = .ok sets') :
    assignKey s root sets entry = .ok sets' := by
  refine Result.refuse_eq_ok.mpr ⟨Bool.eq_false_iff.mp hhead, ?_⟩
  cases hasks with
  | whole hu hfound hstored hplain =>
    refine Result.bind_eq_ok.mpr ⟨_, hu, Result.bind_eq_ok.mpr ⟨_, hfound,
      Result.refuse_eq_ok.mpr ⟨Bool.eq_false_iff.mp hstored, ?_⟩⟩⟩
    simpa [hplain] using foldlM_singleton.mp h
  | inside hu hfound hstored =>
    exact Result.bind_eq_ok.mpr ⟨_, hu, Result.bind_eq_ok.mpr ⟨_, hfound,
      Result.refuse_eq_ok.mpr ⟨Bool.eq_false_iff.mp hstored, foldlM_singleton.mp h⟩⟩⟩
  | @spread _ _ _ _ ty _ hu hfound hshape hleaves =>
    have hstored : ty.isDerived = false := by
      cases ty with
      | shape => rfl
      | _ => cases hshape
    refine Result.bind_eq_ok.mpr ⟨_, hu, Result.bind_eq_ok.mpr ⟨_, hfound,
      Result.refuse_eq_ok.mpr ⟨Bool.eq_false_iff.mp hstored, ?_⟩⟩⟩
    dsimp only
    rw [if_pos hshape]
    exact Result.refuse_eq_ok.mpr ⟨not_not.mpr rfl, (foldlM_shapeUpdates hleaves sets).trans h⟩

/-- A document goes through if no key starts with a fixed field and all its changes go through. -/
theorem foldlM_assignKey_eq_ok {document : List (String × Json)} :
    document.foldlM (assignKey s root) sets = .ok sets' ↔
      (∀ entry ∈ document, isFixed (Gate.keyHead entry.1) = false) ∧
      ∃ changes, List.Forall₂ (Asks s root.className) document changes ∧
        changes.flatten.foldlM (Change.assign root) sets = .ok sets' := by
  induction document generalizing sets with
  | nil => simp
  | cons entry rest ih =>
    rw [List.foldlM_cons, Result.bind_eq_ok, List.forall_mem_cons]
    constructor
    · rintro ⟨mid, hentry, hrest⟩
      obtain ⟨hhead, own, hasks, hown⟩ := asks_of_assignKey hentry
      obtain ⟨hheads, changes, hall, hchanges⟩ := ih.mp hrest
      refine ⟨⟨hhead, hheads⟩, own :: changes, .cons hasks hall, ?_⟩
      rw [List.flatten_cons, List.foldlM_append]
      exact Result.bind_eq_ok.mpr ⟨mid, hown, hchanges⟩
    · rintro ⟨⟨hhead, hheads⟩, _, hboth, h⟩
      obtain ⟨own, changes, hasks, hall, rfl⟩ := List.forall₂_cons_left_iff.mp hboth
      rw [List.flatten_cons, List.foldlM_append] at h
      obtain ⟨mid, hown, hchanges⟩ := Result.bind_eq_ok.mp h
      exact ⟨mid, assignKey_of_asks hhead hasks hown,
        ih.mpr ⟨hheads, changes, hall, hchanges⟩⟩

/-! ## What comes of the changes -/

namespace Assignments

/-- What a column has been set to so far, which at first is the column. -/
def current (root : Target) (sets : Assignments) (column : String) : Sql :=
  (sets.lookup column).getD (root.column column)

variable {column other : String} {value : Sql}

/-- Putting a value under a column leaves the other columns alone. -/
theorem lookup_put :
    (sets.put column value).lookup other =
      if other = column then some value else sets.lookup other := by
  induction sets with
  | nil =>
    rw [put, List.lookup_cons, beq_eq_decide]
    by_cases hother : other = column <;> simp [hother]
  | cons set rest ih =>
    rw [put]
    split
    next hset =>
      rw [List.lookup_cons, List.lookup_cons, hset, beq_eq_decide]
      by_cases hother : other = column <;> simp [hother]
    next hset =>
      rw [List.lookup_cons, List.lookup_cons, ih, beq_eq_decide]
      by_cases hother : other = set.1
      · simp [hother, hset]
      · simp [hother]

/-- A column that has been set keeps its place, another comes behind. -/
theorem keys_put :
    (sets.put column value).map (·.1) =
      if column ∈ sets.map (·.1) then sets.map (·.1) else sets.map (·.1) ++ [column] := by
  induction sets with
  | nil => rfl
  | cons set rest ih =>
    obtain ⟨name, old⟩ := set
    by_cases hname : name = column
    · simp [put, hname]
    · rw [put, if_neg hname, List.map_cons, ih]
      split <;> simp_all [Ne.symm hname]

/-- The columns are those there were and the one that is put. -/
theorem mem_keys_put :
    other ∈ (sets.put column value).map (·.1) ↔ other ∈ sets.map (·.1) ∨ other = column := by
  rw [keys_put]
  split
  next h => exact ⟨.inl, fun hother => hother.elim id fun heq => heq ▸ h⟩
  next => rw [List.mem_append, List.mem_singleton]

/-- Putting a value never doubles a column. -/
theorem nodup_put (h : (sets.map (·.1)).Nodup) : ((sets.put column value).map (·.1)).Nodup := by
  rw [keys_put]
  split
  next => exact h
  next hnew => exact List.nodup_append.mpr ⟨h, List.nodup_singleton _, by grind⟩

/-- The current value of a column is the last one put, and that of the root where none was. -/
theorem current_put :
    (sets.put column value).current root other =
      if other = column then value else sets.current root other := by
  rw [current, lookup_put]
  split <;> rfl

end Assignments

/-- A change is made when its update applies to the current value of its column. -/
theorem assign_eq_ok {change : Change} :
    change.assign root sets = .ok sets' ↔
      ∃ value, change.apply (sets.current root change.column) = .ok value ∧
        sets.put change.column value = sets' := by
  rw [Change.assign, Assignments.apply, Result.bind_eq_ok]
  simp only [Result.pure_eq_ok]
  rfl

variable {changes : List Change}

/-- Each column is left with what the changes to it make of it, in their order. -/
theorem current_of_foldlM (h : changes.foldlM (Change.assign root) sets = .ok sets')
    (column : String) :
    (changes.filter (·.column = column)).foldlM (fun current change => change.apply current)
      (sets.current root column) = .ok (sets'.current root column) := by
  induction changes generalizing sets with
  | nil =>
    obtain rfl := Result.pure_eq_ok.mp h
    rfl
  | cons change rest ih =>
    rw [List.foldlM_cons] at h
    obtain ⟨mid, hassign, hrest⟩ := Result.bind_eq_ok.mp h
    obtain ⟨value, hvalue, rfl⟩ := assign_eq_ok.mp hassign
    have hmid := ih hrest
    rw [Assignments.current_put] at hmid
    by_cases hcolumn : change.column = column
    · rw [if_pos hcolumn.symm] at hmid
      rw [List.filter_cons_of_pos (by simpa using hcolumn), List.foldlM_cons]
      exact Result.bind_eq_ok.mpr ⟨value, hcolumn ▸ hvalue, hmid⟩
    · rw [if_neg (Ne.symm hcolumn)] at hmid
      rwa [List.filter_cons_of_neg (by simpa using hcolumn)]

/-- The columns that are set are those of the changes, each once. -/
theorem keys_of_foldlM (h : changes.foldlM (Change.assign root) sets = .ok sets')
    (hsets : (sets.map (·.1)).Nodup) :
    (sets'.map (·.1)).Nodup ∧ ∀ column, column ∈ sets'.map (·.1) ↔
      column ∈ sets.map (·.1) ∨ ∃ change ∈ changes, change.column = column := by
  induction changes generalizing sets with
  | nil =>
    obtain rfl := Result.pure_eq_ok.mp h
    exact ⟨hsets, by simp⟩
  | cons change rest ih =>
    rw [List.foldlM_cons] at h
    obtain ⟨mid, hassign, hrest⟩ := Result.bind_eq_ok.mp h
    obtain ⟨value, -, rfl⟩ := assign_eq_ok.mp hassign
    obtain ⟨hnodup, hkeys⟩ := ih hrest (Assignments.nodup_put hsets)
    refine ⟨hnodup, fun column => ?_⟩
    rw [hkeys, Assignments.mem_keys_put, List.exists_mem_cons_iff, or_assoc, eq_comm (a := column)]

/-! ## Columns of a key -/

/-- A key changes columns that have the type of the change and whose first name is the key's head. -/
theorem Asks.typeIn? (hs : s.Accepted) {entry : String × Json}
    (h : Asks s className entry changes) {change : Change} (hchange : change ∈ changes) :
    s.typeIn? className change.column = some change.type ∧
      ∃ names, Text.split '.' change.column = Gate.keyHead entry.1 :: names := by
  cases h with
  | whole _ hfound | inside _ hfound =>
    obtain rfl := List.mem_singleton.mp hchange
    obtain ⟨c, field, names, fieldType, hc, hf, rfl, rfl, hty⟩ := Schema.names_of_column hfound
    obtain ⟨hcolumn, hsplit⟩ := hs.typeIn?_dotted hc hf hty
    exact ⟨hcolumn, names, hsplit⟩
  | spread _ hfound hshape hleaves =>
    obtain ⟨⟨leaf, leafType⟩, hleaf, rest, -, rfl⟩ :=
      Result.exists_left_of_forall₂ hleaves change hchange
    obtain ⟨c, field, names, fieldType, hc, hf, rfl, rfl, hty⟩ := Schema.names_of_column hfound
    have hwell := (FieldType.wellTyped_below (hs.wellTyped hc hf).2 hty).2
    obtain ⟨more, hmore, -, rfl⟩ := (FieldType.mem_leaves_iff hwell).mp hleaf
    have hall : fieldType.below? (names ++ more) = some leafType := by
      rw [FieldType.below?_append, hty, Option.bind_some, hmore]
    obtain ⟨hcolumn, hsplit⟩ := hs.typeIn?_dotted hc hf hall
    rw [← Path.dotted_append]
    exact ⟨hcolumn, names ++ more, hsplit⟩

/-- A key that starts with no fixed field changes no fixed field. -/
theorem Asks.not_isFixed (hs : s.Accepted) {entry : String × Json}
    (h : Asks s className entry changes) (hhead : isFixed (Gate.keyHead entry.1) = false)
    {change : Change} (hchange : change ∈ changes) : isFixed change.column = false := by
  have hnames : ∀ field ∈ [Field.id, Field.version, Field.createdAt, Field.updatedAt],
      Text.split '.' field = [field] := by decide
  obtain ⟨-, names, hsplit⟩ := h.typeIn? hs hchange
  refine Bool.eq_false_iff.mpr fun hfixed => ?_
  rw [hnames _ (List.contains_iff_mem.mp hfixed)] at hsplit
  rw [← (List.cons.inj hsplit).1, hfixed] at hhead
  cases hhead

end Write

/-! ## The SET list of a statement -/

namespace Sql

/-- The items of the SET list of an update. -/
def setListIn : Sql → List Sql
  | seq (raw "UPDATE " :: root _ :: raw " SET " :: join items _ :: _) => items
  | _ => []

/-- The items of the SET list of a named subquery. -/
def setListBy : Sql → List Sql
  | seq [_, _, block body, _] => setListIn body
  | _ => []

/-- The items of the SET lists in a statement's named subqueries. -/
def setList : Sql → List Sql
  | seq [raw "WITH ", join subqueries _, _, _] => subqueries.flatMap setListBy
  | _ => []

end Sql

namespace Write

variable {s : Schema} {root : Target} {q : Query} {document : List (String × Json)} {sets : Assignments}
  {n n' : Nat} {sql : Sql}

/-- The items of a SET list: the version and the time of update, then the columns that are asked for. -/
def setItems (root : Target) (sets : Assignments) : List Sql :=
  [.seq [.ident Field.version, " = ", root.column Field.version, " + 1"],
    .seq [.ident Field.updatedAt, " = NOW()"]] ++
      sets.map fun set => .seq [.ident set.1, " = ", set.2]

/-- The columns of a SET list are the version, the time of update and those assigned. -/
theorem setColumns_setItems :
    (setItems root sets).filterMap Sql.setColumn? =
      Field.version :: Field.updatedAt :: sets.map (·.1) := by
  have hset : sets.filterMap (Sql.setColumn? ∘ fun set => .seq [.ident set.1, " = ", set.2]) =
      sets.map (·.1) := congrFun List.filterMap_eq_map sets
  simp [setItems, Sql.setColumn?, hset]

/-- An update has the SET list of its assignments. -/
theorem setListBy_updatedRows {changed : Sql} (h : updatedRows s root document = .ok changed) :
    ∃ sets, assignments s root document = .ok sets ∧ changed.setListBy = setItems root sets := by
  obtain ⟨sets, hsets, h⟩ := Result.bind_eq_ok.mp h
  obtain rfl := Result.pure_eq_ok.mp h
  exact ⟨sets, hsets, rfl⟩

/-- The subquery of candidates sets nothing. -/
theorem setListBy_candidateRows :
    Compile.Yields (candidateRows s q) fun candidates => candidates.setListBy = [] := by
  unfold candidateRows
  refine .bind .any fun r _ => .pure ?_
  rfl

/-- The SET list of an update or an upsert is that of the columns its document asks for. -/
theorem setList_of_runs {op : Operation}
    (hop : op = .update document ∨ ∃ object, op = .upsert document object)
    (h : Compile.Runs (op.compile s q) n sql n') :
    ∃ sets, assignments s q.root document = .ok sets ∧ sql.setList = setItems q.root sets := by
  rcases hop with rfl | ⟨object, rfl⟩
  · obtain ⟨candidates, _, hcandidates, h⟩ := Compile.runs_bind.mp h
    obtain ⟨changed, _, hchanged, h⟩ := Compile.runs_bind.mp h
    obtain ⟨⟨list, scope⟩, _, -, h⟩ := Compile.runs_bind.mp h
    obtain ⟨rfl, -⟩ := Compile.runs_pure.mp h
    obtain ⟨sets, hsets, hitems⟩ := setListBy_updatedRows (Compile.runs_lift.mp hchanged).1
    exact ⟨sets, hsets, by
      simp [withSubqueries, Sql.setList, setListBy_candidateRows hcandidates, hitems]⟩
  · obtain ⟨candidates, _, hcandidates, h⟩ := Compile.runs_bind.mp h
    obtain ⟨changed, _, hchanged, h⟩ := Compile.runs_bind.mp h
    obtain ⟨row, _, -, h⟩ := Compile.runs_bind.mp h
    obtain ⟨⟨list, scope⟩, _, -, h⟩ := Compile.runs_bind.mp h
    obtain ⟨rfl, -⟩ := Compile.runs_pure.mp h
    obtain ⟨sets, hsets, hitems⟩ := setListBy_updatedRows (Compile.runs_lift.mp hchanged).1
    have hinserted : (insertInto q.className row (otherwise row)).setListBy = [] := rfl
    exact ⟨sets, hsets, by
      simp [withSubqueries, Sql.setList, setListBy_candidateRows hcandidates, hitems, hinserted]⟩

/--
A SET list is what comes of an update document: `changes` are what its keys ask for, and `sets` the
columns they change with their new values.
-/
structure ComesOf (s : Schema) (root : Target) (document : List (String × Json))
    (changes : List (List Change)) (sets : Assignments) (items : List Sql) : Prop where
  asked : List.Forall₂ (Asks s root.className) document changes
  /-- The version counts up and the time of update moves, before what is asked for. -/
  items_eq : items = setItems root sets
  /-- No two items assign the same column. -/
  once : (items.filterMap Sql.setColumn?).Nodup
  /-- The id and the time of creation stay. -/
  kept : Field.id ∉ items.filterMap Sql.setColumn? ∧ Field.createdAt ∉ items.filterMap Sql.setColumn?
  /-- The columns that are set are those that some key changes. -/
  columns : ∀ column, column ∈ sets.map (·.1) ↔ ∃ change ∈ changes.flatten, change.column = column
  /-- The value of a column is that of the changes to it, in order, from the column on. -/
  folded : ∀ column value, (column, value) ∈ sets →
    (changes.flatten.filter (·.column = column)).foldlM (fun current change => change.apply current)
      (root.column column) = .ok value

/-- What is found of a column that is set once is what it is set to. -/
theorem Assignments.current_of_mem {column : String} {value : Sql} (hsets : (sets.map (·.1)).Nodup)
    (h : (column, value) ∈ sets) : sets.current root column = value := by
  obtain ⟨before, after, rfl⟩ := List.append_of_mem h
  have hbefore : ∀ set ∈ before, (column != set.1) = true := by
    intro set hset
    rw [List.map_append, List.nodup_append] at hsets
    exact bne_iff_ne.mpr (hsets.2.2 set.1 (List.mem_map_of_mem hset) column (by simp)).symm
  rw [current, List.lookup_eq_some_iff.mpr ⟨before, after, rfl, hbefore⟩, Option.getD_some]

/-- The SET list of a document comes of the changes its keys ask for, column by column. -/
theorem comesOf_setItems (hs : s.Accepted) (hsets : assignments s root document = .ok sets) :
    ∃ changes, ComesOf s root document changes sets (setItems root sets) := by
  obtain ⟨hheads, changes, hasked, hchanges⟩ := foldlM_assignKey_eq_ok.mp hsets
  obtain ⟨hnodup, hkeys⟩ := keys_of_foldlM hchanges List.nodup_nil
  simp only [List.map_nil, List.not_mem_nil, false_or] at hkeys
  have hfixed : ∀ column ∈ sets.map (·.1), isFixed column = false := by
    intro column hcolumn
    obtain ⟨change, hchange, rfl⟩ := (hkeys column).mp hcolumn
    obtain ⟨own, hown, hchange⟩ := List.mem_flatten.mp hchange
    obtain ⟨entry, hentry, hasks⟩ := Result.exists_left_of_forall₂ hasked own hown
    exact hasks.not_isFixed hs (hheads entry hentry) hchange
  have hnew : ∀ column, isFixed column = true → column ∉ sets.map (·.1) := by
    intro column hcolumn hmem
    rw [hfixed column hmem] at hcolumn
    cases hcolumn
  refine ⟨changes, hasked, rfl, ?_, ?_, hkeys, fun column value hmem => ?_⟩
  · rw [setColumns_setItems]
    refine List.nodup_cons.mpr ⟨?_, List.nodup_cons.mpr ⟨hnew _ rfl, hnodup⟩⟩
    rw [List.mem_cons, not_or]
    exact ⟨by decide, hnew _ rfl⟩
  · rw [setColumns_setItems]
    simp only [List.mem_cons, not_or]
    exact ⟨⟨by decide, by decide, hnew _ rfl⟩, by decide, by decide, hnew _ rfl⟩
  · have hcurrent := current_of_foldlM hchanges column
    rwa [Assignments.current_of_mem hnodup hmem] at hcurrent

/--
The SET list of an update or an upsert moves the version and the time of update, leaves the id and the
time of creation alone and assigns no column twice. The value of a column is that of the changes that
the keys of the document ask for in it, carried out in the order of the document on the column.
-/
theorem setList_comesOf {v : Json} (hs : Schema.ofJson v = .ok s) {op : Operation}
    (hop : op = .update document ∨ ∃ object, op = .upsert document object)
    (h : Compile.Runs (op.compile s q) n sql n') :
    ∃ changes sets, ComesOf s q.root document changes sets sql.setList := by
  obtain ⟨sets, hsets, hitems⟩ := setList_of_runs hop h
  obtain ⟨changes, hcomes⟩ := comesOf_setItems (Schema.accepted_of_ofJson hs) hsets
  exact ⟨changes, sets, hitems ▸ hcomes⟩

/-- A note gets a size and a label in its data, an address, and a city of its own for it. -/
def movedNote : List (String × Json) :=
  [("data.size", .obj [("$inc", .ofInt 1)]), ("data.tags[0]", .str "moved"),
    ("address", .obj [("city", .str "Rome")]), ("address.city", .str "Oslo")]

/-- The data and the city of the note are assigned once, although two keys change each of them. -/
theorem setList_comesOf_movedNote :
    ∃ sql n' changes sets, Schema.ofJson placedNotes = .ok placedSchema ∧
      Compile.Runs ((Operation.update movedNote).compile placedSchema placedQuery) 0 sql n' ∧
      ComesOf placedSchema placedQuery.root movedNote changes sets sql.setList ∧
      sql.setList.filterMap Sql.setColumn? =
        ["__v", "_updated_at", "data", "address.city", "address.place.label"] := by
  have hschema : Schema.ofJson placedNotes = .ok placedSchema := by rfl
  obtain ⟨sql, n', hrun, hcolumns⟩ := Compile.exists_runs_of_any
    (x := (Operation.update movedNote).compile placedSchema placedQuery) (n := 0)
    (p := fun sql => decide (sql.setList.filterMap Sql.setColumn? =
      ["__v", "_updated_at", "data", "address.city", "address.place.label"])) (by decide +kernel)
  obtain ⟨changes, sets, hcomes⟩ := setList_comesOf hschema (.inl rfl) hrun
  exact ⟨sql, n', changes, sets, hschema, hrun, hcomes, of_decide_eq_true hcolumns⟩

end Write

end ObjectQuery
