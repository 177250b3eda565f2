import ObjectQuery.Proofs.Access.Coverage
import ObjectQuery.Proofs.Schema.Walks

/-!
# What a path expands to

A path leads through references, which bring along the default fields of the classes they lead to, and
ends at a field or at the wildcard of a class. What stands before it in the result does not matter for
what it expands to.
-/

namespace ObjectQuery.Gate

variable {g : Gate} {className target : String} {c : Class}

/-! ## Through references -/

/-- A field behind a reference is a passage to the class the reference leads to. -/
theorem passage?_reference (hc : g.schema.class? className = some c) {head target : String}
    {ty : FieldType} (hf : c.field? head = some ty) (htarget : ty.target? = some target)
    (field : String) (rest : List Segment) :
    g.schema.passage? className (.field head :: .field field :: rest) =
      some ⟨target, .field field :: rest, false⟩ := by
  simp only [Schema.passage?, hc, Option.bind_some, hf]
  cases ty <;> cases htarget <;> rfl

/-- A path on the class a reference leads to may be asked for through the reference. -/
theorem authorizePath_through (hs : g.schema.Accepted)
    (hc : g.schema.class? className = some c) {head target path : String} {ty : FieldType}
    (hf : c.field? head = some ty) (htarget : ty.target? = some target)
    (hreadable : g.readable c head = true) (henter : g.MayEnter target)
    (h : g.authorizePath target path = .ok ()) :
    g.authorizePath className (head ++ "." ++ path) = .ok () := by
  obtain ⟨hname, -⟩ := hs.wellTyped hc hf
  obtain ⟨segments, hparse, hpermits⟩ := authorizePath_iff.mp h
  obtain ⟨_, field, rest, -, rfl, -, -⟩ := hpermits.reads _ _ (.start _ _)
  have hread : g.MayRead className (.field head :: .field field :: rest) :=
    ⟨c, head, _, hc, rfl, by rw [hf]; rfl, hreadable⟩
  rw [authorizePath_iff]
  exact ⟨_, Path.parse_cons hname hparse,
    (permits_of_passage (passage?_reference hc hf htarget field rest)).mpr
      ⟨hread, henter, hpermits⟩⟩

/-! ## One part -/

/-- The leaves of a path that starts with a field that is no reference. -/
def ownLeaves (g : Gate) (className start head : String) (ty : FieldType) (rest : List String) :
    Result (List String) :=
  if ty.isShape then (g.shapeLeaves className head ty rest).map (·.map (start ++ ·))
  else if rest.isEmpty then .ok [start ++ head]
  else .error (.path (.notProjectable className (".".intercalate (head :: rest))))

/-- One part of an expansion: the wildcard, a reference to go on behind, or a field of its own. -/
theorem expandParts_cons_eq_ok {start head : String} {rest leaves : List String} :
    g.expandParts className start (head :: rest) = .ok leaves ↔
      ∃ c, g.schema.class? className = some c ∧
        if head = "*" then rest.isEmpty = true ∧ leaves = (g.wildcard c).map (start ++ ·)
        else ∃ ty, c.field? head = some ty ∧ g.readable c head = true ∧
          match ty.target? with
          | some target => g.MayEnter target ∧ ∃ below,
            g.expandParts target (start ++ head ++ ".") rest = .ok below ∧
              leaves = Field.defaultNames.map (start ++ head ++ "." ++ ·) ++ below
          | none => g.ownLeaves className start head ty rest = .ok leaves := by
  rw [expandParts, Result.bind_eq_ok]
  simp only [Schema.getClass_eq_ok]
  refine exists_congr fun c => and_congr_right fun hc => ?_
  by_cases hstar : head = "*"
  · rw [if_pos hstar, if_pos hstar]
    by_cases hrest : rest.isEmpty = true
    · rw [if_pos hrest, Result.pure_eq_ok]
      simp [hrest, eq_comm]
    · rw [if_neg hrest]
      simp [hrest, Result.bind_eq_ok, Result.throw_eq_ok]
  · rw [if_neg hstar, if_neg hstar, Result.bind_eq_ok]
    have hbehind : ∀ target, (do
          let _ ← g.openClass target .find
          let below ← g.expandParts target (start ++ head ++ ".") rest
          return Field.defaultNames.map (start ++ head ++ "." ++ ·) ++ below) = .ok leaves ↔
        g.MayEnter target ∧ ∃ below,
          g.expandParts target (start ++ head ++ ".") rest = .ok below ∧
            leaves = Field.defaultNames.map (start ++ head ++ "." ++ ·) ++ below := by
      intro target
      simp only [Result.bind_eq_ok, openClass_eq_ok, Result.pure_eq_ok, MayEnter]
      constructor
      · rintro ⟨c, hc, below, hbelow, rfl⟩
        exact ⟨⟨c, hc⟩, below, hbelow, rfl⟩
      · rintro ⟨⟨c, hc⟩, below, hbelow, rfl⟩
        exact ⟨c, hc, below, hbelow, rfl⟩
    refine exists_congr fun ty => and_congr fieldOf_eq_ok ?_
    refine Result.bind_eq_ok.trans (Iff.trans (Unique.exists_iff (α := Unit))
      (and_congr authorizeField_eq_ok ?_))
    cases ty with
    | pointer target | relation target _ => exact hbehind target
    | shape fields =>
      simp only [FieldType.target?, ownLeaves, FieldType.isShape, ↓reduceIte, Result.bind_eq_ok,
        Result.map_eq_ok, Result.pure_eq_ok]
    | primitive _ _ | vector _ _ =>
      by_cases hrest : rest.isEmpty = true
      · simp [FieldType.target?, ownLeaves, FieldType.isShape, hrest, Result.pure_eq_ok]
      · simp [FieldType.target?, ownLeaves, FieldType.isShape, hrest, Result.throw_eq_ok]

/-! ## All parts -/

/-- The leaves that parts on a class expand to, with one rule for each way the parts may begin. -/
inductive Expands (g : Gate) : (className : String) → (parts leaves : List String) → Prop where
  | wildcard {className : String} {parts : List String} {c : Class} :
    g.schema.class? className = some c → parts = [] ∨ parts = ["*"] →
      Expands g className parts (g.wildcard c)
  | reference {className head target : String} {rest below : List String} {c : Class}
      {ty : FieldType} :
    g.schema.class? className = some c → c.field? head = some ty → g.readable c head = true →
      head ≠ "*" → ty.target? = some target → g.MayEnter target → Expands g target rest below →
      Expands g className (head :: rest)
        ((Field.defaultNames ++ below).map (head ++ "." ++ ·))
  | shape {className head : String} {rest leaves : List String} {c : Class} {ty : FieldType} :
    g.schema.class? className = some c → c.field? head = some ty → g.readable c head = true →
      head ≠ "*" → ty.isShape = true → g.shapeLeaves className head ty rest = .ok leaves →
      Expands g className (head :: rest) leaves
  | field {className head : String} {c : Class} {ty : FieldType} :
    g.schema.class? className = some c → c.field? head = some ty → g.readable c head = true →
      head ≠ "*" → ty.isShape = false → ty.target? = none → Expands g className [head] [head]

theorem ownLeaves_eq_ok {start head : String} {ty : FieldType} {rest leaves : List String} :
    g.ownLeaves className start head ty rest = .ok leaves ↔
      (∃ own, ty.isShape = true ∧ g.shapeLeaves className head ty rest = .ok own ∧
        own.map (start ++ ·) = leaves) ∨
      ty.isShape = false ∧ rest = [] ∧ [start ++ head] = leaves := by
  unfold ownLeaves
  cases hshape : ty.isShape with
  | true => simp [Result.map_eq_ok]
  | false => cases rest <;> simp

/-- What is put before a path is put before its leaves, by induction on the parts. -/
theorem expandParts_eq_ok {parts : List String} {start : String} {leaves : List String} :
    g.expandParts className start parts = .ok leaves ↔
      ∃ own, g.Expands className parts own ∧ leaves = own.map (start ++ ·) := by
  have hbehind : ∀ (start head : String) (below : List String),
      Field.defaultNames.map (start ++ head ++ "." ++ ·) ++
          below.map (start ++ head ++ "." ++ ·) =
        ((Field.defaultNames ++ below).map (head ++ "." ++ ·)).map (start ++ ·) := by
    intro start head below
    simp only [List.map_append, List.map_map, Function.comp_def, String.append_assoc]
  induction parts generalizing className start leaves with
  | nil =>
    simp only [expandParts, Result.bind_eq_ok, Result.pure_eq_ok, Schema.getClass_eq_ok]
    constructor
    · rintro ⟨c, hc, rfl⟩
      exact ⟨_, .wildcard hc (.inl rfl), rfl⟩
    · rintro ⟨own, hown, rfl⟩
      cases hown with
      | wildcard hc _ => exact ⟨_, hc, rfl⟩
  | cons head rest ih =>
    rw [expandParts_cons_eq_ok]
    constructor
    · rintro ⟨c, hc, h⟩
      split at h
      · next hstar =>
        obtain ⟨hrest, rfl⟩ := h
        obtain rfl := List.isEmpty_iff.mp hrest
        exact ⟨_, .wildcard hc (.inr (by rw [hstar])), rfl⟩
      · next hstar =>
        obtain ⟨ty, hf, hreadable, h⟩ := h
        cases htarget : ty.target? with
        | some target =>
          rw [htarget] at h
          obtain ⟨henter, below, hbelow, rfl⟩ := h
          obtain ⟨own, hown, rfl⟩ := ih.mp hbelow
          exact ⟨_, .reference hc hf hreadable hstar htarget henter hown, hbehind start head own⟩
        | none =>
          rw [htarget] at h
          rcases ownLeaves_eq_ok.mp h with ⟨own, hshape, hown, rfl⟩ | ⟨hshape, rfl, rfl⟩
          · exact ⟨own, .shape hc hf hreadable hstar hshape hown, rfl⟩
          · exact ⟨[head], .field hc hf hreadable hstar hshape htarget, rfl⟩
    · rintro ⟨own, hown, rfl⟩
      cases hown with
      | wildcard hc hparts =>
        obtain ⟨rfl, rfl⟩ : head = "*" ∧ rest = [] := by simpa using hparts
        exact ⟨_, hc, by simp⟩
      | reference hc hf hreadable hstar htarget henter hbelow =>
        refine ⟨_, hc, ?_⟩
        rw [if_neg hstar]
        refine ⟨_, hf, hreadable, ?_⟩
        rw [htarget]
        exact ⟨henter, _, ih.mpr ⟨_, hbelow, rfl⟩, (hbehind start head _).symm⟩
      | @shape _ _ _ _ _ ty hc hf hreadable hstar hshape hleaves =>
        have htarget : ty.target? = none := by cases ty <;> first | rfl | cases hshape
        refine ⟨_, hc, ?_⟩
        rw [if_neg hstar]
        refine ⟨_, hf, hreadable, ?_⟩
        rw [htarget]
        exact ownLeaves_eq_ok.mpr (.inl ⟨_, hshape, hleaves, rfl⟩)
      | field hc hf hreadable hstar hshape htarget =>
        refine ⟨_, hc, ?_⟩
        rw [if_neg hstar]
        refine ⟨_, hf, hreadable, ?_⟩
        rw [htarget]
        exact ownLeaves_eq_ok.mpr (.inr ⟨hshape, rfl, rfl⟩)

theorem expandPath_eq_ok {path : String} {leaves : List String} :
    g.expandPath className path = .ok leaves ↔ g.Expands className (Text.split '.' path) leaves := by
  rw [expandPath, expandParts_eq_ok]
  simp

/-! ## The wildcard -/

/--
A leaf inside a field that the caller may read and that is no reference: what lies there is no shape.
-/
def LeafIn (g : Gate) (c : Class) (field leaf : String) (ty : FieldType) : Prop :=
  ∃ rest fieldType, Text.split '.' leaf = field :: rest ∧ c.field? field = some fieldType ∧
    g.readable c field = true ∧ fieldType.isReference = false ∧
    fieldType.below? rest = some ty ∧ ty.isShape = false

/-- The leaves of a field by their paths. -/
theorem mem_leaves_iff_leafIn (hs : g.schema.Accepted) (hc : g.schema.class? className = some c)
    {field leaf : String} {fieldType : FieldType} (hf : c.field? field = some fieldType)
    (hreadable : g.readable c field = true) (hreference : fieldType.isReference = false) :
    leaf ∈ (fieldType.leaves field).map (·.1) ↔ ∃ ty, g.LeafIn c field leaf ty := by
  have hfield := (hs.wellTyped hc hf).2
  rw [List.mem_map]
  constructor
  · rintro ⟨⟨leaf, ty⟩, hleaf, rfl⟩
    obtain ⟨rest, hbelow, hshape, rfl⟩ := (FieldType.mem_leaves_iff hfield).mp hleaf
    exact ⟨ty, rest, fieldType, hs.split_dotted hc hf hbelow, hf, hreadable, hreference, hbelow,
      hshape⟩
  · rintro ⟨ty, rest, other, hsplit, hother, -, -, hbelow, hshape⟩
    obtain rfl := Option.some.inj (hf.symm.trans hother)
    refine ⟨(leaf, ty), (FieldType.mem_leaves_iff hfield).mpr ⟨rest, hbelow, hshape, ?_⟩, rfl⟩
    exact Text.split_injective (hsplit.trans (hs.split_dotted hc hf hbelow).symm)

/-- The wildcard of a class holds the leaves of the fields that are not default fields. -/
theorem mem_wildcard_iff (hs : g.schema.Accepted) (hc : g.schema.class? className = some c)
    {leaf : String} :
    leaf ∈ g.wildcard c ↔
      ∃ field ty, Field.isDefault field = false ∧ g.LeafIn c field leaf ty := by
  simp only [wildcard, List.mem_flatMap, List.mem_filter, Bool.and_eq_true, Bool.not_eq_true']
  constructor
  · rintro ⟨⟨field, fieldType⟩, ⟨hmem, ⟨hreference, hdefault⟩, hreadable⟩, hleaf⟩
    have hf := (hs.field?_iff hc).mpr hmem
    obtain ⟨ty, hty⟩ := (mem_leaves_iff_leafIn hs hc hf hreadable hreference).mp hleaf
    exact ⟨field, ty, hdefault, hty⟩
  · rintro ⟨field, ty, hdefault, hty⟩
    obtain ⟨rest, fieldType, hsplit, hf, hreadable, hreference, hbelow⟩ := hty
    refine ⟨(field, fieldType), ⟨(hs.field?_iff hc).mp hf, ⟨hreference, hdefault⟩, hreadable⟩, ?_⟩
    exact (mem_leaves_iff_leafIn hs hc hf hreadable hreference).mpr
      ⟨ty, rest, fieldType, hsplit, hf, hreadable, hreference, hbelow⟩

/-- A leaf is a column of its own. -/
theorem LeafIn.column (hs : g.schema.Accepted) (hc : g.schema.class? className = some c)
    {field leaf : String} {ty : FieldType} (h : g.LeafIn c field leaf ty) :
    g.schema.column className leaf = .ok ⟨leaf, ty, .column⟩ := by
  obtain ⟨rest, fieldType, hsplit, hf, -, -, hbelow, -⟩ := h
  exact (hs.column_eq_column hc).mpr
    ⟨Class.below?_eq_some.mpr ⟨field, rest, fieldType, hsplit, hf, hbelow⟩, rfl⟩

/-- The type walk finds a leaf at its path, and a reference is a leaf only inside a shape. -/
theorem LeafIn.typeAt (hs : g.schema.Accepted) (hc : g.schema.class? className = some c)
    {field leaf : String} {ty : FieldType} (h : g.LeafIn c field leaf ty) :
    g.schema.typeAt className leaf = .ok (some ty) ∧
      (ty.isPrimitive = true ∨ ty.isVector = true ∨ ty.isReference = true ∧ leaf ≠ field) := by
  obtain ⟨segments, hparse, hcolumn⟩ := Result.bind_eq_ok.mp (h.column hs hc)
  obtain ⟨rest, fieldType, hsplit, hf, -, hreference, hbelow, hshape⟩ := h
  obtain ⟨t, htype, rfl⟩ := Schema.typeOf_of_columnOf hcolumn
  refine ⟨Result.bind_eq_ok.mpr ⟨segments, hparse, htype⟩, ?_⟩
  cases ty with
  | primitive kind default? => exact .inl rfl
  | vector dimension default? => exact .inr (.inl rfl)
  | shape fields => cases hshape
  | pointer | relation =>
    refine .inr (.inr ⟨rfl, ?_⟩)
    rintro rfl
    rw [Path.split_name (hs.wellTyped hc hf).1, List.cons.injEq] at hsplit
    obtain ⟨-, rfl⟩ := hsplit
    rw [FieldType.below?_nil, Option.some.injEq] at hbelow
    subst hbelow
    cases hreference

/-- The caller may ask for every leaf: what it reads of the class is the field the leaf is in. -/
theorem LeafIn.authorizePath (hs : g.schema.Accepted) (hc : g.schema.class? className = some c)
    {field leaf : String} {ty : FieldType} (h : g.LeafIn c field leaf ty) :
    g.authorizePath className leaf = .ok () := by
  obtain ⟨segments, hparse, htype⟩ := Result.bind_eq_ok.mp (h.typeAt hs hc).1
  obtain ⟨rest, fieldType, hsplit, hf, hreadable, hreference, hbelow, -⟩ := h
  have hnames := (hs.wellTyped_below hc
    (Class.below?_eq_some.mpr ⟨field, rest, fieldType, rfl, hf, hbelow⟩)).1
  obtain rfl := Except.ok.inj (hparse.symm.trans (Path.parse_of_split hsplit hnames))
  have hread : g.MayRead className ((field :: rest).map .field) :=
    ⟨c, field, rest.map .field, hc, rfl, by rw [hf]; rfl, hreadable⟩
  refine authorizePath_iff.mpr ⟨_, hparse, (permits_of_no_passage fun p hp => ?_).mpr
    ⟨hread, some ty, htype⟩⟩
  have hpassage : fieldType.passage? (rest.map .field) false = some p := by
    simpa [Schema.passage?, hc, hf] using hp
  cases fieldType with
  | shape fields => exact FieldType.insideShape_of_shape hpassage
  | primitive | vector => cases rest <;> cases hpassage
  | pointer | relation => cases hreference

/-! ## The wildcard behind references -/

/-- Names of references that the caller may read lead through classes that are open to `find`. -/
inductive Opens (g : Gate) : (className : String) → (names : List String) → (target : String) →
    Prop where
  | here (className : String) : Opens g className [] className
  | through {className name next target : String} {rest : List String} {c : Class}
      {ty : FieldType} :
    g.schema.class? className = some c → c.field? name = some ty → g.readable c name = true →
      ty.target? = some next → g.MayEnter next → Opens g next rest target →
      Opens g className (name :: rest) target

/-- The default fields of each class that names of references lead to, outermost class first. -/
def defaultsBelow : List String → List String
  | [] => []
  | name :: rest => (Field.defaultNames ++ defaultsBelow rest).map (name ++ "." ++ ·)

/-- Names as they stand before a path. -/
def lead : List String → String
  | [] => ""
  | name :: rest => name ++ "." ++ lead rest

/-- The wildcard is no field. -/
theorem ne_wildcard (hs : g.schema.Accepted) (hc : g.schema.class? className = some c)
    {field : String} {ty : FieldType} (hf : c.field? field = some ty) : field ≠ "*" := by
  rintro rfl
  exact absurd (hs.wellTyped hc hf).1 (by decide)

/-- Behind references the leaves are those on the class they lead to. -/
theorem Opens.expands (hs : g.schema.Accepted) {names tail own : List String}
    (h : g.Opens className names target) (hown : g.Expands target tail own) :
    g.Expands className (names ++ tail) (defaultsBelow names ++ own.map (lead names ++ ·)) := by
  induction h with
  | here className => simpa [defaultsBelow, lead] using hown
  | @through className name next target rest c ty hc hf hreadable htarget henter _ ih =>
    have hstep :=
      Expands.reference hc hf hreadable (ne_wildcard hs hc hf) htarget henter (ih hown)
    have hleaves : (Field.defaultNames ++ (defaultsBelow rest ++ own.map (lead rest ++ ·))).map
        (name ++ "." ++ ·) =
          defaultsBelow (name :: rest) ++ own.map (lead (name :: rest) ++ ·) := by
      simp only [defaultsBelow, lead, List.map_append, List.map_map, Function.comp_def,
        String.append_assoc, List.append_assoc]
    rwa [hleaves] at hstep

/--
The wildcard, here or behind references, written out or left out there, adds to the default fields of
the classes on the way exactly the leaves of the readable fields of its class that are neither
references nor default fields. A leaf is a primitive or a vector, or it is a reference inside a shape:
the fields of the class are asked whether they are references, their leaves are not.
-/
theorem expandPath_wildcard (hs : g.schema.Accepted) {names tail : List String}
    (hopens : g.Opens className names target) (hc : g.schema.class? target = some c)
    (htail : tail = [] ∨ tail = ["*"]) {path : String} (hpath : Text.split '.' path = names ++ tail) :
    ∃ leaves : List String,
      g.expandPath className path = .ok (defaultsBelow names ++ leaves.map (lead names ++ ·)) ∧
      (∀ leaf, leaf ∈ leaves ↔
        ∃ field ty, Field.isDefault field = false ∧ g.LeafIn c field leaf ty) ∧
      ∀ field leaf ty, g.LeafIn c field leaf ty →
        g.schema.typeAt target leaf = .ok (some ty) ∧
          (ty.isPrimitive = true ∨ ty.isVector = true ∨ ty.isReference = true ∧ leaf ≠ field) := by
  refine ⟨g.wildcard c, expandPath_eq_ok.mpr ?_, fun leaf => mem_wildcard_iff hs hc,
    fun field leaf ty h => h.typeAt hs hc⟩
  rw [hpath]
  exact hopens.expands hs (.wildcard hc htail)

/-- Papers with an author, and with an owner in a shape; nobody reads the phone of a user. -/
def ownedPapers : Json :=
  .obj [
    ("Paper", .obj [("fields", .obj [
      ("author", .obj [("type", .str "pointer"), ("target", .str "User")]),
      ("info", .obj [("type", .str "shape"), ("shape", .obj [
        ("city", .str "string"),
        ("owner", .obj [("type", .str "pointer"), ("target", .str "User")])])])])]),
    ("User", .obj [
      ("fields", .obj [("name", .str "string"), ("phone", .str "string")]),
      ("fieldLevelPermissions", .obj [("phone", .obj [("read", .arr [])])])])]

/-- The papers and their users as a schema. -/
def paperSchema : Schema where
  classes := [
    ("Paper", {
      fields := Field.defaults.foldl (fun t f => t.insert f.1 f.2)
        [("author", .pointer "User"),
          ("info", .shape [("city", .primitive .string none), ("owner", .pointer "User")])] }),
    ("User", {
      fields := Field.defaults.foldl (fun t f => t.insert f.1 f.2)
        [("name", .primitive .string none), ("phone", .primitive .string none)]
      fieldPermissions := [("phone", { read := some [] })] })]

/-- A user before the papers. -/
def paperReader : Gate where
  schema := paperSchema
  auth := ⟨false, some "u", []⟩
  extraFilter := none
  maxDepth := 8
  now := ⟨0, 0⟩

/-- The wildcard of a paper's author brings the name and leaves out the phone. -/
theorem expandPath_wildcard_of_author :
    Schema.ofJson ownedPapers = .ok paperReader.schema ∧
      paperReader.Opens "Paper" ["author"] "User" ∧
      ∃ leaves : List String,
        paperReader.expandPath "Paper" "author.*" =
          .ok (Field.defaultNames.map ("author" ++ "." ++ ·) ++
            leaves.map ("author" ++ "." ++ "" ++ ·)) ∧
        "name" ∈ leaves ∧ "phone" ∉ leaves := by
  have hschema : Schema.ofJson ownedPapers = .ok paperReader.schema := by rfl
  have hopens : paperReader.Opens "Paper" ["author"] "User" :=
    .through rfl rfl (by decide) rfl ⟨_, rfl, by decide⟩ (.here "User")
  have hpath : Text.split '.' "author.*" = ["author"] ++ ["*"] := by decide
  obtain ⟨leaves, hleaves, hmem, -⟩ :=
    expandPath_wildcard (Schema.accepted_of_ofJson hschema) hopens rfl (.inr rfl) hpath
  refine ⟨hschema, hopens, leaves, ?_, ?_, ?_⟩
  · simpa [defaultsBelow, lead] using hleaves
  · exact (hmem _).mpr ⟨"name", _, by decide, [], _, by decide, rfl, by decide, rfl, rfl, rfl⟩
  · rintro hphone
    obtain ⟨field, ty, -, rest, fieldType, hsplit, -, hreadable, -⟩ := (hmem _).mp hphone
    rw [show Text.split '.' "phone" = ["phone"] by decide] at hsplit
    cases hsplit
    exact absurd hreadable (by decide)

/-- The wildcard adds a pointer that lies in a shape. -/
theorem expandPath_wildcard_adds_pointer :
    Schema.ofJson ownedPapers = .ok paperReader.schema ∧
      paperReader.expandPath "Paper" "*" = .ok ["info.city", "info.owner"] ∧
      paperReader.schema.typeAt "Paper" "info.owner" = .ok (some (.pointer "User")) :=
  ⟨by rfl, by rfl, by rfl⟩

end ObjectQuery.Gate
