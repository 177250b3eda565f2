import ObjectQuery.Proofs.Row.Levels
import ObjectQuery.Proofs.Schema.Leaves
import ObjectQuery.Proofs.Statement.Runs
import ObjectQuery.Statement.Populate

/-!
# What a plan returns

A plan is built from paths, level by level: on a class some paths name columns, the others go on below
a reference. What a level asks for is exactly what its paths ask for, each column and each reference
once. So the leaves of a plan are the paths it was built from; a path that ends at a reference asks
for the id there.
-/

namespace ObjectQuery

/-- The field a node is reached through. -/
def Reach.field : Reach → String
  | .root => ""
  | .pointer field => field
  | .relation field _ => field

namespace Plan

variable {s : Schema} {className : String} {c : Class} {path : Parts}

/-! ## Leaves -/

mutual

/-- The leaves of a plan: its columns, and those below each reference after the reference's field. -/
def leaves : Plan → List String
  | ⟨_, _, columns, children, _⟩ => columns.map (·.1) ++ leavesBelow children

def leavesBelow : List Plan → List String
  | [] => []
  | child :: rest => child.leaves.map (child.reach.field ++ "." ++ ·) ++ leavesBelow rest

end

/-- Whether parts lead through references from a class and end at one. -/
def endsAtReference (s : Schema) (className : String) : Parts → Bool
  | [] => false
  | name :: rest =>
    match ((s.class? className).bind (·.field? name)).bind FieldType.target? with
    | some target => rest.isEmpty || endsAtReference s target rest
    | none => false

/-- The leaf that a path asks for: the path itself, or the id at the reference where it ends. -/
def leafOf (s : Schema) (className path : String) : String :=
  if endsAtReference s className (Text.split '.' path) then path ++ "." ++ Field.id else path

/-- The leaf that parts ask for. -/
def leafAt (s : Schema) (className : String) (path : Parts) : String :=
  if endsAtReference s className path then textOf path ++ "." ++ Field.id else textOf path

/-- A leaf below children is a leaf of one of them behind its field. -/
theorem mem_leavesBelow {children : List Plan} {leaf : String} :
    leaf ∈ leavesBelow children ↔
      ∃ child ∈ children, ∃ inner ∈ child.leaves, child.reach.field ++ "." ++ inner = leaf := by
  induction children with
  | nil => simp [leavesBelow]
  | cons child rest ih =>
    rw [leavesBelow, List.mem_append, ih, List.mem_map, List.exists_mem_cons_iff]

/-- A leaf of a plan is a column of its own or a leaf of a child behind its field. -/
theorem mem_leaves {plan : Plan} {leaf : String} :
    leaf ∈ plan.leaves ↔ leaf ∈ plan.columns.map (·.1) ∨
      ∃ child ∈ plan.children, ∃ inner ∈ child.leaves,
        child.reach.field ++ "." ++ inner = leaf := by
  obtain ⟨target, reach, columns, children, query⟩ := plan
  rw [leaves, List.mem_append, mem_leavesBelow]

/-- The text of several names has a dot behind the first. -/
theorem textOf_cons (name : String) {rest : Parts} (h : rest ≠ []) :
    textOf (name :: rest) = name ++ "." ++ textOf rest := by
  obtain ⟨next, rest, rfl⟩ := List.exists_cons_of_ne_nil h
  exact String.intercalate_cons_cons

/-- The parts of a path make up the path. -/
theorem textOf_split (path : String) : textOf (Text.split '.' path) = path := by
  obtain ⟨first, rest, hsplit⟩ := List.exists_cons_of_ne_nil (Text.split_ne_nil '.' path)
  have htext : textOf (Text.split '.' path) = ".".intercalate (Text.split '.' path) := by
    rw [hsplit, textOf]
    simp
  rw [htext, Text.intercalate_split]

/-- The leaf at the parts of a path is the leaf of the path. -/
theorem leafAt_split (path : String) :
    leafAt s className (Text.split '.' path) = leafOf s className path := by
  rw [leafAt, leafOf, textOf_split]

/-- A path through a reference asks for what is left of it on the class behind. -/
theorem leafAt_cons {name target : String} {ty : FieldType} (rest : Parts)
    (hc : s.class? className = some c) (hf : c.field? name = some ty)
    (hty : ty.target? = some target) :
    leafAt s className (name :: rest) = name ++ "." ++ leafAt s target rest := by
  have hends : endsAtReference s className (name :: rest) =
      (rest.isEmpty || endsAtReference s target rest) := by
    simp [endsAtReference, hc, hf, hty]
  rw [leafAt, hends, leafAt]
  cases rest with
  | nil => rfl
  | cons next rest =>
    rw [List.isEmpty_cons, Bool.false_or, textOf_cons name (List.cons_ne_nil _ _)]
    split
    · simp only [String.append_assoc]
    · rfl

/-- A path from a field that is no reference asks for itself. -/
theorem leafAt_of_not_reference {ty : FieldType} (hc : s.class? className = some c)
    (hf : c.field? (headOf path) = some ty) (hty : ty.isReference = false) :
    leafAt s className path = textOf path := by
  have htarget : ty.target? = none := by
    cases ty <;> first | rfl | cases hty
  cases path with
  | nil => rfl
  | cons name rest =>
    have hf : c.field? name = some ty := hf
    simp [leafAt, endsAtReference, hc, hf, htarget]

/-! ## Levels -/

/-- A column of a class with its type, from a field that is no reference; no shape is a column. -/
def IsColumn (c : Class) (column : String × FieldType) : Prop :=
  ∃ field rest ty, Text.split '.' column.1 = field :: rest ∧ c.field? field = some ty ∧
    ty.isReference = false ∧ ty.below? rest = some column.2 ∧ column.2.isShape = false

/-- A path goes on below a reference. -/
def GoesOn (c : Class) (path : Parts) : Prop :=
  ∃ ty, c.field? (headOf path) = some ty ∧ ty.isReference = true

/-- A path is asked for below a reference. -/
def Asks (below : List (String × List Parts)) (field : String) (rest : Parts) : Prop :=
  ∃ paths, (field, paths) ∈ below ∧ rest ∈ paths

/-- A part is added below its field, which comes last where it is new. -/
theorem fields_addBelow (field : String) (rest : Parts) (below : List (String × List Parts)) :
    (addBelow field rest below).map (·.1) =
      if field ∈ below.map (·.1) then below.map (·.1) else below.map (·.1) ++ [field] := by
  induction below with
  | nil => rfl
  | cons group groups ih =>
    rw [addBelow]
    by_cases h : group.1 = field
    · simp [h]
    · simp only [if_neg h, List.map_cons, ih, List.mem_cons, Ne.symm h, false_or]
      split <;> rfl

/-- Adding a part never doubles a field. -/
theorem nodup_addBelow {field : String} {rest : Parts} {below : List (String × List Parts)}
    (h : (below.map (·.1)).Nodup) : ((addBelow field rest below).map (·.1)).Nodup := by
  rw [fields_addBelow]
  split
  · exact h
  · next hnew => exact List.nodup_append.mpr ⟨h, List.nodup_singleton _, by grind⟩

/-- Below references all is asked for that was, and what is added. -/
theorem asks_addBelow {field other : String} {rest more : Parts}
    {below : List (String × List Parts)} :
    Asks (addBelow field rest below) other more ↔
      Asks below other more ∨ other = field ∧ more = rest := by
  induction below with
  | nil => simp [addBelow, Asks]
  | cons group groups ih =>
    rw [addBelow]
    unfold Asks at ih ⊢
    grind

namespace Level

/-- A level asks for what its paths ask for, each column and each reference once. -/
structure Covers (c : Class) (paths : List Parts) (level : Level) : Prop where
  known : ∀ path ∈ paths, ∃ ty, c.field? (headOf path) = some ty
  columns : ∀ column ∈ level.columns, IsColumn c column
  columnsOnce : (level.columns.map (·.1)).Nodup
  belowOnce : (level.below.map (·.1)).Nodup
  mem_columns : ∀ name, name ∈ level.columns.map (·.1) ↔
    ∃ path ∈ paths, ¬ GoesOn c path ∧ textOf path = name
  asks : ∀ field rest, Asks level.below field rest ↔
    ∃ path ∈ paths, GoesOn c path ∧ headOf path = field ∧ path.tail = rest

variable {level level' : Level} {paths : List Parts}

/-- A class without paths is covered by the empty level. -/
theorem covers_nil : Covers c [] {} where
  known := nofun
  columns := nofun
  columnsOnce := List.nodup_nil
  belowOnce := List.nodup_nil
  mem_columns _ := by simp
  asks _ _ := by simp [Asks]

/-- A column that is found for a path has the path as its name. -/
theorem isColumn_of_columnAt (hs : s.Accepted) (hc : s.class? className = some c) {ty : FieldType}
    (hf : c.field? (headOf path) = some ty) (hty : ty.isReference = false)
    {column : String × FieldType} (h : columnAt s className (textOf path) = .ok column) :
    IsColumn c column ∧ column.1 = textOf path := by
  simp only [columnAt, Result.bind_eq_ok] at h
  obtain ⟨⟨name, leaf, left⟩, hcolumn, h⟩ := h
  obtain ⟨hwhole, h⟩ := Result.refuse_eq_ok.mp h
  obtain ⟨hleft, hshape⟩ := not_or.mp hwhole
  obtain rfl : left = .column := not_not.mp hleft
  obtain rfl := Result.pure_eq_ok.mp h
  obtain ⟨hbelow, rfl⟩ := (hs.column_eq_column hc).mp hcolumn
  obtain ⟨field, rest, fieldType, hsplit, hfield, hleaf⟩ := Class.below?_eq_some.mp hbelow
  have hhead : field = headOf path := by
    have hname := Path.split_name (hs.wellTyped hc hf).1
    match path, hname with
    | [], hname => exact (List.cons.inj (hsplit.symm.trans hname)).1
    | [_], hname => exact (List.cons.inj (hsplit.symm.trans hname)).1
    | head :: next :: rest, hname =>
      rw [textOf_cons head (List.cons_ne_nil _ _), Text.split_append] at hsplit
      rw [headOf] at hname ⊢
      rw [hname] at hsplit
      exact (List.cons.inj hsplit).1.symm
  subst hhead
  obtain rfl := Option.some.inj (hf.symm.trans hfield)
  exact ⟨⟨_, rest, ty, hsplit, hf, hty, hleaf, by simpa using hshape⟩, rfl⟩

/-- What a path adds to a level: a path below a reference, or a column unless it is there. -/
theorem add_eq_ok (hs : s.Accepted) (hc : s.class? className = some c)
    (h : level.add s className c path = .ok level') :
    (∃ ty, c.field? (headOf path) = some ty) ∧
      (GoesOn c path ∧
          level' = { level with below := addBelow (headOf path) path.tail level.below } ∨
        ¬ GoesOn c path ∧ ∃ column, IsColumn c column ∧ column.1 = textOf path ∧
          level' = if column.1 ∈ level.columns.map (·.1) then level
            else { level with columns := level.columns ++ [column] }) := by
  simp only [add, Result.bind_eq_ok] at h
  obtain ⟨ty, hf, h⟩ := h
  have hf : c.field? (headOf path) = some ty := by
    unfold Gate.fieldOf at hf
    split at hf
    · next hfound =>
      cases hf
      exact hfound
    · cases hf
  refine ⟨⟨ty, hf⟩, ?_⟩
  by_cases href : ty.isReference = true
  · rw [if_pos href, Result.pure_eq_ok] at h
    exact .inl ⟨⟨ty, hf, href⟩, h.symm⟩
  · rw [if_neg href] at h
    obtain ⟨column, hcolumn, h⟩ := Result.bind_eq_ok.mp h
    obtain ⟨hfits, hname⟩ :=
      isColumn_of_columnAt hs hc hf (Bool.eq_false_iff.mpr href) hcolumn
    have hstays : ¬ GoesOn c path := by
      rintro ⟨other, hother, hrefers⟩
      obtain rfl := Option.some.inj (hf.symm.trans hother)
      exact href hrefers
    have hany : (level.columns.any (·.1 == column.1)) = true ↔
        column.1 ∈ level.columns.map (·.1) := by
      simp [List.any_eq_true]
    refine .inr ⟨hstays, column, hfits, hname, ?_⟩
    by_cases hthere : column.1 ∈ level.columns.map (·.1)
    · rw [if_pos (hany.mpr hthere), Result.pure_eq_ok] at h
      rw [if_pos hthere, h]
    · rw [if_neg (mt hany.mp hthere), Result.pure_eq_ok] at h
      rw [if_neg hthere, h]

/-- Adding a path covers it with those before. -/
theorem Covers.add (hs : s.Accepted) (hc : s.class? className = some c)
    (hcovers : Covers c paths level) (h : level.add s className c path = .ok level') :
    Covers c (paths ++ [path]) level' := by
  have hexists : ∀ {P : Parts → Prop},
      (∃ p ∈ paths ++ [path], P p) ↔ (∃ p ∈ paths, P p) ∨ P path := by
    intro P
    simp only [List.mem_append, List.mem_singleton, or_and_right, exists_or, exists_eq_left]
  obtain ⟨hfirst, hadd⟩ := add_eq_ok hs hc h
  have hknown : ∀ p ∈ paths ++ [path], ∃ ty, c.field? (headOf p) = some ty :=
    List.forall_mem_append.mpr ⟨hcovers.known, List.forall_mem_singleton.mpr hfirst⟩
  rcases hadd with ⟨hgoes, rfl⟩ | ⟨hstays, column, hfits, hname, rfl⟩
  · refine ⟨hknown, hcovers.columns, hcovers.columnsOnce, nodup_addBelow hcovers.belowOnce,
      fun name => ?_, fun field rest => ?_⟩
    · simp only [hexists, hgoes, not_true_eq_false, false_and, or_false]
      exact hcovers.mem_columns name
    · simp only [hexists, asks_addBelow, hcovers.asks, hgoes, true_and]
      grind
  · have hasks : ∀ field rest, Asks level.below field rest ↔
        ∃ p ∈ paths ++ [path], GoesOn c p ∧ headOf p = field ∧ p.tail = rest := by
      intro field rest
      simp only [hexists, hstays, false_and, or_false]
      exact hcovers.asks field rest
    split
    · next hthere =>
      refine ⟨hknown, hcovers.columns, hcovers.columnsOnce, hcovers.belowOnce, fun name => ?_,
        hasks⟩
      rw [hexists, ← hcovers.mem_columns name]
      refine ⟨.inl, fun h => h.elim id fun ⟨_, htext⟩ => ?_⟩
      rwa [← htext, ← hname]
    · next hnew =>
      refine ⟨hknown, ?_, ?_, hcovers.belowOnce, fun name => ?_, hasks⟩
      · exact List.forall_mem_append.mpr ⟨hcovers.columns, List.forall_mem_singleton.mpr hfits⟩
      · rw [List.map_append, List.map_singleton]
        exact List.nodup_append.mpr ⟨hcovers.columnsOnce, List.nodup_singleton _, by grind⟩
      · rw [List.map_append, List.mem_append, hcovers.mem_columns, hexists]
        simp [hname, hstays, eq_comm]

/-- The level of some paths covers them. -/
theorem Covers.foldlM (hs : s.Accepted) (hc : s.class? className = some c) {more : List Parts}
    (hcovers : Covers c paths level)
    (h : more.foldlM (Level.add s className c) level = (.ok level' : Result Level)) :
    Covers c (paths ++ more) level' := by
  induction more generalizing paths level with
  | nil =>
    obtain rfl := Result.pure_eq_ok.mp h
    rwa [List.append_nil]
  | cons path rest ih =>
    rw [List.foldlM_cons] at h
    obtain ⟨mid, hmid, hrest⟩ := Result.bind_eq_ok.mp h
    have hall := ih (hcovers.add hs hc hmid) hrest
    rwa [List.append_assoc, List.singleton_append] at hall

end Level

/-! ## Plans -/

/--
A plan on the classes of a schema: every node lists columns of its class, each once, and below it
references of its class, each once, with the classes they lead to and the queries they take along.
-/
inductive Fits (s : Schema) : Plan → Prop
  | intro {plan : Plan} {c : Class} (known : s.class? plan.target.className = some c)
      (columns : ∀ column ∈ plan.columns, IsColumn c column)
      (columnsOnce : (plan.columns.map (·.1)).Nodup)
      (children : ∀ child ∈ plan.children,
        (c.field? child.reach.field).bind (reachOf child.reach.field) =
          some (child.reach, child.target.className))
      (childrenOnce : (plan.children.map (·.reach.field)).Nodup)
      (queries : ∀ child ∈ plan.children, child.query = queryOf plan.query child.reach)
      (below : ∀ child ∈ plan.children, Fits s child) : Fits s plan

/-- What is reached through a field is the class its type leads to. -/
theorem reachOf_eq_some {field target : String} {ty : FieldType} {reach : Reach}
    (h : reachOf field ty = some (reach, target)) :
    reach.field = field ∧ ty.target? = some target := by
  cases ty <;> cases h <;> exact ⟨rfl, rfl⟩

/-- The plan of a reference: one for the paths below it, on the class it leads to. -/
def IsChild (s : Schema) (depth : Nat) (c : Class) (query : BaseQuery)
    (group : String × List Parts) (child : Plan) : Prop :=
  ∃ reach target n n', (c.field? group.1).bind (reachOf group.1) = some (reach, target.className) ∧
    Compile.Runs (ofParts s depth target reach group.2 (queryOf query reach)) n child n'

open Compile in
/-- The parts of a plan that was built: the level of its paths, and a plan for each reference. -/
theorem ofParts_runs {depth : Nat} {target : Target} {reach : Reach} {paths : List Parts}
    {query : BaseQuery} {plan : Plan} {n n' : Nat}
    (h : Runs (ofParts s depth target reach paths query) n plan n') :
    ∃ c level, s.class? target.className = some c ∧
      paths.foldlM (Level.add s target.className c) {} = (.ok level : Result Level) ∧
      plan.target = target ∧ plan.reach = reach ∧ plan.query = query ∧
      plan.columns = level.columns ∧
      match depth with
      | 0 => plan.children = []
      | depth + 1 => List.Forall₂ (IsChild s depth c query) level.below plan.children := by
  unfold ofParts at h
  obtain ⟨c, _, hrunc, h⟩ := runs_bind.mp h
  obtain ⟨hc, rfl⟩ := runs_lift.mp hrunc
  obtain ⟨level, _, hrunlevel, h⟩ := runs_bind.mp h
  obtain ⟨hlevel, rfl⟩ := runs_lift.mp hrunlevel
  refine ⟨c, level, Schema.getClass_eq_ok.mp hc, hlevel, ?_⟩
  cases depth with
  | zero =>
    obtain ⟨children, _, hchildren, h⟩ := runs_bind.mp h
    obtain ⟨rfl, rfl⟩ := runs_pure.mp hchildren
    obtain ⟨rfl, rfl⟩ := runs_pure.mp h
    exact ⟨rfl, rfl, rfl, rfl, rfl⟩
  | succ depth =>
    obtain ⟨children, _, hchildren, h⟩ := runs_bind.mp h
    obtain ⟨rfl, rfl⟩ := runs_pure.mp h
    refine ⟨rfl, rfl, rfl, rfl, (forall₂_of_mapM hchildren).imp ?_⟩
    rintro ⟨field, paths⟩ child ⟨m, m', hrun⟩
    dsimp only at hrun
    split at hrun
    · next reach className hreach =>
      obtain ⟨label, m', hfresh, hrun⟩ := runs_bind.mp hrun
      have hname : label.className = className := by
        obtain ⟨fresh, _, -, hpure⟩ := runs_bind.mp hfresh
        obtain ⟨rfl, -⟩ := runs_pure.mp hpure
        rfl
      exact ⟨reach, label, _, _, hname ▸ hreach, hrun⟩
    · exact (not_runs_throw hrun).elim

/-- What paths ask for: their columns, and what is left of them below references. -/
theorem asked_iff (hc : s.class? className = some c) {paths : List Parts} {leaf : String}
    (hknown : ∀ path ∈ paths, ∃ ty, c.field? (headOf path) = some ty) :
    (∃ path ∈ paths, leafAt s className path = leaf) ↔
      (∃ path ∈ paths, ¬ GoesOn c path ∧ textOf path = leaf) ∨
        ∃ path ∈ paths, GoesOn c path ∧ leafAt s className path = leaf := by
  have hown : ∀ path ∈ paths, ¬ GoesOn c path → leafAt s className path = textOf path := by
    intro path hpath hstays
    obtain ⟨ty, hf⟩ := hknown path hpath
    exact leafAt_of_not_reference hc hf (Bool.eq_false_iff.mpr fun href => hstays ⟨ty, hf, href⟩)
  grind

/-- A path of no parts asks for the id, so one that goes on below a reference has parts. -/
theorem GoesOn.eq_cons (hids : Row.HasIds s) (hc : s.class? className = some c)
    (h : GoesOn c path) : headOf path :: path.tail = path := by
  cases path with
  | nil =>
    obtain ⟨ty, hty, href⟩ := h
    obtain rfl := Option.some.inj ((hids _ c hc).symm.trans hty)
    cases href
  | cons => rfl

/-- A plan below a reference that returns what the paths below the reference ask for. -/
structure Follows (s : Schema) (c : Class) (query : BaseQuery) (group : String × List Parts)
    (child : Plan) : Prop where
  field : child.reach.field = group.1
  reference : (c.field? group.1).bind (reachOf group.1) =
    some (child.reach, child.target.className)
  query : child.query = queryOf query child.reach
  fits : child.Fits s
  leaves : ∀ leaf, leaf ∈ child.leaves ↔
    ∃ rest ∈ group.2, leafAt s child.target.className rest = leaf

/-- Below references stand the leaves that the paths ask for which go on there. -/
theorem leaves_below (hids : Row.HasIds s) (hc : s.class? className = some c)
    {paths : List Parts} {level : Level} {query : BaseQuery} {children : List Plan}
    (hcovers : level.Covers c paths)
    (hall : List.Forall₂ (Follows s c query) level.below children) {leaf : String} :
    (∃ child ∈ children, ∃ inner ∈ child.leaves, child.reach.field ++ "." ++ inner = leaf) ↔
      ∃ path ∈ paths, GoesOn c path ∧ leafAt s className path = leaf := by
  have hleaf : ∀ {group : String × List Parts} {child : Plan}, Follows s c query group child →
      ∀ rest, leafAt s className (group.1 :: rest) =
        child.reach.field ++ "." ++ leafAt s child.target.className rest := by
    intro group child hfollows rest
    obtain ⟨ty, hf, hreach⟩ := Option.bind_eq_some_iff.mp hfollows.reference
    rw [hfollows.field, leafAt_cons rest hc hf (reachOf_eq_some hreach).2]
  constructor
  · rintro ⟨child, hchild, inner, hinner, rfl⟩
    obtain ⟨⟨field, rests⟩, hgroup, hfollows⟩ := Result.exists_left_of_forall₂ hall child hchild
    obtain ⟨rest, hrest, rfl⟩ := (hfollows.leaves inner).mp hinner
    obtain ⟨path, hpath, hgoes, rfl, rfl⟩ := (hcovers.asks field rest).mp ⟨rests, hgroup, hrest⟩
    have hpathleaf := hleaf hfollows path.tail
    rw [hgoes.eq_cons hids hc] at hpathleaf
    exact ⟨path, hpath, hgoes, hpathleaf⟩
  · rintro ⟨path, hpath, hgoes, rfl⟩
    obtain ⟨rests, hgroup, hrest⟩ := (hcovers.asks _ _).mpr ⟨path, hpath, hgoes, rfl, rfl⟩
    obtain ⟨child, hchild, hfollows⟩ := Result.exists_right_of_forall₂ hall _ hgroup
    have hpathleaf := hleaf hfollows path.tail
    rw [hgoes.eq_cons hids hc] at hpathleaf
    exact ⟨child, hchild, _, (hfollows.leaves _).mpr ⟨_, hrest, rfl⟩, hpathleaf.symm⟩

/-- A plan fits its schema, and its leaves are what its paths ask for. -/
theorem ofParts_spec (hs : s.Accepted) (hids : Row.HasIds s) {depth : Nat} {target : Target}
    {reach : Reach} {paths : List Parts} {query : BaseQuery} {plan : Plan} {n n' : Nat}
    (hdepth : ∀ path ∈ paths, path.length ≤ depth)
    (h : Compile.Runs (ofParts s depth target reach paths query) n plan n') :
    plan.Fits s ∧ ∀ leaf, leaf ∈ plan.leaves ↔
      ∃ path ∈ paths, leafAt s target.className path = leaf := by
  induction depth generalizing target reach paths query plan n n' with
  | zero =>
    obtain ⟨c, level, hc, hlevel, rfl, -, -, hcolumns, hchildren⟩ := ofParts_runs h
    have hcovers := Level.covers_nil.foldlM hs hc hlevel
    rw [List.nil_append] at hcovers
    have hnone : ∀ path ∈ paths, ¬ GoesOn c path := by
      intro path hpath
      obtain rfl := List.eq_nil_of_length_eq_zero (Nat.le_zero.mp (hdepth path hpath))
      exact fun hgoes => List.cons_ne_nil _ _ (hgoes.eq_cons hids hc)
    refine ⟨.intro hc (hcolumns ▸ hcovers.columns) (hcolumns ▸ hcovers.columnsOnce)
      (by simp [hchildren]) (by simp [hchildren]) (by simp [hchildren]) (by simp [hchildren]),
      fun leaf => ?_⟩
    rw [mem_leaves, asked_iff hc hcovers.known, hcolumns, hcovers.mem_columns, hchildren]
    grind
  | succ depth ih =>
    obtain ⟨c, level, hc, hlevel, rfl, -, rfl, hcolumns, hchildren⟩ := ofParts_runs h
    have hcovers := Level.covers_nil.foldlM hs hc hlevel
    rw [List.nil_append] at hcovers
    have hshorter : ∀ group ∈ level.below, ∀ rest ∈ group.2, rest.length ≤ depth := by
      rintro ⟨field, rests⟩ hgroup rest hrest
      obtain ⟨path, hpath, -, -, rfl⟩ := (hcovers.asks field rest).mp ⟨rests, hgroup, hrest⟩
      have := hdepth path hpath
      rw [List.length_tail]
      omega
    have hall : List.Forall₂ (Follows s c plan.query) level.below plan.children := by
      refine ((List.forall₂_and_left _ _).mpr ⟨hshorter, hchildren⟩).imp ?_
      rintro ⟨field, rests⟩ child ⟨hlength, reach, target, m, m', hreference, hrun⟩
      obtain ⟨-, -, -, -, rfl, rfl, hquery, -⟩ := ofParts_runs hrun
      obtain ⟨hfits, hleaves⟩ := ih hlength hrun
      obtain ⟨ty, -, hreach⟩ := Option.bind_eq_some_iff.mp hreference
      exact ⟨(reachOf_eq_some hreach).1, hreference, hquery, hfits, hleaves⟩
    have hone : ∀ child ∈ plan.children, ∃ group ∈ level.below, Follows s c plan.query group child :=
      Result.exists_left_of_forall₂ hall
    refine ⟨.intro hc (hcolumns ▸ hcovers.columns) (hcolumns ▸ hcovers.columnsOnce) ?_ ?_ ?_ ?_, ?_⟩
    · intro child hchild
      obtain ⟨group, -, hfollows⟩ := hone child hchild
      rw [hfollows.field]
      exact hfollows.reference
    · have hfields : level.below.map (·.1) = plan.children.map (·.reach.field) := by
        rw [← List.forall₂_eq_eq_eq, List.forall₂_map_left_iff, List.forall₂_map_right_iff]
        exact hall.imp fun _ _ hfollows => hfollows.field.symm
      exact hfields ▸ hcovers.belowOnce
    · intro child hchild
      obtain ⟨group, -, hfollows⟩ := hone child hchild
      exact hfollows.query
    · intro child hchild
      obtain ⟨group, -, hfollows⟩ := hone child hchild
      exact hfollows.fits
    · intro leaf
      rw [mem_leaves, asked_iff hc hcovers.known, hcolumns, hcovers.mem_columns,
        leaves_below hids hc hcovers hall]

/-- A plan of paths fits its schema, and its leaves are what its paths ask for. -/
theorem ofIncludes_spec (hs : s.Accepted) (hids : Row.HasIds s) {target : Target}
    {includes : List String} {query : BaseQuery} {plan : Plan} {n n' : Nat}
    (h : Compile.Runs (ofIncludes s target includes query) n plan n') :
    plan.Fits s ∧ plan.target = target ∧ plan.query = query ∧
      ∀ leaf, leaf ∈ plan.leaves ↔ ∃ path ∈ includes, leafOf s target.className path = leaf := by
  have hdepth : ∀ path ∈ includes.map (Text.split '.'),
      path.length ≤ ((includes.map (Text.split '.')).map List.length).foldl max 0 := by
    intro path hpath
    rw [List.foldl_max]
    exact le_trans (List.le_max?_getD_of_mem (List.mem_map_of_mem hpath)) (le_max_right _ _)
  obtain ⟨hfits, hleaves⟩ := ofParts_spec hs hids hdepth h
  obtain ⟨_, _, -, -, htarget, -, hquery, -⟩ := ofParts_runs h
  refine ⟨hfits, htarget, hquery, fun leaf => ?_⟩
  simp only [hleaves, List.mem_map, exists_exists_and_eq_and, leafAt_split]

end Plan

end ObjectQuery
