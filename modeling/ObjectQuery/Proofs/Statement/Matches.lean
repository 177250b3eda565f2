import ObjectQuery.Proofs.Access.Admission
import ObjectQuery.Proofs.Statement.Plan

/-!
# Queries for the members of relations

A request may bring a query for the members of each relation, by the relation's path. A plan takes such
a query down to the node of the relation: across a pointer the paths are shortened by its field, and at a
relation the query is looked up by the relation's field alone. So a node is given the query for its path
as long as the way to it crosses pointers only. A path that crosses another relation is looked up by
nobody: behind that relation the queries are those of the query for its members.
-/

namespace ObjectQuery

/-- Whether a node is reached through a pointer. -/
def Reach.isPointer : Reach → Bool
  | .pointer _ => true
  | _ => false

namespace BaseQuery

/-- Behind a pointer a path stands for itself after the pointer's field. -/
theorem find?_beyond (q : BaseQuery) (field path : String) :
    Table.find? (q.beyond field).nested path = Table.find? q.nested (field ++ "." ++ path) := by
  unfold beyond Table.find?
  dsimp only
  induction q.nested with
  | nil => rfl
  | cons entry rest ih =>
    obtain ⟨name, query⟩ := entry
    have hlead : (field ++ ".").toList.length = field.length + 1 := by
      rw [String.length_toList, String.length_append]
      rfl
    rw [List.filterMap_cons]
    by_cases hopens : Text.opensWith name (field ++ ".") = true
    · obtain ⟨tail, htail⟩ := List.isPrefixOf_iff_prefix.mp hopens
      have hname : name = field ++ "." ++ String.ofList tail := by
        apply String.toList_injective
        rw [String.toList_append, String.toList_ofList, htail]
      have hdrop : name.toList.drop (field.length + 1) = tail := by
        rw [← htail, List.drop_left' hlead]
      simp only [hopens, ↓reduceIte, hdrop, List.lookup_cons]
      have hsame : (path == String.ofList tail) = (field ++ "." ++ path == name) := by
        rw [hname, Bool.eq_iff_iff, beq_iff_eq, beq_iff_eq, String.append_right_inj]
      rw [hsame, ih]
    · have hother : (field ++ "." ++ path == name) = false := by
        rw [beq_eq_false_iff_ne]
        rintro rfl
        exact hopens (List.isPrefixOf_iff_prefix.mpr ⟨path.toList, String.toList_append.symm⟩)
      simp only [hopens, Bool.false_eq_true, ↓reduceIte, List.lookup_cons, hother]
      exact ih

end BaseQuery

namespace Plan

variable {s : Schema} {plan node : Plan} {way : List Reach}

/-- A node of a plan at the end of a way through references. -/
inductive At : Plan → List Reach → Plan → Prop
  | here (plan : Plan) : At plan [] plan
  | down {plan child node : Plan} {way : List Reach} (hchild : child ∈ plan.children)
    (h : At child way node) : At plan (child.reach :: way) node

theorem at_nil : plan.At [] node ↔ node = plan := by
  constructor
  · rintro ⟨⟩
    rfl
  · rintro rfl
    exact .here _

theorem at_cons {reach : Reach} :
    plan.At (reach :: way) node ↔
      ∃ child ∈ plan.children, child.reach = reach ∧ child.At way node := by
  constructor
  · rintro (_ | ⟨hchild, h⟩)
    exact ⟨_, hchild, rfl, h⟩
  · rintro ⟨child, hchild, rfl, h⟩
    exact .down hchild h

/-- The children of a plan are the references of its class, which lead to the classes below. -/
theorem Fits.child (h : plan.Fits s) {child : Plan} (hchild : child ∈ plan.children) :
    ∃ c ty, s.class? plan.target.className = some c ∧ c.field? child.reach.field = some ty ∧
      reachOf child.reach.field ty = some (child.reach, child.target.className) ∧
      child.query = queryOf plan.query child.reach ∧ child.Fits s := by
  obtain @⟨_, c, hc, -, -, hchildren, -, hqueries, hbelow⟩ := h
  obtain ⟨ty, hf, hreach⟩ := Option.bind_eq_some_iff.mp (hchildren child hchild)
  exact ⟨c, ty, hc, hf, hreach, hqueries child hchild, hbelow child hchild⟩

theorem Fits.of_at (h : plan.Fits s) (hnode : plan.At way node) : node.Fits s := by
  induction hnode with
  | here plan => exact h
  | down hchild _ ih =>
    obtain ⟨_, _, _, _, _, _, hfits⟩ := h.child hchild
    exact ih hfits

/-- A plan has one node at the end of some fields. -/
theorem Fits.at_unique (h : plan.Fits s) {other : Plan} {way' : List Reach}
    (hway : way.map Reach.field = way'.map Reach.field) (hnode : plan.At way node)
    (hother : plan.At way' other) : way' = way ∧ other = node := by
  induction hnode generalizing way' with
  | here plan =>
    obtain rfl := List.map_eq_nil_iff.mp hway.symm
    exact ⟨rfl, at_nil.mp hother⟩
  | @down plan child node way hchild hnode ih =>
    cases hother with
    | here => cases hway
    | @down _ child' _ way' hchild' hother =>
      obtain ⟨hfield, hrest⟩ := List.cons.inj hway
      have honce : (plan.children.map (·.reach.field)).Nodup := by
        obtain @⟨_, _, _, _, _, _, honce, _, _⟩ := h
        exact honce
      obtain rfl := List.inj_on_of_nodup_map honce hchild hchild' hfield
      obtain ⟨_, _, _, _, _, _, hfits⟩ := h.child hchild
      obtain ⟨rfl, rfl⟩ := ih hfits hrest hother
      exact ⟨rfl, rfl⟩

/-- Behind pointers a relation's node has the query for its whole path. -/
theorem Fits.query_at (h : plan.Fits s) {field : String} {foreign : Option String}
    (hpointers : ∀ reach ∈ way, reach.isPointer = true)
    (hnode : plan.At (way ++ [.relation field foreign]) node) :
    node.query =
      (Table.find? plan.query.nested (textOf (way.map Reach.field ++ [field]))).getD {} := by
  induction way generalizing plan with
  | nil =>
    obtain ⟨child, hchild, hreach, hnode⟩ := at_cons.mp hnode
    obtain rfl := at_nil.mp hnode
    obtain ⟨_, _, _, _, _, hquery, _⟩ := h.child hchild
    rw [hquery, hreach]
    rfl
  | cons reach way ih =>
    obtain ⟨hpointer, hrest⟩ := List.forall_mem_cons.mp hpointers
    obtain ⟨child, hchild, hreach, hbelow⟩ := at_cons.mp hnode
    obtain ⟨_, _, _, _, _, hquery, hfits⟩ := h.child hchild
    cases reach with
    | pointer pointer =>
      rw [ih hfits hrest hbelow, hquery, hreach, queryOf, BaseQuery.find?_beyond, List.map_cons,
        List.cons_append, textOf_cons _ (by simp)]
      rfl
    | root | relation => cases hpointer

/-- The type walk follows the way to a node, and ends at the reference it is reached through. -/
theorem Fits.typeOf_way (h : plan.Fits s) {reach : Reach} (hnode : plan.At (way ++ [reach]) node) :
    ∃ ty, reachOf reach.field ty = some (reach, node.target.className) ∧
      s.typeOf plan.target.className (((way ++ [reach]).map Reach.field).map .field) =
        .ok (some ty) := by
  induction way generalizing plan with
  | nil =>
    obtain ⟨child, hchild, hreach, hbelow⟩ := at_cons.mp hnode
    obtain rfl := at_nil.mp hbelow
    subst hreach
    obtain ⟨c, ty, hc, hf, hreach, -, -⟩ := h.child hchild
    exact ⟨ty, hreach, Schema.typeOf_field [] hc hf⟩
  | cons first way ih =>
    obtain ⟨child, hchild, hfirst, hbelow⟩ := at_cons.mp hnode
    obtain ⟨c, ty, hc, hf, hreach, -, hfits⟩ := h.child hchild
    obtain ⟨last, hlast, htype⟩ := ih hfits hbelow
    refine ⟨last, hlast, ?_⟩
    subst hfirst
    rw [← htype]
    -- What is left of the way is not empty, so the walk goes on in the class behind.
    obtain ⟨next, rest, hnext⟩ := List.exists_cons_of_ne_nil
      (show ((way ++ [reach]).map Reach.field).map Segment.field ≠ [] by simp)
    obtain ⟨nextField, hnextField⟩ : ∃ field, next = .field field := by
      have hmem : next ∈ ((way ++ [reach]).map Reach.field).map Segment.field :=
        hnext ▸ List.mem_cons_self
      obtain ⟨field, -, rfl⟩ := List.mem_map.mp hmem
      exact ⟨field, rfl⟩
    rw [List.cons_append, List.map_cons, List.map_cons, Schema.typeOf_field _ hc hf, hnext, hnextField]
    refine Schema.walk_passage
      (?_ : FieldType.passage? ty _ false = some ⟨child.target.className, _, false⟩)
    cases ty with
    | pointer target =>
      obtain ⟨-, rfl⟩ := Prod.mk.inj (Option.some.inj hreach)
      rfl
    | relation target foreign =>
      obtain ⟨-, rfl⟩ := Prod.mk.inj (Option.some.inj hreach)
      rfl
    | primitive | vector | shape => cases hreach

/-- The fields of a way are identifiers. -/
theorem Fits.isName_of_mem_way (hs : s.Accepted) (h : plan.Fits s) (hnode : plan.At way node) :
    ∀ field ∈ way.map Reach.field, Schema.isName field = true := by
  induction hnode with
  | here plan => exact nofun
  | down hchild _ ih =>
    obtain ⟨c, ty, hc, hf, -, -, hfits⟩ := h.child hchild
    exact List.forall_mem_cons.mpr ⟨(hs.wellTyped hc hf).1, ih hfits⟩

/-- Where a leaf of a plan goes on behind some references there is a node. -/
theorem Fits.exists_at (hs : s.Accepted) (h : plan.Fits s) {leaf : String}
    (hleaf : leaf ∈ plan.leaves) {fields rest : List String}
    (hsplit : Text.split '.' leaf = fields ++ rest)
    (hends : fields = [] ∨ endsAtReference s plan.target.className fields = true) :
    ∃ way node, way.map Reach.field = fields ∧ plan.At way node := by
  induction fields generalizing plan leaf with
  | nil => exact ⟨[], plan, rfl, .here plan⟩
  | cons field fields ih =>
    have hends := hends.resolve_left (List.cons_ne_nil _ _)
    rcases mem_leaves.mp hleaf with hname | ⟨child, hchild, inner, hinner, rfl⟩
    · -- A column starts from a field that is no reference.
      obtain ⟨column, hcolumn, rfl⟩ := List.mem_map.mp hname
      obtain @⟨_, c, hc, hcolumns, -, -, -, -, -⟩ := h
      obtain ⟨first, _, ty, hcolumnSplit, hf, href, -, -⟩ := hcolumns column hcolumn
      obtain ⟨rfl, -⟩ := List.cons.inj (hcolumnSplit.symm.trans hsplit)
      have hnone : ty.target? = none := by
        cases ty <;> first | rfl | cases href
      simp [endsAtReference, hc, hf, hnone] at hends
    · obtain ⟨c, ty, hc, hf, hreach, -, hfits⟩ := h.child hchild
      rw [Text.split_append, Path.split_name (hs.wellTyped hc hf).1] at hsplit
      obtain ⟨rfl, hinside⟩ := List.cons.inj hsplit
      have hbehind : fields = [] ∨ endsAtReference s child.target.className fields = true := by
        simpa [endsAtReference, hc, hf, (reachOf_eq_some hreach).2] using hends
      obtain ⟨way, node, rfl, hnode⟩ := ih hfits hinner hinside hbehind
      exact ⟨child.reach :: way, node, rfl, .down hchild hnode⟩

/-- What is planned for some paths has a node behind each reference that a path goes through. -/
theorem ofIncludes_at {s : Schema} (hs : s.Accepted) (hids : Row.HasIds s) {target : Target}
    {includes : List String} {query : BaseQuery} {plan : Plan} {n n' : Nat}
    (hplan : Compile.Runs (ofIncludes s target includes query) n plan n') {path : String}
    (hpath : path ∈ includes) {fields rest : List String}
    (hsplit : Text.split '.' path = fields ++ rest)
    (hends : endsAtReference s target.className fields = true) :
    ∃ way node, way.map Reach.field = fields ∧ plan.At way node := by
  obtain ⟨hfits, rfl, -, hleaves⟩ := ofIncludes_spec hs hids hplan
  have hleaf := (hleaves _).mpr ⟨path, hpath, rfl⟩
  unfold leafOf at hleaf
  split at hleaf
  · have hid : Text.split '.' (path ++ "." ++ Field.id) = fields ++ (rest ++ [Field.id]) := by
      rw [Text.split_append, hsplit, List.append_assoc]
      rfl
    exact hfits.exists_at hs hleaf hid (.inr hends)
  · exact hfits.exists_at hs hleaf hsplit (.inr hends)

end Plan

namespace Gate

open Plan

/-- An entry for the members of a relation was admitted under a path that leads to a relation. -/
theorem accept_nested {g : Gate} {className : String} {options : FindOptions}
    {action : QueryAction} {q : Query} (h : g.accept className options action = .ok q)
    {path : String} {query : BaseQuery} (hentry : (path, query) ∈ q.base.nested) :
    ∃ target foreign, g.schema.typeAt className path = .ok (some (.relation target foreign)) := by
  obtain ⟨c, filter, base, includes, relatedBy, -, -, -, hbase, -, -, -, rfl⟩ := accept_ok h
  obtain ⟨-, -, -, hnested, -, -⟩ := acceptBase_ok hbase
  obtain ⟨entry, -, hname, target, htarget, -⟩ :=
    Result.exists_left_of_forall₂ (acceptNested_ok hnested) _ hentry
  obtain ⟨-, ⟨foreign, hty⟩, -⟩ := relationTarget_ok htarget
  rw [hname] at hty
  exact ⟨target, foreign, hty⟩

/--
What is planned for an admitted query has one node behind each reference that its paths go through. An
entry of the query for the members of a relation is what the relation's node carries, if the way to it
crosses pointers only; what stands behind another relation is looked up, in the same way, in the query of
that relation's node and nowhere else.
-/
theorem accept_matches {document : Json} {g : Gate} (hs : Schema.ofJson document = .ok g.schema)
    {className : String} {options : FindOptions} {action : QueryAction} {q : Query}
    (h : g.accept className options action = .ok q) {plan : Plan} {n n' : Nat}
    (hplan : Compile.Runs (ofIncludes g.schema (.root className) q.includes q.base) n plan n') :
    (∀ path ∈ q.includes, ∀ fields rest, Text.split '.' path = fields ++ rest →
      endsAtReference g.schema className fields = true →
        ∃ way node, way.map Reach.field = fields ∧ plan.At way node ∧
          ∀ way' node', way'.map Reach.field = fields → plan.At way' node' →
            way' = way ∧ node' = node) ∧
    (∀ path query, Table.find? q.base.nested path = some query → ∀ way node, plan.At way node →
      way.map Reach.field = Text.split '.' path →
        (∀ reach ∈ way.dropLast, reach.isPointer = true) → node.query = query) ∧
    ∀ above outer, plan.At above outer → ∀ way field foreign node,
      (∀ reach ∈ way, reach.isPointer = true) →
        outer.At (way ++ [.relation field foreign]) node →
          node.query =
            (Table.find? outer.query.nested (textOf (way.map Reach.field ++ [field]))).getD {} := by
  have haccepted := Schema.accepted_of_ofJson hs
  have hids := Row.hasIds_of_ofJson hs
  obtain ⟨hfits, htarget, hquery, -⟩ := ofIncludes_spec haccepted hids hplan
  refine ⟨?nodes, ?entries, ?behind⟩
  case nodes =>
    intro path hpath fields rest hsplit hends
    obtain ⟨way, node, hway, hnode⟩ :=
      ofIncludes_at haccepted hids hplan hpath hsplit hends
    exact ⟨way, node, hway, hnode, fun way' node' hway' hnode' =>
      hfits.at_unique (hway.trans hway'.symm) hnode hnode'⟩
  case entries =>
    intro path query hentry way node hnode hway hpointers
    obtain ⟨target, foreign, htype⟩ := accept_nested h (Table.mem_of_find?_eq_some hentry)
    have hne : way ≠ [] := by
      rintro rfl
      exact Text.splitChars_ne_nil '.' path.toList (List.map_eq_nil_iff.mp hway.symm)
    rw [← List.dropLast_append_getLast hne] at hnode hway
    generalize way.getLast hne = last at hnode hway
    generalize way.dropLast = front at hnode hway hpointers
    -- The way ends at the type that the path has, which is a relation.
    obtain ⟨ty, hreach, hwalk⟩ := hfits.typeOf_way hnode
    have hparse := Path.parse_of_split hway.symm (hfits.isName_of_mem_way haccepted hnode)
    have hty : ty = .relation target foreign := by
      have hat : g.schema.typeAt className path = .ok (some ty) := by
        rw [htarget] at hwalk
        rw [Schema.typeAt, hparse]
        exact hwalk
      exact Option.some.inj (Except.ok.inj (hat.symm.trans htype))
    subst hty
    obtain ⟨hlast, -⟩ := Prod.mk.inj (Option.some.inj hreach)
    rw [← hlast] at hnode
    have hfields : textOf (front.map Reach.field ++ [last.field]) = path := by
      rw [← textOf_split path, ← hway, List.map_append]
      rfl
    rw [hfits.query_at hpointers hnode, hfields, hquery, hentry]
    rfl
  case behind =>
    intro above outer houter way field foreign node hpointers hnode
    exact (hfits.of_at houter).query_at hpointers hnode

/-- Notes have an author and tags; authors have notes, and tags have comments. -/
def filedNotes : Json :=
  .obj [
    ("Comment", .obj [("fields", .obj [("text", .str "string")])]),
    ("Note", .obj [("fields", .obj [
      ("author", .obj [("type", .str "pointer"), ("target", .str "User")]),
      ("tags", .obj [("type", .str "relation"), ("target", .str "Tag")])])]),
    ("Tag", .obj [("fields", .obj [
      ("comments", .obj [("type", .str "relation"), ("target", .str "Comment")])])]),
    ("User", .obj [("fields", .obj [
      ("notes", .obj [("type", .str "relation"), ("target", .str "Note")])])])]

/-- The master's access to the notes. -/
def filedGate : Gate where
  schema := { classes := [
    ("Comment", {
      fields := Field.defaults.foldl (fun t f => t.insert f.1 f.2)
        [("text", .primitive .string none)] }),
    ("Note", {
      fields := Field.defaults.foldl (fun t f => t.insert f.1 f.2)
        [("author", .pointer "User"), ("tags", .relation "Tag" none)] }),
    ("Tag", {
      fields := Field.defaults.foldl (fun t f => t.insert f.1 f.2)
        [("comments", .relation "Comment" none)] }),
    ("User", {
      fields := Field.defaults.foldl (fun t f => t.insert f.1 f.2)
        [("notes", .relation "Note" none)] })] }
  auth := { Auth.anonymous with master := true }
  extraFilter := none
  maxDepth := 8
  now := ⟨0, 0⟩

theorem ofJson_filedNotes : Schema.ofJson filedNotes = .ok filedGate.schema := by rfl

/-- Notes with two of the other notes of their authors. -/
def notesOfAuthors : FindOptions where
  includes := ["author.notes"]
  nested := [("author.notes", { limit := some 2 })]

/-- The bound on the notes of an author arrives at the node for these notes. -/
theorem accept_matches_of_notesOfAuthors :
    ∃ q plan n query node, Schema.ofJson filedNotes = .ok filedGate.schema ∧
      filedGate.accept "Note" notesOfAuthors .find = .ok q ∧
      Compile.Runs (ofIncludes filedGate.schema (.root "Note") q.includes q.base) 0 plan n ∧
      Table.find? q.base.nested "author.notes" = some query ∧
      plan.At [.pointer "author", .relation "notes" none] node ∧
      node.query = query ∧ query.limit = some 2 := by
  obtain ⟨q, hq, hplans⟩ := Result.exists_of_any
    (x := filedGate.accept "Note" notesOfAuthors .find)
    (p := fun q => ((Table.find? q.base.nested "author.notes").any (·.limit = some 2)) &&
      ((ofIncludes filedGate.schema (.root "Note") q.includes q.base).run.run 0).1.toOption.any
        fun plan => plan.children.any fun author => author.reach = .pointer "author" &&
          author.children.any (·.reach = .relation "notes" none))
    (by decide +kernel)
  obtain ⟨hentry, hplans⟩ := Bool.and_eq_true_iff.mp hplans
  obtain ⟨query, hquery, hlimit⟩ := (Option.any_eq_true _ _).mp hentry
  obtain ⟨plan, n, hplan, hnodes⟩ := Compile.exists_runs_of_any hplans
  obtain ⟨author, hauthor, hnodes⟩ := List.any_eq_true.mp hnodes
  obtain ⟨hpointer, hnodes⟩ := Bool.and_eq_true_iff.mp hnodes
  obtain ⟨notes, hnotes, hrelation⟩ := List.any_eq_true.mp hnodes
  have hnode : plan.At [.pointer "author", .relation "notes" none] notes :=
    at_cons.mpr ⟨author, hauthor, of_decide_eq_true hpointer,
      at_cons.mpr ⟨notes, hnotes, of_decide_eq_true hrelation, .here notes⟩⟩
  obtain ⟨-, hentries, -⟩ := accept_matches ofJson_filedNotes hq hplan
  exact ⟨q, plan, n, query, notes, ofJson_filedNotes, hq, hplan, hquery, hnode,
    hentries _ query hquery _ notes hnode (by decide) (by decide), of_decide_eq_true hlimit⟩

/-- Notes with one comment on each of their tags. -/
def commentsOfTags : FindOptions where
  includes := ["tags.comments"]
  nested := [("tags.comments", { limit := some 1 })]

/-- The bound on the comments of a tag is admitted, and the node for these comments has no bound. -/
theorem accept_matches_ignored :
    Schema.ofJson filedNotes = .ok filedGate.schema ∧
      ∃ q plan n query node, filedGate.accept "Note" commentsOfTags .find = .ok q ∧
        Compile.Runs (ofIncludes filedGate.schema (.root "Note") q.includes q.base) 0 plan n ∧
        Table.find? q.base.nested "tags.comments" = some query ∧
        plan.At [.relation "tags" none, .relation "comments" none] node ∧
        query.limit = some 1 ∧ node.query.limit = none ∧ node.query ≠ query := by
  refine ⟨ofJson_filedNotes, ?_⟩
  obtain ⟨q, hq, hplans⟩ := Result.exists_of_any
    (x := filedGate.accept "Note" commentsOfTags .find)
    (p := fun q => ((Table.find? q.base.nested "tags.comments").any (·.limit = some 1)) &&
      ((ofIncludes filedGate.schema (.root "Note") q.includes q.base).run.run 0).1.toOption.any
        fun plan => plan.children.any fun tags => tags.reach = .relation "tags" none &&
          tags.children.any fun comments =>
            comments.reach = .relation "comments" none && comments.query.limit = none)
    (by decide +kernel)
  obtain ⟨hentry, hplans⟩ := Bool.and_eq_true_iff.mp hplans
  obtain ⟨query, hquery, hlimit⟩ := (Option.any_eq_true _ _).mp hentry
  obtain ⟨plan, n, hplan, hnodes⟩ := Compile.exists_runs_of_any hplans
  obtain ⟨tags, htags, hnodes⟩ := List.any_eq_true.mp hnodes
  obtain ⟨hrelation, hnodes⟩ := Bool.and_eq_true_iff.mp hnodes
  obtain ⟨comments, hcomments, hnode⟩ := List.any_eq_true.mp hnodes
  obtain ⟨hinner, hnone⟩ := Bool.and_eq_true_iff.mp hnode
  have hlimit := of_decide_eq_true hlimit
  have hnone := of_decide_eq_true hnone
  refine ⟨q, plan, n, query, comments, hq, hplan, hquery, ?_, hlimit, hnone, ?_⟩
  · exact at_cons.mpr ⟨tags, htags, of_decide_eq_true hrelation,
      at_cons.mpr ⟨comments, hcomments, of_decide_eq_true hinner, .here comments⟩⟩
  · intro heq
    rw [heq, hlimit] at hnone
    cases hnone

end Gate

end ObjectQuery
