import ObjectQuery.Proofs.Access.Expansion
import ObjectQuery.Proofs.Access.Visibility

/-!
# A caller with more permissions gets no less

A caller is below another who is a master, or has the same user and at least the same roles. Whatever
the gate lets the first caller do, it lets the second do as well. The request of the second is
admitted if that of the first is, and it returns no path less and hides no object more.
-/

namespace ObjectQuery

/-! ## Callers -/

/-- A caller is granted at least what another one is. -/
def Auth.Below (a b : Auth) : Prop :=
  b.master = true ∨ a.master = false ∧ b.master = false ∧ a.user = b.user ∧ a.roles ⊆ b.roles

instance (a b : Auth) : Decidable (a.Below b) := inferInstanceAs (Decidable (_ ∨ _))

namespace Auth

variable {a b : Auth}

/-- The same user with more roles holds more tokens. -/
theorem tokens_subset (huser : a.user = b.user) (hroles : a.roles ⊆ b.roles) :
    a.tokens ⊆ b.tokens := by
  intro token htoken
  unfold tokens at htoken ⊢
  rw [huser] at htoken
  rcases List.mem_append.mp htoken with h | h
  · exact List.mem_append_left _ h
  · obtain ⟨role, hrole, rfl⟩ := List.mem_map.mp h
    exact List.mem_append_right _ (List.mem_map_of_mem (hroles hrole))

namespace Below

/-- Above a master is another. -/
theorem master (h : a.Below b) (ha : a.master = true) : b.master = true := by
  rcases h with hb | ⟨hno, -⟩
  · exact hb
  · rw [ha] at hno
    cases hno

/-- The second caller is a master or holds the tokens of the first. -/
theorem tokens (h : a.Below b) : b.master = true ∨ a.tokens ⊆ b.tokens := by
  rcases h with hb | ⟨-, -, huser, hroles⟩
  · exact .inl hb
  · exact .inr (tokens_subset huser hroles)

/-- Whom an access list allows, it allows with more permissions. -/
theorem allows (h : a.Below b) {acl : Acl} (hacl : a.allows acl = true) : b.allows acl = true := by
  unfold Auth.allows at hacl ⊢
  rcases h.tokens with hb | htokens
  · rw [hb, Bool.true_or]
  · rcases Bool.or_eq_true_iff.mp hacl with ha | hgranted
    · rw [h.master ha, Bool.true_or]
    · obtain ⟨entry, hentry, hmatch⟩ := List.any_eq_true.mp hgranted
      refine Bool.or_eq_true_iff.mpr (.inr (List.any_eq_true.mpr ⟨entry, hentry, ?_⟩))
      rcases Bool.or_eq_true_iff.mp hmatch with hall | htoken
      · rw [hall, Bool.true_or]
      · obtain ⟨token, hmem, heq⟩ := List.any_eq_true.mp htoken
        exact Bool.or_eq_true_iff.mpr (.inr (List.any_eq_true.mpr ⟨token, htokens hmem, heq⟩))

/-- Whom a list allows that may be missing, and is open then, it allows with more permissions. -/
theorem all_allows (h : a.Below b) {acl : Option Acl} (hacl : acl.all a.allows = true) :
    acl.all b.allows = true := by
  cases acl with
  | none => rfl
  | some acl => exact h.allows hacl

/-- Whom a list allows that may be missing, and is closed then, it allows with more permissions. -/
theorem any_allows (h : a.Below b) {acl : Option Acl} (hacl : acl.any a.allows = true) :
    acl.any b.allows = true := by
  cases acl with
  | none => cases hacl
  | some acl => exact h.allows hacl

end Below

end Auth

namespace Gate

open Result (Refines)

/-- The same gate before another caller. -/
def before (g : Gate) (auth : Auth) : Gate := { g with auth }

variable {g : Gate} {auth : Auth} {className : String}

/-! ## Permissions -/

/-- A field that may be read may be read with more permissions. -/
theorem readable_before (h : g.auth.Below auth) {c : Class} {field : String}
    (hread : g.readable c field = true) : (g.before auth).readable c field = true := by
  unfold readable hides grants before at *
  simp only [Bool.and_eq_true, Bool.not_eq_true', Bool.and_eq_false_iff] at hread ⊢
  obtain ⟨hseen, hgranted⟩ := hread
  refine ⟨hseen.imp_right fun hmaster => ?_, h.all_allows hgranted⟩
  have hm : g.auth.master = true := by simpa using hmaster
  simpa using h.master hm

/-- A path that may be read in a class may be read with more permissions. -/
theorem mayRead_before (h : g.auth.Below auth) {segments : List Segment}
    (hread : g.MayRead className segments) : (g.before auth).MayRead className segments := by
  obtain ⟨c, field, rest, hc, hsegments, hf, hreadable⟩ := hread
  exact ⟨c, field, rest, hc, hsegments, hf, readable_before h hreadable⟩

/-- A class that may be entered may be entered with more permissions. -/
theorem mayEnter_before (h : g.auth.Below auth) (henter : g.MayEnter className) :
    (g.before auth).MayEnter className := by
  obtain ⟨c, hc, hallows⟩ := henter
  exact ⟨c, hc, h.allows hallows⟩

/-- A field that is granted for reading is granted with more permissions. -/
theorem authorizeField_before (h : g.auth.Below auth) (c : Class) (field : String) :
    Refines (g.authorizeField className c field .read)
      ((g.before auth).authorizeField className c field .read) :=
  fun () hread => authorizeField_eq_ok.mpr (readable_before h (authorizeField_eq_ok.mp hread))

/-- A class that is granted is granted with more permissions. -/
theorem authorizeClass_before (h : g.auth.Below auth) (c : Class) (action : ClassAction) :
    Refines (g.authorizeClass className c action)
      ((g.before auth).authorizeClass className c action) := by
  intro _ hclass
  unfold authorizeClass at hclass ⊢
  split at hclass
  · next hallows =>
    have hmore : (g.before auth).auth.allows (c.acl action) = true := h.allows hallows
    rw [if_pos hmore]
  · cases hclass

/-- A class that opens to a caller opens with more permissions. -/
theorem openClass_before (h : g.auth.Below auth) (name : String) (action : ClassAction) :
    Refines (g.openClass name action) ((g.before auth).openClass name action) :=
  .bind .refl fun c => .bind (authorizeClass_before h c action) fun _ => .refl

/-- A path that is authorized is authorized with more permissions. -/
theorem authorizePath_before (h : g.auth.Below auth) (className path : String) :
    Refines (g.authorizePath className path) ((g.before auth).authorizePath className path) := by
  intro () hpath
  obtain ⟨segments, hparse, hleads, hreads, henters⟩ := authorizePath_iff.mp hpath
  refine authorizePath_iff.mpr ⟨segments, hparse, hleads, ?_, ?_⟩
  · exact fun visited left hv => mayRead_before h (hreads visited left hv)
  · exact fun entered he => mayEnter_before h (henters entered he)

/-- The target of a relation that may be asked for is the same with more permissions. -/
theorem relationTarget_before (h : g.auth.Below auth) (className path : String) :
    Refines (g.relationTarget className path) ((g.before auth).relationTarget className path) := by
  unfold relationTarget
  refine .bind (authorizePath_before h className path) fun _ => .bind .refl fun ty => ?_
  split
  · exact .bind (openClass_before h _ .find) fun _ => .refl
  · exact .refl

/-! ## Requests -/

/-- A filter that is accepted is accepted with more permissions, and read alike. -/
theorem acceptFilter_before (h : g.auth.Below auth) (raw : Option Json) :
    Refines (g.acceptFilter className raw) ((g.before auth).acceptFilter className raw) :=
  .bind .refl fun filter =>
    .bind (.forM (authorizePath_before h className) filter.keyPaths) fun _ => .refl

/-- A group that is accepted is accepted with more permissions, and read alike. -/
theorem acceptGroup_before (h : g.auth.Below auth) (target : String) (group : String × Json) :
    Refines (g.acceptGroup target group) ((g.before auth).acceptGroup target group) := by
  have hread : Refines
      (do
        DepthGuard.check group.2 g.maxDepth
        let accumulator ← Accumulator.decode group.2
        g.authorizePaths target accumulator.keyPaths
        return (group.1, accumulator))
      (do
        DepthGuard.check group.2 g.maxDepth
        let accumulator ← Accumulator.decode group.2
        (g.before auth).authorizePaths target accumulator.keyPaths
        return (group.1, accumulator)) :=
    .bind .refl fun _ => .bind .refl fun accumulator =>
      .bind (.forM (authorizePath_before h target) accumulator.keyPaths) fun _ => .refl
  unfold acceptGroup
  dsimp only
  split
  · exact .bind .refl fun _ => hread
  · exact hread

/-- The groups of a relation are accepted with more permissions, and read alike. -/
theorem acceptGroups_before (h : g.auth.Below auth) (groups : String × Table Json) :
    Refines (g.acceptGroups className groups) ((g.before auth).acceptGroups className groups) :=
  .bind (relationTarget_before h className groups.1) fun target =>
    .bind (.mapM (acceptGroup_before h target) groups.2) fun _ => .refl

/-- An order that is accepted is accepted with more permissions, and read alike. -/
theorem acceptSort_before (h : g.auth.Below auth) (groups : Table (Table Accumulator))
    (raw : Option Json) :
    Refines (g.acceptSort className groups raw) ((g.before auth).acceptSort className groups raw) := by
  cases raw with
  | none => exact .refl
  | some v =>
    refine .bind .refl fun _ => .bind .refl fun sort => .bind (.forM (fun path => ?_) _) fun _ => .refl
    unfold authorizeSortKey
    split
    · exact .refl
    · exact authorizePath_before h className path

mutual

/--
What a request asks of a class is accepted with more permissions, by induction on the requests inside.
-/
theorem acceptBase_before (h : g.auth.Below auth) :
    (options : FindOptions) → (className : String) →
      Refines (g.acceptBase className options) ((g.before auth).acceptBase className options)
  | ⟨filter, sort, _, nested, groups, _, _, _⟩, className => by
    unfold acceptBase
    refine .bind (acceptFilter_before h filter) fun _ => ?_
    refine .bind (.mapM (acceptGroups_before h) groups) fun accepted => ?_
    refine .bind (acceptSort_before h accepted sort) fun _ => ?_
    exact .bind (acceptNested_before h nested className) fun _ => .refl
termination_by structural options => options

/-- The requests inside of a request are accepted with more permissions, one by one. -/
theorem acceptNested_before (h : g.auth.Below auth) :
    (entries : List (String × FindOptions)) → (className : String) →
      Refines (g.acceptNested className entries) ((g.before auth).acceptNested className entries)
  | [], _ => .refl
  | (relation, options) :: rest, className => by
    unfold acceptNested
    refine .bind (relationTarget_before h className relation) fun target => ?_
    refine .bind (acceptBase_before h options target) fun _ => ?_
    exact .bind (acceptNested_before h rest className) fun _ => .refl
termination_by structural entries => entries

end

/-- A relation that may be asked backwards may be asked so with more permissions. -/
theorem checkRelatedBy_before (h : g.auth.Below auth) (r : RelatedBy) :
    Refines (g.checkRelatedBy className r) ((g.before auth).checkRelatedBy className r) := by
  unfold checkRelatedBy
  refine .bind (openClass_before h r.className .get) fun parent => ?_
  have hfield : Refines (do g.authorizeField r.className parent r.key .read; return r)
      (do (g.before auth).authorizeField r.className parent r.key .read; return r) :=
    .bind (authorizeField_before h parent r.key) fun _ => .refl
  split
  · split
    · exact .bind .refl fun _ => hfield
    · exact hfield
  · exact .bind .refl fun _ => hfield

/-! ## Included paths -/

/--
The leaves of one expansion are among those of another, and what is new there the second caller may
ask for; `start` stands before every path.
-/
structure Widens (g : Gate) (className start : String) (leaves leaves' : List String) : Prop where
  keeps : leaves ⊆ leaves'
  reads : ∀ leaf ∈ leaves', leaf ∈ leaves ∨
    ∃ path, leaf = start ++ path ∧ g.authorizePath className path = .ok ()

/-- Leaves are no fewer than themselves. -/
theorem Widens.refl {start : String} {leaves : List String} :
    g.Widens className start leaves leaves :=
  ⟨List.Subset.refl leaves, fun _ h => .inl h⟩

/-- A wildcard stands for no fewer leaves with more permissions. -/
theorem wildcard_before (hs : g.schema.Accepted) (h : g.auth.Below auth) {c : Class}
    (hc : g.schema.class? className = some c) :
    (g.before auth).Widens className "" (g.wildcard c) ((g.before auth).wildcard c) := by
  constructor
  · intro leaf hleaf
    obtain ⟨⟨name, ty⟩, hfield, hpath⟩ := List.mem_flatMap.mp hleaf
    obtain ⟨hmem, hkept⟩ := List.mem_filter.mp hfield
    obtain ⟨hkind, hreadable⟩ := Bool.and_eq_true_iff.mp hkept
    refine List.mem_flatMap.mpr ⟨(name, ty), List.mem_filter.mpr ⟨hmem, ?_⟩, hpath⟩
    exact Bool.and_eq_true_iff.mpr ⟨hkind, readable_before h hreadable⟩
  · intro leaf hleaf
    obtain ⟨field, ty, -, hinside⟩ := (mem_wildcard_iff (g := g.before auth) hs hc).mp hleaf
    have hread := LeafIn.authorizePath (g := g.before auth) hs hc hinside
    exact .inr ⟨leaf, String.empty_append.symm, hread⟩

/-- What is new behind a reference may be asked for through it. -/
theorem Widens.through (hs : g.schema.Accepted) {c : Class}
    (hc : g.schema.class? className = some c) {head target : String} {ty : FieldType}
    (hf : c.field? head = some ty) (htarget : ty.target? = some target)
    (hreadable : g.readable c head = true) (henter : g.MayEnter target) {fixed : List String}
    {leaves leaves' : List String} (h : g.Widens target "" leaves leaves') :
    g.Widens className "" ((fixed ++ leaves).map (head ++ "." ++ ·))
      ((fixed ++ leaves').map (head ++ "." ++ ·)) := by
  constructor
  · refine List.map_subset _ fun leaf hleaf => ?_
    rcases List.mem_append.mp hleaf with hfixed | hkept
    · exact List.mem_append_left _ hfixed
    · exact List.mem_append_right _ (h.keeps hkept)
  · intro path hpath
    obtain ⟨leaf, hleaf, rfl⟩ := List.mem_map.mp hpath
    rcases List.mem_append.mp hleaf with hfixed | hmore
    · exact .inl (List.mem_map_of_mem (List.mem_append_left _ hfixed))
    · rcases h.reads leaf hmore with hold | ⟨inner, rfl, hinner⟩
      · exact .inl (List.mem_map_of_mem (List.mem_append_right _ hold))
      · refine .inr ⟨head ++ "." ++ inner, ?_, ?_⟩
        · rw [String.empty_append, String.empty_append]
        · exact authorizePath_through hs hc hf htarget hreadable henter hinner

/-- By induction on the expansion of the first caller: only wildcards may hold more for the second. -/
theorem Expands.before (hs : g.schema.Accepted) (h : g.auth.Below auth) {parts leaves : List String}
    (hleaves : g.Expands className parts leaves) :
    ∃ leaves', (g.before auth).Expands className parts leaves' ∧
      (g.before auth).Widens className "" leaves leaves' := by
  induction hleaves with
  | wildcard hc hparts => exact ⟨_, .wildcard hc hparts, wildcard_before hs h hc⟩
  | reference hc hf hreadable hstar htarget henter _ ih =>
    obtain ⟨below', hbelow', hwidens⟩ := ih
    have hreadable' := readable_before h hreadable
    have henter' := mayEnter_before h henter
    exact ⟨_, .reference hc hf hreadable' hstar htarget henter' hbelow',
      .through (g := g.before auth) hs hc hf htarget hreadable' henter' hwidens⟩
  | shape hc hf hreadable hstar hshape hleaves =>
    exact ⟨_, .shape hc hf (readable_before h hreadable) hstar hshape hleaves, .refl⟩
  | field hc hf hreadable hstar hshape htarget =>
    exact ⟨_, .field hc hf (readable_before h hreadable) hstar hshape htarget, .refl⟩

/-- Lists of leaves that are set behind wider ones are wider together. -/
theorem Widens.append {start : String} {leaves leaves' more more' : List String}
    (h : g.Widens className start leaves leaves') (hmore : g.Widens className start more more') :
    g.Widens className start (leaves ++ more) (leaves' ++ more') := by
  constructor
  · intro leaf hleaf
    rcases List.mem_append.mp hleaf with hl | hm
    · exact List.mem_append_left _ (h.keeps hl)
    · exact List.mem_append_right _ (hmore.keeps hm)
  · intro leaf hleaf
    rcases List.mem_append.mp hleaf with hl | hm
    · exact (h.reads leaf hl).imp_left (List.mem_append_left _)
    · exact (hmore.reads leaf hm).imp_left (List.mem_append_right _)

/-- Includes that are expanded are expanded with more permissions, each to no fewer leaves. -/
theorem expandPaths_before (hs : g.schema.Accepted) (h : g.auth.Below auth)
    {paths : List String} {lists : List (List String)}
    (hlists : List.Forall₂ (fun path leaves => g.expandPath className path = .ok leaves)
      paths lists) :
    ∃ lists', List.Forall₂
        (fun path leaves => (g.before auth).expandPath className path = .ok leaves) paths lists' ∧
      (g.before auth).Widens className "" lists.flatten lists'.flatten := by
  induction hlists with
  | nil => exact ⟨[], .nil, .refl⟩
  | cons hleaves _ ih =>
    obtain ⟨leaves', hleaves', hwidens⟩ := (expandPath_eq_ok.mp hleaves).before hs h
    obtain ⟨rest', hrest', hmore⟩ := ih
    exact ⟨leaves' :: rest', .cons (expandPath_eq_ok.mpr hleaves') hrest', hwidens.append hmore⟩

/-- The second caller gets all paths of the first, and what it gets more it may ask for. -/
theorem expandIncludes_before (hs : g.schema.Accepted) (h : g.auth.Below auth)
    {includes leaves : List String} (hleaves : g.expandIncludes className includes = .ok leaves)
    (hpaths : g.authorizePaths className leaves = .ok ()) :
    ∃ leaves', (g.before auth).expandIncludes className includes = .ok leaves' ∧
      leaves ⊆ leaves' ∧ (g.before auth).authorizePaths className leaves' = .ok () := by
  obtain ⟨lists, hlists, hleaves⟩ := Result.bind_eq_ok.mp hleaves
  obtain rfl := Result.pure_eq_ok.mp hleaves
  obtain ⟨lists', hlists', hmore⟩ := expandPaths_before hs h (Result.mapM_eq_ok.mp hlists)
  have hwidens : (g.before auth).Widens className "" (Field.defaultNames ++ lists.flatten)
      (Field.defaultNames ++ lists'.flatten) := Widens.refl.append hmore
  refine ⟨(Field.defaultNames ++ lists'.flatten).eraseDups,
    Result.bind_eq_ok.mpr ⟨lists', Result.mapM_eq_ok.mpr hlists', rfl⟩, ?_, ?_⟩
  · intro leaf hleaf
    exact List.mem_eraseDups.mpr (hwidens.keeps (List.mem_eraseDups.mp hleaf))
  · refine authorizePaths_ok.mpr fun leaf hleaf => ?_
    rcases hwidens.reads leaf (List.mem_eraseDups.mp hleaf) with hold | ⟨path, rfl, hpath⟩
    · have hallowed := authorizePaths_ok.mp hpaths leaf (List.mem_eraseDups.mpr hold)
      exact authorizePath_before h className leaf () hallowed
    · rwa [String.empty_append]

/-! ## Visibility -/

/-- A value that lists one of some tokens lists one of more. -/
theorem lists_before {tokens tokens' : List String} (hsub : tokens ⊆ tokens') {v : Json}
    (h : Value.Lists tokens v) : Value.Lists tokens' v := by
  obtain ⟨items, hv, x, hx, token, htoken, hequal⟩ := h
  exact ⟨items, hv, x, hx, token, hsub htoken, hequal⟩

/-- An object that admits the first caller admits the second. -/
theorem admits_before (h : g.auth.Below auth) {acl : Option Acl} {path : String} {object : Json}
    (hadmits : g.Admits acl path object) : (g.before auth).Admits acl path object := by
  rcases hadmits with hmaster | hacl | hlists
  · exact .inl (h.master hmaster)
  · exact .inr (.inl (h.any_allows hacl))
  · rcases h.tokens with hmaster | htokens
    · exact .inl hmaster
    · exact .inr (.inr (lists_before htokens hlists))

/-- An object that is visible is visible with more permissions. -/
theorem visible_before (h : g.auth.Below auth) {name : String} {object : Json}
    (hvisible : (g.visible name).eval object = true) :
    ((g.before auth).visible name).eval object = true := by
  obtain ⟨hhost, hadmits, halive⟩ := (eval_visible g name object).mp hvisible
  exact (eval_visible (g.before auth) name object).mpr ⟨hhost, admits_before h hadmits, halive⟩

/-! ## Admission -/

/-- The client's filter is simplified already. -/
theorem simplify_of_readFilter {raw : Option Json} {filter : Filter}
    (h : g.readFilter raw = .ok filter) : filter.simplify = filter := by
  rcases readFilter_ok h with ⟨-, rfl⟩ | ⟨_, f, -, -, rfl⟩
  · rfl
  · exact Filter.simplify_simplify f

/--
Whatever request the gate admits from a caller, it admits from every caller above. The second query
returns all paths of the first, and no object is hidden from it that the first one sees: none of the
class itself and none of another class that the query reaches.
-/
theorem accept_before (hs : g.schema.Accepted) (h : g.auth.Below auth) {options : FindOptions}
    {action : QueryAction} {q : Query} (haccept : g.accept className options action = .ok q) :
    ∃ q' visible visible', (g.before auth).accept className options action = .ok q' ∧
      q.includes ⊆ q'.includes ∧
      (∀ object, q.base.filter.eval object = true → q'.base.filter.eval object = true) ∧
      q.extraFilter = some visible ∧ q'.extraFilter = some visible' ∧
      ∀ name object, (visible name).eval object = true → (visible' name).eval object = true := by
  obtain ⟨c, filter, base, includes, relatedBy, hc, hfilter, hclass, hbase, hincludes, hpaths,
    hrelated, rfl⟩ := accept_ok haccept
  obtain ⟨includes', hincludes', hsub, hpaths'⟩ := expandIncludes_before hs h hincludes hpaths
  have hclass' := authorizeClass_before h c _ () hclass
  have hbase' := acceptBase_before h options className base hbase
  have hrelated' := Refines.optionMapM (checkRelatedBy_before h) options.relatedBy relatedBy hrelated
  have hclient := simplify_of_readFilter (acceptFilter_ok (acceptBase_ok hbase).1).1
  let conditions' := (g.before auth).hostConditions className ++
    (g.before auth).listConditions c action ++ [Filter.alive g.now]
  let q' : Query := {
    className, relatedBy
    includes := includes'
    base := { base with filter := Filter.all (base.filter :: conditions') }
    extraFilter := some (g.before auth).visible }
  refine ⟨q', g.visible, (g.before auth).visible, ?_, hsub, fun object hobject => ?_, rfl, rfl,
    fun name object => visible_before h⟩
  · simp only [accept, Result.bind_eq_ok, Result.pure_eq_ok]
    exact ⟨c, hc, filter, hfilter, (), hclass', base, hbase', includes', hincludes', (), hpaths',
      relatedBy, hrelated', rfl⟩
  · obtain ⟨hclient', hhost, hadmits, halive⟩ := (eval_conditions hclient).mp hobject
    exact (eval_conditions hclient).mpr ⟨hclient', hhost, admits_before h hadmits, halive⟩

/-- Notes with a text, and with a draft that only editors read. -/
def draftedNotes : Json :=
  .obj [("Note", .obj [
    ("fields", .obj [("text", .str "string"), ("draft", .str "string")]),
    ("fieldLevelPermissions", .obj [("draft", .obj [("read", .arr [.str "role:editor"])])])])]

/-- The notes as a schema. -/
def draftedSchema : Schema where
  classes := [("Note", {
    fields := Field.defaults.foldl (fun t f => t.insert f.1 f.2)
      [("draft", .primitive .string none), ("text", .primitive .string none)]
    fieldPermissions := [("draft", { read := some ["role:editor"] })] })]

/-- A user without roles before the notes. -/
def draftReader : Gate where
  schema := draftedSchema
  auth := ⟨false, some "u", []⟩
  extraFilter := none
  maxDepth := 8
  now := ⟨0, 0⟩

/-- As an editor the user gets the draft as well. -/
theorem accept_before_of_editor :
    let editor : Auth := ⟨false, some "u", ["editor"]⟩
    ∃ q q', Schema.ofJson draftedNotes = .ok draftedSchema ∧ draftReader.auth.Below editor ∧
      draftReader.accept "Note" {} .find = .ok q ∧
      (draftReader.before editor).accept "Note" {} .find = .ok q' ∧ q.includes ⊆ q'.includes := by
  intro editor
  have hschema : Schema.ofJson draftedNotes = .ok draftedSchema := by rfl
  have hbelow : draftReader.auth.Below editor := by decide
  obtain ⟨q, hq⟩ := Result.exists_of_toBool
    (show (draftReader.accept "Note" {} .find).toBool = true by decide +kernel)
  obtain ⟨q', _, _, hq', hsub, -⟩ :=
    accept_before (Schema.accepted_of_ofJson hschema) hbelow hq
  exact ⟨q, q', hschema, hbelow, hq, hq', hsub⟩

/-- Only the editor gets the draft. -/
example : ((draftReader.expandIncludes "Note" []).toOption.any (·.contains "draft"),
    ((draftReader.before ⟨false, some "u", ["editor"]⟩).expandIncludes "Note" []).toOption.any
      (·.contains "draft")) = (false, true) := by
  decide +kernel

end Gate

end ObjectQuery
