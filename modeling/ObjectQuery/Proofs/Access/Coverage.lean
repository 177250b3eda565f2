import ObjectQuery.Proofs.Access.Admission
import ObjectQuery.Proofs.Schema.Passage

/-!
# What an admitted path may read

The gate follows a path by its own walk, field by field and class by class, and leaves what is below
a shape to the type walk, which asks for no permissions. So a path is admitted exactly if it leads
somewhere and everything it visits is permitted, but for what it reaches through a reference inside
a shape.
-/

namespace ObjectQuery.Gate

variable {g : Gate}

/-! ## Permissions -/

/-- The caller may read the field of a class that segments start with. -/
def MayRead (g : Gate) (className : String) (segments : List Segment) : Prop :=
  ∃ c field rest, g.schema.class? className = some c ∧ segments = .field field :: rest ∧
    (c.field? field).isSome = true ∧ g.readable c field = true

/-- The class is open to `find`. -/
def MayEnter (g : Gate) (className : String) : Prop :=
  ∃ c, g.schema.class? className = some c ∧ g.auth.allows (c.acl .find) = true

/-- Reading a field is authorized exactly where it is readable. -/
theorem authorizeField_eq_ok {className : String} {c : Class} {field : String} :
    g.authorizeField className c field .read = .ok () ↔ g.readable c field = true := by
  unfold authorizeField readable
  cases g.hides c field <;> cases g.grants c field .read <;> simp

/-- A field has a type where the class lists it. -/
theorem fieldOf_eq_ok {className : String} {c : Class} {field : String} {ty : FieldType} :
    fieldOf className c field = .ok ty ↔ c.field? field = some ty := by
  unfold fieldOf
  split <;> simp_all

/-- A class is opened where it exists and its list for the action allows the caller. -/
theorem openClass_eq_ok {className : String} {c : Class} {action : ClassAction} :
    g.openClass className action = .ok c ↔
      g.schema.class? className = some c ∧ g.auth.allows (c.acl action) = true := by
  simp only [openClass, Result.bind_eq_ok, Result.pure_eq_ok, Schema.getClass_eq_ok]
  unfold authorizeClass
  constructor
  · rintro ⟨c, hc, _, hallows, rfl⟩
    split at hallows
    · exact ⟨hc, ‹_›⟩
    · cases hallows
  · rintro ⟨hc, hallows⟩
    exact ⟨c, hc, (), by rw [if_pos hallows], rfl⟩

/-- A field is read where its class exists, lists it, and has it readable. -/
theorem readField_eq_ok {className field : String} {ty : FieldType} :
    g.readField className field = .ok ty ↔ ∃ c, g.schema.class? className = some c ∧
      c.field? field = some ty ∧ g.readable c field = true := by
  simp only [readField, Result.bind_eq_ok, Result.pure_eq_ok, Schema.getClass_eq_ok]
  unfold fieldOf
  constructor
  · rintro ⟨c, hc, ty, hty, _, hread, rfl⟩
    split at hty
    · next found =>
      cases hty
      exact ⟨c, hc, found, authorizeField_eq_ok.mp hread⟩
    · cases hty
  · rintro ⟨c, hc, hty, hread⟩
    exact ⟨c, hc, ty, by rw [hty], (), authorizeField_eq_ok.mpr hread, rfl⟩

/-! ## The walk of the gate -/

/-- What the walk asks where it stops: that the type walk leads somewhere. -/
private theorem stop_eq_ok {className : String} {segments : List Segment} :
    (do let _ ← g.schema.typeOf className segments : Result Unit) = .ok () ↔
      ∃ ty, g.schema.typeOf className segments = .ok ty := by
  cases g.schema.typeOf className segments <;> simp [Functor.map, Except.map]

/-- How the walk goes on behind a reference. -/
private theorem enter_eq_ok {path target : String} {rest : List Segment} :
    (do
      let _ ← g.openClass target .find
      g.authorizeSegments path target rest) = .ok () ↔
      g.MayEnter target ∧ g.authorizeSegments path target rest = .ok () := by
  simp only [Result.bind_eq_ok, openClass_eq_ok, MayEnter]
  constructor
  · rintro ⟨c, hc, hrest⟩
    exact ⟨⟨c, hc⟩, hrest⟩
  · rintro ⟨⟨c, hc⟩, hrest⟩
    exact ⟨c, hc, hrest⟩

/-- One step of the walk: it goes on behind a reference, but not behind one inside a shape. -/
theorem authorizeSegments_eq_ok {path className : String} {segments : List Segment} :
    g.authorizeSegments path className segments = .ok () ↔
      g.MayRead className segments ∧
        match g.schema.passage? className segments with
        | some ⟨target, rest, false⟩ =>
          g.MayEnter target ∧ g.authorizeSegments path target rest = .ok ()
        | _ => ∃ ty, g.schema.typeOf className segments = .ok ty := by
  cases segments with
  | nil => simp [authorizeSegments, MayRead]
  | cons segment rest =>
    cases segment with
    | index i => simp [authorizeSegments, MayRead]
    | field field =>
      by_cases hread : ∃ ty, g.readField className field = .ok ty
      · obtain ⟨ty, hfield⟩ := hread
        obtain ⟨c, hc, hty, hreadable⟩ := readField_eq_ok.mp hfield
        have hmay : g.MayRead className (.field field :: rest) :=
          ⟨c, field, rest, hc, rfl, by rw [hty]; rfl, hreadable⟩
        have hpassage : g.schema.passage? className (.field field :: rest) =
            ty.passage? rest false := by
          simp [Schema.passage?, hc, hty]
        have hend : ∃ last, g.schema.typeOf className [.field field] = .ok last := by
          rw [Schema.typeOf_field [] hc hty, Schema.walk]
          exact ⟨some ty, rfl⟩
        rw [authorizeSegments, hfield, hpassage]
        simp only [hmay, true_and]
        cases ty with
        | primitive kind default? => cases rest <;> exact stop_eq_ok
        | vector dimension default? => cases rest <;> exact stop_eq_ok
        | shape fields =>
          refine stop_eq_ok.trans ?_
          split
          · next hp => cases FieldType.insideShape_of_shape hp
          · rfl
        | pointer target =>
          cases rest with
          | nil => exact ⟨fun _ => hend, fun _ => rfl⟩
          | cons segment rest => exact enter_eq_ok
        | relation target foreign =>
          cases rest with
          | nil => exact ⟨fun _ => hend, fun _ => rfl⟩
          | cons segment rest =>
            cases segment with
            | index i =>
              cases rest with
              | nil => exact stop_eq_ok
              | cons next more => exact enter_eq_ok
            | field name => exact enter_eq_ok
      · have hrefused : g.authorizeSegments path className (.field field :: rest) ≠ .ok () := by
          rw [authorizeSegments]
          intro h
          obtain ⟨ty, hty, _⟩ := Result.bind_eq_ok.mp h
          exact hread ⟨ty, hty⟩
        refine iff_of_false hrefused ?_
        rintro ⟨⟨c, name, tail, hc, hsegments, hsome, hreadable⟩, -⟩
        obtain ⟨ty, hty⟩ := Option.isSome_iff_exists.mp hsome
        cases hsegments
        exact hread ⟨ty, readField_eq_ok.mpr ⟨c, hc, hty, hreadable⟩⟩

/-- What segments read outside of the reach of references inside shapes is permitted. -/
structure Permits (g : Gate) (className : String) (segments : List Segment) : Prop where
  leads : ∃ ty, g.schema.typeOf className segments = .ok ty
  reads : ∀ visited left, g.schema.Visits className segments visited left false →
    g.MayRead visited left
  enters : ∀ entered, g.schema.Enters className segments entered false → g.MayEnter entered

/-- Behind a reference outside of shapes the same is asked of the rest. -/
theorem permits_of_passage {className target : String} {segments rest : List Segment}
    (hp : g.schema.passage? className segments = some ⟨target, rest, false⟩) :
    g.Permits className segments ↔
      g.MayRead className segments ∧ g.MayEnter target ∧ g.Permits target rest := by
  constructor
  · rintro ⟨hleads, hreads, henters⟩
    refine ⟨hreads _ _ (.start _ _), henters _ (Schema.enters_iff.mpr ⟨_, hp, .inl ⟨rfl, rfl⟩⟩),
      (Schema.typeOf_passage hp) ▸ hleads, fun visited left hv => ?_, fun entered he => ?_⟩
    · exact hreads visited left (.pass hp hv)
    · exact henters entered (Schema.enters_iff.mpr ⟨_, hp, .inr ⟨false, he, rfl⟩⟩)
  · rintro ⟨hread, henter, hleads, hreads, henters⟩
    refine ⟨(Schema.typeOf_passage hp).symm ▸ hleads, fun visited left hv => ?_,
      fun entered he => ?_⟩
    · rcases Schema.visits_iff.mp hv with ⟨rfl, rfl, -⟩ | ⟨p, later, hpassage, hlater, hflag⟩
      · exact hread
      · obtain rfl := Option.some.inj (hp.symm.trans hpassage)
        obtain rfl : later = false := hflag.symm
        exact hreads visited left hlater
    · obtain ⟨p, hpassage, ⟨rfl, -⟩ | ⟨later, hlater, hflag⟩⟩ := Schema.enters_iff.mp he
      · obtain rfl := Option.some.inj (hp.symm.trans hpassage)
        exact henter
      · obtain rfl := Option.some.inj (hp.symm.trans hpassage)
        obtain rfl : later = false := hflag.symm
        exact henters entered hlater

/-- Without a reference outside of shapes only the first field is asked for. -/
theorem permits_of_no_passage {className : String} {segments : List Segment}
    (hp : ∀ p, g.schema.passage? className segments = some p → p.insideShape = true) :
    g.Permits className segments ↔
      g.MayRead className segments ∧ ∃ ty, g.schema.typeOf className segments = .ok ty := by
  constructor
  · rintro ⟨hleads, hreads, -⟩
    exact ⟨hreads _ _ (.start _ _), hleads⟩
  · rintro ⟨hread, hleads⟩
    refine ⟨hleads, fun visited left hv => ?_, fun entered he => ?_⟩
    · rcases Schema.visits_iff.mp hv with ⟨rfl, rfl, -⟩ | ⟨p, later, hpassage, -, hflag⟩
      · exact hread
      · simp [hp p hpassage] at hflag
    · obtain ⟨p, hpassage, ⟨-, hflag⟩ | ⟨later, -, hflag⟩⟩ := Schema.enters_iff.mp he
      · simp [hp p hpassage] at hflag
      · simp [hp p hpassage] at hflag

/-- The walk of the gate admits exactly what is permitted, by induction on the segments left. -/
theorem authorizeSegments_iff {path className : String} {segments : List Segment} :
    g.authorizeSegments path className segments = .ok () ↔ g.Permits className segments := by
  rw [authorizeSegments_eq_ok]
  split
  · next target rest hp =>
    have hshorter : rest.length < segments.length := Schema.passage?_length hp
    rw [permits_of_passage hp, authorizeSegments_iff]
  · next hno =>
    refine (permits_of_no_passage fun p hp => ?_).symm
    obtain ⟨target, rest, inside⟩ := p
    cases inside with
    | true => rfl
    | false => exact (hno target rest hp).elim
termination_by segments.length
decreasing_by exact hshorter

/-- A path is admitted exactly if it can be read as segments that are permitted. -/
theorem authorizePath_iff {className path : String} :
    g.authorizePath className path = .ok () ↔
      ∃ segments, Path.parse path = .ok segments ∧ g.Permits className segments := by
  simp only [authorizePath, Result.bind_eq_ok, authorizeSegments_iff]

/-! ## Requests -/

/--
The paths a request asks for, each with the class it is on: those of the simplified filter, of the
sort but for names of groups, of relations and of the accumulators over them, and those of the
requests for relations.
-/
inductive Asks (g : Gate) :
    (className : String) → FindOptions → (asked : String) → (path : String) → Prop where
  | filter {className : String} {options : FindOptions} {filter : Filter} {path : String} :
    g.readFilter options.filter = .ok filter → path ∈ filter.keyPaths →
      Asks g className options className path
  | sort {className : String} {options : FindOptions} {raw : Json} {sort : SortSpec}
      {path : String} :
    options.sort = some raw → SortSpec.decode raw = .ok sort → path ∈ sort.keyPaths →
      Text.opensWith path "$" = false → Asks g className options className path
  | grouped {className : String} {options : FindOptions} {relation : String} {groups : Table Json} :
    (relation, groups) ∈ options.groups → Asks g className options className relation
  | group {className : String} {options : FindOptions} {relation name target path : String}
    {foreign : Option String} {groups : Table Json} {raw : Json} {accumulator : Accumulator} :
    (relation, groups) ∈ options.groups → (name, raw) ∈ groups →
      g.schema.typeAt className relation = .ok (some (.relation target foreign)) →
      Accumulator.decode raw = .ok accumulator → path ∈ accumulator.keyPaths →
        Asks g className options target path
  | related {className : String} {options nested : FindOptions} {relation : String} :
    (relation, nested) ∈ options.nested → Asks g className options className relation
  | nested {className : String} {options nested : FindOptions} {relation target asked path : String}
    {foreign : Option String} :
    (relation, nested) ∈ options.nested →
      g.schema.typeAt className relation = .ok (some (.relation target foreign)) →
      Asks g target nested asked path → Asks g className options asked path

/-- The relation of an entry leads to the class the entry was read on. -/
private theorem target_unique {className path target other : String} {foreign : Option String}
    (h : g.relationTarget className path = .ok other)
    (ht : g.schema.typeAt className path = .ok (some (.relation target foreign))) :
    other = target := by
  obtain ⟨_, ⟨_, hother⟩, _⟩ := relationTarget_ok h
  cases hother.symm.trans ht
  rfl

private theorem acceptNested_mem {className : String} {entries : List (String × FindOptions)}
    {table : Table BaseQuery} (h : g.acceptNested className entries = .ok table)
    {relation : String} {nested : FindOptions} (hmem : (relation, nested) ∈ entries) :
    ∃ target base, g.relationTarget className relation = .ok target ∧
      g.acceptBase target nested = .ok base := by
  have hall := acceptNested_ok h
  clear h
  induction hall with
  | nil => cases hmem
  | cons hentry _ ih =>
    rcases List.mem_cons.mp hmem with rfl | hmem
    · obtain ⟨-, target, htarget, hbase⟩ := hentry
      exact ⟨target, _, htarget, hbase⟩
    · exact ih hmem

/-- Every path an admitted request asks for has been admitted, by induction on the request. -/
theorem authorizePath_of_asks {className asked path : String} {options : FindOptions}
    (hasks : g.Asks className options asked path) {base : BaseQuery}
    (h : g.acceptBase className options = .ok base) : g.authorizePath asked path = .ok () := by
  induction hasks generalizing base with
  | filter hfilter hpath =>
    obtain ⟨hread, hpaths⟩ := acceptFilter_ok (acceptBase_ok h).1
    cases hread.symm.trans hfilter
    exact hpaths _ hpath
  | sort hsome hsort hpath hdollar =>
    rcases acceptSort_ok (acceptBase_ok h).2.2.1 with ⟨hnone, -⟩ | ⟨_, _, hraw, hspec, -, hkeys⟩
    · cases hnone.symm.trans hsome
    · cases hraw.symm.trans hsome
      cases hspec.symm.trans hsort
      have hkey := hkeys _ hpath
      rwa [authorizeSortKey, hdollar] at hkey
  | grouped hmem =>
    obtain ⟨_, hgroups⟩ := Result.exists_of_mem_of_mapM_eq_ok (acceptBase_ok h).2.1 _ hmem
    obtain ⟨-, target, htarget, -⟩ := acceptGroups_ok hgroups
    exact (relationTarget_ok htarget).1
  | group hmem hname htype hread hpath =>
    obtain ⟨_, hgroups⟩ := Result.exists_of_mem_of_mapM_eq_ok (acceptBase_ok h).2.1 _ hmem
    obtain ⟨-, target, htarget, htable⟩ := acceptGroups_ok hgroups
    obtain rfl := target_unique htarget htype
    obtain ⟨_, hgroup⟩ := Result.exists_of_mem_of_mapM_eq_ok htable _ hname
    obtain ⟨-, hdecode, hpaths⟩ := acceptGroup_ok hgroup
    cases hdecode.symm.trans hread
    exact hpaths _ hpath
  | related hmem =>
    obtain ⟨_, _, htarget, -⟩ := acceptNested_mem (acceptBase_ok h).2.2.2.1 hmem
    exact (relationTarget_ok htarget).1
  | nested hmem htype _ ih =>
    obtain ⟨_, _, htarget, hbase⟩ := acceptNested_mem (acceptBase_ok h).2.2.2.1 hmem
    obtain rfl := target_unique htarget htype
    exact ih hbase

/-- Every path an admitted query reads has been admitted. -/
theorem authorizePath_of_accept {className asked path : String} {options : FindOptions}
    {action : QueryAction} {q : Query} (h : g.accept className options action = .ok q)
    (hpath : g.Asks className options asked path ∨ asked = className ∧ path ∈ q.includes) :
    g.authorizePath asked path = .ok () := by
  obtain ⟨_, _, base, includes, _, _, _, _, hbase, _, hincludes, _, rfl⟩ := accept_ok h
  rcases hpath with hasks | ⟨rfl, hmem⟩
  · exact authorizePath_of_asks hasks hbase
  · exact authorizePaths_ok.mp hincludes _ hmem

/--
Whatever path an admitted query reads, it leads somewhere, and every field it crosses may be read
and every class it enters is open to `find`, unless a reference inside a shape was passed before.
This is all that is asked of a path: it is admitted exactly if what it visits outside of the reach
of such references is permitted.
-/
theorem accept_permits {className : String} {options : FindOptions} {action : QueryAction}
    {q : Query} (h : g.accept className options action = .ok q) :
    (∀ asked path, g.Asks className options asked path ∨ asked = className ∧ path ∈ q.includes →
      ∃ segments, Path.parse path = .ok segments ∧
        (∃ ty, g.schema.typeOf asked segments = .ok ty) ∧
        (∀ visited left behindShape, g.schema.Visits asked segments visited left behindShape →
          behindShape = true ∨ g.MayRead visited left) ∧
        ∀ entered behindShape, g.schema.Enters asked segments entered behindShape →
          behindShape = true ∨ g.MayEnter entered) ∧
      ∀ asked path, g.authorizePath asked path = .ok () ↔
        ∃ segments, Path.parse path = .ok segments ∧ g.Permits asked segments := by
  refine ⟨fun asked path hpath => ?_, fun asked path => authorizePath_iff⟩
  obtain ⟨segments, hparse, hleads, hreads, henters⟩ :=
    authorizePath_iff.mp (authorizePath_of_accept h hpath)
  refine ⟨segments, hparse, hleads, fun visited left behind hv => ?_, fun entered behind he => ?_⟩
  · cases behind with
    | true => exact .inl rfl
    | false => exact .inr (hreads visited left hv)
  · cases behind with
    | true => exact .inl rfl
    | false => exact .inr (henters entered he)

/-- An anonymous caller before a schema. -/
def reader (schema : Schema) : Gate where
  schema := schema
  auth := .anonymous
  extraFilter := none
  maxDepth := 8
  now := ⟨0, 0⟩

/-- The ids of the documents where a path has the value `x`. -/
def documentsWhere (path : String) : FindOptions where
  filter := some (.obj [(path, .str "x")])
  includes := ["_id"]

/-- Documents with an owner, whose name is open to everyone. -/
def ownedDocs : Json :=
  .obj [
    ("Doc", .obj [("fields", .obj [
      ("owner", .obj [("type", .str "pointer"), ("target", .str "User")])])]),
    ("User", .obj [("fields", .obj [("name", .str "string")])])]

/-- The documents and their owners as a schema. -/
def ownedSchema : Schema where
  classes := [
    ("Doc", {
      fields := Field.defaults.foldl (fun t f => t.insert f.1 f.2) [("owner", .pointer "User")] }),
    ("User", {
      fields := Field.defaults.foldl (fun t f => t.insert f.1 f.2)
        [("name", .primitive .string none)] })]

/-- Documents are asked for by the names of their owners, so users are open to `find`. -/
theorem accept_permits_of_owned :
    Schema.ofJson ownedDocs = .ok (reader ownedSchema).schema ∧
      (∃ q, (reader ownedSchema).accept "Doc" (documentsWhere "owner.name") .find = .ok q) ∧
      (reader ownedSchema).MayEnter "User" := by
  obtain ⟨q, hq⟩ := Result.exists_of_toBool (show
    ((reader ownedSchema).accept "Doc" (documentsWhere "owner.name") .find).toBool = true by
      decide +kernel)
  have hread : (reader ownedSchema).readFilter (documentsWhere "owner.name").filter =
      .ok (.field "owner.name" (.compare .eq (.str "x"))) := rfl
  have hasks : (reader ownedSchema).Asks "Doc" (documentsWhere "owner.name") "Doc" "owner.name" :=
    .filter hread (by decide)
  obtain ⟨segments, hparse, -, -, henters⟩ := (accept_permits hq).1 _ _ (.inl hasks)
  have hsegments : Path.parse "owner.name" = .ok [.field "owner", .field "name"] := rfl
  cases hparse.symm.trans hsegments
  have hpassage : ownedSchema.passage? "Doc" [.field "owner", .field "name"] =
      some ⟨"User", [.field "name"], false⟩ := rfl
  refine ⟨by rfl, ⟨q, hq⟩, (henters "User" false ?_).resolve_left (by decide)⟩
  exact Schema.enters_iff.mpr ⟨_, hpassage, .inl ⟨rfl, rfl⟩⟩

/-- Documents with an owner inside a shape; users are closed and their secret is secure. -/
def ownedInside : Json :=
  .obj [
    ("Doc", .obj [("fields", .obj [
      ("info", .obj [("type", .str "shape"), ("shape", .obj [
        ("owner", .obj [("type", .str "pointer"), ("target", .str "User")])])])])]),
    ("User", .obj [
      ("fields", .obj [("secret", .str "string")]),
      ("classLevelPermissions", .obj [("find", .arr [])]),
      ("secureFields", .arr [.str "secret"])])]

/-- The documents with an owner inside a shape, and the users, as a schema. -/
def ownedInsideSchema : Schema where
  classes := [
    ("Doc", {
      fields := Field.defaults.foldl (fun t f => t.insert f.1 f.2)
        [("info", .shape [("owner", .pointer "User")])] }),
    ("User", {
      fields := Field.defaults.foldl (fun t f => t.insert f.1 f.2)
        [("secret", .primitive .string none)]
      permissions := { find := some [] }
      secureFields := ["secret"] })]

/-- The secret of the owner inside the shape is read all the same. -/
theorem accept_reads_behind_shape :
    let gate := reader ownedInsideSchema
    let options := documentsWhere "info.owner.secret"
    Schema.ofJson ownedInside = .ok gate.schema ∧
      (∃ q, gate.accept "Doc" options .find = .ok q) ∧
      gate.Asks "Doc" options "Doc" "info.owner.secret" ∧
      ∃ segments, Path.parse "info.owner.secret" = .ok segments ∧
        gate.schema.Visits "Doc" segments "User" [.field "secret"] true ∧
        gate.schema.Enters "Doc" segments "User" true ∧
        ¬ gate.MayRead "User" [.field "secret"] ∧ ¬ gate.MayEnter "User" := by
  intro gate options
  have hpassage : gate.schema.passage? "Doc" [.field "info", .field "owner", .field "secret"] =
      some ⟨"User", [.field "secret"], true⟩ := rfl
  have hread : gate.readFilter options.filter =
      .ok (.field "info.owner.secret" (.compare .eq (.str "x"))) := rfl
  refine ⟨by rfl, Result.exists_of_toBool (by decide +kernel), .filter hread (by decide),
    [.field "info", .field "owner", .field "secret"], rfl, .pass hpassage (.start _ _),
    Schema.enters_iff.mpr ⟨_, hpassage, .inl ⟨rfl, rfl⟩⟩, ?_, ?_⟩
  · rintro ⟨c, field, rest, hc, hsegments, -, hread⟩
    cases hsegments
    cases hc
    exact absurd hread (by decide)
  · rintro ⟨c, hc, hallows⟩
    cases hc
    exact absurd hallows (by decide)

end ObjectQuery.Gate
