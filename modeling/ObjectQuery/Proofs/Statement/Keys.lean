import ObjectQuery.Proofs.Statement.Groups
import ObjectQuery.Proofs.Statement.Plan

/-!
# Keys of what a statement returns

The documents of a plan come back under dotted keys, and a row is put together from them again. The
columns of a class, the fields of its references and its groups start differently, so no key is a
part of another one, and the names of a key lead a row to the type that its document was written by.
The same holds inside the members of a relation, which are rows of their own.
-/

namespace ObjectQuery

open Row (Separate)
open InScope (Gives)

/-! ## What keys stand for -/

/-- The members of a relation as an array of objects. -/
def arrayOf (members : Entries) (source condition tail : Sql) : Sql :=
  .seq ["to_jsonb(ARRAY(", .block (Sql.select (Sql.object members) source condition tail), "))"]

namespace Plan

mutual

/-- A plan returns a value of a type under a key, in the form the fragment writes it. -/
inductive Emits (s : Schema) : Plan → String → FieldType → Sql → Prop
  | column {plan : Plan} {name : String} {ty : FieldType} (label : String)
      (listed : (name, ty) ∈ plan.columns) :
      Emits s plan name ty (ty.project (.column label name))
  | pointer {plan child : Plan} {field key : String} {ty : FieldType} {sql : Sql}
      (below : child ∈ plan.children) (reach : child.reach = .pointer field)
      (behind : Emits s child key ty sql) : Emits s plan (field ++ "." ++ key) ty sql
  | relation {plan child : Plan} {field : String} {foreign : Option String} {members : Entries}
      {source condition tail : Sql} (below : child ∈ plan.children)
      (reach : child.reach = .relation field foreign) (apart : members.Apart)
      (entries : ∀ e ∈ members, Names s child e.1 e.2) :
      Emits s plan field (.relation child.target.className foreign)
        (arrayOf members source condition tail)

/--
What a key of a plan names: a value of the type that its names lead a row to, or one of the plan's
groups. The key of a group starts with a dollar sign, and no other key does.
-/
inductive Names (s : Schema) : Plan → String → Sql → Prop
  | value {plan : Plan} {key : String} {ty : FieldType} {sql : Sql}
      (plain : Row.isGroupKey key = false)
      (leads : Row.typeAt s plan.target.className (Text.split '.' key) = .ok ty)
      (emitted : Emits s plan key ty sql) : Names s plan key sql
  | group {plan : Plan} {relation name : String} {named : Table Accumulator}
      {accumulator : Accumulator} {sql : Sql}
      (marked : Row.isGroupKey (keyOfGroup relation name) = true)
      (asked : (relation, named) ∈ plan.query.groups) (listed : (name, accumulator) ∈ named) :
      Names s plan (keyOfGroup relation name) sql

end

/-- Entries under keys apart, each of which names something of the plan. -/
structure Describes (s : Schema) (plan : Plan) (entries : Entries) : Prop where
  apart : entries.Apart
  names : ∀ e ∈ entries, Names s plan e.1 e.2

end Plan

/-! ## Columns -/

variable {s : Schema}

/-- Names that lead through shapes lead a row to the same type. -/
theorem Row.typeBelow_of_below? {above : String} {ty leaf : FieldType} {names : List String}
    (h : ty.below? names = some leaf) : Row.typeBelow s above ty names = .ok leaf := by
  induction names generalizing above ty with
  | nil =>
    rw [FieldType.below?_nil, Option.some.injEq] at h
    rw [h, Row.typeBelow]
  | cons name rest ih =>
    cases ty with
    | shape fields =>
      obtain ⟨member, hfound, hbelow⟩ := FieldType.below?_shape.mp h
      rw [Row.typeBelow, hfound]
      exact ih hbelow
    | primitive | vector | pointer | relation => cases h

/-- The first name of a key with a dollar sign in front has it in front. -/
theorem split_of_isGroupKey {key : String} (h : Row.isGroupKey key = true) :
    ∃ first rest, Text.split '.' key = first :: rest ∧ Row.isGroupKey first = true := by
  have hdollar : "$".toList = ['$'] := rfl
  rw [Row.isGroupKey, Text.opensWith, hdollar, List.isPrefixOf_iff_prefix] at h
  obtain ⟨behind, hbehind⟩ := h
  have hkey : key = String.singleton '$' ++ String.ofList behind := by
    apply String.toList_injective
    rw [← hbehind]
    simp [String.toList_append]
  obtain ⟨first, rest, -, hpushed⟩ := Text.split_push (c := '$') (by decide) (String.ofList behind)
  refine ⟨_, rest, hkey ▸ hpushed, ?_⟩
  simp [Row.isGroupKey, Text.opensWith, String.toList_append]

namespace Plan

variable {c : Class} {plan child : Plan}

/-- A plan returns a value under a key, whose names lead a row to the value's type. -/
def Returns (s : Schema) (plan : Plan) (e : String × Sql) : Prop :=
  ∃ ty, Row.typeAt s plan.target.className (Text.split '.' e.1) = .ok ty ∧ Emits s plan e.1 ty e.2

theorem isGroupKey_of_returns (hs : s.Accepted) {e : String × Sql} (h : Returns s plan e) :
    Row.isGroupKey e.1 = false := by
  obtain ⟨ty, hty, -⟩ := h
  by_contra hmarked
  obtain ⟨first, rest, hsplit, hfirst⟩ := split_of_isGroupKey (Bool.not_eq_false _ ▸ hmarked)
  rw [hsplit] at hty
  exact Bool.false_ne_true ((Row.isGroupKey_of_typeAt hs hty).symm.trans hfirst)

theorem IsColumn.below? {column : String × FieldType} (h : IsColumn c column) :
    c.below? (Text.split '.' column.1) = some column.2 := by
  obtain ⟨field, rest, ty, hsplit, hf, -, hbelow, -⟩ := h
  exact Class.below?_eq_some.mpr ⟨field, rest, ty, hsplit, hf, hbelow⟩

/-- Columns of different names are apart. -/
theorem separate_columns {a b : String × FieldType} (ha : IsColumn c a) (hb : IsColumn c b)
    (hne : a.1 ≠ b.1) : Separate (Text.split '.' a.1) (Text.split '.' b.1) := by
  have hhalf : ∀ {a b : String × FieldType}, IsColumn c a → IsColumn c b → a.1 ≠ b.1 →
      ¬ Text.split '.' a.1 <+: Text.split '.' b.1 := by
    rintro a b ha hb hne ⟨more, hmore⟩
    have hshape : a.2.isShape = false := by
      obtain ⟨_, _, _, _, _, _, _, hshape⟩ := ha
      exact hshape
    have hbelow := hb.below?
    rw [← hmore] at hbelow
    obtain ⟨rfl, -⟩ := Class.below?_append_of_not_shape ha.below? hshape hbelow
    rw [List.append_nil] at hmore
    exact hne (Text.split_injective hmore)
  exact ⟨hhalf ha hb hne, hhalf hb ha hne.symm⟩

/-- The columns of a plan are apart, and each is returned under its own name. -/
theorem columnEntries_returns (hc : s.class? plan.target.className = some c)
    (hcolumns : ∀ column ∈ plan.columns, IsColumn c column)
    (honce : (plan.columns.map (·.1)).Nodup) (owner : Target) :
    (Context.columnEntries owner "" plan.columns).Apart ∧
      ∀ e ∈ Context.columnEntries owner "" plan.columns, Returns s plan e ∧
        ∃ field rest ty, Text.split '.' e.1 = field :: rest ∧ c.field? field = some ty ∧
          ty.isReference = false := by
  constructor
  · refine List.pairwise_map.mpr ((List.pairwise_map.mp honce).imp_of_mem fun ha hb hne => ?_)
    simpa using separate_columns (hcolumns _ ha) (hcolumns _ hb) hne
  · intro e he
    obtain ⟨⟨name, leaf⟩, hlisted, rfl⟩ := List.mem_map.mp he
    obtain ⟨field, rest, ty, hsplit, hf, hplain, hbelow, -⟩ := hcolumns _ hlisted
    have hname : "" ++ name = name := String.empty_append
    dsimp only at hsplit ⊢
    rw [hname]
    refine ⟨⟨leaf, ?_, .column owner.label hlisted⟩, field, rest, ty, hsplit, hf, hplain⟩
    rw [hsplit]
    exact Row.typeAt_eq_ok.mpr ⟨c, hc, ty, hf, Row.typeBelow_of_below? hbelow⟩

/-! ## References -/

/-- A reference returns a value to the plan above it, under a key that starts with its field. -/
def Contributes (s : Schema) (child : Plan) (e : String × Sql) : Prop :=
  ∃ rest ty, Text.split '.' e.1 = child.reach.field :: rest ∧
    (∀ above : Plan, child ∈ above.children → Emits s above e.1 ty e.2) ∧
    ∀ fieldType, reachOf child.reach.field fieldType = some (child.reach, child.target.className) →
      Row.typeBelow s child.reach.field fieldType rest = .ok ty

/-- A plan below another: it fits, asks for groups of its own only in a relation, and is reached
through an identifier. -/
structure Stands (s : Schema) (child : Plan) : Prop where
  fits : child.Fits s
  grouped : child.query.Grouped
  groups : ∀ field, child.reach = .pointer field → child.query.groups = []
  name : Schema.isName child.reach.field = true

theorem Fits.stands (hs : s.Accepted) (h : plan.Fits s) (hgrouped : plan.query.Grouped) :
    ∀ child ∈ plan.children, Stands s child := by
  obtain ⟨hc, -, -, hchildren, -, hqueries, hbelow⟩ := h
  intro child hchild
  obtain ⟨ty, hf, -⟩ := Option.bind_eq_some_iff.mp (hchildren child hchild)
  refine ⟨hbelow child hchild, ?_, fun field hreach => ?_, (hs.wellTyped hc hf).1⟩
  · rw [hqueries child hchild]
    exact hgrouped.queryOf child.reach
  · rw [hqueries child hchild, hreach]
    rfl

theorem Fits.childrenOnce (h : plan.Fits s) : (plan.children.map (·.reach.field)).Nodup := by
  obtain ⟨-, -, -, -, honce, -, -⟩ := h
  exact honce

/-- What a reference returns is returned by the plan above it. -/
theorem Contributes.returns (hc : s.class? plan.target.className = some c)
    (hchild : child ∈ plan.children)
    (hreference : (c.field? child.reach.field).bind (reachOf child.reach.field) =
      some (child.reach, child.target.className)) {e : String × Sql} (h : Contributes s child e) :
    Returns s plan e := by
  obtain ⟨rest, ty, hsplit, hemits, hleads⟩ := h
  obtain ⟨fieldType, hf, hreach⟩ := Option.bind_eq_some_iff.mp hreference
  refine ⟨ty, ?_, hemits plan hchild⟩
  rw [hsplit]
  exact Row.typeAt_eq_ok.mpr ⟨c, hc, fieldType, hf, hleads fieldType hreach⟩

/-- What a plan returns: its columns and what its references return, all apart. -/
theorem Fits.returns_append (h : plan.Fits s) {own : Entries} (hown : own.Apart)
    (hbelow : ∀ e ∈ own, ∃ child ∈ plan.children, Contributes s child e) (owner : Target) :
    (Context.columnEntries owner "" plan.columns ++ own).Apart ∧
      ∀ e ∈ Context.columnEntries owner "" plan.columns ++ own, Returns s plan e := by
  obtain ⟨hc, hcolumns, honce, hchildren, -, -, -⟩ := h
  obtain ⟨hapart, hreturns⟩ := columnEntries_returns hc hcolumns honce owner
  constructor
  · refine List.pairwise_append.mpr ⟨hapart, hown, fun a ha b hb => ?_⟩
    obtain ⟨-, field, _, ty, hsplit, hf, hplain⟩ := hreturns a ha
    obtain ⟨child, hchild, _, _, hsplit', -⟩ := hbelow b hb
    obtain ⟨fieldType, hf', hreach⟩ := Option.bind_eq_some_iff.mp (hchildren child hchild)
    rw [hsplit, hsplit']
    refine Row.separate_of_ne ?_
    rintro rfl
    obtain rfl := Option.some.inj (hf.symm.trans hf')
    cases ty with
    | pointer | relation => cases hplain
    | primitive | vector | shape => cases hreach
  · refine List.forall_mem_append.mpr ⟨fun e he => (hreturns e he).1, fun e he => ?_⟩
    obtain ⟨child, hchild, hcontributes⟩ := hbelow e he
    exact hcontributes.returns hc hchild (hchildren child hchild)

/-- Entries of a plan and groups of its query together describe it. -/
theorem describes_append (hs : s.Accepted) (hgrouped : plan.query.Grouped) {ctx : Context}
    {own groups : Entries} (hown : own.Apart) (hreturns : ∀ e ∈ own, Returns s plan e)
    (hgroups : Gives (ctx.groupEntries plan.target "" plan.query) groups) :
    Describes s plan (own ++ groups) := by
  obtain ⟨hapart, hnames⟩ := Context.groupEntries_apart hgrouped hgroups
  constructor
  · refine List.pairwise_append.mpr ⟨hown, hapart, fun a ha b hb => ?_⟩
    obtain ⟨group, -, named, -, hgroup⟩ := hnames b hb
    obtain ⟨first, rest, -, hsplit⟩ := split_keyOfGroup group.1 hgroup.name
    obtain ⟨ty, hty, -⟩ := hreturns a ha
    obtain ⟨c, hc, hleads⟩ := Row.typeAt_eq_ok.mp hty
    cases hfield : Text.split '.' a.1 with
    | nil =>
      rw [hfield] at hleads
      exact hleads.elim
    | cons field names =>
      rw [hgroup.key, hsplit]
      refine Row.separate_of_ne ?_
      rintro rfl
      have hplain := Row.isGroupKey_of_typeAt hs (hfield ▸ hty)
      simp [Row.isGroupKey, Text.opensWith, String.toList_append] at hplain
  · refine List.forall_mem_append.mpr ⟨fun e he => ?_, fun e he => ?_⟩
    · have hplain := isGroupKey_of_returns hs (hreturns e he)
      obtain ⟨ty, hty, hemits⟩ := hreturns e he
      exact .value hplain hty hemits
    · obtain ⟨⟨relation, named⟩, hasked, ⟨name, accumulator⟩, hlisted, hgroup⟩ := hnames e he
      rw [hgroup.key]
      exact .group (isGroupKey_keyOfGroup relation name) hasked hlisted

end Plan

/-! ## Entries below a lead -/

/-- Entries with a lead before their keys. -/
def Entries.under (lead : String) (entries : Entries) : Entries :=
  entries.map fun e => (lead ++ e.1, e.2)

namespace Entries

variable {entries : Entries}

theorem under_append (lead : String) (a b : Entries) :
    under lead (a ++ b) = under lead a ++ under lead b := List.map_append

theorem under_under (lead inside : String) (entries : Entries) :
    under lead (under inside entries) = under (lead ++ inside) entries := by
  simp [under, String.append_assoc]

theorem under_empty (entries : Entries) : under "" entries = entries := by
  simp [under]

/-- Behind an identifier entries are apart as they are without it. -/
theorem Apart.under {field : String} (hfield : Schema.isName field = true)
    (h : entries.Apart) : (Entries.under (field ++ ".") entries).Apart := by
  refine List.pairwise_map.mpr (h.imp fun hseparate => ?_)
  rw [Text.split_append, Text.split_append, Path.split_name hfield]
  exact hseparate.cons field

end Entries

namespace Context

open Plan

variable {ctx : Context} {owner : Target} {lead : String}

theorem columnEntries_under (columns : List (String × FieldType)) :
    columnEntries owner lead columns = (columnEntries owner "" columns).under lead := by
  simp [columnEntries, Entries.under]

/-- The entries of a node are its columns, then what is below it, then its groups. -/
theorem nodeEntries_gives {columns : List (String × FieldType)} {query : BaseQuery}
    {below : InScope Entries} {entries : Entries}
    (h : Gives (ctx.nodeEntries owner lead columns query below) entries) :
    ∃ inner groups, Gives below inner ∧ Gives (ctx.groupEntries owner lead query) groups ∧
      entries = columnEntries owner lead columns ++ inner ++ groups := by
  unfold nodeEntries at h
  obtain ⟨inner, hinner, h⟩ := h.of_bind
  obtain ⟨groups, hgroups, h⟩ := h.of_bind
  exact ⟨inner, groups, hinner, hgroups, h.of_pure.symm⟩

theorem groupEntries_nil {query : BaseQuery} (hquery : query.groups = []) {groups : Entries}
    (h : Gives (ctx.groupEntries owner lead query) groups) : groups = [] := by
  unfold groupEntries at h
  rw [hquery] at h
  obtain ⟨lists, hlists, h⟩ := h.of_bind
  obtain rfl := hlists.of_pure
  exact h.of_pure.symm

/-- The array of a relation is made of the entries of a member. -/
theorem relationArray_gives {field : String} {member : Target} {query : BaseQuery}
    {entries : InScope Entries} {sql : Sql}
    (h : Gives (ctx.relationArray owner field member query entries) sql) :
    ∃ members source condition tail, Gives entries members ∧
      sql = arrayOf members source condition tail := by
  unfold relationArray at h
  obtain ⟨⟨⟨members, condition, order⟩, inner⟩, hrun, h⟩ := h.of_bind
  obtain rfl := h.of_pure
  obtain ⟨found, hmembers, hrun⟩ := hrun.of_inNewScope.of_bind
  obtain ⟨_, -, hrun⟩ := hrun.of_bind
  obtain ⟨_, -, hrun⟩ := hrun.of_bind
  dsimp only at hrun
  split at hrun
  all_goals
    obtain ⟨_, -, hrun⟩ := hrun.of_bind
    cases hrun.of_pure
    exact ⟨members, _, _, _, hmembers, rfl⟩

mutual

/-- What is compiled for a reference is what it returns to the plan above it. -/
theorem childEntries_contributes {s : Schema} (hs : s.Accepted) :
    ∀ (child : Plan), Stands s child → ∀ {owner : Target} {lead : String} {entries : Entries},
      Gives (ctx.childEntries owner lead child) entries →
        ∃ own : Entries, entries = own.under lead ∧ own.Apart ∧ ∀ e ∈ own, Contributes s child e
  | ⟨node, .pointer field, columns, children, query⟩, hchild, owner, lead, entries, h => by
    unfold childEntries at h
    obtain ⟨target, -, h⟩ := h.of_bind
    obtain ⟨_, _, hinner, hgroups, rfl⟩ := nodeEntries_gives h
    obtain rfl := groupEntries_nil (hchild.groups field rfl) hgroups
    obtain ⟨own, rfl, hown, hbelow⟩ := allEntries_contributes hs children
      (hchild.fits.stands hs hchild.grouped) hchild.fits.childrenOnce hinner
    obtain ⟨hapart, hreturns⟩ := hchild.fits.returns_append hown hbelow target
    refine ⟨(columnEntries target "" columns ++ own).under (field ++ "."), ?_,
      hapart.under hchild.name, ?_⟩
    · rw [columnEntries_under, ← Entries.under_append, List.append_nil, Entries.under_under,
        String.append_assoc]
    · intro e he
      obtain ⟨⟨key, sql⟩, hmem, rfl⟩ := List.mem_map.mp he
      obtain ⟨ty, hty, hemits⟩ := hreturns _ hmem
      refine ⟨Text.split '.' key, ty, ?_, fun above habove => .pointer habove rfl hemits, ?_⟩
      · have hfield : Text.split '.' field = [field] := Path.split_name hchild.name
        rw [Text.split_append, hfield]
        rfl
      · intro fieldType hreach
        cases fieldType with
        | pointer target =>
          cases hreach
          cases hsplit : Text.split '.' key with
          | nil =>
            rw [hsplit] at hty
            cases hty
          | cons name rest =>
            rw [hsplit] at hty
            exact hty
        | primitive | vector | shape | relation => cases hreach
  | ⟨node, .relation field foreign, columns, children, query⟩, hchild, owner, lead, entries, h => by
    unfold childEntries at h
    obtain ⟨array, harray, h⟩ := h.of_bind
    obtain rfl := h.of_pure
    obtain ⟨members, source, condition, tail, hmembers, rfl⟩ := relationArray_gives harray
    obtain ⟨_, groups, hinner, hgroups, rfl⟩ := nodeEntries_gives hmembers
    obtain ⟨own, rfl, hown, hbelow⟩ := allEntries_contributes hs children
      (hchild.fits.stands hs hchild.grouped) hchild.fits.childrenOnce hinner
    rw [Entries.under_empty]
    obtain ⟨hapart, hreturns⟩ := hchild.fits.returns_append hown hbelow node
    obtain ⟨hmembersApart, hnames⟩ := describes_append hs hchild.grouped hapart hreturns hgroups
    refine ⟨[(field, arrayOf _ source condition tail)], rfl, List.pairwise_singleton _ _,
      List.forall_mem_singleton.mpr ⟨[], .relation node.className foreign,
        Path.split_name hchild.name,
        fun above habove => .relation habove rfl hmembersApart hnames, fun fieldType hreach => ?_⟩⟩
    cases fieldType with
    | relation target foreign =>
      cases hreach
      rfl
    | primitive | vector | shape | pointer => cases hreach
  | ⟨node, .root, columns, children, query⟩, _, owner, lead, entries, h => by
    unfold childEntries at h
    obtain rfl := h.of_pure
    exact ⟨[], rfl, .nil, nofun⟩

/-- What is compiled for the references of a plan is what they return, all apart. -/
theorem allEntries_contributes {s : Schema} (hs : s.Accepted) :
    ∀ (children : List Plan), (∀ child ∈ children, Stands s child) →
      (children.map (·.reach.field)).Nodup →
        ∀ {owner : Target} {lead : String} {entries : Entries},
          Gives (ctx.allEntries owner lead children) entries →
            ∃ own : Entries, entries = own.under lead ∧ own.Apart ∧
              ∀ e ∈ own, ∃ child ∈ children, Contributes s child e
  | [], _, _, owner, lead, entries, h => by
    unfold allEntries at h
    obtain rfl := h.of_pure
    exact ⟨[], rfl, .nil, nofun⟩
  | child :: rest, hall, honce, owner, lead, entries, h => by
    unfold allEntries at h
    obtain ⟨first, hfirst, h⟩ := h.of_bind
    obtain ⟨more, hmore, h⟩ := h.of_bind
    obtain rfl := h.of_pure
    obtain ⟨hchild, hrest⟩ := List.forall_mem_cons.mp hall
    obtain ⟨hnew, honce⟩ := List.nodup_cons.mp honce
    obtain ⟨own, rfl, hown, hcontributes⟩ := childEntries_contributes hs child hchild hfirst
    obtain ⟨others, rfl, hothers, hbelow⟩ := allEntries_contributes hs rest hrest honce hmore
    refine ⟨own ++ others, by rw [Entries.under_append], ?_, ?_⟩
    · refine List.pairwise_append.mpr ⟨hown, hothers, fun a ha b hb => ?_⟩
      obtain ⟨_, _, hsplit, -⟩ := hcontributes a ha
      obtain ⟨other, hother, _, _, hsplit', -⟩ := hbelow b hb
      rw [hsplit, hsplit']
      exact Row.separate_of_ne fun heq => hnew (List.mem_map.mpr ⟨other, hother, heq.symm⟩)
    · refine List.forall_mem_append.mpr ⟨fun e he => ?_, fun e he => ?_⟩
      · exact ⟨child, List.mem_cons_self, hcontributes e he⟩
      · obtain ⟨other, hother, hentry⟩ := hbelow e he
        exact ⟨other, List.mem_cons_of_mem _ hother, hentry⟩

end

/-- The entries of a plan describe it. -/
theorem entries_describes {s : Schema} (hs : s.Accepted) {plan : Plan} (hfits : plan.Fits s)
    (hgrouped : plan.query.Grouped) {entries : Entries} (h : Gives (ctx.entries plan) entries) :
    Describes s plan entries := by
  unfold Context.entries at h
  obtain ⟨_, groups, hinner, hgroups, rfl⟩ := nodeEntries_gives h
  obtain ⟨own, rfl, hown, hbelow⟩ := allEntries_contributes hs plan.children
    (hfits.stands hs hgrouped) hfits.childrenOnce hinner
  rw [Entries.under_empty]
  obtain ⟨hapart, hreturns⟩ := hfits.returns_append hown hbelow plan.target
  exact describes_append hs hgrouped hapart hreturns hgroups

end Context

namespace Plan

/--
The plan of some paths returns these paths and nothing else, a reference by the id behind it, and no
node lists a column or a reference twice. Whatever is compiled for it stands under keys of which none
is a part of another: those of groups are marked, any other leads a row to the type its value was
written by, and the members of a relation are described in the same way.
-/
theorem ofIncludes_describes {document : Json} {g : Gate}
    (hs : Schema.ofJson document = .ok g.schema) {className : String} {options : FindOptions}
    (hoptions : options.Ordered) {action : QueryAction} {q : Query}
    (hq : g.accept className options action = .ok q) {target : Target} {includes : List String}
    {plan : Plan} {n n' : Nat}
    (hplan : Compile.Runs (ofIncludes g.schema target includes q.base) n plan n') :
    (∀ leaf, leaf ∈ plan.leaves ↔
        ∃ path ∈ includes, leafOf g.schema target.className path = leaf) ∧
      plan.Fits g.schema ∧
      ∀ (ctx : Context) {scope scope' : Scope} {m m' : Nat} {entries : Entries},
        InScope.Runs (ctx.entries plan) scope m entries scope' m' →
          plan.Describes g.schema entries := by
  have haccepted := Schema.accepted_of_ofJson hs
  obtain ⟨hfits, -, hquery, hleaves⟩ :=
    ofIncludes_spec haccepted (Row.hasIds_of_ofJson hs) hplan
  have hgrouped : plan.query.Grouped := hquery ▸ BaseQuery.grouped_of_accept hoptions hq
  refine ⟨hleaves, hfits, fun ctx scope scope' m m' entries hrun => ?_⟩
  exact ctx.entries_describes haccepted hfits hgrouped ⟨_, _, _, _, hrun⟩

/-- Notes have a city in their address, an author, and comments of their own. -/
def commentedNotes : Json :=
  .obj [
    ("Comment", .obj [("fields", .obj [("text", .str "string")])]),
    ("Note", .obj [("fields", .obj [
      ("address", .obj [("type", .str "shape"), ("shape", .obj [("city", .str "string")])]),
      ("author", .obj [("type", .str "pointer"), ("target", .str "User")]),
      ("comments", .obj [("type", .str "relation"), ("target", .str "Comment")])])]),
    ("User", .obj [("fields", .obj [("name", .str "string")])])]

/-- Everyone's access to the notes. -/
def commentedGate : Gate where
  schema := { classes := [
    ("Comment", {
      fields := Field.defaults.foldl (fun t f => t.insert f.1 f.2)
        [("text", .primitive .string none)] }),
    ("Note", {
      fields := Field.defaults.foldl (fun t f => t.insert f.1 f.2)
        [("address", .shape [("city", .primitive .string none)]), ("author", .pointer "User"),
          ("comments", .relation "Comment" none)] }),
    ("User", {
      fields := Field.defaults.foldl (fun t f => t.insert f.1 f.2)
        [("name", .primitive .string none)] })] }
  auth := Auth.anonymous
  extraFilter := none
  maxDepth := 8
  now := ⟨0, 0⟩

/-- A request that counts the comments. -/
def countComments : Json :=
  .obj [("groupMatches", .obj [("comments", .obj [("total", .obj [("$count", .obj [])])])])]

/-- What is asked for. -/
def commentCount : FindOptions where
  groups := [("comments", [("total", .obj [("$count", .obj [])])])]

/-- The city of a note, its author, and the texts of its comments. -/
def notePaths : List String := ["address.city", "author", "comments.text"]

/-- The request is admitted, the paths are planned, and the plan is compiled. -/
def commentedEntries : Compile Entries := do
  let q ← (commentedGate.accept "Note" commentCount .find : Result Query)
  let plan ← ofIncludes commentedGate.schema (.root "Note") notePaths q.base
  let (entries, _) ← inNewScope ((Context.of commentedGate.schema q.extraFilter).entries plan)
  return entries

/-- The author comes back by its id, the comments as rows, their number under a key that is marked. -/
theorem ofIncludes_describes_of_commentedNotes :
    ∃ q plan n entries scope m,
      Schema.ofJson commentedNotes = .ok commentedGate.schema ∧ commentCount.Ordered ∧
      commentedGate.accept "Note" commentCount .find = .ok q ∧
      Compile.Runs (ofIncludes commentedGate.schema (.root "Note") notePaths q.base) 0 plan n ∧
      InScope.Runs ((Context.of commentedGate.schema q.extraFilter).entries plan) [] n entries
        scope m ∧
      entries.map (·.1) = ["address.city", "author._id", "comments", "$comments.total"] ∧
      "author._id" ∈ plan.leaves ∧ plan.Fits commentedGate.schema ∧
      plan.Describes commentedGate.schema entries := by
  have hschema : Schema.ofJson commentedNotes = .ok commentedGate.schema := by rfl
  have hread : FindOptions.ofJson countComments = .ok commentCount := by rfl
  have hordered : commentCount.Ordered := FindOptions.ordered_of_ofJson hread
  obtain ⟨entries, m, hrun, hkeys⟩ := Compile.exists_runs_of_any (x := commentedEntries) (n := 0)
    (p := fun entries => entries.map (·.1) =
      ["address.city", "author._id", "comments", "$comments.total"]) (by decide +kernel)
  obtain ⟨q, _, haccept, hrun⟩ := Compile.runs_bind.mp hrun
  obtain ⟨hq, rfl⟩ := Compile.runs_lift.mp haccept
  obtain ⟨plan, n, hplan, hrun⟩ := Compile.runs_bind.mp hrun
  obtain ⟨⟨found, scope⟩, _, hentries, hrun⟩ := Compile.runs_bind.mp hrun
  obtain ⟨rfl, rfl⟩ := Compile.runs_pure.mp hrun
  have hentries := Compile.runs_inNewScope.mp hentries
  obtain ⟨hleaves, hfits, hdescribes⟩ := ofIncludes_describes hschema hordered hq hplan
  refine ⟨q, plan, n, found, scope, _, hschema, hordered, hq, hplan, hentries,
    of_decide_eq_true hkeys, (hleaves "author._id").mpr ⟨"author", by decide, rfl⟩, hfits,
    hdescribes _ hentries⟩

end Plan

end ObjectQuery
