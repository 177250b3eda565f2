import ObjectQuery.Proofs.Access.Admission
import ObjectQuery.Proofs.Json
import ObjectQuery.Proofs.Schema.Accepted
import ObjectQuery.Statement.Populate

/-!
# Names of groups

A request names its groups by a relation and a name, in tables that are in order when it has been
read. Admission keeps the tables and refuses a name with a dot, so in an admitted query, and in every
query for a relation below it, two groups never have the same relation and the same name.
-/

namespace ObjectQuery

/-- The tables of groups are in order, here and in the options for relations. -/
inductive FindOptions.Ordered : FindOptions → Prop
  | intro {o : FindOptions} (relations : Table.Ordered o.groups)
      (named : ∀ group ∈ o.groups, Table.Ordered group.2)
      (nested : ∀ entry ∈ o.nested, FindOptions.Ordered entry.2) : FindOptions.Ordered o

/-- Groups are in order under names of groups, here and in the queries for relations. -/
inductive BaseQuery.Grouped : BaseQuery → Prop
  | intro {q : BaseQuery} (relations : Table.Ordered q.groups)
      (named : ∀ group ∈ q.groups, Table.Ordered group.2 ∧
        ∀ entry ∈ group.2, Gate.isGroupName entry.1 = true)
      (nested : ∀ entry ∈ q.nested, BaseQuery.Grouped entry.2) : BaseQuery.Grouped q

/-! ## Requests that were read -/

namespace FindOptions

variable {o o' : FindOptions}

theorem ordered_empty : Ordered {} := ⟨Table.ordered_nil, nofun, nofun⟩

/-- Options with the same groups and nested options are ordered alike. -/
theorem Ordered.congr (h : o.Ordered) (hgroups : o'.groups = o.groups)
    (hnested : o'.nested = o.nested) : o'.Ordered := by
  obtain ⟨hrelations, hnamed, hbelow⟩ := h
  exact ⟨hgroups ▸ hrelations, hgroups ▸ hnamed, hnested ▸ hbelow⟩

/-- To store a member leaves the tables in order. -/
theorem Ordered.set (h : o.Ordered) {name : String} {v : Json} (hset : o.set name v = .ok o') :
    o'.Ordered := by
  unfold FindOptions.set at hset
  split at hset
  case h_5 =>
    obtain ⟨groups, hgroups, rfl⟩ := Document.map_eq_ok.mp hset
    have htable := Document.table_ok (P := Table.Ordered)
      (fun _ _ hread => (Document.table_ok (P := fun _ => True) (fun _ _ _ => trivial) hread).1)
      hgroups
    obtain ⟨-, -, hbelow⟩ := h
    exact ⟨htable.1, htable.2, hbelow⟩
  case h_4 => cases hset
  case h_9 =>
    cases hset
    exact h
  all_goals
    obtain ⟨_, -, rfl⟩ := Document.map_eq_ok.mp hset
    exact h.congr rfl rfl

/-- Whatever options are read from a value are in order, and so are those read from its members. -/
def ReadsOrdered (raw : Json) : Prop :=
  (∀ o, decode raw = .ok o → o.Ordered) ∧
    ∀ entries (table nested : Table FindOptions), raw = .obj entries →
      (∀ entry ∈ table, entry.2.Ordered) → decodeNested table entries = .ok nested →
        ∀ entry ∈ nested, entry.2.Ordered

namespace ReadsOrdered

/-- Nested options read from a document are ordered when each of them is. -/
theorem nested {entries : List (String × Json)} (ih : ∀ m ∈ entries, ReadsOrdered m.2)
    {table result : Table FindOptions} (htable : ∀ entry ∈ table, entry.2.Ordered)
    (h : decodeNested table entries = .ok result) : ∀ entry ∈ result, entry.2.Ordered := by
  induction entries generalizing table with
  | nil =>
    cases h
    exact htable
  | cons m rest ihrest =>
    obtain ⟨hm, hrest⟩ := List.forall_mem_cons.mp ih
    rw [decodeNested] at h
    split at h
    · next o ho =>
      refine ihrest hrest (fun entry hentry => ?_) h
      rcases Table.of_mem_insert hentry with rfl | hentry
      · exact hm.1 o ho
      · exact htable entry hentry
    · cases h

/-- One member of an options document keeps the options ordered. -/
theorem member (ho : o.Ordered) {name : String} {v : Json} (ih : ReadsOrdered v)
    (h : decodeMember o name v = .ok o') : o'.Ordered := by
  cases v with
  | obj entries =>
    rw [decodeMember] at h
    split at h
    · obtain ⟨nested, hnested, rfl⟩ := Document.map_eq_ok.mp h
      obtain ⟨hrelations, hnamed, -⟩ := ho
      exact ⟨hrelations, hnamed, ih.2 entries [] nested rfl nofun hnested⟩
    · exact ho.set h
  | null | bool _ | num _ | str _ | arr _ => exact ho.set h

/-- All members of an options document, read in turn, keep the options ordered. -/
theorem members {members : List (String × Json)} (ih : ∀ m ∈ members, ReadsOrdered m.2)
    (ho : o.Ordered) (h : decodeMembers o members = .ok o') : o'.Ordered := by
  induction members generalizing o with
  | nil =>
    cases h
    exact ho
  | cons m rest ihrest =>
    obtain ⟨hm, hrest⟩ := List.forall_mem_cons.mp ih
    rw [decodeMembers] at h
    split at h
    · next mid hmid => exact ihrest hrest (hm.member ho hmid) h
    · cases h

/-- Options written as an array are ordered, item by item. -/
theorem items {items : List Json} (ih : ∀ x ∈ items, ReadsOrdered x) {names : List String}
    (ho : o.Ordered) (h : decodeItems o names items = .ok o') : o'.Ordered := by
  induction items generalizing o names with
  | nil =>
    rw [decodeItems] at h
    cases h
    exact ho
  | cons x rest ihrest =>
    obtain ⟨hx, hrest⟩ := List.forall_mem_cons.mp ih
    cases names with
    | nil => cases h
    | cons name names =>
      rw [decodeItems] at h
      split at h
      · next mid hmid => exact ihrest hrest (hx.member ho hmid) h
      · cases h

end ReadsOrdered

/-- Whatever options are read from, they are ordered. -/
theorem readsOrdered (raw : Json) : ReadsOrdered raw := by
  induction raw using Json.nested_induction with
  | null | bool _ | num _ | str _ =>
    constructor
    · intro o h
      cases h
    · intro entries table nested hraw
      cases hraw
  | arr items ih =>
    constructor
    · intro o h
      rw [decode] at h
      exact ReadsOrdered.items ih ordered_empty h
    · intro entries table nested hraw
      cases hraw
  | obj members ih =>
    constructor
    · intro o h
      rw [decode] at h
      exact ReadsOrdered.members ih ordered_empty h
    · intro entries table nested hraw htable h
      cases hraw
      exact ReadsOrdered.nested ih htable h

/-- A request that was read has its tables in order. -/
theorem ordered_of_ofJson {request : Json} (h : ofJson request = .ok o) : o.Ordered := by
  unfold ofJson Document.run at h
  split at h
  · next hread =>
    cases h
    exact (readsOrdered request).1 o hread
  · cases h

end FindOptions

/-! ## Admitted queries -/

/-- An accepted group keeps its name, which is that of a group. -/
theorem Gate.isGroupName_of_acceptGroup {g : Gate} {target : String} {group : String × Json}
    {accepted : String × Accumulator} (h : g.acceptGroup target group = .ok accepted) :
    accepted.1 = group.1 ∧ isGroupName accepted.1 = true := by
  have hname := (acceptGroup_ok h).1
  unfold acceptGroup at h
  obtain ⟨hgroup, -⟩ := Result.refuse_eq_ok.mp h
  rw [hname]
  exact ⟨rfl, by simpa using hgroup⟩

/-- What a loop over a table makes of its entries is in order if it keeps their names. -/
theorem Table.Ordered.of_mapM {α β : Type} {table : Table α} {other : Table β} (h : table.Ordered)
    {f : String × α → Result (String × β)} (hf : ∀ a b, f a = .ok b → b.1 = a.1)
    (hloop : table.mapM f = .ok other) : other.Ordered := by
  refine h.of_names ?_
  have hall := Result.mapM_eq_ok.mp hloop
  clear h hloop
  induction hall with
  | nil => rfl
  | cons hfirst _ ih => rw [List.map_cons, List.map_cons, hf _ _ hfirst, ih]

namespace BaseQuery

theorem grouped_empty : Grouped {} := ⟨Table.ordered_nil, nofun, nofun⟩

/-- An accepted query lists its groups in the order of its options. -/
theorem grouped_of_acceptBase {g : Gate} {className : String} {options : FindOptions}
    {base : BaseQuery} (hoptions : options.Ordered)
    (h : g.acceptBase className options = .ok base) : base.Grouped := by
  induction hoptions generalizing className base with
  | intro hrelations hnamed _ ih =>
    obtain ⟨-, hgroups, -, hnested, -, -⟩ := Gate.acceptBase_ok h
    have hkeeps : ∀ a b, g.acceptGroups className a = .ok b → b.1 = a.1 :=
      fun _ _ haccept => (Gate.acceptGroups_ok haccept).1
    refine ⟨hrelations.of_mapM hkeeps hgroups, fun group hgroup => ?_, fun entry hentry => ?_⟩
    · obtain ⟨asked, hasked, haccept⟩ := Result.exists_of_mapM_eq_ok hgroups group hgroup
      obtain ⟨-, target, -, hloop⟩ := Gate.acceptGroups_ok haccept
      refine ⟨(hnamed asked hasked).of_mapM
        (fun _ _ h => (Gate.isGroupName_of_acceptGroup h).1) hloop, fun named hmem => ?_⟩
      obtain ⟨_, -, haccept⟩ := Result.exists_of_mapM_eq_ok hloop named hmem
      exact (Gate.isGroupName_of_acceptGroup haccept).2
    · obtain ⟨asked, hasked, -, target, -, hbase⟩ :=
        Result.exists_left_of_forall₂ (Gate.acceptNested_ok hnested) entry hentry
      exact ih asked hasked hbase

/-- The groups of an admitted request are in order under names of groups. -/
theorem grouped_of_accept {g : Gate} {className : String} {options : FindOptions}
    {action : QueryAction} {q : Query} (hoptions : options.Ordered)
    (h : g.accept className options action = .ok q) : q.base.Grouped := by
  obtain ⟨_, _, base, _, _, -, -, -, hbase, -, -, -, rfl⟩ := Gate.accept_ok h
  obtain ⟨hrelations, hnamed, hnested⟩ := grouped_of_acceptBase hoptions hbase
  exact ⟨hrelations, hnamed, hnested⟩

/-! ## Below references -/

variable {q : BaseQuery}

/-- What a query asks for beyond a field has its groups in order. -/
theorem Grouped.beyond (h : q.Grouped) (field : String) : (q.beyond field).Grouped := by
  obtain ⟨-, -, hnested⟩ := h
  refine ⟨Table.ordered_nil, nofun, fun entry hentry => ?_⟩
  obtain ⟨⟨path, nested⟩, hasked, hkept⟩ := List.mem_filterMap.mp hentry
  obtain ⟨-, hkept⟩ := Option.ite_none_right_eq_some.mp hkept
  cases hkept
  exact hnested (path, nested) hasked

/-- What a query asks of the members at a field has its groups in order. -/
theorem Grouped.member (h : q.Grouped) (field : String) : (q.member field).Grouped := by
  obtain ⟨-, -, hnested⟩ := h
  unfold BaseQuery.member
  cases hfound : Table.find? q.nested field with
  | none => exact grouped_empty
  | some nested => exact hnested _ (Table.mem_of_find?_eq_some hfound)

/-- What is asked for below a reference is grouped as the query is. -/
theorem Grouped.queryOf (h : q.Grouped) (reach : Reach) : (Plan.queryOf q reach).Grouped := by
  cases reach with
  | root => exact h
  | pointer field => exact h.beyond field
  | relation field _ => exact h.member field

end BaseQuery

end ObjectQuery
