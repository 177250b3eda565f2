import Mathlib.Order.Basic
import Mathlib.Data.String.Basic
import ObjectQuery.Table

/-!
# Tables keep their names in order

To bind a name keeps a table in order, and in a table in order a name is bound once: what is found
under it is the one entry that has it. In any table what is bound last under a name is found under it.
-/

namespace ObjectQuery.Table

variable {α : Type} {name : String} {value : α}

/-- The names of a table ascend, so each stands there once. -/
def Ordered (table : Table α) : Prop := table.Pairwise fun a b => a.1 < b.1

theorem ordered_nil : Ordered ([] : Table α) := List.Pairwise.nil

/-- What is in a table once a name is bound. -/
theorem of_mem_insert {table : Table α} {entry : String × α}
    (h : entry ∈ table.insert name value) : entry = (name, value) ∨ entry ∈ table := by
  induction table with
  | nil => exact .inl (List.mem_singleton.mp h)
  | cons first rest ih =>
    rw [insert] at h
    split at h
    · rcases List.mem_cons.mp h with rfl | h
      · exact .inl rfl
      · exact .inr (List.mem_cons_of_mem _ h)
    · split at h
      · exact List.mem_cons.mp h
      · rcases List.mem_cons.mp h with rfl | h
        · exact .inr List.mem_cons_self
        · exact (ih h).imp_right (List.mem_cons_of_mem _)

/-- An entry of a filled table was added or has been there. -/
theorem of_mem_foldl_insert {added : List (String × α)} {table : Table α} {entry : String × α}
    (h : entry ∈ added.foldl (fun t e => t.insert e.1 e.2) table) :
    entry ∈ added ∨ entry ∈ table := by
  induction added generalizing table with
  | nil => exact .inr h
  | cons first rest ih =>
    rcases ih h with hrest | hbound
    · exact .inl (List.mem_cons_of_mem first hrest)
    · rcases of_mem_insert hbound with rfl | hbefore
      · exact .inl List.mem_cons_self
      · exact .inr hbefore

/-- What is inserted is in the table. -/
theorem mem_insert_self {table : Table α} : (name, value) ∈ table.insert name value := by
  induction table with
  | nil => exact List.mem_cons_self
  | cons first rest ih =>
    rw [insert]
    split
    · exact List.mem_cons_self
    · split
      · exact List.mem_cons_self
      · exact List.mem_cons_of_mem _ ih

/-- To bind another name leaves an entry where it is. -/
theorem mem_insert_of_ne {table : Table α} {entry : String × α} (h : entry ∈ table)
    (hne : entry.1 ≠ name) : entry ∈ table.insert name value := by
  induction table with
  | nil => cases h
  | cons first rest ih =>
    rw [insert]
    split
    · next heq =>
      rcases List.mem_cons.mp h with rfl | h
      · exact absurd heq.symm hne
      · exact List.mem_cons_of_mem _ h
    · split
      · exact List.mem_cons_of_mem _ h
      · rcases List.mem_cons.mp h with rfl | h
        · exact List.mem_cons_self
        · exact List.mem_cons_of_mem _ (ih h)

/-- Entries of different names are all there once they have been bound one after another. -/
theorem mem_foldl_insert {added : List (String × α)} (hnames : added.Pairwise (·.1 ≠ ·.1))
    {table : Table α} {entry : String × α}
    (h : entry ∈ added ∨ entry ∈ table ∧ ∀ e ∈ added, entry.1 ≠ e.1) :
    entry ∈ added.foldl (fun t e => t.insert e.1 e.2) table := by
  induction added generalizing table with
  | nil => exact (h.resolve_left List.not_mem_nil).1
  | cons first rest ih =>
    obtain ⟨hfirst, hrest⟩ := List.pairwise_cons.mp hnames
    apply ih hrest
    rcases h with h | ⟨h, hne⟩
    · rcases List.mem_cons.mp h with rfl | h
      · exact .inr ⟨mem_insert_self, hfirst⟩
      · exact .inl h
    · obtain ⟨hne, hnes⟩ := List.forall_mem_cons.mp hne
      exact .inr ⟨mem_insert_of_ne h hne, hnes⟩

/-- Inserting keeps the table in order. -/
theorem Ordered.insert {table : Table α} (h : table.Ordered) :
    (table.insert name value).Ordered := by
  unfold Ordered at h ⊢
  induction table with
  | nil => exact List.pairwise_singleton _ _
  | cons first rest ih =>
    obtain ⟨hfirst, hrest⟩ := List.pairwise_cons.mp h
    rw [Table.insert]
    split
    · next heq => exact List.pairwise_cons.mpr ⟨fun e he => heq ▸ hfirst e he, hrest⟩
    · next hne =>
      split
      · next hlt =>
        refine List.pairwise_cons.mpr ⟨List.forall_mem_cons.mpr ⟨hlt, fun e he => ?_⟩, h⟩
        exact lt_trans hlt (hfirst e he)
      · next hge =>
        have hlt : first.1 < name := lt_of_le_of_ne (not_lt.mp hge) (Ne.symm hne)
        refine List.pairwise_cons.mpr ⟨fun e he => ?_, ih hrest⟩
        rcases of_mem_insert he with rfl | he
        · exact hlt
        · exact hfirst e he

/-- A table in order, whose values have a property. -/
def Holds (P : α → Prop) (table : Table α) : Prop := table.Ordered ∧ ∀ e ∈ table, P e.2

namespace Holds

variable {P : α → Prop}

theorem nil : Holds P [] := ⟨ordered_nil, nofun⟩

/-- Inserting what satisfies `P` keeps a table in order whose values all do. -/
theorem insert {table : Table α} (h : table.Holds P) (hvalue : P value) :
    (table.insert name value).Holds P := by
  refine ⟨h.1.insert, fun e he => ?_⟩
  rcases of_mem_insert he with rfl | he
  · exact hvalue
  · exact h.2 e he

/-- Filling in what satisfies `P` keeps a table in order whose values all do. -/
theorem foldl_insert {added : List (String × α)} (hadded : ∀ e ∈ added, P e.2) {table : Table α}
    (h : table.Holds P) : Holds P (added.foldl (fun t e => t.insert e.1 e.2) table) := by
  induction added generalizing table with
  | nil => exact h
  | cons first rest ih =>
    obtain ⟨hfirst, hrest⟩ := List.forall_mem_cons.mp hadded
    exact ih hrest (h.insert hfirst)

end Holds

/-- A name behind all others of a table is bound at its end. -/
theorem insert_of_gt {table : Table α} (h : ∀ e ∈ table, e.1 < name) :
    table.insert name value = table ++ [(name, value)] := by
  induction table with
  | nil => rfl
  | cons first rest ih =>
    obtain ⟨hfirst, hrest⟩ := List.forall_mem_cons.mp h
    rw [Table.insert, if_neg (ne_of_gt hfirst), if_neg (not_lt_of_gt hfirst), ih hrest]
    rfl

/-- Only the names count, not what they are bound to. -/
theorem Ordered.of_names {β : Type} {table : Table α} {other : Table β} (h : table.Ordered)
    (hnames : other.map (·.1) = table.map (·.1)) : other.Ordered := by
  have hmap : (table.map (·.1)).Pairwise (· < ·) := List.pairwise_map.mpr h
  rw [← hnames] at hmap
  exact List.pairwise_map.mp hmap

/-- What is found under a name is an entry. -/
theorem mem_of_find?_eq_some {table : Table α} (h : table.find? name = some value) :
    (name, value) ∈ table := by
  obtain ⟨before, after, hsplit, -⟩ := List.lookup_eq_some_iff.mp h
  rw [hsplit]
  exact List.mem_append_right before List.mem_cons_self

/-- In a table in order every entry is found under its name. -/
theorem Ordered.find?_eq_some_iff {table : Table α} (h : table.Ordered) :
    table.find? name = some value ↔ (name, value) ∈ table := by
  refine ⟨mem_of_find?_eq_some, fun hmem => ?_⟩
  unfold Ordered at h
  unfold find?
  induction table with
  | nil => cases hmem
  | cons first rest ih =>
    obtain ⟨key, v⟩ := first
    obtain ⟨hfirst, hrest⟩ := List.pairwise_cons.mp h
    rcases List.mem_cons.mp hmem with heq | hmem
    · cases heq
      exact List.lookup_cons_self
    · have hne : name ≠ key := ne_of_gt (hfirst _ hmem)
      rw [List.lookup_cons, beq_eq_false_iff_ne.mpr hne]
      exact ih hrest hmem

/-! ## What is found -/

/-- A table binds the names of its entries. -/
theorem binds_iff {table : Table α} : table.binds name = true ↔ ∃ value, (name, value) ∈ table := by
  unfold binds find?
  rw [List.lookup_isSome_iff]
  constructor
  · rintro ⟨⟨key, value⟩, hmem, hkey⟩
    exact ⟨value, eq_of_beq hkey ▸ hmem⟩
  · rintro ⟨value, hmem⟩
    exact ⟨(name, value), hmem, beq_self_eq_true name⟩

/-- The first entry of a name is the one that is found. -/
theorem find?_cons {key : String} {rest : Table α} :
    find? ((name, value) :: rest) key = if key = name then some value else rest.find? key := by
  unfold find?
  by_cases h : key = name
  · rw [if_pos h, h, List.lookup_cons_self]
  · rw [if_neg h, List.lookup_cons, beq_eq_false_iff_ne.mpr h]

/-- Values may be mapped before or after one is found. -/
theorem find?_map {β : Type} {f : α → β} {table : Table α} :
    find? (table.map fun e => (e.1, f e.2)) name = (table.find? name).map f := by
  induction table with
  | nil => rfl
  | cons first rest ih =>
    rw [List.map_cons, find?_cons, find?_cons, ih]
    split <;> rfl

/-- Under a name that was bound its value is found, under every other what was found before. -/
theorem find?_insert {table : Table α} {key : String} :
    (table.insert name value).find? key = if key = name then some value else table.find? key := by
  induction table with
  | nil => exact find?_cons
  | cons first rest ih =>
    rw [insert]
    split
    · next hname =>
      rw [find?_cons, find?_cons, hname]
      split <;> rfl
    · split
      · exact find?_cons
      · next hname _ =>
        rw [find?_cons, find?_cons, ih]
        split
        · next hkey => rw [if_neg (hkey ▸ Ne.symm hname)]
        · rfl

/-- What is found once some entries have been bound is one of them, or it was found before. -/
theorem of_find?_foldl_insert {added : List (String × α)} {table : Table α}
    (h : find? (added.foldl (fun t e => t.insert e.1 e.2) table) name = some value) :
    (name, value) ∈ added ∨ table.find? name = some value := by
  induction added generalizing table with
  | nil => exact .inr h
  | cons first rest ih =>
    rcases ih h with hrest | hfound
    · exact .inl (List.mem_cons_of_mem first hrest)
    · rw [find?_insert] at hfound
      split at hfound
      · next hname =>
        cases hfound
        exact .inl (hname ▸ List.mem_cons_self)
      · exact .inr hfound

/-- Entries of other names that are bound leave what is found. -/
theorem find?_foldl_insert_of_ne {added : List (String × α)} {table : Table α}
    (h : ∀ e ∈ added, name ≠ e.1) :
    find? (added.foldl (fun t e => t.insert e.1 e.2) table) name = table.find? name := by
  induction added generalizing table with
  | nil => rfl
  | cons first rest ih =>
    obtain ⟨hfirst, hrest⟩ := List.forall_mem_cons.mp h
    rw [List.foldl_cons, ih hrest, find?_insert, if_neg hfirst]

end ObjectQuery.Table
