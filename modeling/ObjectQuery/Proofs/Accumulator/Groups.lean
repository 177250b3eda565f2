import Mathlib.Algebra.GroupWithZero.Nat
import Mathlib.Algebra.Order.BigOperators.Group.List
import Mathlib.Algebra.Order.Group.Nat
import Mathlib.Data.List.Induction
import ObjectQuery.Accumulator

/-!
# Groups are a partition

Items are put one by one into the first part whose first item has an equal key. So each item is in one
part, the parts keep the order of the items, and so do their first items; an item goes to a part when
the key of the part's first item equals its own, and passes every part before. Nothing is asked of
equality for that, which is not transitive on all values.

The groups of an accumulator are such parts of the rows, each under the key of its first row.
-/

namespace ObjectQuery.Accumulator

section

variable {α : Type} (key : α → Json)

/-- Puts an item into the first part with an equal key, or into a new part at the end. -/
def place (x : α) : List (α × List α) → List (α × List α)
  | [] => [(x, [])]
  | p :: rest =>
    if Value.equals (key p.1) (key x) then (p.1, p.2 ++ [x]) :: rest else p :: place x rest

/-- The items in parts, each part a first item and those that came to it. -/
def partsOf (items : List α) : List (α × List α) := items.foldl (fun acc x => place key x acc) []

/-- Parts of items: all of them once, in their order, by the key of the first item of a part. -/
structure Partition (items : List α) (parts : List (α × List α)) : Prop where
  perm : (parts.flatMap fun p => p.1 :: p.2).Perm items
  within : ∀ p ∈ parts, (p.1 :: p.2).Sublist items
  firsts : (parts.map (·.1)).Sublist items
  together : ∀ p ∈ parts, ∀ x ∈ p.2, Value.equals (key p.1) (key x) = true
  apart : parts.Pairwise fun p q => ∀ x ∈ q.1 :: q.2, Value.equals (key p.1) (key x) = false

variable {key}

/-- An item joins a part behind others with unequal keys, or all keys are unequal and it opens one. -/
theorem place_cases (x : α) (parts : List (α × List α)) :
    (∃ before p after, parts = before ++ p :: after ∧
      (∀ q ∈ before, Value.equals (key q.1) (key x) = false) ∧
      Value.equals (key p.1) (key x) = true ∧
      place key x parts = before ++ (p.1, p.2 ++ [x]) :: after) ∨
    ((∀ q ∈ parts, Value.equals (key q.1) (key x) = false) ∧
      place key x parts = parts ++ [(x, [])]) := by
  induction parts with
  | nil => exact .inr ⟨List.forall_mem_nil _, rfl⟩
  | cons p rest ih =>
    rw [place]
    split
    next hequal => exact .inl ⟨[], p, rest, rfl, List.forall_mem_nil _, hequal, rfl⟩
    next hne =>
      rw [Bool.not_eq_true] at hne
      rcases ih with ⟨before, q, after, rfl, hbefore, hq, hplace⟩ | ⟨hrest, hplace⟩
      · refine .inl ⟨p :: before, q, after, rfl, List.forall_mem_cons.mpr ⟨hne, hbefore⟩, hq, ?_⟩
        rw [hplace, List.cons_append]
      · refine .inr ⟨List.forall_mem_cons.mpr ⟨hne, hrest⟩, ?_⟩
        rw [hplace, List.cons_append]

theorem Partition.nil : Partition key [] [] where
  perm := .nil
  within := List.forall_mem_nil _
  firsts := .slnil
  together := List.forall_mem_nil _
  apart := .nil

/-- One more item, in the part it is put into. -/
theorem Partition.place {items : List α} {parts : List (α × List α)}
    (h : Partition key items parts) (x : α) :
    Partition key (items ++ [x]) (place key x parts) := by
  have hmore : items.Sublist (items ++ [x]) := List.sublist_append_left ..
  rcases place_cases x parts with ⟨before, p, after, rfl, hbefore, hp, hplace⟩ | ⟨hnone, hplace⟩
  · have hwithin := h.within
    have htogether := h.together
    have hapart := h.apart
    rw [List.forall_mem_append, List.forall_mem_cons] at hwithin htogether
    rw [List.pairwise_append, List.pairwise_cons] at hapart
    obtain ⟨hapartBefore, ⟨hapartFirst, hapartAfter⟩, hacross⟩ := hapart
    rw [hplace]
    constructor
    · have hperm := h.perm.append_right [x]
      simp only [List.flatMap_append, List.flatMap_cons, List.append_assoc, List.cons_append,
        List.nil_append] at hperm ⊢
      refine .trans (.append_left _ (.cons _ (.append_left _ ?_))) hperm
      exact @List.perm_append_comm _ [x] _
    · rw [List.forall_mem_append, List.forall_mem_cons]
      refine ⟨fun q hq => (hwithin.1 q hq).trans hmore, ?_, fun q hq => (hwithin.2.2 q hq).trans hmore⟩
      exact hwithin.2.1.append (List.Sublist.refl [x])
    · have hfirsts := h.firsts.trans hmore
      rwa [List.map_append, List.map_cons] at hfirsts ⊢
    · rw [List.forall_mem_append, List.forall_mem_cons]
      refine ⟨htogether.1, fun y hy => ?_, htogether.2.2⟩
      rcases List.mem_append.mp hy with hy | hy
      · exact htogether.2.1 y hy
      · rw [List.mem_singleton.mp hy]
        exact hp
    · rw [List.pairwise_append, List.pairwise_cons]
      refine ⟨hapartBefore, ⟨hapartFirst, hapartAfter⟩, fun q hq => List.forall_mem_cons.mpr ?_⟩
      obtain ⟨hown, hrest⟩ := List.forall_mem_cons.mp (hacross q hq)
      refine ⟨fun y hy => ?_, hrest⟩
      rw [← List.cons_append, List.mem_append, List.mem_singleton] at hy
      rcases hy with hy | rfl
      · exact hown y hy
      · exact hbefore q hq
  · rw [hplace]
    constructor
    · rw [List.flatMap_append]
      exact h.perm.append_right [x]
    · rw [List.forall_mem_append, List.forall_mem_singleton]
      exact ⟨fun q hq => (h.within q hq).trans hmore, List.sublist_append_right ..⟩
    · rw [List.map_append]
      exact h.firsts.append (List.Sublist.refl [x])
    · rw [List.forall_mem_append, List.forall_mem_singleton]
      exact ⟨h.together, List.forall_mem_nil _⟩
    · refine List.pairwise_append.mpr ⟨h.apart, List.pairwise_singleton .., fun q hq => ?_⟩
      rw [List.forall_mem_singleton, List.forall_mem_singleton]
      exact hnone q hq

/-- The groups of some items are their partition by the key. -/
theorem partsOf_partition (key : α → Json) (items : List α) :
    Partition key items (partsOf key items) := by
  induction items using List.reverseRecOn with
  | nil => exact .nil
  | append_singleton items x ih =>
    rw [partsOf, List.foldl_append]
    exact ih.place x

/-- The group that a part makes: the key of its first item, and what each item is. -/
def groupOf (key row : α → Json) (p : α × List α) : Json × List Json :=
  (key p.1, (p.1 :: p.2).map row)

theorem insertRow_groupOf (row : α → Json) (x : α) (acc : List (α × List α)) :
    insertRow (key x) (row x) (acc.map (groupOf key row)) =
      (place key x acc).map (groupOf key row) := by
  induction acc with
  | nil => rfl
  | cons p rest ih =>
    simp only [List.map_cons, groupOf, insertRow, place]
    split
    · simp only [List.map_cons, groupOf, List.map_append, List.map_nil, List.cons_append]
    · simp only [List.map_cons, groupOf, ih]

end

/-- The key of a row that carries its position. -/
def keyOf (key : Expr) (row : Json × Nat) : Json := key.eval row.1

/-- The groups of rows are parts of the rows with their positions. -/
theorem groups_eq (key : Expr) (rows : List Json) :
    groups key rows = (partsOf (keyOf key) rows.zipIdx).map (groupOf (keyOf key) (·.1)) := by
  have hrows := List.zipIdx_map_fst 0 rows
  calc groups key rows
      = (rows.zipIdx.map (·.1)).foldl (fun acc row => insertRow (key.eval row) row acc) [] := by
        rw [hrows, groups]
    _ = rows.zipIdx.foldl (fun acc x => insertRow (keyOf key x) x.1 acc) [] := List.foldl_map ..
    _ = (partsOf (keyOf key) rows.zipIdx).map (groupOf (keyOf key) (·.1)) :=
        @List.foldl_hom _ _ _ (List.map (groupOf (keyOf key) (·.1))) _ _ rows.zipIdx []
          fun acc x => insertRow_groupOf (·.1) x acc

/--
An accumulator of groups has one entry for each part of a partition of the rows: the key of the part's
first row, and what the inner accumulator makes of the part. Counts in the groups add up to the rows.
-/
theorem eval_group_partition (key : Expr) (value : Accumulator) (rows : List Json) :
    ∃ parts : List ((Json × Nat) × List (Json × Nat)),
      Partition (keyOf key) rows.zipIdx parts ∧
      eval rows (group key value) = .arr (parts.map fun p => .obj
        [("key", key.eval p.1.1), ("value", value.eval ((p.1 :: p.2).map (·.1)))]) ∧
      eval rows (group key count) = .arr (parts.map fun p => .obj
        [("key", key.eval p.1.1), ("value", Json.ofNat (p.1 :: p.2).length)]) ∧
      (parts.map fun p => (p.1 :: p.2).length).sum = rows.length := by
  have hpartition := partsOf_partition (keyOf key) rows.zipIdx
  have heval : ∀ value : Accumulator, eval rows (group key value) =
      .arr ((partsOf (keyOf key) rows.zipIdx).map fun p => .obj
        [("key", key.eval p.1.1), ("value", value.eval ((p.1 :: p.2).map (·.1)))]) := by
    intro value
    rw [eval, groups_eq, List.map_map]
    rfl
  refine ⟨_, hpartition, heval value, ?_, ?_⟩
  · rw [heval count]
    simp only [eval, List.length_map]
  · rw [← List.length_flatMap, hpartition.perm.length_eq, List.length_zipIdx]

end ObjectQuery.Accumulator
