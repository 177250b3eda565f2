import ObjectQuery.Access.DepthGuard
import ObjectQuery.Proofs.Json

/-!
# Depth and its guard

A value nests within a limit if what is inside it nests below that limit. The search of the guard has
one invariant, which speaks of the whole stack: every value on it nests within the limit from the depth
where it stands. A turn leaves it as it is, so the search ends as the invariant of its first stack says.
That it ends at all is a matter of how many values the stack holds, since a turn takes one off for good.
-/

namespace ObjectQuery

namespace Json

variable {n : Nat}

theorem depthItems_le {items : List Json} : depthItems items ≤ n ↔ ∀ x ∈ items, x.depth < n := by
  induction items with
  | nil => simp [depthItems]
  | cons x rest ih => rw [depthItems, Nat.max_le, ih, List.forall_mem_cons, Nat.succ_le_iff]

theorem depthMembers_eq (members : List (String × Json)) :
    depthMembers members = depthItems (members.map (·.2)) := by
  induction members with
  | nil => rfl
  | cons m rest ih => rw [depthMembers, List.map_cons, depthItems, ih]

/-- A value nests within a limit if what is inside it nests below the limit. -/
theorem depth_le_iff {v : Json} : v.depth ≤ n ↔ ∀ part ∈ v.parts, part.depth < n := by
  cases v with
  | arr items => exact depthItems_le
  | obj members =>
    rw [depth, depthMembers_eq]
    exact depthItems_le
  | _ => simp [depth, parts]

theorem depth_lt_of_mem {v part : Json} (h : part ∈ v.parts) : part.depth < v.depth :=
  depth_le_iff.mp (Nat.le_refl _) part h

end Json

namespace DepthGuard

variable {limit depth : Nat} {v : Json} {stack rest : Stack}

/-! ## The stack -/

/-- Every value on the stack nests within the limit from where it stands. -/
def Stack.Within (limit : Nat) (stack : Stack) : Prop := ∀ e ∈ stack, e.2 + e.1.depth ≤ limit

/-- A turn keeps the invariant, both ways: a value nests within the limit where its parts do. -/
theorem Stack.within_push (h : depth ≤ limit) :
    (push v depth rest).Within limit ↔ Within limit ((v, depth) :: rest) := by
  have hparts : (∀ part ∈ v.parts, depth + 1 + part.depth ≤ limit) ↔ depth + v.depth ≤ limit := by
    rw [← Nat.le_sub_iff_add_le' h, Json.depth_le_iff]
    exact forall₂_congr fun part _ => by omega
  simp only [Within, push, List.forall_mem_append, List.mem_reverse, List.forall_mem_map,
    List.forall_mem_cons, hparts]

/-! ## The search -/

theorem search_eq_ok : search limit stack = .ok () ↔ stack.Within limit := by
  fun_induction search limit stack with
  | case1 => exact iff_of_true rfl (List.forall_mem_nil _)
  | case2 v depth rest hdeep =>
    refine iff_of_false nofun fun hall => ?_
    have htop := hall (v, depth) List.mem_cons_self
    dsimp only at htop
    omega
  | case3 v depth rest hdeep ih => rw [ih, Stack.within_push (Nat.not_lt.mp hdeep)]

/-- There is one error that the search may end with. -/
theorem search_cases (limit : Nat) (stack : Stack) :
    search limit stack = .ok () ∨ search limit stack = .error .recursiveData := by
  fun_induction search limit stack with
  | case1 => exact .inl rfl
  | case2 => exact .inr rfl
  | case3 _ _ _ _ ih => exact ih

/-- The search comes from a stack to a result in so many turns. -/
inductive Runs (limit : Nat) : Nat → Stack → Result Unit → Prop where
  | empty : Runs limit 0 [] (.ok ())
  | refused {v : Json} {depth : Nat} {rest : Stack} (deep : limit < depth) :
    Runs limit 1 ((v, depth) :: rest) (.error .recursiveData)
  | turn {v : Json} {depth turns : Nat} {rest : Stack} {result : Result Unit}
    (fits : depth ≤ limit) (goes : Runs limit turns (Stack.push v depth rest) result) :
    Runs limit (turns + 1) ((v, depth) :: rest) result

/-- From every stack the search comes to its result in no more turns than it holds values. -/
theorem exists_runs (limit : Nat) (stack : Stack) :
    ∃ turns ≤ stack.size, Runs limit turns stack (search limit stack) := by
  fun_induction search limit stack with
  | case1 => exact ⟨0, Nat.zero_le _, .empty⟩
  | case2 v depth rest hdeep =>
    exact ⟨1, Stack.size_push v depth rest ▸ Nat.le_add_left 1 _, .refused hdeep⟩
  | case3 v depth rest hdeep ih =>
    obtain ⟨turns, hturns, hruns⟩ := ih
    exact ⟨turns + 1, Stack.size_push v depth rest ▸ Nat.add_le_add_right hturns 1,
      .turn (Nat.not_lt.mp hdeep) hruns⟩

/-- Two runs from one stack take as many turns to the same result. -/
theorem Runs.unique {turns turns' : Nat} {result result' : Result Unit}
    (h : Runs limit turns stack result) (h' : Runs limit turns' stack result') :
    turns = turns' ∧ result = result' := by
  induction h generalizing turns' with
  | empty =>
    cases h'
    exact ⟨rfl, rfl⟩
  | refused hdeep =>
    cases h' with
    | refused => exact ⟨rfl, rfl⟩
    | turn hfits => exact absurd hfits (Nat.not_le.mpr hdeep)
  | turn hfits _ ih =>
    cases h' with
    | refused hdeep => exact absurd hfits (Nat.not_le.mpr hdeep)
    | turn _ hgoes =>
      obtain ⟨rfl, rfl⟩ := ih hgoes
      exact ⟨rfl, rfl⟩

/-! ## The guard -/

theorem check_eq_ok {u : Unit} : check v limit = .ok u ↔ v.depth ≤ limit := by
  unfold check
  rw [search_eq_ok, Stack.Within, List.forall_mem_singleton, Nat.zero_add]

/--
The guard lets exactly those values pass that nest within the limit, and refuses any other as recursive
data. Its search ends on every value, after as many turns as the value has parts at most, and there is
no other way for it to go.
-/
theorem check_exact (v : Json) (limit : Nat) :
    (check v limit = .ok () ↔ v.depth ≤ limit) ∧
      (check v limit = .error .recursiveData ↔ limit < v.depth) ∧
      ∃ turns ≤ v.size, ∀ n result,
        Runs limit n [(v, 0)] result ↔ n = turns ∧ result = check v limit := by
  refine ⟨check_eq_ok, ?_, ?_⟩
  · rw [← Nat.not_le, ← check_eq_ok (u := ())]
    constructor
    · intro hrefused hok
      cases hrefused.symm.trans hok
    · intro hnot
      exact (search_cases limit [(v, 0)]).resolve_left hnot
  · obtain ⟨turns, hturns, hruns⟩ := exists_runs limit [(v, 0)]
    refine ⟨turns, hturns, fun n result => ⟨fun h => h.unique hruns, ?_⟩⟩
    rintro ⟨rfl, rfl⟩
    exact hruns

/-- At the limit itself a value passes, and one level more is too much. -/
example : (check (.arr [.null, .obj [("a", .arr [.str "b"])]]) 3).toBool = true ∧
    (check (.arr [.null, .obj [("a", .arr [.str "b"])]]) 2).toBool = false := by
  decide +kernel

end DepthGuard

end ObjectQuery
