import ObjectQuery.Error

/-!
# The depth guard

Request data is followed by recursion, so it is refused when it nests deeper than a limit. The guard
itself does not recurse into a value: what it has still to look at lies on a stack, each value with the
depth at which it stands. A turn takes the value on top and puts the values inside it in its place.
-/

namespace ObjectQuery.DepthGuard

/-- Values that are still to be looked at, the next one first, each with its depth. -/
abbrev Stack := List (Json × Nat)

namespace Stack

/-- Puts the values inside a value on the stack, one level deeper; the last of them comes first. -/
def push (v : Json) (depth : Nat) (stack : Stack) : Stack :=
  (v.parts.map fun part => (part, depth + 1)).reverse ++ stack

/-- How many values the stack holds, those inside others among them. -/
def size (stack : Stack) : Nat := Json.sizeItems (stack.map (·.1))

/-- A value is one more than what is inside it. -/
theorem size_push (v : Json) (depth : Nat) (stack : Stack) :
    (push v depth stack).size + 1 = size ((v, depth) :: stack) := by
  have hparts : ((v.parts.map fun part => (part, depth + 1)).reverse).map Prod.fst =
      v.parts.reverse := by
    simp [Function.comp_def]
  unfold size push
  rw [List.map_append, hparts, Json.sizeItems_append, Json.sizeItems_reverse, List.map_cons,
    Json.sizeItems, Json.size_eq, Nat.add_right_comm]

end Stack

/-- Takes values off the stack until it is empty or one stands too deep. -/
-- Semireducible, so that the gate still evaluates on a fixed request.
@[semireducible]
def search (limit : Nat) : Stack → Result Unit
  | [] => .ok ()
  | (v, depth) :: rest =>
    if limit < depth then .error .recursiveData else search limit (Stack.push v depth rest)
termination_by stack => stack.size
decreasing_by
  rw [← Stack.size_push]
  exact Nat.lt_succ_self _

/-- Refuses a value that nests too deep. -/
def check (value : Json) (limit : Nat) : Result Unit := search limit [(value, 0)]

end ObjectQuery.DepthGuard
