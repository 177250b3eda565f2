import ObjectQuery.Expr

/-!
# Sort specifications

Either an object of paths with directions, or a list of expressions with directions. Rows are
compared key by key, and the first key that tells them apart decides. Null comes after every value
in ascending order; values that are not ordered count as equal.
-/

namespace ObjectQuery

/-- The keys rows are ordered by, the most significant first. -/
inductive SortSpec where
  | paths (keys : List (String × Direction))
  | expressions (keys : List (Expr × Direction))
deriving Inhabited

namespace SortSpec

/-- Ascending is one, descending minus one. -/
def decodeDirection (raw : Json) : Result Direction :=
  match raw.asInt64? with
  | some 1 => .ok .asc
  | some (-1) => .ok .desc
  | _ => .error (.expression (.sortOrder raw))

/-- Reads an entry of a list; the direction may be missing. -/
def decodeEntry (entry : Json) : Result (Expr × Direction) := do
  let some raw := entry.get? "expr" | throw (.expression .sortEntry)
  let expr ← Expr.decode raw
  match (entry.get? "order").getD .null with
  | .null => return (expr, .asc)
  | order => return (expr, ← decodeDirection order)

/-- Reads a path with its direction. -/
def decodeMember (member : String × Json) : Result (String × Direction) :=
  (decodeDirection member.2).map (member.1, ·)

/-- Reads a sort specification. -/
def decode : Json → Result SortSpec
  | .obj members => (members.mapM decodeMember).map .paths
  | .arr entries => (entries.mapM decodeEntry).map .expressions
  | _ => .error (.expression .sortShape)

def isEmpty : SortSpec → Bool
  | paths keys => keys.isEmpty
  | expressions keys => keys.isEmpty

/-- The paths a sort reads, each once, in the order of their first occurrence. -/
def keyPaths : SortSpec → List String
  | paths keys => (keys.map (·.1)).eraseDups
  | expressions keys => (keys.flatMap (·.1.keys)).eraseDups

/-- Rewrites every key. -/
def mapKey (f : String → String) : SortSpec → SortSpec
  | paths keys => paths (keys.map fun (path, direction) => (f path, direction))
  | expressions keys => expressions (keys.map fun (e, direction) => (e.mapKey f, direction))

/-- The values of the keys on a row, with their directions. -/
def keyValues (row : Json) : SortSpec → List (Json × Direction)
  | paths keys => keys.map fun (path, direction) => (Value.getPath row path, direction)
  | expressions keys => keys.map fun (e, direction) => (e.eval row, direction)

/-- The ascending order of two key values. -/
def ascending : Json → Json → Ordering
  | .null, .null => .eq
  | .null, _ => .gt
  | _, .null => .lt
  | a, b => (Value.order a b).getD .eq

/-- The order of two key values in a direction. -/
def directed (direction : Direction) (a b : Json) : Ordering :=
  match direction with
  | .asc => ascending a b
  | .desc => (ascending a b).swap

/-- Compares key values in turn. -/
def compareKeys : List (Json × Direction) → List (Json × Direction) → Ordering
  | (x, direction) :: xs, (y, _) :: ys => (directed direction x y).then (compareKeys xs ys)
  | _, _ => .eq

/-- The order of two rows. -/
def compare (sort : SortSpec) (a b : Json) : Ordering :=
  compareKeys (sort.keyValues a) (sort.keyValues b)

end SortSpec

end ObjectQuery
