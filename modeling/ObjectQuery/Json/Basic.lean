import ObjectQuery.Numeral.Shortest

/-!
# JSON values

Objects keep their members in the order they were written: that order is visible in implicit
conjunctions, in assignment lists and in every echoed value. A number is either an integer of at
most sixty-four bits or a double; the two kinds print differently and are never equal as JSON,
whatever they denote.
-/

namespace ObjectQuery

/-- A JSON number. -/
inductive Number where
  /-- An integer literal in the range of signed or unsigned sixty-four bits. -/
  | int (n : Int)
  /-- Any other literal; always finite. -/
  | float (x : Float)
deriving DecidableEq, Inhabited

/-- The number as a double, rounded to nearest. -/
def Number.toFloat : Number → Float
  | .int n => Float.ofInt n
  | .float x => x

/-- Doubles are the same when neither is smaller, so both zeros are. -/
def Number.same : Number → Number → Bool
  | .int a, .int b => a == b
  | .float x, .float y => Numeral.compareFloat x y == some .eq
  | _, _ => false

/-- A JSON value. -/
inductive Json where
  | null
  | bool (b : Bool)
  | num (n : Number)
  | str (s : String)
  | arr (items : List Json)
  | obj (members : List (String × Json))
deriving Inhabited

namespace Json

/-- The value of the first member with a key. -/
def member? (members : List (String × Json)) (key : String) : Option Json :=
  members.lookup key

/-- The value under a key of an object; a value of another kind has no members. -/
def get? (v : Json) (key : String) : Option Json :=
  match v with
  | .obj members => member? members key
  | _ => none

/-- Sets a member: a present key keeps its place, a new one goes to the end. -/
def setMember (members : List (String × Json)) (key : String) (value : Json) :
    List (String × Json) :=
  match members with
  | [] => [(key, value)]
  | (k, v) :: rest => if k = key then (k, value) :: rest else (k, v) :: setMember rest key value

/-- The members of an object as written: a repeated key keeps its first place and last value. -/
def ofMembers (written : List (String × Json)) : List (String × Json) :=
  written.foldl (fun members m => setMember members m.1 m.2) []

/-- Removes the members with a key. -/
def eraseMember (members : List (String × Json)) (key : String) : List (String × Json) :=
  members.filter (fun m => m.1 != key)

def isNull : Json → Bool
  | .null => true
  | _ => false

def asStr? : Json → Option String
  | .str s => some s
  | _ => none

def asBool? : Json → Option Bool
  | .bool b => some b
  | _ => none

def asItems? : Json → Option (List Json)
  | .arr items => some items
  | _ => none

def asMembers? : Json → Option (List (String × Json))
  | .obj members => some members
  | _ => none

/-- An integer of signed sixty-four bits; doubles are never integers. -/
def asInt64? : Json → Option Int
  | .num (.int n) => if -Int.pow 2 63 ≤ n ∧ n < Int.pow 2 63 then some n else none
  | _ => none

/-- An integer of unsigned sixty-four bits; doubles are never integers. -/
def asNat64? : Json → Option Nat
  | .num (.int n) => if 0 ≤ n ∧ n < Int.pow 2 64 then some n.toNat else none
  | _ => none

/-- Any number as a double. -/
def asFloat? : Json → Option Float
  | .num n => some n.toFloat
  | _ => none

/-- A double as JSON; what is not finite has no numeral and becomes null. -/
def ofFloat (x : Float) : Json :=
  if x.isFinite then .num (.float x) else .null

def ofNat (n : Nat) : Json := .num (.int n)

def ofInt (n : Int) : Json := .num (.int n)

/-! ## Equality as JSON

Arrays are equal item by item; objects are equal when they bind the same keys to equal values, in
any order. Integers and doubles are different kinds.
-/

mutual

def same : Json → Json → Bool
  | .null, .null => true
  | .bool a, .bool b => a == b
  | .num a, .num b => a.same b
  | .str a, .str b => a == b
  | .arr xs, .arr ys => sameItems xs ys
  | .obj xs, .obj ys => xs.length == ys.length && sameMembers xs ys
  | _, _ => false

def sameItems : List Json → List Json → Bool
  | [], [] => true
  | x :: xs, y :: ys => same x y && sameItems xs ys
  | _, _ => false

def sameMembers : List (String × Json) → List (String × Json) → Bool
  | [], _ => true
  | (k, v) :: xs, ys =>
    (match member? ys k with
    | some w => same v w
    | none => false) && sameMembers xs ys

end

instance : BEq Json := ⟨same⟩

/-! ## Nesting depth -/

mutual

/-- Zero for a scalar or an empty container, else one more than the deepest element or member. -/
def depth : Json → Nat
  | .arr items => depthItems items
  | .obj members => depthMembers members
  | _ => 0

def depthItems : List Json → Nat
  | [] => 0
  | x :: xs => max (x.depth + 1) (depthItems xs)

def depthMembers : List (String × Json) → Nat
  | [] => 0
  | (_, v) :: ms => max (v.depth + 1) (depthMembers ms)

end

/-! ## Size -/

/-- The values directly inside a value. -/
def parts : Json → List Json
  | .arr items => items
  | .obj members => members.map (·.2)
  | _ => []

mutual

/-- How many values a value consists of, itself among them. -/
def size : Json → Nat
  | .arr items => sizeItems items + 1
  | .obj members => sizeMembers members + 1
  | _ => 1

def sizeItems : List Json → Nat
  | [] => 0
  | x :: xs => x.size + sizeItems xs

def sizeMembers : List (String × Json) → Nat
  | [] => 0
  | (_, v) :: ms => v.size + sizeMembers ms

end

theorem sizeMembers_eq (members : List (String × Json)) :
    sizeMembers members = sizeItems (members.map (·.2)) := by
  induction members with
  | nil => rfl
  | cons m rest ih => rw [sizeMembers, List.map_cons, sizeItems, ih]

theorem size_eq (v : Json) : v.size = sizeItems v.parts + 1 := by
  cases v with
  | obj members => rw [size, parts, sizeMembers_eq]
  | _ => rfl

theorem sizeItems_append (xs ys : List Json) :
    sizeItems (xs ++ ys) = sizeItems xs + sizeItems ys := by
  induction xs with
  | nil => rw [List.nil_append, sizeItems, Nat.zero_add]
  | cons x xs ih => rw [List.cons_append, sizeItems, sizeItems, ih, Nat.add_assoc]

theorem sizeItems_reverse (xs : List Json) : sizeItems xs.reverse = sizeItems xs := by
  induction xs with
  | nil => rfl
  | cons x xs ih =>
    rw [List.reverse_cons, sizeItems_append, ih, sizeItems, sizeItems, sizeItems, Nat.add_zero,
      Nat.add_comm]

end Json

end ObjectQuery
