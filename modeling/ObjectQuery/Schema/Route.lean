import ObjectQuery.Schema.Resolve

/-!
# Routes

A route is how a statement reaches what a path names: pointer hops, each through a stored column to
another class, and then an end in one class. `Schema.route` splits a path into its hops; a path that
leads nowhere keeps its refusal at the place where it is met, after the hops before it.
-/

namespace ObjectQuery

/-- The way to what a path names. -/
inductive Route where
  | refused (e : Error)
  /-- Through a pointer column to the class it leads to. -/
  | hop (column target : String) (next : Route)
  /-- A column of a type. -/
  | column (name : String) (ty : FieldType)
  /-- A place inside an untyped column. -/
  | json (column : String) (keys : List String)
  /-- One element of a vector column. -/
  | vectorElement (column : String) (position : Nat)
  /-- One member of a relation, and the way on from its class. -/
  | relationElement (column target : String) (position : Nat) (next : Route)
deriving Inhabited

/-- How many segments are left for another class. -/
def ColumnPath.restLength : ColumnPath → Nat
  | .pointer rest => rest.length
  | .relationElement _ rest => rest.length
  | _ => 0

namespace Schema

private theorem of_map_eq_ok {f : α → β} {x : Except ε α} {b : β} (h : x.map f = .ok b) :
    ∃ a, f a = b := by
  cases x with
  | ok a => exact ⟨a, Except.ok.inj h⟩
  | error e => cases h

theorem restLength_columnBelow {s : Schema} {refuse : PathReason → Error} {name : String}
    {ty : FieldType} {segments : List Segment} {c : Column}
    (h : s.columnBelow refuse name ty segments = .ok c) :
    c.path.restLength ≤ segments.length := by
  fun_induction columnBelow s refuse name ty segments with
  | case2 _ _ _ _ _ _ ih => exact Nat.le_succ_of_le (ih h)
  | case8 =>
    obtain ⟨_, rfl⟩ := of_map_eq_ok h
    exact Nat.le_succ _
  | case9 =>
    obtain ⟨_, rfl⟩ := of_map_eq_ok h
    exact Nat.le_refl _
  | case1 | case6 | case10 =>
    cases h
    exact Nat.zero_le _
  | case3 | case4 | case5 | case7 | case11 | case12 => cases h

/-- What is left for another class is less than the path. -/
theorem restLength_columnOf {s : Schema} {className path : String} {segments : List Segment}
    {c : Column} (h : s.columnOf className path segments = .ok c) :
    c.path.restLength < segments.length := by
  unfold columnOf at h
  split at h
  · cases h
  · split at h
    · exact Nat.lt_succ_of_le (restLength_columnBelow h)
    · cases h
  · cases h

/-- The route of segments on a class; `path` is how a refusal names them. -/
def routeOf (s : Schema) (className path : String) (segments : List Segment) : Route :=
  match _found : s.columnOf className path segments with
  | .error e => .refused e
  | .ok ⟨name, .pointer target, .pointer rest⟩ =>
    .hop name target (s.routeOf target (Path.render rest) rest)
  | .ok ⟨name, .relation target _, .relationElement i rest⟩ =>
    .relationElement name target i (s.routeOf target (Path.render rest) rest)
  | .ok ⟨name, ty, .column⟩ => .column name ty
  | .ok ⟨name, _, .json keys⟩ => .json name keys
  | .ok ⟨name, _, .vectorElement i⟩ => .vectorElement name i
  | .ok _ => .refused (.path (.refused path))
termination_by segments.length
decreasing_by
  · exact restLength_columnOf _found
  · exact restLength_columnOf _found

/-- The route of a path on a class. -/
def route (s : Schema) (className path : String) : Route :=
  match Path.parse path with
  | .ok segments => s.routeOf className path segments
  | .error e => .refused e

end Schema

end ObjectQuery
