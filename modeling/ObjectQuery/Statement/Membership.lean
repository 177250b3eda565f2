import ObjectQuery.Statement.Scope

/-!
# Membership in a relation

A relation holds the tokens of its members, or it is derived: its members are the objects whose
foreign field refers to the owner. A foreign field may be derived in turn, so the column that decides
is found by following foreign fields, the two sides changing places at each step.
-/

namespace ObjectQuery

/-- A column that decides membership: the token of the other side equals it or is among it. -/
inductive Holding where
  | pointer (holder : Target) (column : String) (other : Target)
  | tokens (holder : Target) (column : String) (other : Target)
deriving DecidableEq, Inhabited

/-- The condition of membership. -/
def Holding.sql : Holding → Sql
  | pointer holder column other =>
    .seq ["COALESCE(", holder.column column, " = ", other.token, ", false)"]
  | tokens holder column other =>
    .seq ["COALESCE(", other.token, " = ANY(", holder.column column, "), false)"]

namespace Schema

/-- Every class with every field of it. -/
def allFields (s : Schema) : List (String × String) :=
  s.classes.flatMap fun (name, c) => c.fields.map fun (field, _) => (name, field)

/-- The fields that have not been seen. -/
def unseen (s : Schema) (seen : List (String × String)) : List (String × String) :=
  s.allFields.filter (· ∉ seen)

/-- A field of a class, if both exist. -/
def field? (s : Schema) (className field : String) : Option FieldType :=
  (s.class? className).bind (·.field? field)

private theorem mem_of_lookup_eq_some {table : List (String × α)} {key : String} {a : α}
    (h : table.lookup key = some a) : (key, a) ∈ table := by
  induction table with
  | nil => cases h
  | cons entry rest ih =>
    rw [List.lookup_cons] at h
    split at h
    · rename_i hk
      cases h
      rw [eq_of_beq hk]
      exact List.mem_cons_self
    · exact List.mem_cons_of_mem _ (ih h)

theorem mem_allFields {s : Schema} {className field : String} {ty : FieldType}
    (h : s.field? className field = some ty) : (className, field) ∈ s.allFields := by
  obtain ⟨c, hc, hf⟩ := Option.bind_eq_some_iff.1 h
  exact List.mem_flatMap.2 ⟨_, mem_of_lookup_eq_some hc,
    List.mem_map.2 ⟨_, mem_of_lookup_eq_some hf, rfl⟩⟩

/-- Seeing a field leaves fewer unseen. -/
theorem unseen_cons_lt {s : Schema} {seen : List (String × String)} {key : String × String}
    (hnew : key ∉ seen) (hmem : key ∈ s.allFields) :
    (s.unseen (key :: seen)).length < (s.unseen seen).length := by
  have h : s.unseen (key :: seen) = (s.unseen seen).filter (· ≠ key) := by
    simp only [unseen, List.filter_filter]
    congr 1
    funext k
    by_cases hk : k = key <;> by_cases hs : k ∈ seen <;> simp [hk, hs]
  have hk : key ∈ s.unseen seen := by simp [unseen, hmem, hnew]
  rw [h]
  exact List.length_filter_lt_length_iff_exists.2 ⟨key, hk, by simp⟩

/--
The column that decides whether `member` belongs to `owner.field`; `seen` are the fields that have
been followed to get here.
-/
def holding (s : Schema) (owner : Target) (field : String) (member : Target)
    (seen : List (String × String)) : Result Holding :=
  let key := (owner.className, field)
  let unfit := Error.path (.notReference owner.className field)
  if _new : key ∈ seen then .error (.path (.foreignCycle owner.className field))
  else
    match s.getClass owner.className, _found : s.field? owner.className field with
    | .error e, _ => .error e
    | .ok _, some (.pointer _) => .ok (.pointer owner field member)
    | .ok _, some (.relation _ none) => .ok (.tokens owner field member)
    | .ok _, some (.relation target (some foreign)) =>
      match s.getClass target, s.field? target foreign with
      | .error e, _ => .error e
      | .ok _, some (.pointer _) => .ok (.pointer member foreign owner)
      | .ok _, some (.relation _ none) => .ok (.tokens member foreign owner)
      | .ok _, some (.relation _ (some _)) => s.holding member foreign owner (key :: seen)
      | .ok _, _ => .error unfit
    | .ok _, _ => .error unfit
termination_by (s.unseen seen).length
decreasing_by exact unseen_cons_lt _new (mem_allFields _found)

/-- The condition that `member` belongs to `owner.field`. -/
def contains (s : Schema) (owner : Target) (field : String) (member : Target) : Result Sql :=
  (s.holding owner field member []).map Holding.sql

/-- The order of members unless another is asked for: by place among the tokens, or by id. -/
def memberOrder (s : Schema) (owner : Target) (field : String) (member : Target) : Sql :=
  match s.field? owner.className field with
  | some (.relation _ none) =>
    .seq ["array_position(", owner.column field, ", ", member.token, ")"]
  | _ => member.column Field.id

end Schema

end ObjectQuery
