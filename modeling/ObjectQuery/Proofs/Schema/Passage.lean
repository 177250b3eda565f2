import ObjectQuery.Proofs.Result
import ObjectQuery.Schema.Resolve

/-!
# The classes and fields a path crosses

A path crosses a field of one class and then, where a reference has segments left, goes on in the
class the reference leads to. The type walk makes the same passages: what a path is on one class is
what is left of it on the next. A passage may start from a reference inside a shape, and it is
recorded whether one did.
-/

namespace ObjectQuery

/-- Where a path goes on in another class, and whether through a reference inside a shape. -/
structure Passage where
  target : String
  rest : List Segment
  insideShape : Bool
deriving DecidableEq

/-- The passage of the segments below a type; an index of a relation is passed over. -/
def FieldType.passage? : FieldType → List Segment → Bool → Option Passage
  | .shape fields, .field name :: rest, _ =>
    match Table.find? fields name with
    | some ty => ty.passage? rest true
    | none => none
  | .pointer target, segment :: rest, insideShape => some ⟨target, segment :: rest, insideShape⟩
  | .relation target _, .index _ :: next :: more, insideShape =>
    some ⟨target, next :: more, insideShape⟩
  | .relation target _, .field name :: rest, insideShape =>
    some ⟨target, .field name :: rest, insideShape⟩
  | _, _, _ => none

/-- What is left after a passage is a part of what was there. -/
theorem FieldType.passage?_length {ty : FieldType} {segments : List Segment} {inside : Bool}
    {p : Passage} (h : ty.passage? segments inside = some p) : p.rest.length ≤ segments.length := by
  fun_induction FieldType.passage? ty segments inside with
  | case1 fields name rest _ ty hty ih => exact Nat.le_succ_of_le (ih h)
  | case2 => cases h
  | case3 | case5 => cases h; exact Nat.le_refl _
  | case4 => cases h; exact Nat.le_succ _
  | case6 => cases h

/-- Once inside a shape, a passage starts from there. -/
theorem FieldType.insideShape_of_passage? {ty : FieldType} {segments : List Segment}
    {inside : Bool} {p : Passage} (h : ty.passage? segments inside = some p)
    (hin : inside = true) : p.insideShape = true := by
  fun_induction FieldType.passage? ty segments inside with
  | case1 _ _ _ _ _ _ ih => exact ih h rfl
  | case2 | case6 => cases h
  | case3 | case4 | case5 => cases h; exact hin

/-- A passage below a shape starts inside it. -/
theorem FieldType.insideShape_of_shape {fields : List (String × FieldType)}
    {segments : List Segment} {p : Passage}
    (h : (FieldType.shape fields).passage? segments false = some p) :
    p.insideShape = true := by
  match segments with
  | [] => cases h
  | .index i :: rest => cases h
  | .field name :: rest =>
    rw [FieldType.passage?] at h
    split at h
    · exact insideShape_of_passage? h rfl
    · cases h

namespace Schema

variable {s : Schema}

theorem getClass_eq_ok {name : String} {c : Class} :
    s.getClass name = .ok c ↔ s.class? name = some c := by
  unfold getClass
  split <;> simp_all

/-- A start is a field of the class. -/
theorem startField_ok {className : String} {all : List Segment} {first : Option Segment}
    {ty : FieldType} : s.startField className all first = .ok ty ↔
      ∃ c field, s.class? className = some c ∧ first = some (.field field) ∧
        c.field? field = some ty := by
  unfold startField
  split
  · next hc => simp [← getClass_eq_ok, hc]
  · next c field hc =>
    rw [getClass_eq_ok] at hc
    split <;> simp_all
  · next hfirst =>
    simp only [reduceCtorEq, false_iff, not_exists, not_and]
    exact fun _ field _ hstart => (hfirst field hstart).elim

/-- The type of segments is that of the first field, followed along the others. -/
theorem typeOf_cons (className : String) (segment : Segment) (rest : List Segment) :
    s.typeOf className (segment :: rest) =
      match s.startField className (segment :: rest) (some segment) with
      | .ok ty => s.walk className (segment :: rest) ty rest
      | .error e => .error e := rfl

theorem typeOf_field {className field : String} {c : Class} {ty : FieldType} (rest : List Segment)
    (hc : s.class? className = some c) (hf : c.field? field = some ty) :
    s.typeOf className (.field field :: rest) =
      s.walk className (.field field :: rest) ty rest := by
  rw [typeOf_cons, startField_ok.mpr ⟨c, field, hc, rfl, hf⟩]

/-- The walk below a type makes the type's passage. -/
theorem walk_passage {className : String} {all : List Segment} {ty : FieldType}
    {segments : List Segment} {inside : Bool} {p : Passage}
    (h : ty.passage? segments inside = some p) :
    s.walk className all ty segments = s.typeOf p.target p.rest := by
  fun_induction FieldType.passage? ty segments inside with
  | case1 fields name rest _ ty hty ih =>
    rw [walk, typeStep, hty]
    exact ih h
  | case3 target segment rest =>
    cases h
    rw [walk, typeStep]
    rfl
  | case4 target f i next more =>
    cases h
    rw [walk, typeStep]
    rfl
  | case5 target f name rest =>
    cases h
    rw [walk, typeStep]
    rfl
  | case2 | case6 => cases h

/-- Without a passage the walk stays in the class: it is the same for every schema. -/
theorem walk_of_no_passage {className : String} {all : List Segment} {ty : FieldType}
    {segments : List Segment} {inside : Bool} (h : ty.passage? segments inside = none)
    (other : Schema) : s.walk className all ty segments = other.walk className all ty segments := by
  fun_induction FieldType.passage? ty segments inside with
  | case1 fields name rest _ ty hty ih =>
    rw [walk, walk, typeStep, hty]
    exact ih h
  | case2 fields name rest _ hty =>
    rw [walk, walk, typeStep, hty]
  | case3 | case4 | case5 => cases h
  | case6 segments ty inside hshape hpointer hindex hfield =>
    match segments, ty with
    | [], ty => rw [walk, walk]
    | segment :: rest, .primitive kind default? =>
      rw [walk, walk, typeStep]
      cases kind.isJson <;> rfl
    | .index i :: rest, .vector dimension default? =>
      rw [walk, walk, typeStep]
      by_cases h : (i < dimension && rest.isEmpty) = true
      · rw [if_pos h]
        simp only [List.isEmpty_iff.mp (Bool.and_eq_true_iff.mp h).2, walk]
      · rw [if_neg h]
    | .field name :: rest, .vector dimension default? => simp [walk, typeStep]
    | .index i :: rest, .shape fields => simp [walk, typeStep]
    | .field name :: rest, .shape fields => exact (hshape fields name rest rfl rfl).elim
    | segment :: rest, .pointer target => exact (hpointer target segment rest rfl rfl).elim
    | .index i :: [], .relation target foreign => simp [walk, typeStep]
    | .index i :: next :: more, .relation target foreign =>
      exact (hindex target foreign i next more rfl rfl).elim
    | .field name :: rest, .relation target foreign =>
      exact (hfield target foreign name rest rfl rfl).elim

/-! ## Visits -/

/-- The passage segments on a class make, if they make one. -/
def passage? (s : Schema) (className : String) : List Segment → Option Passage
  | .field field :: rest =>
    ((s.class? className).bind (·.field? field)).bind fun ty => ty.passage? rest false
  | _ => none

/-- A passage leads to the same type. -/
theorem typeOf_passage {className : String} {segments : List Segment} {p : Passage}
    (h : s.passage? className segments = some p) :
    s.typeOf className segments = s.typeOf p.target p.rest := by
  unfold passage? at h
  split at h
  · next field rest =>
    obtain ⟨ty, hty, hp⟩ := Option.bind_eq_some_iff.mp h
    obtain ⟨c, hc, hf⟩ := Option.bind_eq_some_iff.mp hty
    rw [typeOf_field rest hc hf, walk_passage hp]
  · cases h

theorem passage?_length {className : String} {segments : List Segment} {p : Passage}
    (h : s.passage? className segments = some p) : p.rest.length < segments.length := by
  unfold passage? at h
  split at h
  · obtain ⟨ty, _, hp⟩ := Option.bind_eq_some_iff.mp h
    exact Nat.lt_succ_of_le (FieldType.passage?_length hp)
  · cases h

/--
Segments on a class visit a class with the segments that are left there: the first of these is the
field that is crossed. `behindShape` tells whether some passage on the way started inside a shape.
-/
inductive Visits (s : Schema) :
    (className : String) → (segments : List Segment) → (visited : String) →
      (left : List Segment) → (behindShape : Bool) → Prop where
  | start (className : String) (segments : List Segment) :
    Visits s className segments className segments false
  | pass {className : String} {segments : List Segment} {p : Passage} {visited : String}
    {left : List Segment} {behindShape : Bool} :
    s.passage? className segments = some p → Visits s p.target p.rest visited left behindShape →
      Visits s className segments visited left (p.insideShape || behindShape)

/-- What is visited last is at least a passage away: the path enters that class. -/
def Enters (s : Schema) (className : String) (segments : List Segment) (entered : String)
    (behindShape : Bool) : Prop :=
  ∃ p left behind, s.passage? className segments = some p ∧
    Visits s p.target p.rest entered left behind ∧ behindShape = (p.insideShape || behind)

theorem visits_iff {className visited : String} {segments left : List Segment} {behind : Bool} :
    s.Visits className segments visited left behind ↔
      (visited = className ∧ left = segments ∧ behind = false) ∨
      ∃ p later, s.passage? className segments = some p ∧
        s.Visits p.target p.rest visited left later ∧ behind = (p.insideShape || later) := by
  constructor
  · rintro (_ | ⟨hp, hv⟩)
    · exact .inl ⟨rfl, rfl, rfl⟩
    · exact .inr ⟨_, _, hp, hv, rfl⟩
  · rintro (⟨rfl, rfl, rfl⟩ | ⟨p, later, hp, hv, rfl⟩)
    · exact .start visited left
    · exact .pass hp hv

theorem enters_iff {className entered : String} {segments : List Segment} {behind : Bool} :
    s.Enters className segments entered behind ↔
      ∃ p, s.passage? className segments = some p ∧
        (entered = p.target ∧ behind = p.insideShape ∨
          ∃ later, s.Enters p.target p.rest entered later ∧ behind = (p.insideShape || later)) := by
  constructor
  · rintro ⟨p, left, later, hp, hv, rfl⟩
    refine ⟨p, hp, ?_⟩
    rcases visits_iff.mp hv with ⟨rfl, -, rfl⟩ | ⟨next, last, hnext, hlast, rfl⟩
    · exact .inl ⟨rfl, Bool.or_false _⟩
    · exact .inr ⟨_, ⟨next, left, last, hnext, hlast, rfl⟩, rfl⟩
  · rintro ⟨p, hp, ⟨rfl, rfl⟩ | ⟨_, ⟨next, left, last, hnext, hv, rfl⟩, rfl⟩⟩
    · exact ⟨p, p.rest, false, hp, .start _ _, (Bool.or_false _).symm⟩
    · exact ⟨p, left, _, hp, .pass hnext hv, rfl⟩

/-- All that is visited leads to the same type. -/
theorem Visits.typeOf_eq {className : String} {segments : List Segment} {visited : String}
    {left : List Segment} {behind : Bool} (h : s.Visits className segments visited left behind) :
    s.typeOf className segments = s.typeOf visited left := by
  induction h with
  | start => rfl
  | pass hp _ ih => rw [typeOf_passage hp, ih]

/-- The type walk reads no class but those that are visited. -/
theorem typeOf_congr {other : Schema} {className : String} {segments : List Segment}
    (h : ∀ visited left behind, s.Visits className segments visited left behind →
      s.class? visited = other.class? visited) :
    s.typeOf className segments = other.typeOf className segments := by
  have hclass := h className segments false (.start _ _)
  have hpassage : s.passage? className segments = other.passage? className segments := by
    unfold passage?
    rw [hclass]
  cases hp : s.passage? className segments with
  | some p =>
    have hshorter : p.rest.length < segments.length := passage?_length hp
    have hother : other.passage? className segments = some p := hpassage.symm.trans hp
    have hrest : s.typeOf p.target p.rest = other.typeOf p.target p.rest :=
      typeOf_congr fun visited left behind hv => h visited left _ (.pass hp hv)
    rw [typeOf_passage hp, typeOf_passage hother, hrest]
  | none =>
    have hstart : ∀ first, s.startField className segments first =
        other.startField className segments first := by
      intro first
      unfold startField getClass
      rw [hclass]
    unfold typeOf
    rw [← hstart]
    split
    · next ty hty =>
      obtain ⟨c, field, hc, hfirst, hf⟩ := startField_ok.mp hty
      obtain ⟨rest, rfl⟩ := List.head?_eq_some_iff.mp hfirst
      have hnone : ty.passage? rest false = none := by
        simpa [passage?, hc, hf] using hp
      exact walk_of_no_passage hnone other
    · rfl
termination_by segments.length
decreasing_by exact hshorter

end Schema

end ObjectQuery
