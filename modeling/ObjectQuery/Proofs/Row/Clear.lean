import Mathlib.Data.List.Pairwise
import ObjectQuery.Proofs.Json
import ObjectQuery.Proofs.Schema.Accepted
import ObjectQuery.Row

/-!
# Values at names, types along a row, and missing targets

A row is folded into an object one value after another. What stands under a name in the end is the
value for that name alone or, if the names of the values only lead through it, the object that is
folded from what they are inside it. So an object can be read one level after another, and if no
names lead through those of another value, none is lost.

A shape and a pointer have members with types of their own; every other type has none. The types of a
row's names and the pass that takes away missing targets both go from one such level to the next. On
types that hold up the pass cannot fail, and it changes an object member by member.
-/

namespace ObjectQuery.Row

/-- Values with the names they are put at. -/
abbrev Placements := List (List String × Json)

/-- Puts values at their names, one after another. -/
def placeAll (done : List (String × Json)) (entries : Placements) : List (String × Json) :=
  entries.foldl (fun done entry => place done entry.2 entry.1) done

/-- What is left of names that lead through a name. -/
def restOf? (name : String) : List String → Option (List String)
  | first :: next :: rest => if first = name then some (next :: rest) else none
  | _ => none

/-- The values whose names lead through a name, at the names that are left. -/
def inside (name : String) (entries : Placements) : Placements :=
  entries.filterMap fun entry => (restOf? name entry.1).map (·, entry.2)

/-- Neither of two lists of names leads through the other. -/
def Separate (a b : List String) : Prop := ¬ a <+: b ∧ ¬ b <+: a

instance {a b : List String} : Decidable (Separate a b) := inferInstanceAs (Decidable (_ ∧ _))

/-- No names lead through those of another value. -/
def Unnested (entries : Placements) : Prop := entries.Pairwise fun a b => Separate a.1 b.1

variable {entries : Placements} {done : List (String × Json)} {name : String} {names : List String}
  {value : Json}

/-- Being separate does not depend on the order of the two lists. -/
theorem Separate.symm {a b : List String} (h : Separate a b) : Separate b a := ⟨h.2, h.1⟩

/-- What is separate behind a common first name is separate without it. -/
theorem Separate.of_cons {a b : List String} (h : Separate (name :: a) (name :: b)) :
    Separate a b :=
  ⟨fun hab => h.1 ((List.prefix_cons_inj name).mpr hab),
    fun hba => h.2 ((List.prefix_cons_inj name).mpr hba)⟩

/-- A common first name changes nothing about being separate. -/
theorem Separate.cons {a b : List String} (h : Separate a b) (name : String) :
    Separate (name :: a) (name :: b) :=
  ⟨fun hab => h.1 ((List.prefix_cons_inj name).mp hab),
    fun hba => h.2 ((List.prefix_cons_inj name).mp hba)⟩

/-- Names that start differently lead apart. -/
theorem separate_of_ne {other : String} {a b : List String} (h : name ≠ other) :
    Separate (name :: a) (other :: b) :=
  ⟨fun hab => h (List.cons_prefix_cons.mp hab).1,
    fun hba => h (List.cons_prefix_cons.mp hba).1.symm⟩

/-! ## Inside a name -/

/-- There is a rest behind `name` exactly when more names follow it. -/
theorem restOf?_eq_some {rest : List String} :
    restOf? name names = some rest ↔ names = name :: rest ∧ rest ≠ [] := by
  constructor
  · intro h
    unfold restOf? at h
    split at h
    · split at h
      · next heq =>
        cases h
        exact ⟨by rw [heq], List.cons_ne_nil _ _⟩
      · cases h
    · cases h
  · rintro ⟨rfl, hne⟩
    obtain ⟨next, rest, rfl⟩ := List.exists_cons_of_ne_nil hne
    rw [restOf?, if_pos rfl]

/-- The entries inside `name` are those whose names go on behind it. -/
theorem mem_inside :
    (names, value) ∈ inside name entries ↔ (name :: names, value) ∈ entries ∧ names ≠ [] := by
  simp only [inside, List.mem_filterMap, Option.map_eq_some_iff, restOf?_eq_some, Prod.mk.injEq]
  constructor
  · rintro ⟨⟨_, _⟩, hmem, _, ⟨rfl, hne⟩, rfl, rfl⟩
    exact ⟨hmem, hne⟩
  · rintro ⟨hmem, hne⟩
    exact ⟨_, hmem, names, ⟨rfl, hne⟩, rfl, rfl⟩

/-- An entry that leads behind `name` is the first of those inside it. -/
theorem inside_cons_of_some {entry : List String × Json} {rest : List String}
    (h : restOf? name entry.1 = some rest) :
    inside name (entry :: entries) = (rest, entry.2) :: inside name entries := by
  rw [inside, List.filterMap_cons, h]
  rfl

/-- An entry that does not lead behind `name` is left out of those inside it. -/
theorem inside_cons_of_none {entry : List String × Json} (h : restOf? name entry.1 = none) :
    inside name (entry :: entries) = inside name entries := by
  rw [inside, List.filterMap_cons, h]
  rfl

/-- Entries that are not nested are not nested inside any name either. -/
theorem Unnested.inside (h : Unnested entries) (name : String) :
    Unnested (inside name entries) := by
  refine List.Pairwise.filterMap _ (fun a b hseparate a' ha b' hb => ?_) h
  simp only [Option.map_eq_some_iff, restOf?_eq_some] at ha hb
  obtain ⟨_, ⟨ha, -⟩, rfl⟩ := ha
  obtain ⟨_, ⟨hb, -⟩, rfl⟩ := hb
  rw [ha, hb] at hseparate
  exact hseparate.of_cons

/-! ## What stands under a name -/

@[simp]
theorem placeAll_nil : placeAll done [] = done := rfl

/-- The entries are placed from the first on. -/
@[simp]
theorem placeAll_cons {entry : List String × Json} :
    placeAll done (entry :: entries) = placeAll (place done entry.2 entry.1) entries := rfl

/-- What a value does to what stands under a name it does not have for itself. -/
theorem member?_place (h : names ≠ [name]) :
    Json.member? (place done value names) name =
      match restOf? name names with
      | some rest => some (.obj (place (membersAt done name) value rest))
      | none => Json.member? done name := by
  match names with
  | [] => rfl
  | [first] =>
    have hne : name ≠ first := fun heq => h (by rw [heq])
    rw [place, Json.member?_setMember, if_neg hne]
    rfl
  | first :: next :: rest =>
    rw [place, Json.member?_setMember, restOf?]
    by_cases heq : first = name
    · subst heq
      rw [if_pos rfl, if_pos rfl]
    · rw [if_neg (Ne.symm heq), if_neg heq]

/-- Where no value is for a name alone, an object of what is inside it stands there. -/
theorem member?_placeAll_of_lead (h : ∀ entry ∈ entries, entry.1 ≠ [name]) :
    Json.member? (placeAll done entries) name =
      if inside name entries = [] then Json.member? done name
      else some (.obj (placeAll (membersAt done name) (inside name entries))) := by
  induction entries generalizing done with
  | nil => rfl
  | cons entry rest ih =>
    obtain ⟨hfirst, hrest⟩ := List.forall_mem_cons.mp h
    rw [placeAll_cons, ih hrest, member?_place hfirst]
    cases hrestOf : restOf? name entry.1 with
    | none =>
      have hdone : membersAt (place done entry.2 entry.1) name = membersAt done name := by
        rw [membersAt, member?_place hfirst, hrestOf, membersAt]
      rw [inside_cons_of_none hrestOf, hdone]
    | some names =>
      have hdone : membersAt (place done entry.2 entry.1) name =
          place (membersAt done name) entry.2 names := by
        rw [membersAt, member?_place hfirst, hrestOf]
        rfl
      rw [inside_cons_of_some hrestOf, if_neg (List.cons_ne_nil _ _), hdone, placeAll_cons]
      dsimp only
      split
      · next hempty => rw [hempty, placeAll_nil]
      · rfl

/-- A value for a name alone stands there, if no names lead through it. -/
theorem member?_placeAll_of_mem (hfree : Unnested entries) (h : ([name], value) ∈ entries) :
    Json.member? (placeAll done entries) name = some value := by
  induction entries generalizing done with
  | nil => cases h
  | cons entry rest ih =>
    obtain ⟨hfirst, hrest⟩ := List.pairwise_cons.mp hfree
    rw [placeAll_cons]
    rcases List.mem_cons.mp h with rfl | h
    · have hlead : ∀ entry ∈ rest, entry.1 ≠ [name] := fun entry hentry heq =>
        (hfirst entry hentry).1 (heq ▸ List.prefix_refl _)
      have hinside : inside name rest = [] := by
        refine List.eq_nil_iff_forall_not_mem.mpr fun ⟨names, v⟩ hmem => ?_
        exact (hfirst _ (mem_inside.mp hmem).1).1 ⟨names, rfl⟩
      rw [member?_placeAll_of_lead hlead, if_pos hinside, place, Json.member?_setMember, if_pos rfl]
    · exact ih hrest h

/-- Two different entries among entries that are not nested are separate. -/
theorem Unnested.separate (hfree : Unnested entries) {a b : List String × Json} (ha : a ∈ entries)
    (hb : b ∈ entries) (hne : a ≠ b) : Separate a.1 b.1 := by
  have : Std.Symm fun a b : List String × Json => Separate a.1 b.1 := ⟨fun _ _ => Separate.symm⟩
  exact List.Pairwise.forall hfree ha hb hne

/-- Where names of a value lead through a name, an object of what is inside it stands there. -/
theorem member?_placeAll_of_inside (hfree : Unnested entries) (h : inside name entries ≠ []) :
    Json.member? (placeAll [] entries) name =
      some (.obj (placeAll [] (inside name entries))) := by
  obtain ⟨⟨names, v⟩, hmem⟩ := List.exists_mem_of_ne_nil _ h
  obtain ⟨hmem, hne⟩ := mem_inside.mp hmem
  have hlead : ∀ entry ∈ entries, entry.1 ≠ [name] := by
    intro entry hentry heq
    have hdiffer : entry ≠ (name :: names, v) := by
      rintro rfl
      exact hne (List.cons.inj heq).2
    exact (hfree.separate hentry hmem hdiffer).1 (heq ▸ ⟨names, rfl⟩)
  rw [member?_placeAll_of_lead hlead, if_neg h]
  rfl

/-- Placing a value never doubles a member name. -/
theorem keys_place_nodup (h : (done.map (·.1)).Nodup) :
    ((place done value names).map (·.1)).Nodup := by
  match names with
  | [] => exact h
  | [_] => exact Json.keys_setMember_nodup h
  | _ :: _ :: _ => exact Json.keys_setMember_nodup h

/-- Placing any number of values never doubles a member name. -/
theorem keys_placeAll_nodup (h : (done.map (·.1)).Nodup) :
    ((placeAll done entries).map (·.1)).Nodup := by
  induction entries generalizing done with
  | nil => exact h
  | cons entry rest ih => exact ih (keys_place_nodup h)

/-- What is folded has every key once. -/
theorem keys_folded_nodup : ((placeAll [] entries).map (·.1)).Nodup :=
  @keys_placeAll_nodup entries [] List.nodup_nil

/-- What stands under a name comes from a value for the name alone or from those inside it. -/
theorem of_member?_placeAll (hfree : Unnested entries)
    (h : Json.member? (placeAll [] entries) name = some value) :
    ([name], value) ∈ entries ∨
      inside name entries ≠ [] ∧ value = .obj (placeAll [] (inside name entries)) := by
  by_cases halone : ∃ v, ([name], v) ∈ entries
  · obtain ⟨v, hmem⟩ := halone
    rw [member?_placeAll_of_mem hfree hmem, Option.some.injEq] at h
    exact .inl (h ▸ hmem)
  · have hlead : ∀ entry ∈ entries, entry.1 ≠ [name] := fun entry hmem heq =>
      halone ⟨entry.2, heq ▸ hmem⟩
    rw [member?_placeAll_of_lead hlead] at h
    split at h
    · cases h
    · next hinside =>
      cases h
      exact .inr ⟨hinside, rfl⟩

/-! ## Levels -/

variable {s : Schema}

/-- The types of the members of a value. -/
abbrev Level := String → Option FieldType

/-- The types of the members of a value of a type. -/
def levelOf? (s : Schema) : FieldType → Option Level
  | .shape fields => some (Table.find? fields)
  | .pointer target => (s.class? target).map Class.field?
  | _ => none

namespace Level

/-- Every type of a level holds up. -/
def WellTyped (s : Schema) (level : Level) : Prop :=
  ∀ name ty, level name = some ty → s.WellTyped ty

/-- Names lead to a type, from a level on. -/
def Leads (s : Schema) (level : Level) : List String → FieldType → Prop
  | [], _ => False
  | name :: rest, ty => ∃ fieldType, level name = some fieldType ∧
      typeBelow s name fieldType rest = .ok ty

end Level

variable {level : Level} {name : String} {ty : FieldType}

/-- A field of a class has a type when the class exists and lists the field. -/
theorem fieldType_eq_ok {className : String} :
    fieldType s className name = .ok ty ↔
      ∃ c, s.class? className = some c ∧ c.field? name = some ty := by
  unfold fieldType Schema.getClass
  cases s.class? className with
  | none => simp
  | some c => cases hf : c.field? name <;> simp [hf]

/-- From a class the names of a key lead as from the level of its fields. -/
theorem typeAt_eq_ok {className : String} {names : List String} {leaf : FieldType} :
    typeAt s className names = .ok leaf ↔
      ∃ c, s.class? className = some c ∧ Level.Leads s c.field? names leaf := by
  cases names with
  | nil => simp [typeAt, Level.Leads]
  | cons name rest =>
    rw [typeAt]
    cases hfield : fieldType s className name with
    | error e =>
      refine iff_of_false nofun ?_
      rintro ⟨c, hc, fieldType, hf, -⟩
      cases hfield.symm.trans (fieldType_eq_ok.mpr ⟨c, hc, hf⟩)
    | ok fieldType =>
      obtain ⟨c, hc, hf⟩ := fieldType_eq_ok.mp hfield
      simp [hc, hf, Level.Leads]

/-- One name further the types are those of the next level. -/
theorem typeBelow_cons {above : String} {rest : List String} {leaf : FieldType} :
    typeBelow s above ty (name :: rest) = .ok leaf ↔
      ∃ level, levelOf? s ty = some level ∧ level.Leads s (name :: rest) leaf := by
  cases ty with
  | shape fields =>
    rw [typeBelow]
    simp only [levelOf?, Option.some.injEq, exists_eq_left', Level.Leads]
    cases Table.find? fields name <;> simp
  | pointer target =>
    change typeAt s target (name :: rest) = .ok leaf ↔ _
    simp only [typeAt_eq_ok, levelOf?, Option.map_eq_some_iff]
    grind
  | primitive | vector | relation => simp [typeBelow, levelOf?]

/-- The fields of a class of an accepted schema are a level whose types are all well typed. -/
theorem Level.wellTyped_fields (hs : s.Accepted) {className : String} {c : Class}
    (hc : s.class? className = some c) : Level.WellTyped s c.field? :=
  fun _ _ hf => (hs.wellTyped hc hf).2

/-- The level below a well-typed field is well typed. -/
theorem Level.wellTyped_of_levelOf? (hs : s.Accepted) (hty : s.WellTyped ty)
    (h : levelOf? s ty = some level) : level.WellTyped s := by
  cases ty with
  | shape fields =>
    cases h
    intro name member hfound
    exact (Schema.membersWellTyped_iff.mp hty.2 _ (Table.mem_of_find?_eq_some hfound)).2
  | pointer target =>
    obtain ⟨c, hc, rfl⟩ := Option.map_eq_some_iff.mp h
    exact Level.wellTyped_fields hs hc
  | primitive | vector | relation => cases h

/-! ## Clearing -/

/-- Whether a pointer's object has no id, or none that is not null. -/
def lacksId (members : List (String × Json)) : Bool :=
  (Json.member? members Field.id).all Json.isNull

/-- Clears a member of a level. -/
def clearMember (s : Schema) (level : Level) (name : String) (v : Json) : Result Json :=
  match level name with
  | some ty => clear s ty v
  | none => .ok v

/-- An object without an id at a pointer is cleared to null. -/
theorem clear_pointer_of_lacksId {target : String} {members : List (String × Json)}
    (h : lacksId members = true) : clear s (.pointer target) (.obj members) = .ok .null := by
  rw [clear]
  exact if_pos h

/-- An object that stays is cleared member by member. -/
theorem clear_obj {members : List (String × Json)} (h : levelOf? s ty = some level)
    (hid : ∀ target, ty = .pointer target → lacksId members = false) :
    clear s ty (.obj members) = (clearMembers s level members).map .obj := by
  cases ty with
  | shape fields =>
    cases h
    rw [clear]
  | pointer target =>
    obtain ⟨c, hc, rfl⟩ := Option.map_eq_some_iff.mp h
    have hid : ¬ (Json.member? members Field.id).all Json.isNull = true :=
      Bool.eq_false_iff.mp (hid target rfl)
    rw [clear]
    simp only [if_neg hid, Schema.getClass_eq_ok.mpr hc]
  | primitive | vector | relation => cases h

/-- A value without members of its own is left as it is. -/
theorem clear_of_flat (v : Json) (hshape : ty.isShape = false)
    (hpointer : ∀ target, ty ≠ .pointer target) : clear s ty v = .ok v := by
  cases v with
  | obj members =>
    cases ty with
    | shape fields => cases hshape
    | pointer target => exact absurd rfl (hpointer target)
    | primitive | vector | relation => rw [clear] <;> simp
  | _ => rw [clear]; simp

/-- Null is cleared to null, whatever the type. -/
@[simp]
theorem clear_null : clear s ty .null = .ok .null := by
  rw [clear]; simp

/-- The members are cleared one after the other. -/
theorem clearMembers_cons {v : Json} {members : List (String × Json)} :
    clearMembers s level ((name, v) :: members) = (do
      let v ← clearMember s level name v
      return (name, v) :: (← clearMembers s level members)) := by
  rw [clearMembers, clearMember]
  cases level name <;> rfl

/-- Clearing members keeps their names and their order, and clears each value on its own. -/
theorem clearMembers_eq_ok {members cleared : List (String × Json)} :
    clearMembers s level members = .ok cleared ↔
      List.Forall₂ (fun m m' => m'.1 = m.1 ∧ clearMember s level m.1 m.2 = .ok m'.2)
        members cleared := by
  induction members generalizing cleared with
  | nil =>
    rw [clearMembers, Except.ok.injEq, List.forall₂_nil_left_iff, eq_comm]
  | cons m rest ih =>
    obtain ⟨name, v⟩ := m
    rw [clearMembers_cons, List.forall₂_cons_left_iff]
    simp only [Result.bind_eq_ok, Result.pure_eq_ok, ih]
    constructor
    · rintro ⟨v, hv, cleared, hrest, rfl⟩
      exact ⟨_, cleared, ⟨rfl, hv⟩, hrest, rfl⟩
    · rintro ⟨⟨_, v⟩, cleared, ⟨rfl, hv⟩, hrest, rfl⟩
      exact ⟨v, hv, cleared, hrest, rfl⟩

/-- Clearing keeps the keys, in their order. -/
theorem keys_clearMembers {members cleared : List (String × Json)}
    (h : clearMembers s level members = .ok cleared) :
    cleared.map (·.1) = members.map (·.1) := by
  have hall := clearMembers_eq_ok.mp h
  clear h
  induction hall with
  | nil => rfl
  | cons hm _ ih => rw [List.map_cons, List.map_cons, hm.1, ih]

/-- What stands under a name is cleared by the type of the name. -/
theorem member?_clearMembers {members cleared : List (String × Json)}
    (h : clearMembers s level members = .ok cleared) {v : Json}
    (hv : Json.member? members name = some v) :
    ∃ v', Json.member? cleared name = some v' ∧ clearMember s level name v = .ok v' := by
  have hall := clearMembers_eq_ok.mp h
  clear h
  induction hall with
  | nil => cases hv
  | @cons m m' _ _ hm _ ih =>
    rw [Json.member?_cons] at hv ⊢
    rw [hm.1]
    split at hv
    · next heq =>
      cases hv
      rw [if_pos heq, heq]
      exact ⟨m'.2, rfl, hm.2⟩
    · next hne =>
      rw [if_neg hne]
      exact ih hv

/-- Nothing comes to stand under a name by clearing. -/
theorem of_member?_clearMembers {members cleared : List (String × Json)}
    (h : clearMembers s level members = .ok cleared) {v' : Json}
    (hv : Json.member? cleared name = some v') :
    ∃ v, Json.member? members name = some v ∧ clearMember s level name v = .ok v' := by
  cases hmember : Json.member? members name with
  | none =>
    rw [Json.member?_eq_none, ← keys_clearMembers h, ← Json.member?_eq_none, hv] at hmember
    cases hmember
  | some v =>
    obtain ⟨found, hfound, hclear⟩ := member?_clearMembers h hmember
    cases hfound.symm.trans hv
    exact ⟨v, rfl, hclear⟩

/-- Members are cleared when each of them is. -/
theorem clearMembers_total {members : List (String × Json)}
    (h : ∀ m ∈ members, ∃ v', clearMember s level m.1 m.2 = .ok v') :
    ∃ cleared, clearMembers s level members = .ok cleared := by
  induction members with
  | nil => exact ⟨[], rfl⟩
  | cons m rest ih =>
    obtain ⟨⟨v', hv⟩, hrest⟩ := List.forall_mem_cons.mp h
    obtain ⟨cleared, hcleared⟩ := ih hrest
    exact ⟨_, by rw [clearMembers_cons, hv, hcleared]; rfl⟩

/-- Where all types hold up, clearing does not fail. -/
theorem clear_total (hs : s.Accepted) (hty : s.WellTyped ty) (v : Json) :
    ∃ v', clear s ty v = .ok v' := by
  induction v using Json.nested_induction generalizing ty with
  | null | bool _ | num _ | str _ | arr _ => exact ⟨_, by rw [clear]; simp⟩
  | obj members ih =>
    have hmembers : ∀ {level : Level}, level.WellTyped s →
        ∃ cleared, clearMembers s level members = .ok cleared := by
      intro level hlevel
      refine clearMembers_total fun m hm => ?_
      rw [clearMember]
      cases hm' : level m.1 with
      | none => exact ⟨_, rfl⟩
      | some ty => exact ih m hm (hlevel _ _ hm')
    cases ty with
    | shape fields =>
      have hlevel : levelOf? s (.shape fields) = some (Table.find? fields) := rfl
      obtain ⟨cleared, hcleared⟩ := hmembers (Level.wellTyped_of_levelOf? hs hty hlevel)
      refine ⟨.obj cleared, (clear_obj hlevel fun _ => nofun).trans ?_⟩
      rw [hcleared]
      rfl
    | pointer target =>
      cases hid : lacksId members with
      | true => exact ⟨_, clear_pointer_of_lacksId hid⟩
      | false =>
        obtain ⟨c, hc⟩ := Option.isSome_iff_exists.mp (show (s.class? target).isSome = true from hty)
        obtain ⟨cleared, hcleared⟩ := hmembers (Level.wellTyped_fields hs hc)
        have hlevel : levelOf? s (.pointer target) = some c.field? := by rw [levelOf?, hc]; rfl
        refine ⟨.obj cleared, (clear_obj hlevel fun _ _ => hid).trans ?_⟩
        rw [hcleared]
        rfl
    | primitive | vector | relation => exact ⟨_, clear_of_flat _ rfl fun _ => nofun⟩

end ObjectQuery.Row
