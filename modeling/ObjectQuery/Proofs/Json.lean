import Mathlib.Data.List.Nodup
import ObjectQuery.Json.Basic
import ObjectQuery.Value.Basic

/-!
# JSON values

Induction over values, and what is found under a key once a member has been set or removed. In an object
that has every key once each member is found under its key. Where nothing is found, nothing is found
below either. An envelope is an object with one member, a text under the tag.
-/

namespace ObjectQuery.Json

/-- Induction with the hypothesis for every item of an array and every member of an object. -/
@[elab_as_elim]
theorem nested_induction {motive : Json → Prop}
    (null : motive null)
    (bool : ∀ b, motive (bool b))
    (num : ∀ n, motive (num n))
    (str : ∀ s, motive (str s))
    (arr : ∀ items, (∀ x ∈ items, motive x) → motive (arr items))
    (obj : ∀ members, (∀ m ∈ members, motive m.2) → motive (obj members))
    (v : Json) : motive v :=
  @Json.rec motive (fun items => ∀ x ∈ items, motive x) (fun members => ∀ m ∈ members, motive m.2)
    (fun m => motive m.2) null bool num str arr obj
    (fun _ hx => absurd hx List.not_mem_nil)
    (fun _ _ head tail => List.forall_mem_cons.mpr ⟨head, tail⟩)
    (fun _ hx => absurd hx List.not_mem_nil)
    (fun _ _ head tail => List.forall_mem_cons.mpr ⟨head, tail⟩)
    (fun _ _ value => value) v

/-! ## Members of objects -/

variable {members : List (String × Json)} {key name : String} {value v : Json}

/-- The first member of a name is the one that is found. -/
theorem member?_cons :
    member? ((name, v) :: members) key = if key = name then some v else member? members key := by
  unfold member?
  by_cases h : key = name
  · rw [if_pos h, h, List.lookup_cons_self]
  · rw [if_neg h, List.lookup_cons, beq_eq_false_iff_ne.mpr h]

/-- No member is found exactly when the name does not occur. -/
theorem member?_eq_none : member? members key = none ↔ key ∉ members.map (·.1) := by
  induction members with
  | nil => simp [member?]
  | cons m rest ih =>
    rw [member?_cons, List.map_cons, List.mem_cons, not_or, ← ih]
    split <;> simp_all

/-- What is found is a member. -/
theorem mem_of_member? (h : member? members key = some value) : (key, value) ∈ members := by
  obtain ⟨before, after, rfl, -⟩ := List.lookup_eq_some_iff.mp h
  exact List.mem_append_right _ List.mem_cons_self

/-- Under distinct names each member is the one found. -/
theorem member?_of_mem (hkeys : (members.map (·.1)).Nodup) (h : (key, value) ∈ members) :
    member? members key = some value := by
  induction members with
  | nil => cases h
  | cons m rest ih =>
    obtain ⟨hfirst, hrest⟩ := List.nodup_cons.mp hkeys
    rw [member?_cons]
    rcases List.mem_cons.mp h with rfl | h
    · exact if_pos rfl
    · have hne : key ≠ m.1 := by
        rintro rfl
        exact hfirst (List.mem_map.mpr ⟨_, h, rfl⟩)
      rw [if_neg hne, ih hrest h]

/-- Setting a member changes what is found under its name alone. -/
theorem member?_setMember :
    member? (setMember members key value) name =
      if name = key then some value else member? members name := by
  induction members with
  | nil => rw [setMember, member?_cons]
  | cons m rest ih =>
    rw [setMember]
    split
    · next heq =>
      subst heq
      rw [member?_cons, member?_cons]
      split <;> rfl
    · next hne =>
      rw [member?_cons, member?_cons, ih]
      split
      · next heq => rw [if_neg (heq ▸ hne)]
      · rfl

/-- The members after setting one are the new one and those there were. -/
theorem of_mem_setMember {m : String × Json} (h : m ∈ setMember members key value) :
    m = (key, value) ∨ m ∈ members := by
  induction members with
  | nil => exact .inl (List.mem_singleton.mp h)
  | cons first rest ih =>
    rw [setMember] at h
    split at h
    · next hkey =>
      rcases List.mem_cons.mp h with rfl | h
      · exact .inl (by rw [hkey])
      · exact .inr (List.mem_cons_of_mem _ h)
    · rcases List.mem_cons.mp h with rfl | h
      · exact .inr List.mem_cons_self
      · exact (ih h).imp_right (List.mem_cons_of_mem _)

/-- A key that is set anew keeps its place, a new one comes last. -/
theorem keys_setMember :
    (setMember members key value).map (·.1) =
      if key ∈ members.map (·.1) then members.map (·.1) else members.map (·.1) ++ [key] := by
  induction members with
  | nil => rfl
  | cons m rest ih =>
    rw [setMember]
    split
    · next heq => simp [heq]
    · next hne =>
      rw [List.map_cons, ih, List.map_cons]
      have hne : key ≠ m.1 := Ne.symm hne
      by_cases hmem : key ∈ rest.map (·.1)
      · rw [if_pos hmem, if_pos (List.mem_cons_of_mem _ hmem)]
      · rw [if_neg hmem, if_neg (by simp_all), List.cons_append]

/-- Setting a member never doubles a name. -/
theorem keys_setMember_nodup (h : (members.map (·.1)).Nodup) :
    ((setMember members key value).map (·.1)).Nodup := by
  rw [keys_setMember]
  split
  · exact h
  · next hnew =>
    refine List.nodup_append.mpr ⟨h, List.nodup_singleton key, fun a ha b hb => ?_⟩
    rintro rfl
    exact hnew (List.mem_singleton.mp hb ▸ ha)

/-- Members that are set one after another over others leave one or the other under every key. -/
theorem of_mem_overlay {above : List (String × Json)} {m : String × Json}
    (h : m ∈ above.foldl (fun object m => setMember object m.1 m.2) members) :
    m ∈ above ∨ m ∈ members := by
  induction above generalizing members with
  | nil => exact .inr h
  | cons first rest ih =>
    rcases ih h with hrest | hset
    · exact .inl (List.mem_cons_of_mem first hrest)
    · rcases of_mem_setMember hset with rfl | hbelow
      · exact .inl List.mem_cons_self
      · exact .inr hbelow

/-- Laying members over others never doubles a name. -/
theorem keys_overlay_nodup {above : List (String × Json)} (h : (members.map (·.1)).Nodup) :
    ((above.foldl (fun object m => setMember object m.1 m.2) members).map (·.1)).Nodup := by
  induction above generalizing members with
  | nil => exact h
  | cons first rest ih => exact ih (keys_setMember_nodup h)

/-- Erasing a member leaves those of other names. -/
theorem member?_eraseMember (h : name ≠ key) :
    member? (eraseMember members key) name = member? members name := by
  induction members with
  | nil => rfl
  | cons m rest ih =>
    rw [eraseMember, List.filter_cons, ← eraseMember]
    split
    · rw [member?_cons, member?_cons, ih]
    · next hdropped =>
      have heq : m.1 = key := by simpa using hdropped
      rw [ih, member?_cons, if_neg (heq ▸ h)]

end ObjectQuery.Json

namespace ObjectQuery

namespace Value

/-! ## Envelopes -/

variable {v : Json}

/-- An envelope is an object with its tag as the only member, around a text. -/
theorem envelope?_eq_some {tag text : String} :
    envelope? tag v = some text ↔ v = .obj [(tag, .str text)] := by
  unfold envelope?
  split
  next key text => grind
  next hother => exact ⟨nofun, fun h => (hother _ _ h).elim⟩

/-- A tagged value is a date or a decimal in its envelope. -/
theorem isTagged_iff :
    isTagged v = true ↔ ∃ tag ∈ [dateTag, decimalTag], ∃ text, v = .obj [(tag, .str text)] := by
  simp [isTagged, Option.isSome_iff_exists, envelope?_eq_some]

end Value

/-- Below null stands null, however deep. -/
theorem foldl_step_null (names : List String) : names.foldl Value.step .null = .null := by
  induction names with
  | nil => rfl
  | cons name rest ih => exact ih

end ObjectQuery
