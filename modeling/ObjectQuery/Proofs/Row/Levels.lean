import Mathlib.Algebra.Order.BigOperators.Group.List
import ObjectQuery.Proofs.Path
import ObjectQuery.Proofs.Row.Clear
import ObjectQuery.Value.Basic

/-!
# Where the values of a row are found

The object of a row is folded from its values and then cleared of missing targets. One level of it is
the subject here: what stands under a name is the cleared value for that name, or the object of the
values inside it, or null for a pointer whose target was not found. What holds along whole paths
follows level by level.
-/

namespace ObjectQuery.Row

variable {s : Schema} {level sub : Level} {entries : Placements} {name : String}
  {names : List String} {ty fieldType : FieldType} {cleared : List (String × Json)}

/-! ## Values that have a type -/

/-- The names of every value lead to a type, or are a single name without one. -/
def Walks (s : Schema) (level : Level) (entries : Placements) : Prop :=
  ∀ entry ∈ entries, (∃ ty, level.Leads s entry.1 ty) ∨
    ∃ key, entry.1 = [key] ∧ level key = none

/-- Names lead to a pointer, and there is no value for the id of its target, or null. -/
def Misses (s : Schema) (level : Level) (entries : Placements) (names : List String) : Prop :=
  (∃ target, level.Leads s names (.pointer target)) ∧
    ∀ v, (names ++ [Field.id], v) ∈ entries → v = .null

/-- Below a name its own type leads on. -/
theorem leads_cons (hname : level name = some fieldType) (hsub : levelOf? s fieldType = some sub)
    (hne : names ≠ []) : level.Leads s (name :: names) ty ↔ sub.Leads s names ty := by
  obtain ⟨next, rest, rfl⟩ := List.exists_cons_of_ne_nil hne
  rw [Level.Leads]
  simp only [hname, Option.some.injEq, exists_eq_left', typeBelow_cons, hsub]

/-- What leads on below a name has a level there. -/
theorem exists_levelOf? (h : level.Leads s (name :: names) ty) (hne : names ≠ []) :
    ∃ fieldType sub, level name = some fieldType ∧ levelOf? s fieldType = some sub := by
  obtain ⟨next, rest, rfl⟩ := List.exists_cons_of_ne_nil hne
  obtain ⟨fieldType, hname, hbelow⟩ := h
  obtain ⟨sub, hsub, -⟩ := typeBelow_cons.mp hbelow
  exact ⟨fieldType, sub, hname, hsub⟩

theorem misses_cons (hname : level name = some fieldType)
    (hsub : levelOf? s fieldType = some sub) (hne : names ≠ []) :
    Misses s level entries (name :: names) ↔ Misses s sub (inside name entries) names := by
  have hid : names ++ [Field.id] ≠ [] := List.append_ne_nil_of_right_ne_nil _ (List.cons_ne_nil _ _)
  simp only [Misses, leads_cons hname hsub hne, mem_inside, hid, ne_eq, not_false_eq_true, and_true,
    List.cons_append]

theorem Walks.inside (h : Walks s level entries) (hname : level name = some fieldType)
    (hsub : levelOf? s fieldType = some sub) : Walks s sub (inside name entries) := by
  rintro ⟨names, v⟩ hmem
  obtain ⟨hmem, hne⟩ := mem_inside.mp hmem
  rcases h _ hmem with ⟨ty, hty⟩ | ⟨key, heq, -⟩
  · exact .inl ⟨ty, (leads_cons hname hsub hne).mp hty⟩
  · exact absurd (List.cons.inj heq).2 hne

/-- Where values are inside a name, the name has a level. -/
theorem Walks.exists_levelOf? (h : Walks s level entries) (hinside : Row.inside name entries ≠ []) :
    ∃ fieldType sub, level name = some fieldType ∧ levelOf? s fieldType = some sub := by
  obtain ⟨⟨names, v⟩, hmem⟩ := List.exists_mem_of_ne_nil _ hinside
  obtain ⟨hmem, hne⟩ := mem_inside.mp hmem
  rcases h _ hmem with ⟨ty, hty⟩ | ⟨key, heq, -⟩
  · exact Row.exists_levelOf? hty hne
  · exact absurd (List.cons.inj heq).2 hne

/-- What is for the same name is the same value. -/
theorem Unnested.eq_of_mem (hfree : Unnested entries) {v w : Json} (hv : (names, v) ∈ entries)
    (hw : (names, w) ∈ entries) : v = w := by
  by_contra hne
  exact (hfree.separate hv hw fun heq => hne (Prod.mk.inj heq).2).1 (List.prefix_refl _)

/-- A target was not found if there is no value for its id, or null. -/
theorem lacksId_iff (hfree : Unnested entries) (hwalks : Walks s level entries)
    (hid : level Field.id = some (.primitive .string none)) :
    lacksId (placeAll [] entries) = true ↔ ∀ v, ([Field.id], v) ∈ entries → v = .null := by
  have hnull : ∀ {v : Json}, v.isNull = true ↔ v = .null := by
    intro v
    cases v <;> simp [Json.isNull]
  unfold lacksId
  cases hmember : Json.member? (placeAll [] entries) Field.id with
  | none =>
    refine iff_of_true rfl fun v hv => ?_
    rw [member?_placeAll_of_mem hfree hv] at hmember
    cases hmember
  | some v =>
    rw [Option.all_some, hnull]
    rcases of_member?_placeAll hfree hmember with hv | ⟨hinside, -⟩
    · exact ⟨fun heq w hw => heq ▸ hfree.eq_of_mem hw hv, fun h => h v hv⟩
    · obtain ⟨fieldType, sub, hname, hsub⟩ := hwalks.exists_levelOf? hinside
      cases hid.symm.trans hname
      cases hsub

/-! ## One level -/

/-- In every class an id is text. -/
def HasIds (s : Schema) : Prop :=
  ∀ className c, s.class? className = some c → c.field? Field.id = some (.primitive .string none)

theorem hasIds_of_ofJson {document : Json} (hs : Schema.ofJson document = .ok s) : HasIds s :=
  fun _ _ hc => Schema.field?_default_of_ofJson hs hc _ List.mem_cons_self

/-- A pointer has no value for its own id exactly if it misses its target. -/
theorem misses_singleton (hids : HasIds s) (hfree : Unnested entries)
    (hwalks : Walks s level entries) (hname : level name = some fieldType)
    (hsub : levelOf? s fieldType = some sub) :
    Misses s level entries [name] ↔ (∃ target, fieldType = .pointer target) ∧
      lacksId (placeAll [] (inside name entries)) = true := by
  have hleads : ∀ {ty}, level.Leads s [name] ty ↔ fieldType = ty := by
    intro ty
    simp [Level.Leads, hname, typeBelow]
  rw [Misses]
  simp only [hleads]
  refine and_congr_right ?_
  rintro ⟨target, rfl⟩
  obtain ⟨c, hc, rfl⟩ := Option.map_eq_some_iff.mp hsub
  rw [lacksId_iff (hfree.inside name) (hwalks.inside hname hsub) (hids _ c hc)]
  simp [mem_inside]

/-- What stands under a name after clearing: a value for the name alone is cleared by its type. -/
theorem member?_of_mem (hfree : Unnested entries)
    (hcleared : clearMembers s level (placeAll [] entries) = .ok cleared) {v : Json}
    (hmem : ([name], v) ∈ entries) :
    ∃ v', Json.member? cleared name = some v' ∧ clearMember s level name v = .ok v' :=
  member?_clearMembers hcleared (member?_placeAll_of_mem hfree hmem)

/-- A pointer that misses its target is null. -/
theorem member?_of_misses (hids : HasIds s) (hfree : Unnested entries)
    (hwalks : Walks s level entries)
    (hcleared : clearMembers s level (placeAll [] entries) = .ok cleared)
    (hinside : inside name entries ≠ []) (hmisses : Misses s level entries [name]) :
    Json.member? cleared name = some .null := by
  obtain ⟨fieldType, sub, hname, hsub⟩ := hwalks.exists_levelOf? hinside
  obtain ⟨⟨target, rfl⟩, hlacks⟩ := (misses_singleton hids hfree hwalks hname hsub).mp hmisses
  obtain ⟨v', hv', hclear⟩ :=
    member?_clearMembers hcleared (member?_placeAll_of_inside hfree hinside)
  rw [clearMember, hname] at hclear
  cases (clear_pointer_of_lacksId hlacks).symm.trans hclear
  exact hv'

/-- Otherwise the object of what is inside the name stands there, itself cleared. -/
theorem member?_of_inside (hids : HasIds s) (hfree : Unnested entries)
    (hwalks : Walks s level entries)
    (hcleared : clearMembers s level (placeAll [] entries) = .ok cleared)
    (hinside : inside name entries ≠ []) (hfound : ¬ Misses s level entries [name])
    (hname : level name = some fieldType) (hsub : levelOf? s fieldType = some sub) :
    ∃ below, Json.member? cleared name = some (.obj below) ∧
      clearMembers s sub (placeAll [] (inside name entries)) = .ok below := by
  obtain ⟨v', hv', hclear⟩ :=
    member?_clearMembers hcleared (member?_placeAll_of_inside hfree hinside)
  have hkept : ∀ target, fieldType = .pointer target →
      lacksId (placeAll [] (inside name entries)) = false := fun target hty =>
    Bool.eq_false_iff.mpr fun hlacks =>
      hfound ((misses_singleton hids hfree hwalks hname hsub).mpr ⟨⟨target, hty⟩, hlacks⟩)
  rw [clearMember, hname] at hclear
  obtain ⟨below, hbelow, rfl⟩ :=
    Result.map_eq_ok.mp ((clear_obj hsub hkept).symm.trans hclear)
  exact ⟨below, hv', hbelow⟩

/-! ## Along a path -/

/-- Below null everything is null. -/
theorem step_obj {members : List (String × Json)} {v : Json}
    (h : Json.member? members name = some v) : Value.step (.obj members) name = v := by
  rw [Value.step, h]
  rfl

/-- Below a pointer that misses its target everything is null. -/
theorem value_of_misses (hids : HasIds s) (hfree : Unnested entries)
    (hwalks : Walks s level entries)
    (hcleared : clearMembers s level (placeAll [] entries) = .ok cleared) {front back : List String}
    {v : Json} (hmem : (front ++ back, v) ∈ entries) (hback : back ≠ [])
    (hmisses : Misses s level entries front) :
    front.foldl Value.step (.obj cleared) = .null := by
  induction front generalizing level entries cleared with
  | nil => exact hmisses.1.elim fun _ h => h.elim
  | cons name rest ih =>
    have hne : rest ++ back ≠ [] := List.append_ne_nil_of_right_ne_nil _ hback
    have hmem : (rest ++ back, v) ∈ inside name entries := mem_inside.mpr ⟨hmem, hne⟩
    have hinside : inside name entries ≠ [] := List.ne_nil_of_mem hmem
    rw [List.foldl_cons]
    by_cases hhere : Misses s level entries [name]
    · rw [step_obj (member?_of_misses hids hfree hwalks hcleared hinside hhere), foldl_step_null]
    · obtain ⟨fieldType, sub, hname, hsub⟩ := hwalks.exists_levelOf? hinside
      obtain ⟨below, hmember, hbelow⟩ :=
        member?_of_inside hids hfree hwalks hcleared hinside hhere hname hsub
      have hrest : rest ≠ [] := by
        rintro rfl
        exact hhere hmisses
      rw [step_obj hmember]
      exact ih (hfree.inside name) (hwalks.inside hname hsub) hbelow hmem
        ((misses_cons hname hsub hrest).mp hmisses)

/-- Where no pointer on the way misses its target, the value is found, cleared by its type. -/
theorem value_of_found (hids : HasIds s) (hfree : Unnested entries)
    (hwalks : Walks s level entries)
    (hcleared : clearMembers s level (placeAll [] entries) = .ok cleared) {v : Json}
    (hmem : (names, v) ∈ entries) (hty : level.Leads s names ty)
    (hfound : ∀ front back, names = front ++ back → back ≠ [] → ¬ Misses s level entries front) :
    clear s ty v = .ok (names.foldl Value.step (.obj cleared)) := by
  induction names generalizing level entries cleared with
  | nil => exact hty.elim
  | cons name rest ih =>
    rw [List.foldl_cons]
    by_cases hrest : rest = []
    · subst hrest
      obtain ⟨fieldType, hname, hbelow⟩ := hty
      obtain ⟨v', hmember, hclear⟩ := member?_of_mem hfree hcleared hmem
      rw [typeBelow, Except.ok.injEq] at hbelow
      rw [clearMember, hname, hbelow] at hclear
      rw [step_obj hmember, List.foldl_nil]
      exact hclear
    · have hmem : (rest, v) ∈ inside name entries := mem_inside.mpr ⟨hmem, hrest⟩
      have hinside : inside name entries ≠ [] := List.ne_nil_of_mem hmem
      obtain ⟨fieldType, sub, hname, hsub⟩ := hwalks.exists_levelOf? hinside
      obtain ⟨below, hmember, hbelow⟩ := member?_of_inside hids hfree hwalks hcleared hinside
        (hfound [name] rest rfl hrest) hname hsub
      rw [step_obj hmember]
      refine ih (hfree.inside name) (hwalks.inside hname hsub) hbelow hmem
        ((leads_cons hname hsub hrest).mp hty) fun front back heq hback hmisses => ?_
      have hfront : front ≠ [] := by
        rintro rfl
        exact hmisses.1.elim fun _ h => h.elim
      exact hfound (name :: front) back (by rw [heq]; rfl) hback
        ((misses_cons hname hsub hfront).mpr hmisses)

/-! ## Nothing else -/

/-- What stands at names below a value, if anything does. -/
def standsAt? (v : Json) : List String → Option Json
  | [] => some v
  | name :: rest => (Json.get? v name).bind (standsAt? · rest)

/-- Whatever stands in the object leads to a value of the row, or is a part of one. -/
theorem of_standsAt? (hids : HasIds s) (hfree : Unnested entries)
    (hwalks : Walks s level entries)
    (hcleared : clearMembers s level (placeAll [] entries) = .ok cleared) (hne : names ≠ [])
    {v : Json} (h : standsAt? (.obj cleared) names = some v) :
    ∃ entry ∈ entries, entry.1 <+: names ∨ names <+: entry.1 := by
  induction names generalizing level entries cleared with
  | nil => exact absurd rfl hne
  | cons name rest ih =>
    obtain ⟨v', hmember, hstands⟩ := Option.bind_eq_some_iff.mp h
    obtain ⟨v, hplaced, -⟩ := of_member?_clearMembers hcleared hmember
    rcases of_member?_placeAll hfree hplaced with hmem | ⟨hinside, rfl⟩
    · exact ⟨_, hmem, .inl ⟨rest, rfl⟩⟩
    · by_cases hrest : rest = []
      · subst hrest
        obtain ⟨⟨names, v⟩, hmem⟩ := List.exists_mem_of_ne_nil _ hinside
        exact ⟨_, (mem_inside.mp hmem).1, .inr ⟨names, rfl⟩⟩
      · by_cases hhere : Misses s level entries [name]
        · have hnull := member?_of_misses hids hfree hwalks hcleared hinside hhere
          cases hnull.symm.trans hmember
          obtain ⟨next, rest, rfl⟩ := List.exists_cons_of_ne_nil hrest
          cases hstands
        · obtain ⟨fieldType, sub, hname, hsub⟩ := hwalks.exists_levelOf? hinside
          obtain ⟨below, hbelow, hclear⟩ :=
            member?_of_inside hids hfree hwalks hcleared hinside hhere hname hsub
          cases hbelow.symm.trans hmember
          obtain ⟨⟨found, w⟩, hmem, hrelated⟩ :=
            ih (hfree.inside name) (hwalks.inside hname hsub) hclear hrest hstands
          refine ⟨_, (mem_inside.mp hmem).1, hrelated.imp ?_ ?_⟩ <;>
            exact (List.prefix_cons_inj name).mpr

/-! ## The order of the values -/

/-- The same value up to the order of the members of its objects. -/
inductive Reordered : Json → Json → Prop
  | refl (v : Json) : Reordered v v
  | obj {members others : List (String × Json)} :
      (members.map (·.1)).Perm (others.map (·.1)) →
      (∀ name v w, Json.member? members name = some v → Json.member? others name = some w →
        Reordered v w) →
      Reordered (.obj members) (.obj others)

/-- A key is there for a value of its own or for those inside it. -/
theorem mem_keys_placeAll (hfree : Unnested entries) :
    name ∈ (placeAll [] entries).map (·.1) ↔
      (∃ v, ([name], v) ∈ entries) ∨ inside name entries ≠ [] := by
  rw [← not_iff_not, ← Json.member?_eq_none, Option.eq_none_iff_forall_ne_some, not_or]
  constructor
  · intro hnone
    refine ⟨?_, fun hinside => hnone _ (member?_placeAll_of_inside hfree hinside)⟩
    rintro ⟨v, hmem⟩
    exact hnone v (member?_placeAll_of_mem hfree hmem)
  · rintro ⟨halone, hinside⟩ v hmember
    rcases of_member?_placeAll hfree hmember with hmem | ⟨hne, -⟩
    · exact halone ⟨v, hmem⟩
    · exact hinside hne

theorem inside_eq_nil_of_perm {others : Placements} (hperm : entries.Perm others) :
    inside name entries = [] ↔ inside name others = [] := by
  have hlength := (hperm.filterMap fun e => (restOf? name e.1).map (·, e.2)).length_eq
  rw [← List.length_eq_zero_iff, ← List.length_eq_zero_iff, inside, inside, hlength]

theorem Misses.of_perm {others : Placements} (hperm : entries.Perm others)
    (h : Misses s level entries names) : Misses s level others names :=
  ⟨h.1, fun v hmem => h.2 v (hperm.mem_iff.mpr hmem)⟩

/-- The order of the values shows in the order of the members only. -/
theorem reordered_of_perm (hids : HasIds s) {others : Placements} (hperm : entries.Perm others)
    (hfree : Unnested entries) (hwalks : Walks s level entries)
    (hcleared : clearMembers s level (placeAll [] entries) = .ok cleared)
    {cleared' : List (String × Json)}
    (hcleared' : clearMembers s level (placeAll [] others) = .ok cleared') :
    Reordered (.obj cleared) (.obj cleared') := by
  -- The names that are left get shorter from level to level.
  obtain ⟨depth, hdepth⟩ : ∃ depth, ∀ entry ∈ entries, entry.1.length ≤ depth :=
    ⟨_, fun entry hmem => List.le_sum_of_mem (List.mem_map_of_mem (f := (·.1.length)) hmem)⟩
  induction depth generalizing level entries others cleared cleared' with
  | zero =>
    cases entries with
    | nil =>
      obtain rfl := hperm.nil_eq
      cases hcleared.symm.trans hcleared'
      exact .refl _
    | cons entry rest =>
      have hnil := List.length_eq_zero_iff.mp (Nat.le_zero.mp (hdepth entry List.mem_cons_self))
      rcases hwalks entry List.mem_cons_self with ⟨ty, hty⟩ | ⟨key, hkey, -⟩
      · exact (hnil ▸ hty : level.Leads s [] ty).elim
      · cases hnil.symm.trans hkey
  | succ depth ih =>
    have hfree' : Unnested others := (hperm.pairwise_iff Separate.symm).mp hfree
    have hwalks' : Walks s level others := fun entry hmem => hwalks entry (hperm.mem_iff.mpr hmem)
    refine .obj ?_ fun name v w hv hw => ?_
    · rw [keys_clearMembers hcleared, keys_clearMembers hcleared']
      refine (List.perm_ext_iff_of_nodup keys_folded_nodup keys_folded_nodup).mpr fun name => ?_
      simp only [mem_keys_placeAll hfree, mem_keys_placeAll hfree', hperm.mem_iff, ne_eq,
        inside_eq_nil_of_perm hperm]
    · obtain ⟨v₀, hplaced, -⟩ := of_member?_clearMembers hcleared hv
      rcases of_member?_placeAll hfree hplaced with hmem | ⟨hinside, -⟩
      · obtain ⟨v', hv', hclear⟩ := member?_of_mem hfree hcleared hmem
        obtain ⟨w', hw', hclear'⟩ := member?_of_mem hfree' hcleared' (hperm.mem_iff.mp hmem)
        cases hv'.symm.trans hv
        cases hw'.symm.trans hw
        cases hclear.symm.trans hclear'
        exact .refl _
      · have hperm' : (inside name entries).Perm (inside name others) := hperm.filterMap _
        have hinside' : inside name others ≠ [] := fun heq => hinside (heq ▸ hperm').eq_nil
        obtain ⟨fieldType, sub, hname, hsub⟩ := hwalks.exists_levelOf? hinside
        by_cases hhere : Misses s level entries [name]
        · cases (member?_of_misses hids hfree hwalks hcleared hinside hhere).symm.trans hv
          cases (member?_of_misses hids hfree' hwalks' hcleared' hinside'
            (hhere.of_perm hperm)).symm.trans hw
          exact .refl _
        · obtain ⟨below, hbelow, hclear⟩ :=
            member?_of_inside hids hfree hwalks hcleared hinside hhere hname hsub
          obtain ⟨below', hbelow', hclear'⟩ :=
            member?_of_inside hids hfree' hwalks' hcleared' hinside'
              (mt (Misses.of_perm hperm.symm) hhere) hname hsub
          cases hbelow.symm.trans hv
          cases hbelow'.symm.trans hw
          refine ih hperm' (hfree.inside name) (hwalks.inside hname hsub) hclear hclear' ?_
          rintro ⟨names, v⟩ hmem
          exact Nat.le_of_succ_le_succ (hdepth _ (mem_inside.mp hmem).1)

end ObjectQuery.Row
