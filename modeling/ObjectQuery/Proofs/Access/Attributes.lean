import ObjectQuery.Access.Attributes
import ObjectQuery.Proofs.Access.Coverage
import ObjectQuery.Proofs.Access.Depth

/-!
# What may be written

Most of what is asked of an attribute is the same for every mutation: only an id is an object's from
its creation on, and each action on a field has its own access list.
-/

namespace ObjectQuery.Gate

variable {g : Gate} {className : String} {c : Class} {action : FieldAction}

/-- What is asked of a key to write whatever the action. -/
structure Writable (g : Gate) (className : String) (c : Class) (key : String) : Prop where
  field : ∃ ty, c.field? (keyHead key) = some ty ∧ ty.isDerived = false
  stored : isReadOnly (keyHead key) = false
  seen : g.hides c (keyHead key) = false
  resolves : key = keyHead key ∨ ∃ column, g.schema.column className key = .ok column

theorem authorizeField_ok_iff {field : String} {u : Unit} :
    g.authorizeField className c field action = .ok u ↔
      g.hides c field = false ∧ g.grants c field action = true := by
  unfold authorizeField
  cases g.hides c field <;> cases g.grants c field action <;> simp

theorem checkAttribute_eq_ok {entry : String × Json} :
    g.checkAttribute className c action entry = .ok () ↔
      entry.2.depth ≤ g.maxDepth ∧ g.Writable className c entry.1 ∧
        (keyHead entry.1 = Field.id → action = .create) ∧
        g.grants c (keyHead entry.1) action = true := by
  obtain ⟨key, value⟩ := entry
  unfold checkAttribute
  simp only [Result.bind_eq_ok, Result.refuse_eq_ok, DepthGuard.check_eq_ok, fieldOf_eq_ok,
    authorizeField_ok_iff]
  have hid : ¬(keyHead key = Field.id ∧ action ≠ .create) ↔
      (keyHead key = Field.id → action = .create) := by
    rw [not_and, not_not]
  have hcolumn : (if key ≠ keyHead key then do
        let _ ← g.schema.column className key
        pure ()
      else pure () : Result Unit) = .ok () ↔
      (key = keyHead key ∨ ∃ column, g.schema.column className key = .ok column) := by
    by_cases hkey : key = keyHead key
    · rw [if_neg (not_not.mpr hkey)]
      exact iff_of_true rfl (.inl hkey)
    · rw [if_pos hkey]
      simp only [Result.bind_eq_ok, Result.pure_eq_ok, hkey, false_or, and_true]
  constructor
  · rintro ⟨_, hfits, ty, hfield, hstored, himmutable, hderived, _, ⟨hseen, hgrants⟩, hresolves⟩
    exact ⟨hfits, ⟨⟨ty, hfield, by simpa using hderived⟩, by simpa using hstored, hseen,
      hcolumn.mp hresolves⟩, hid.mp himmutable, hgrants⟩
  · rintro ⟨hfits, ⟨⟨ty, hfield, hderived⟩, hstored, hseen, hresolves⟩, himmutable, hgrants⟩
    exact ⟨(), hfits, ty, hfield, by simpa using hstored, hid.mpr himmutable,
      by simpa using hderived, (), ⟨hseen, hgrants⟩, hcolumn.mpr hresolves⟩

theorem checkAttributes_eq_ok {attributes : List (String × Json)} :
    g.checkAttributes className attributes action = .ok () ↔
      ∃ c, g.schema.class? className = some c ∧
        ∀ entry ∈ attributes, g.checkAttribute className c action entry = .ok () := by
  simp only [checkAttributes, Result.bind_eq_ok, Schema.getClass_eq_ok, Result.forM_eq_ok]

end ObjectQuery.Gate
