import ObjectQuery.Filter
import ObjectQuery.Proofs.Json
import ObjectQuery.Proofs.Result

/-!
# What filters can be read

One lemma for each reader says what it has read when it did not fail. From them follows that a
filter that was read has items below every connective but a conjunction.
-/

namespace ObjectQuery

/-! ## Readers -/

theorem Filter.decodeItems_ok {allowSelf : Bool} {items : List Json} {fs : List Filter}
    (h : Filter.decodeItems allowSelf items = .ok fs) :
    fs.length = items.length ∧ ∀ f ∈ fs, ∃ x ∈ items, Filter.decode allowSelf x = .ok f := by
  induction items generalizing fs with
  | nil => cases h; simp
  | cons x rest ih =>
    rw [Filter.decodeItems] at h
    split at h
    · next f hf =>
      obtain ⟨tail, htail, rfl⟩ := Result.map_eq_ok.mp h
      obtain ⟨hlength, hmem⟩ := ih htail
      refine ⟨congrArg (· + 1) hlength, List.forall_mem_cons.mpr ⟨?_, fun g hg => ?_⟩⟩
      · exact ⟨x, List.mem_cons_self, hf⟩
      · obtain ⟨y, hy, hread⟩ := hmem g hg
        exact ⟨y, List.mem_cons_of_mem x hy, hread⟩
    · cases h

theorem Filter.decodeMembers_ok {allowSelf : Bool} {members : List (String × Json)}
    {fs : List Filter} (h : Filter.decodeMembers allowSelf members = .ok fs) :
    ∀ f ∈ fs, ∃ m ∈ members, Filter.decodeMember allowSelf m = .ok f := by
  induction members generalizing fs with
  | nil => cases h; simp
  | cons m rest ih =>
    rw [Filter.decodeMembers] at h
    split at h
    · next f hf =>
      obtain ⟨tail, htail, rfl⟩ := Result.map_eq_ok.mp h
      refine List.forall_mem_cons.mpr ⟨⟨m, List.mem_cons_self, hf⟩, fun g hg => ?_⟩
      obtain ⟨n, hn, hread⟩ := ih htail g hg
      exact ⟨n, List.mem_cons_of_mem m hn, hread⟩
    · cases h

/-- A filter is read from a list or from members; one that is the only member stands alone. -/
theorem Filter.decode_ok {allowSelf : Bool} {raw : Json} {f : Filter}
    (h : Filter.decode allowSelf raw = .ok f) :
    (∃ items fs, raw = .arr items ∧ Filter.decodeItems allowSelf items = .ok fs ∧
      f = .connective .and fs) ∨
    ∃ members fs, raw = .obj members ∧ Filter.decodeMembers allowSelf members = .ok fs ∧
      (fs = [f] ∨ f = .connective .and fs) := by
  cases raw with
  | arr items =>
    obtain ⟨fs, hfs, rfl⟩ := Result.map_eq_ok.mp h
    exact .inl ⟨items, fs, rfl, hfs, rfl⟩
  | obj members =>
    rw [Filter.decode] at h
    split at h
    · cases h
    · next part hpart =>
      cases h
      exact .inr ⟨members, [f], rfl, hpart, .inl rfl⟩
    · next parts _ hparts =>
      cases h
      exact .inr ⟨members, parts, rfl, hparts, .inr rfl⟩
  | null | bool _ | num _ | str _ => cases h

/-- A member holds a connective, an expression that yields truth values, or the test of a field. -/
theorem Filter.decodeMember_ok {allowSelf : Bool} {name : String} {operand : Json} {f : Filter}
    (h : Filter.decodeMember allowSelf (name, operand) = .ok f) :
    (∃ op items fs, operand = .arr items ∧ (op = .and ∨ items ≠ []) ∧
      Filter.decodeItems allowSelf items = .ok fs ∧ f = .connective op fs) ∨
    (∃ e, Expr.decode operand = .ok e ∧ e.isBoolean = true ∧ f = .expr e) ∨
    ∃ t, FieldTest.decode operand = .ok t ∧ f = .field name t := by
  rw [Filter.decodeMember] at h
  split at h
  · next op _ =>
    cases operand with
    | arr items =>
      rw [Filter.decodeConnective] at h
      split at h
      · cases h
      · next hop =>
        obtain ⟨fs, hfs, rfl⟩ := Result.map_eq_ok.mp h
        refine .inl ⟨op, items, fs, rfl, ?_, hfs, rfl⟩
        cases items <;> simp_all
    | null | bool _ | num _ | str _ | obj _ => cases h
  · split at h
    · split at h
      · cases h
      · next e he =>
        split at h
        · next hb => cases h; exact .inr (.inl ⟨e, he, hb, rfl⟩)
        · cases h
    · split at h
      · obtain ⟨t, ht, rfl⟩ := Result.map_eq_ok.mp h
        exact .inr (.inr ⟨t, ht, rfl⟩)
      · split at h
        · cases h
        · obtain ⟨t, ht, rfl⟩ := Result.map_eq_ok.mp h
          exact .inr (.inr ⟨t, ht, rfl⟩)

/-- A test without another test or filter inside. -/
def FieldTest.isPlain : FieldTest → Bool
  | .not _ | .every _ | .any _ => false
  | _ => true

/-- An operator's test is plain, negates a test, or holds a filter for elements. -/
theorem FieldTest.decodeOperator_ok {name : String} {operand : Json} {t : FieldTest}
    (h : FieldTest.decodeOperator (name, operand) = .ok t) :
    t.isPlain = true ∨ (∃ u, FieldTest.decode operand = .ok u ∧ t = .not u) ∨
      ∃ f, Filter.decode true operand = .ok f ∧ (t = .every f ∨ t = .any f) := by
  have list : ∀ {build : List Json → FieldTest}, (∀ l, (build l).isPlain = true) →
      FieldTest.decodeList name build operand = .ok t → t.isPlain = true := by
    intro build hbuild h
    cases operand <;> cases h
    exact hbuild _
  have string : ∀ {build : String → FieldTest}, (∀ s, (build s).isPlain = true) →
      FieldTest.decodeString name build operand = .ok t → t.isPlain = true := by
    intro build hbuild h
    cases operand <;> cases h
    exact hbuild _
  rw [FieldTest.decodeOperator] at h
  split at h
  · cases h; exact .inl rfl
  iterate 5
    rcases Result.of_ite_eq_ok h with h | h
    · exact .inl (list (fun _ => rfl) h)
  rcases Result.of_ite_eq_ok h with h | h
  · obtain ⟨u, hu, rfl⟩ := Result.map_eq_ok.mp h
    exact .inr (.inl ⟨u, hu, rfl⟩)
  rcases Result.of_ite_eq_ok h with h | h
  · unfold FieldTest.decodePattern at h
    split at h
    · cases h
    · split at h <;> cases h
      exact .inl rfl
  iterate 2
    rcases Result.of_ite_eq_ok h with h | h
    · exact .inl (string (fun _ => rfl) h)
  iterate 2
    rcases Result.of_ite_eq_ok h with h | h
    · split at h <;> cases h
      exact .inl rfl
  rcases Result.of_ite_eq_ok h with h | h
  · obtain ⟨f, hf, rfl⟩ := Result.map_eq_ok.mp h
    exact .inr (.inr ⟨f, hf, .inl rfl⟩)
  rcases Result.of_ite_eq_ok h with h | h
  · obtain ⟨f, hf, rfl⟩ := Result.map_eq_ok.mp h
    exact .inr (.inr ⟨f, hf, .inr rfl⟩)
  · cases h

/-- A test is an equality, or is read from the one operator of an object. -/
theorem FieldTest.decode_ok {raw : Json} {t : FieldTest} (h : FieldTest.decode raw = .ok t) :
    t = .compare .eq raw ∨
      ∃ name operand, raw = .obj [(name, operand)] ∧
        FieldTest.decodeOperator (name, operand) = .ok t := by
  unfold FieldTest.decode at h
  split at h
  · next member =>
    split at h
    · exact .inr ⟨member.1, member.2, rfl, h⟩
    · cases h; exact .inl rfl
  · split at h <;> cases h
    exact .inl rfl
  · cases h; exact .inl rfl

/-! ## Well-formed filters -/

mutual

/-- Every connective but a conjunction has items. -/
def Filter.WellFormed : Filter → Prop
  | .connective op items => (op = .and ∨ items ≠ []) ∧ Filter.ItemsWellFormed items
  | .field _ test => test.WellFormed
  | .expr _ => True

def Filter.ItemsWellFormed : List Filter → Prop
  | [] => True
  | f :: fs => f.WellFormed ∧ Filter.ItemsWellFormed fs

def FieldTest.WellFormed : FieldTest → Prop
  | .every f | .any f => f.WellFormed
  | .not t => t.WellFormed
  | _ => True

end

theorem Filter.itemsWellFormed_iff {items : List Filter} :
    Filter.ItemsWellFormed items ↔ ∀ f ∈ items, f.WellFormed := by
  induction items with
  | nil => simp [Filter.ItemsWellFormed]
  | cons f rest ih => simp [Filter.ItemsWellFormed, ih]

theorem FieldTest.WellFormed.of_isPlain {t : FieldTest} (h : t.isPlain = true) : t.WellFormed := by
  cases t <;> trivial

/-- Whatever filter and whatever test is read from a value, it is well formed. -/
def ReadsWellFormed (raw : Json) : Prop :=
  (∀ allowSelf f, Filter.decode allowSelf raw = .ok f → f.WellFormed) ∧
    ∀ t, FieldTest.decode raw = .ok t → t.WellFormed

namespace ReadsWellFormed

theorem operator {name : String} {operand : Json} {t : FieldTest} (ih : ReadsWellFormed operand)
    (h : FieldTest.decodeOperator (name, operand) = .ok t) : t.WellFormed := by
  rcases FieldTest.decodeOperator_ok h with hp | ⟨u, hu, rfl⟩ | ⟨f, hf, rfl | rfl⟩
  · exact .of_isPlain hp
  · exact ih.2 u hu
  · exact ih.1 true f hf
  · exact ih.1 true f hf

theorem items {allowSelf : Bool} {items : List Json} {fs : List Filter}
    (ih : ∀ x ∈ items, ReadsWellFormed x) (h : Filter.decodeItems allowSelf items = .ok fs) :
    Filter.ItemsWellFormed fs := by
  refine Filter.itemsWellFormed_iff.mpr fun f hf => ?_
  obtain ⟨x, hx, hread⟩ := (Filter.decodeItems_ok h).2 f hf
  exact (ih x hx).1 allowSelf f hread

theorem member {allowSelf : Bool} {name : String} {operand : Json} {f : Filter}
    (ih : ReadsWellFormed operand) (h : Filter.decodeMember allowSelf (name, operand) = .ok f) :
    f.WellFormed := by
  rcases Filter.decodeMember_ok h with
    ⟨op, items, fs, rfl, hop, hfs, rfl⟩ | ⟨e, _, _, rfl⟩ | ⟨t, ht, rfl⟩
  · -- The same items are read as those of a conjunction, for which the hypothesis is.
    have hall := ih.1 allowSelf (.connective .and fs) (Result.map_eq_ok.mpr ⟨fs, hfs, rfl⟩)
    have hlength := (Filter.decodeItems_ok hfs).1
    refine ⟨hop.imp_right fun hne hnil => hne ?_, hall.2⟩
    rwa [hnil, List.length_nil, eq_comm, List.length_eq_zero_iff] at hlength
  · trivial
  · exact ih.2 t ht

end ReadsWellFormed

/-- What was read is well formed, by induction on the request. -/
theorem readsWellFormed (raw : Json) : ReadsWellFormed raw := by
  induction raw using Json.nested_induction with
  | null | bool _ | num _ | str _ =>
    constructor
    · intro _ _ h
      cases h
    · intro _ h
      cases h
      trivial
  | arr items ih =>
    constructor
    · intro allowSelf f h
      obtain ⟨fs, hfs, rfl⟩ := Result.map_eq_ok.mp h
      exact ⟨.inl rfl, ReadsWellFormed.items ih hfs⟩
    · intro _ h
      cases h
      trivial
  | obj members ih =>
    constructor
    · intro allowSelf f h
      rcases Filter.decode_ok h with ⟨_, _, hraw, _, _⟩ | ⟨_, fs, hraw, hfs, hf⟩
      · cases hraw
      · cases hraw
        have hwf : ∀ g ∈ fs, g.WellFormed := by
          intro g hg
          obtain ⟨m, hm, hread⟩ := Filter.decodeMembers_ok hfs g hg
          exact (ih m hm).member hread
        rcases hf with rfl | rfl
        · exact hwf f List.mem_cons_self
        · exact ⟨.inl rfl, Filter.itemsWellFormed_iff.mpr hwf⟩
    · intro t h
      rcases FieldTest.decode_ok h with rfl | ⟨name, operand, hraw, hop⟩
      · trivial
      · cases hraw
        exact (ih (name, operand) List.mem_cons_self).operator hop

theorem Filter.wellFormed_of_decode {allowSelf : Bool} {raw : Json} {f : Filter}
    (h : Filter.decode allowSelf raw = .ok f) : f.WellFormed :=
  (readsWellFormed raw).1 allowSelf f h

end ObjectQuery
