import ObjectQuery.Proofs.Columns.Routes

/-!
# Chains of foreign fields

A derived relation is found through a field of the class it leads to, which may be derived in turn. So
each field has a chain: the fields that one gets to from it, hop by hop, along foreign fields. In an
accepted schema a chain goes to and fro between two classes, and either it ends on a field that is
stored, or it comes back to a field it has been at.

Membership follows the chain with the fields seen so far at hand. It is refused exactly where the chain
comes back; elsewhere the stored field at the end decides, read on the side that the number of hops
leads to and compared with the token of the other.
-/

namespace ObjectQuery

/-- The type of the field that decides: it stores tokens of the class of the other side. -/
def Holding.fieldType : Holding → FieldType
  | pointer _ _ other => .pointer other.className
  | tokens _ _ other => .relation other.className none

namespace Schema

/-- The field of the other class that a derived relation is found through. -/
def foreign? (s : Schema) (key : String × String) : Option (String × String) :=
  match s.field? key.1 key.2 with
  | some (.relation target (some foreign)) => some (target, foreign)
  | _ => none

/-- The field that a number of hops along foreign fields lead to. -/
def hop? (s : Schema) : Nat → String × String → Option (String × String)
  | 0, key => some key
  | n + 1, key => (s.foreign? key).bind (s.hop? n)

/-- Foreign fields lead back to where they have been. -/
def Revisits (s : Schema) (key : String × String) : Prop :=
  ∃ i j, i < j ∧ (s.hop? j key).isSome = true ∧ s.hop? i key = s.hop? j key

variable {s : Schema} {key : String × String} {i j n : Nat}

theorem hop?_add (i j : Nat) (key : String × String) :
    s.hop? (i + j) key = (s.hop? i key).bind (s.hop? j) := by
  induction i generalizing key with
  | zero => simp [hop?]
  | succ i ih =>
    rw [Nat.succ_add, hop?, hop?, Option.bind_assoc]
    exact congrArg _ (funext fun next => ih next)

/-- A chain that has come to some place has come to every place before. -/
theorem isSome_hop?_of_le (h : (s.hop? n key).isSome = true) (hle : i ≤ n) :
    (s.hop? i key).isSome = true := by
  obtain ⟨rest, rfl⟩ := Nat.exists_eq_add_of_le hle
  rw [hop?_add] at h
  cases hi : s.hop? i key with
  | none => rw [hi] at h; cases h
  | some _ => rfl

/-- A chain that ends does not come back to where it has been. -/
theorem not_revisits_of_end (hn : (s.hop? n key).isSome = true) (hend : s.hop? (n + 1) key = none) :
    ¬s.Revisits key := by
  rintro ⟨i, j, hij, hj, hsame⟩
  have hjn : j ≤ n := by
    by_contra hlt
    have hnext := isSome_hop?_of_le hj (show n + 1 ≤ j by omega)
    rw [hend] at hnext
    cases hnext
  -- what follows the later of the two places is the end, and follows the earlier one as well
  have hearly : s.hop? (i + (n + 1 - j)) key = s.hop? (j + (n + 1 - j)) key := by
    rw [hop?_add, hop?_add, hsame]
  rw [show j + (n + 1 - j) = n + 1 by omega, hend] at hearly
  have hbefore := isSome_hop?_of_le hn (show i + (n + 1 - j) ≤ n by omega)
  rw [hearly] at hbefore
  cases hbefore

/-! ## What membership follows -/

variable {owner member : Target} {field : String} {seen : List (String × String)}

/-- The side that a number of hops from the owner leads to. -/
def sideAfter (n : Nat) (owner member : Target) : Target :=
  if n % 2 = 0 then owner else member

theorem sideAfter_succ (n : Nat) (owner member : Target) :
    sideAfter (n + 1) owner member = sideAfter n member owner := by
  unfold sideAfter
  split <;> split <;> first | rfl | omega

/-- The end of a chain: a stored field, on the side it has been followed to. -/
structure EndsOn (s : Schema) (owner : Target) (field : String) (member : Target) (n : Nat)
    (decides : Holding) : Prop where
  reached : s.hop? n (owner.className, field) = some (decides.holder.className, decides.column)
  stored : s.field? decides.holder.className decides.column = some decides.fieldType
  holder : decides.holder = sideAfter n owner member
  other : decides.other = sideAfter n member owner

/-- Behind a derived relation a chain goes on with the foreign field. -/
theorem hop?_succ {target foreign : String}
    (h : s.field? key.1 key.2 = some (.relation target (some foreign))) (n : Nat) :
    s.hop? (n + 1) key = s.hop? n (target, foreign) := by
  rw [hop?, foreign?, h, Option.bind_some]

/-- A chain is one hop longer than that of the field it goes on with, whose sides are swapped. -/
theorem EndsOn.hop {foreign : String} {decides : Holding}
    (hfield : s.field? owner.className field = some (.relation member.className (some foreign)))
    (h : s.EndsOn member foreign owner n decides) : s.EndsOn owner field member (n + 1) decides where
  reached := (hop?_succ hfield n).trans h.reached
  stored := h.stored
  holder := by rw [sideAfter_succ, h.holder]
  other := by rw [sideAfter_succ, h.other]

theorem endsOn_pointer (h : s.field? owner.className field = some (.pointer member.className)) :
    s.EndsOn owner field member 0 (.pointer owner field member) := ⟨rfl, h, rfl, rfl⟩

theorem endsOn_tokens (h : s.field? owner.className field = some (.relation member.className none)) :
    s.EndsOn owner field member 0 (.tokens owner field member) := ⟨rfl, h, rfl, rfl⟩

theorem mem_unseen (hnew : key ∉ seen) (hmem : key ∈ s.allFields) : 0 < (s.unseen seen).length :=
  List.length_pos_of_mem (List.mem_filter.mpr ⟨hmem, decide_eq_true hnew⟩)

/-- What membership is decided by is the end of the chain. -/
theorem endsOn_of_holding (hs : s.Accepted) {decides : Holding}
    (hmember : ∀ ty, s.field? owner.className field = some ty → ty.target? = some member.className)
    (h : s.holding owner field member seen = .ok decides) :
    ∃ n ≤ (s.unseen seen).length, s.EndsOn owner field member n decides := by
  fun_induction holding s owner field member seen with
  | case3 owner field member _ _ _ _ target hfield =>
    cases h
    obtain rfl : target = member.className := Option.some.inj (hmember _ hfield)
    exact ⟨0, Nat.zero_le _, endsOn_pointer hfield⟩
  | case4 owner field member _ _ _ _ target hfield =>
    cases h
    obtain rfl : target = member.className := Option.some.inj (hmember _ hfield)
    exact ⟨0, Nat.zero_le _, endsOn_tokens hfield⟩
  | case6 owner field member _ _ hnew _ target foreign hfield _ _ back hforeign _ =>
    cases h
    obtain rfl : target = member.className := Option.some.inj (hmember _ hfield)
    obtain rfl : back = owner.className := Option.some.inj (hs.foreign_refers hfield hforeign)
    exact ⟨1, mem_unseen hnew (mem_allFields hfield), (endsOn_pointer hforeign).hop hfield⟩
  | case7 owner field member _ _ hnew _ target foreign hfield _ _ back hforeign _ =>
    cases h
    obtain rfl : target = member.className := Option.some.inj (hmember _ hfield)
    obtain rfl : back = owner.className := Option.some.inj (hs.foreign_refers hfield hforeign)
    exact ⟨1, mem_unseen hnew (mem_allFields hfield), (endsOn_tokens hforeign).hop hfield⟩
  | case8 owner field member _ _ hnew _ target foreign hfield _ _ _ _ _ hforeign ih =>
    obtain rfl : target = member.className := Option.some.inj (hmember _ hfield)
    obtain ⟨n, hn, hend⟩ := ih (fun ty hty => hs.foreign_refers hfield hty) h
    have hfewer := unseen_cons_lt hnew (mem_allFields hfield)
    exact ⟨n + 1, by omega, hend.hop hfield⟩
  | case1 | case2 | case5 | case9 | case10 => cases h

theorem getClass_ne_error {className name : String} {ty : FieldType}
    (h : s.field? className name = some ty) (e : Error) : s.getClass className ≠ .error e := by
  obtain ⟨c, hc, -⟩ := field?_eq_some.mp h
  rw [getClass_eq_ok.mpr hc]
  intro h
  cases h

/-- A foreign field is there, and it refers back to the class of the relation. -/
theorem Accepted.exists_foreign (hs : s.Accepted) {className name target foreign : String}
    (h : s.field? className name = some (.relation target (some foreign))) :
    ∃ ty, s.field? target foreign = some ty ∧ ty.target? = some className := by
  obtain ⟨c, hc, hf⟩ := field?_eq_some.mp h
  obtain ⟨-, hty⟩ := checkClass_ok (hs.checked className c (Table.mem_of_find?_eq_some hc)) _
    (Table.mem_of_find?_eq_some hf)
  cases hrelated : s.getClass target with
  | error e =>
    simp only [checkType, hrelated] at hty
    cases hty
  | ok related =>
    simp only [checkType, hrelated] at hty
    split at hty
    · next hany =>
      obtain ⟨ty, hty, hrefers⟩ := (Option.any_eq_true _ _).mp hany
      exact ⟨ty, field?_eq_some.mpr ⟨related, getClass_eq_ok.mp hrelated, hty⟩, eq_of_beq hrefers⟩
    · cases hty

theorem cases_of_target? {ty : FieldType} {target : String} (h : ty.target? = some target) :
    ty = .pointer target ∨ ty = .relation target none ∨
      ∃ foreign, ty = .relation target (some foreign) := by
  cases ty with
  | pointer => cases h; exact .inl rfl
  | relation _ foreign =>
    cases h
    cases foreign with
    | none => exact .inr (.inl rfl)
    | some foreign => exact .inr (.inr ⟨foreign, rfl⟩)
  | primitive | vector | shape => cases h

/-- Where membership is refused, the chain has come to a field it has seen. -/
theorem cycle_of_holding (hs : s.Accepted) {e : Error} {ty : FieldType}
    (hfield : s.field? owner.className field = some ty) (hty : ty.target? = some member.className)
    (h : s.holding owner field member seen = .error e) :
    ∃ n p, s.hop? n (owner.className, field) = some p ∧ e = .path (.foreignCycle p.1 p.2) ∧
      (p ∈ seen ∨ ∃ m < n, s.hop? m (owner.className, field) = some p) := by
  fun_induction holding s owner field member seen generalizing ty with
  | case1 =>
    rename_i hseen
    cases h
    exact ⟨0, _, rfl, rfl, .inl hseen⟩
  | case8 owner field member seen key _ _ target foreign hfound =>
    rename_i ih
    obtain rfl := Option.some.inj (hfound.symm.trans hfield)
    obtain rfl : target = member.className := Option.some.inj hty
    obtain ⟨back, hback, hrefers⟩ := hs.exists_foreign hfound
    obtain ⟨n, p, hp, rfl, hseen⟩ := ih hback hrefers h
    refine ⟨n + 1, p, (hop?_succ hfound n).trans hp, rfl, ?_⟩
    rcases hseen with hmem | ⟨m, hm, hp⟩
    · rcases List.mem_cons.mp hmem with rfl | hmem
      · exact .inr ⟨0, Nat.succ_pos n, rfl⟩
      · exact .inl hmem
    · exact .inr ⟨m + 1, Nat.succ_lt_succ hm, (hop?_succ hfound m).trans hp⟩
  | case3 | case4 | case6 | case7 => cases h
  | case2 =>
    rename_i hclass
    exact (getClass_ne_error hfield _ hclass).elim
  | case5 =>
    rename_i hfound _ _ hclass
    obtain ⟨_, hback, -⟩ := hs.exists_foreign hfound
    exact (getClass_ne_error hback _ hclass).elim
  | case9 =>
    rename_i hfound _ _ _ hpointer htokens hderived
    obtain ⟨_, hback, hrefers⟩ := hs.exists_foreign hfound
    rcases cases_of_target? hrefers with rfl | rfl | ⟨_, rfl⟩
    · exact (hpointer _ hback).elim
    · exact (htokens _ hback).elim
    · exact (hderived _ _ hback).elim
  | case10 =>
    rename_i hpointer htokens hderived
    rcases cases_of_target? hty with rfl | rfl | ⟨_, rfl⟩
    · exact (hpointer _ hfield).elim
    · exact (htokens _ hfield).elim
    · exact (hderived _ _ hfield).elim

/-! ## Membership by the chain -/

theorem EndsOn.not_revisits {decides : Holding} (h : s.EndsOn owner field member n decides) :
    ¬s.Revisits (owner.className, field) := by
  refine not_revisits_of_end (n := n) (h.reached ▸ rfl) ?_
  rw [hop?_add, h.reached, Option.bind_some, hop?, foreign?, h.stored]
  cases decides <;> rfl

theorem revisits_of_holding (hs : s.Accepted) {e : Error} {ty : FieldType}
    (hfield : s.field? owner.className field = some ty) (hty : ty.target? = some member.className)
    (h : s.holding owner field member [] = .error e) : s.Revisits (owner.className, field) := by
  obtain ⟨n, p, hp, -, hseen⟩ := cycle_of_holding hs hfield hty h
  obtain ⟨m, hm, hpm⟩ := hseen.resolve_left List.not_mem_nil
  exact ⟨m, n, hm, hp ▸ rfl, hpm.trans hp.symm⟩

/-- Membership is refused only where no stored field is found. -/
theorem holding_of_contains {e : Error} (h : s.contains owner field member = .error e) :
    s.holding owner field member [] = .error e := by
  unfold contains at h
  cases hholding : s.holding owner field member [] with
  | error e' =>
    rw [hholding] at h
    cases h
    rfl
  | ok decides =>
    rw [hholding] at h
    cases h

/--
Membership in a field that refers to the member's class is refused exactly if the chain of the field
comes back to where it has been, with the field it comes back to. Otherwise the chain ends, after no
more hops than there are fields, on a stored reference, which decides: it is read on the owner's side
after an even number of hops and on the member's after an odd one, and compared with the token of the
other side.
-/
theorem contains_follows_chain {document : Json} (hs : ofJson document = .ok s) {ty : FieldType}
    (hfield : s.field? owner.className field = some ty)
    (hty : ty.target? = some member.className) :
    ((∃ e, s.contains owner field member = .error e) ↔ s.Revisits (owner.className, field)) ∧
      (∀ e, s.contains owner field member = .error e → ∃ n className name,
        s.hop? n (owner.className, field) = some (className, name) ∧
          e = .path (.foreignCycle className name)) ∧
      (¬s.Revisits (owner.className, field) → ∃ n ≤ s.allFields.length, ∃ holder other column,
        holder = (if n % 2 = 0 then owner else member) ∧
        other = (if n % 2 = 0 then member else owner) ∧
        s.hop? n (owner.className, field) = some (holder.className, column) ∧
        (s.field? holder.className column = some (.pointer other.className) ∧
            s.contains owner field member =
              .ok (.seq ["COALESCE(", holder.column column, " = ", other.token, ", false)"]) ∨
          s.field? holder.className column = some (.relation other.className none) ∧
            s.contains owner field member =
              .ok (.seq ["COALESCE(", other.token, " = ANY(", holder.column column,
                "), false)"]))) := by
  have hs := accepted_of_ofJson hs
  cases hholding : s.holding owner field member [] with
  | error e =>
    have hcontains : s.contains owner field member = .error e := by rw [contains, hholding]; rfl
    have hrevisits := revisits_of_holding hs hfield hty hholding
    refine ⟨⟨fun _ => hrevisits, fun _ => ⟨e, hcontains⟩⟩, ?_, fun h => absurd hrevisits h⟩
    intro e' h
    obtain ⟨n, p, hp, rfl, -⟩ := cycle_of_holding hs hfield hty (holding_of_contains h)
    exact ⟨n, p.1, p.2, hp, rfl⟩
  | ok decides =>
    have hcontains : s.contains owner field member = .ok decides.sql := by rw [contains, hholding]; rfl
    obtain ⟨n, hn, hend⟩ := endsOn_of_holding hs
      (fun other hother => Option.some.inj (hother.symm.trans hfield) ▸ hty) hholding
    have hnever : ∀ e, s.contains owner field member ≠ .error e := by simp [hcontains]
    refine ⟨⟨fun ⟨e, h⟩ => absurd h (hnever e), fun h => absurd h hend.not_revisits⟩,
      fun e h => absurd h (hnever e), fun _ => ?_⟩
    refine ⟨n, hn.trans (List.length_filter_le _ _), decides.holder, decides.other, decides.column,
      hend.holder, hend.other, hend.reached, ?_⟩
    rw [hcontains]
    cases decides with
    | pointer => exact .inl ⟨hend.stored, rfl⟩
    | tokens => exact .inr ⟨hend.stored, rfl⟩

/-- Teams with a roster of users, and two relations that are derived from it; users follow users. -/
def rosters : Json :=
  .obj [
    ("Team", .obj [("fields", .obj [
      ("members", .obj [("type", .str "relation"), ("target", .str "User"),
        ("foreignField", .str "teams")]),
      ("roster", .obj [("type", .str "relation"), ("target", .str "User")])])]),
    ("User", .obj [("fields", .obj [
      ("follows", .obj [("type", .str "relation"), ("target", .str "User"),
        ("foreignField", .str "follows")]),
      ("teams", .obj [("type", .str "relation"), ("target", .str "Team"),
        ("foreignField", .str "roster")])])])]

/-- The teams and users as a schema. -/
def rosterSchema : Schema where
  classes := [
    ("Team", {
      fields := Field.defaults.foldl (fun t f => t.insert f.1 f.2)
        [("members", .relation "User" (some "teams")), ("roster", .relation "User" none)] }),
    ("User", {
      fields := Field.defaults.foldl (fun t f => t.insert f.1 f.2)
        [("follows", .relation "User" (some "follows")),
          ("teams", .relation "Team" (some "roster"))] })]

/-- Members are found two hops away, in the roster of the team; who follows whom is found nowhere. -/
theorem contains_follows_chain_of_rosters :
    ofJson rosters = .ok rosterSchema ∧
      rosterSchema.contains ⟨"Team", "t"⟩ "members" ⟨"User", "u"⟩ =
        .ok (.seq ["COALESCE(", Target.token ⟨"User", "u"⟩, " = ANY(", .column "t" "roster",
          "), false)"]) ∧
      ∃ e, rosterSchema.contains ⟨"User", "u"⟩ "follows" ⟨"User", "v"⟩ = .error e := by
  have hschema : ofJson rosters = .ok rosterSchema := by rfl
  have hmembers : rosterSchema.hop? 2 ("Team", "members") = some ("Team", "roster") := by rfl
  have hends : rosterSchema.hop? 3 ("Team", "members") = none := by rfl
  have hchain := (@contains_follows_chain _ ⟨"Team", "t"⟩ ⟨"User", "u"⟩ "members" _ hschema _ rfl
    rfl).2.2 (not_revisits_of_end (hmembers ▸ rfl) hends)
  have hcycle := (@contains_follows_chain _ ⟨"User", "u"⟩ ⟨"User", "v"⟩ "follows" _ hschema _ rfl
    rfl).1.mpr ⟨0, 1, by decide, rfl, rfl⟩
  refine ⟨hschema, ?_, hcycle⟩
  obtain ⟨n, -, holder, other, column, rfl, rfl, hhop, hdecides⟩ := hchain
  -- no field before the second hop is stored, and none comes after it
  match n with
  | 0 =>
    cases hhop
    rcases hdecides with ⟨hstored, -⟩ | ⟨hstored, -⟩ <;> cases hstored
  | 1 =>
    cases hhop
    rcases hdecides with ⟨hstored, -⟩ | ⟨hstored, -⟩ <;> cases hstored
  | 2 =>
    cases hhop
    rcases hdecides with ⟨hstored, -⟩ | ⟨-, hcontains⟩
    · cases hstored
    · exact hcontains
  | n + 3 =>
    rw [Nat.add_comm, hop?_add, hends] at hhop
    cases hhop

end Schema

end ObjectQuery
