import Mathlib.Order.Basic
import ObjectQuery.Proofs.Scoping.Joins
import ObjectQuery.Statement.Write

/-!
# Sites

A fragment is compiled before the FROM clause is finished that it will stand under: joins are added
to it while the fragments that read through them are being built. A site is what is known of the
aliases in the meantime: those that are visible, and those that the counter has given out, whether
visible or hidden in subqueries. Whatever comes to be visible later has not been used before. So a
fragment that fits a site reads visible aliases only, and its subqueries keep clear of all that can
be visible around them; and it still fits when the site has grown.
-/

namespace ObjectQuery

open Sql

/-! ## Sound levels -/

/-- The names that the named subqueries of a statement go by. -/
abbrev Write.subqueryNames : List String := [candidates, updated, inserted, deleted]

/-- A name of a class that nothing else in a statement goes by. -/
structure Unreserved (root : String) : Prop where
  drawn : ∀ n, root ≠ aliasOf (n + 1)
  named : root ∉ Write.subqueryNames
  own : root ∉ ownAliases

/-- What an alias of a statement is. -/
inductive AliasKind where
  /-- The name of the root's class. -/
  | root
  /-- An alias that the counter gives out. -/
  | drawn
  /-- An alias of the compiler's own. -/
  | own
  /-- The name of a named subquery. -/
  | named
deriving DecidableEq

namespace AliasKind

variable {root label : String} {kind : AliasKind}

/-- An alias is of a kind, in a statement whose root has a name. -/
def Names (root label : String) : AliasKind → Prop
  | .root => label = root
  | .drawn => ∃ n, label = aliasOf (n + 1)
  | .own => label ∈ ownAliases
  | .named => label ∈ Write.subqueryNames

/-- The one kind that an alias can be of. -/
def ofLabel (root label : String) : AliasKind :=
  if label ∈ ownAliases then .own
  else if label ∈ Write.subqueryNames then .named
  else if label = root then .root
  else .drawn

/-- The counter gives out nothing that the compiler uses beside it. -/
theorem aliasOf_unreserved (n : Nat) :
    aliasOf n ∉ ownAliases ∧ aliasOf n ∉ Write.subqueryNames := by
  have hsecond : (aliasOf n).toList[1]? = some 'p' := by simp [aliasOf]
  have hfixed : ∀ name ∈ ownAliases ++ Write.subqueryNames, name.toList[1]? ≠ some 'p' := by decide
  exact ⟨fun h => hfixed _ (List.mem_append_left _ h) hsecond,
    fun h => hfixed _ (List.mem_append_right _ h) hsecond⟩

theorem eq_ofLabel (hroot : Unreserved root) (h : kind.Names root label) :
    kind = ofLabel root label := by
  cases kind with
  | root =>
    obtain rfl : label = root := h
    simp only [ofLabel, hroot.own, hroot.named, if_false, if_true]
  | drawn =>
    obtain ⟨n, rfl⟩ := h
    obtain ⟨hown, hnamed⟩ := aliasOf_unreserved (n + 1)
    simp only [ofLabel, hown, hnamed, (hroot.drawn n).symm, if_false]
  | own => exact (if_pos h).symm
  | named =>
    have happart : ∀ name ∈ Write.subqueryNames, name ∉ ownAliases := by decide
    have hnamed : label ∈ Write.subqueryNames := h
    simp only [ofLabel, happart label hnamed, hnamed, if_false, if_true]

/-- Where nothing else is called like the root, no alias is of two kinds. -/
theorem existsUnique_names (hroot : Unreserved root)
    (h : ∃ kind : AliasKind, kind.Names root label) :
    ∃! kind : AliasKind, kind.Names root label := by
  obtain ⟨kind, hkind⟩ := h
  exact ⟨kind, hkind, fun other hother =>
    (eq_ofLabel hroot hother).trans (eq_ofLabel hroot hkind).symm⟩

end AliasKind

/-- No name stands twice in a list, but for the compiler's own aliases. -/
def Distinct (names : List String) : Prop := (names.filter (· ∉ ownAliases)).Nodup

section

variable {names more : List String} {name : String}

/-- Names are distinct beside others when both lists are and share none but the compiler's own. -/
theorem distinct_append :
    Distinct (names ++ more) ↔
      Distinct names ∧ Distinct more ∧ ∀ l ∈ names, l ∈ more → l ∈ ownAliases := by
  unfold Distinct
  rw [List.filter_append, List.nodup_append]
  refine and_congr_right fun _ => and_congr_right fun _ => ?_
  simp only [List.mem_filter, decide_eq_true_eq, ne_eq]
  constructor
  · intro h l hl hmore
    by_contra hown
    exact h l ⟨hl, hown⟩ l ⟨hmore, hown⟩ rfl
  · rintro h l ⟨hl, hown⟩ _ ⟨hmore, -⟩ rfl
    exact hown (h l hl hmore)

theorem distinct_singleton : Distinct [name] := by
  refine (List.nodup_singleton name).sublist ?_
  exact List.filter_sublist

/-- A name is distinct from others when it is not among them, or is the compiler's own. -/
theorem distinct_cons :
    Distinct (name :: names) ↔ (name ∈ names → name ∈ ownAliases) ∧ Distinct names := by
  rw [← List.singleton_append, distinct_append]
  simp [distinct_singleton, and_comm]

/-- Without the compiler's own aliases no name stands twice at all. -/
theorem Distinct.nodup (h : Distinct names) (hown : ∀ l ∈ names, l ∉ ownAliases) : names.Nodup := by
  have hall : names.filter (· ∉ ownAliases) = names :=
    List.filter_eq_self.mpr fun l hl => decide_eq_true (hown l hl)
  rw [← hall]
  exact h

/-- A new name may be inserted anywhere. -/
theorem Distinct.insert (h : Distinct (names ++ more)) (hnew : name ∉ names ++ more) :
    Distinct (names ++ name :: more) := by
  obtain ⟨hnames, hmore, hapart⟩ := distinct_append.mp h
  refine distinct_append.mpr
    ⟨hnames, distinct_cons.mpr ⟨fun hmem => ?_, hmore⟩, fun l hl hmem => ?_⟩
  · exact (hnew (List.mem_append_right _ hmem)).elim
  · rcases List.mem_cons.mp hmem with rfl | hmem
    · exact (hnew (List.mem_append_left _ hl)).elim
    · exact hapart l hl hmem

end

namespace Sql.Level

/-- A query reads only through aliases that are visible. -/
def Bound (level : Level) : Prop := ∀ label ∈ level.reads, label ∈ level.visible

/--
The joins of a query are those of a scope, which was well joined at every stage, and they introduce
all that its FROM clause does beside a table.
-/
def Joined (level : Level) : Prop :=
  level.joins = [] ∨ ∃ table, ∃ scope : Scope, level.own = table :: scope.map (·.label) ∧
    level.joins = scope.map (·.sql) ∧ ∀ stage : Scope, stage <+: scope → stage.WellJoined table

/--
The aliases of a FROM clause are not alike, nor like those around it, and each is of one kind. Only
an alias of the compiler's own may hide one around it, and what is read through it is of the FROM
clause itself.
-/
structure Unambiguous (root : String) (level : Level) : Prop where
  own : level.own.Nodup
  visible : Distinct level.visible
  kinds : ∀ label ∈ level.visible, ∃! kind : AliasKind, kind.Names root label
  innermost : ∀ label ∈ level.reads, label ∈ ownAliases → label ∈ level.own

/-- A query that is bound, whose joins are shared, and whose aliases are unambiguous. -/
structure Sound (root : String) (level : Level) : Prop where
  bound : level.Bound
  joined : level.Joined
  unambiguous : Unreserved root → level.Unambiguous root

end Sql.Level

/-! ## Sites -/

/--
What is known of the aliases of a statement at a point: what is visible, and what has been given
out.
-/
structure Site (root : String) where
  visible : List String
  used : List String
  drawn : ∀ label ∈ used, ∃ n, label = aliasOf (n + 1)
  taken : ∀ label ∈ visible, label = root ∨ label ∈ used
  distinct : Unreserved root → Distinct visible

/--
What turns out to be visible at last, where some was known to be: the rest is new, or the compiler's
own.
-/
structure Seen (root : String) (visible used here : List String) : Prop where
  kept : ∀ label ∈ visible, label ∈ here
  named : ∀ label ∈ here, ∃ kind : AliasKind, kind.Names root label
  later : Unreserved root → ∀ label ∈ here,
    label ∈ ownAliases ∨ label ∈ visible ∨ label ≠ root ∧ label ∉ used
  distinct : Unreserved root → Distinct here

/-- The aliases of a query that its subqueries see are unambiguous. -/
theorem Seen.unambiguous {root : String} {visible used : List String} {level : Level}
    (h : Seen root visible used level.visible) (hown : Unreserved root → level.own.Nodup)
    (hreads : Unreserved root → ∀ label ∈ level.reads, label ∈ ownAliases → label ∈ level.own)
    (hroot : Unreserved root) : level.Unambiguous root where
  own := hown hroot
  visible := h.distinct hroot
  kinds label hlabel := AliasKind.existsUnique_names hroot (h.named label hlabel)
  innermost := hreads hroot

namespace Site

variable {root : String} {S T : Site root}

/-- A site grows: what is visible stays so, and what comes to be visible was not used before. -/
instance : Preorder (Site root) where
  le S T := S.visible ⊆ T.visible ∧ S.used ⊆ T.used ∧
    (Unreserved root → ∀ label ∈ T.visible,
      label ∈ S.visible ∨ label ≠ root ∧ label ∉ S.used)
  le_refl S := ⟨fun _ h => h, fun _ h => h, fun _ _ h => .inl h⟩
  le_trans S T U h₁ h₂ := by
    refine ⟨List.Subset.trans h₁.1 h₂.1, List.Subset.trans h₁.2.1 h₂.2.1,
      fun hroot label hlabel => ?_⟩
    rcases h₂.2.2 hroot label hlabel with hmid | ⟨hne, hnew⟩
    · exact h₁.2.2 hroot label hmid
    · exact .inr ⟨hne, fun hmem => hnew (h₁.2.1 hmem)⟩

/-- What is known to be visible is no alias of the compiler's own. -/
theorem not_own_of_visible (hroot : Unreserved root) {label : String} (h : label ∈ S.visible) :
    label ∉ ownAliases := by
  rcases S.taken label h with rfl | hused
  · exact hroot.own
  · obtain ⟨n, rfl⟩ := S.drawn label hused
    exact (AliasKind.aliasOf_unreserved _).1

/-- What may be visible at last, as far as a site knows. -/
abbrev Sees (S : Site root) (here : List String) : Prop := Seen root S.visible S.used here

/-- What sees a later site sees an earlier one. -/
theorem Sees.mono {here : List String} (hle : S ≤ T) (h : T.Sees here) : S.Sees here where
  kept label hlabel := h.kept label (hle.1 hlabel)
  named := h.named
  later hroot label hlabel := by
    rcases h.later hroot label hlabel with hown | hknown | ⟨hne, hnew⟩
    · exact .inl hown
    · exact .inr (hle.2.2 hroot label hknown)
    · exact .inr (.inr ⟨hne, fun hmem => hnew (hle.2.1 hmem)⟩)
  distinct := h.distinct

/-- One of the compiler's own aliases may be visible anywhere. -/
theorem Sees.own {here own : List String} (h : S.Sees here) (hown : ∀ l ∈ own, l ∈ ownAliases) :
    S.Sees (own ++ here) where
  kept label hlabel := List.mem_append_right _ (h.kept label hlabel)
  named label hlabel :=
    (List.mem_append.mp hlabel).elim (fun hmem => ⟨.own, hown label hmem⟩) (h.named label)
  later hroot label hlabel :=
    (List.mem_append.mp hlabel).elim (fun hmem => .inl (hown label hmem)) (h.later hroot label)
  distinct hroot := by
    refine distinct_append.mpr ⟨?_, h.distinct hroot, fun label hlabel _ => hown label hlabel⟩
    have hnone : own.filter (· ∉ ownAliases) = [] :=
      List.filter_eq_nil_iff.mpr fun label hlabel hkept =>
        of_decide_eq_true hkept (hown label hlabel)
    rw [Distinct, hnone]
    exact List.nodup_nil

/-! ## Fragments that fit -/

/--
A fragment reads visible aliases and introduces none, and its subqueries are sound where it will
stand.
-/
structure Fits (S : Site root) (sql : Sql) : Prop where
  introduced : sql.introduced = []
  reads : ∀ label ∈ sql.reads, label ∈ S.visible
  levels : ∀ around here, S.Sees here → ∀ level ∈ levelsIn around here sql, level.Sound root

/-- What fits a site fits any later one. -/
theorem Fits.mono {sql : Sql} (hle : S ≤ T) (h : S.Fits sql) : T.Fits sql where
  introduced := h.introduced
  reads label hlabel := hle.1 (h.reads label hlabel)
  levels around here hsees := h.levels around here (hsees.mono hle)

/-- A subquery of a fragment without FROM clause is sound. -/
theorem Fits.block {body : Sql} (h : S.Fits body) : S.Fits (.block body) where
  introduced := rfl
  reads := nofun
  levels around here hsees := by
    unfold levelsIn
    have hown : (body.level here).own = [] := h.introduced
    have hvisible : (body.level here).visible = here := by rw [Level.visible, hown]; rfl
    rw [h.introduced, List.nil_append]
    refine List.forall_mem_cons.mpr ⟨⟨fun label hlabel => ?_, .inl (joins_eq_nil h.introduced),
      Seen.unambiguous (hvisible ▸ hsees) (fun _ => hown ▸ List.nodup_nil)
        fun hroot label hlabel => ?_⟩, h.levels here here hsees⟩
    · exact List.mem_append_right _ (hsees.kept label (h.reads label hlabel))
    · exact fun hmem => (not_own_of_visible hroot (h.reads label hlabel) hmem).elim

/-- A sequence fits when each part does. -/
theorem fits_seq {parts : List Sql} : S.Fits (.seq parts) ↔ ∀ p ∈ parts, S.Fits p := by
  constructor
  · intro h p hp
    have hintroduced := List.flatMap_eq_nil_iff.mp (introduced_seq.symm.trans h.introduced)
    refine ⟨hintroduced p hp, fun label hlabel => ?_, fun around here hsees level hlevel => ?_⟩
    · exact h.reads label (reads_seq ▸ List.mem_flatMap.mpr ⟨p, hp, hlabel⟩)
    · exact h.levels around here hsees level
        ((mem_partLevels_iff (not_binder_of_introduced hintroduced)).mpr ⟨p, hp, hlevel⟩)
  · intro h
    have hintroduced : ∀ p ∈ parts, p.introduced = [] := fun p hp => (h p hp).introduced
    refine ⟨?_, fun label hlabel => ?_, fun around here hsees level hlevel => ?_⟩
    · rw [introduced_seq]
      exact List.flatMap_eq_nil_iff.mpr hintroduced
    · obtain ⟨p, hp, hmem⟩ := List.mem_flatMap.mp (reads_seq ▸ hlabel)
      exact (h p hp).reads label hmem
    · obtain ⟨p, hp, hmem⟩ :=
        (mem_partLevels_iff (not_binder_of_introduced hintroduced)).mp hlevel
      exact (h p hp).levels around here hsees level hmem

/-- A list with separators has the aliases and subqueries of its items one after the other. -/
theorem fits_join {items : List Sql} {separator : String} :
    S.Fits (.join items separator) ↔ S.Fits (.seq items) := by
  have hintroduced : (Sql.join items separator).introduced = (Sql.seq items).introduced :=
    introduced_join.trans introduced_seq.symm
  have hreads : (Sql.join items separator).reads = (Sql.seq items).reads :=
    reads_join.trans reads_seq.symm
  constructor
  · exact fun h => ⟨hintroduced ▸ h.introduced, hreads ▸ h.reads, h.levels⟩
  · exact fun h => ⟨hintroduced ▸ h.introduced, hreads ▸ h.reads, h.levels⟩

/-- The compiler's own aliases do not stand in the way of others. -/
theorem fits_own {label : String} {before after : List Sql} (hlabel : label ∈ ownAliases)
    (hothers : ∀ p ∈ before ++ after, S.Fits p ∨ ∃ name, p = .column label name) :
    S.Fits (.block (.seq (before ++ .binder label :: after))) where
  introduced := rfl
  reads := nofun
  levels around here hsees := by
    have hnone : ∀ p ∈ before ++ after, p.introduced = [] := fun p hp =>
      (hothers p hp).elim (·.introduced) fun ⟨_, heq⟩ => heq ▸ rfl
    have hown : (Sql.seq (before ++ .binder label :: after)).introduced = [label] := by
      have hbefore := List.flatMap_eq_nil_iff.mpr fun p hp => hnone p (List.mem_append_left _ hp)
      have hafter := List.flatMap_eq_nil_iff.mpr fun p hp => hnone p (List.mem_append_right _ hp)
      rw [introduced_seq, List.flatMap_append, List.flatMap_cons, hbefore, hafter]
      rfl
    have hmem : ∀ p ∈ before ++ .binder label :: after, p = .binder label ∨ p ∈ before ++ after :=
      fun p hp => List.mem_cons.mp (List.perm_middle.mem_iff.mp hp)
    have hinner : S.Sees ([label] ++ here) := hsees.own (List.forall_mem_singleton.mpr hlabel)
    have hreads : ∀ l ∈ (Sql.seq (before ++ .binder label :: after)).reads,
        l = label ∨ l ∈ S.visible := by
      intro l hl
      obtain ⟨p, hp, hread⟩ := List.mem_flatMap.mp (reads_seq ▸ hl)
      rcases hmem p hp with rfl | hp
      · cases hread
      · rcases hothers p hp with h | ⟨name, rfl⟩
        · exact .inr (h.reads l hread)
        · exact .inl (by simpa using hread)
    have hseen : S.Sees (level here (.seq (before ++ .binder label :: after))).visible := by
      rw [Level.visible, level, hown]
      exact hinner
    unfold levelsIn
    rw [hown]
    refine List.forall_mem_cons.mpr ⟨⟨fun l hl => ?bound, .inl ?joins,
      hseen.unambiguous (fun _ => ?nodup) fun hroot l hl hcompiler => ?innermost⟩, ?below⟩
    case bound =>
      rcases hreads l hl with rfl | hvisible
      · rw [Level.visible, level, hown]
        exact List.mem_cons_self
      · exact hseen.kept l hvisible
    case innermost =>
      rw [level, hown]
      refine List.mem_singleton.mpr ((hreads l hl).resolve_right fun hvisible => ?_)
      exact not_own_of_visible hroot hvisible hcompiler
    case joins =>
      have hall : ∀ p ∈ before ++ .binder label :: after, p.joins = [] := fun p hp =>
        (hmem p hp).elim (fun heq => heq ▸ rfl) fun hp => joins_eq_nil (hnone p hp)
      have hjoined : joinedTo (.seq (before ++ .binder label :: after)) = [] := by
        cases before with
        | nil => rfl
        | cons p rest =>
          have hp := hnone p List.mem_cons_self
          cases p <;> first | rfl | simp at hp
      rw [level, joins_seq, hjoined, List.nil_append]
      exact List.flatMap_eq_nil_iff.mpr hall
    case nodup =>
      rw [level, hown]
      exact List.nodup_singleton _
    case below =>
      intro inner hlevel
      obtain ⟨p, hp, hlevel⟩ := mem_partLevels hlevel
      rcases hmem p hp with rfl | hp
      · rcases hlevel with hlevel | ⟨-, hlevel⟩ <;> cases hlevel
      · rcases hothers p hp with h | ⟨name, rfl⟩
        · rcases hlevel with hlevel | ⟨-, hlevel⟩
          · exact h.levels _ _ hinner inner hlevel
          · exact h.levels _ _ hsees inner hlevel
        · rcases hlevel with hlevel | ⟨-, hlevel⟩ <;> cases hlevel

/-- The sense of a site: what is compiled fits it. -/
def closedness (S : Site root) : Closedness where
  Holds := S.Fits
  raw _ := ⟨rfl, nofun, fun _ _ _ _ => nofun⟩
  ident _ := ⟨rfl, nofun, fun _ _ _ _ => nofun⟩
  str _ := ⟨rfl, nofun, fun _ _ _ _ => nofun⟩
  param _ := ⟨rfl, nofun, fun _ _ _ _ => nofun⟩
  seq := fits_seq
  join := fits_join.trans fits_seq
  block := Fits.block
  own := fits_own

/-- What is closed at a site is closed at any later one. -/
theorem closed_mono {sql : Sql} (hle : S ≤ T) (h : Closed S.closedness sql) :
    Closed T.closedness sql :=
  Fits.mono hle h

theorem closed_column {label name : String} (h : label ∈ S.visible) :
    Closed S.closedness (.column label name) :=
  ⟨rfl, by simpa using h, fun _ _ _ _ => nofun⟩

theorem closed_star {label : String} (h : label ∈ S.visible) : Closed S.closedness (.star label) :=
  ⟨rfl, by simpa using h, fun _ _ _ _ => nofun⟩

/-- All that is closed at a site is closed at any later one. -/
theorem all_closed_mono {items : List Sql} (hle : S ≤ T)
    (hitems : ∀ sql ∈ items, Closed S.closedness sql) : ∀ sql ∈ items, Closed T.closedness sql :=
  fun sql hsql => closed_mono hle (hitems sql hsql)

end Site

end ObjectQuery
