import ObjectQuery.Proofs.Scoping.Clauses

/-!
# Drawing aliases

A run draws aliases: from the counter, or from those that a plan has set aside. In a query it adds
joins to the FROM clause; beside that the clause only learns which aliases have been used. There is
one rule for each way in which compilations are composed, and together they are a discipline, so the
laws of terms, filters and orders serve here too.
-/

namespace ObjectQuery

open Sql

variable {root : String} {S T : Site root} {w v : FromClause root} {rest rest' : List String}

/-- The counter is past all that has been used and all that is set aside, and no alias is both. -/
structure Spare (used rest : List String) (n : Nat) : Prop where
  undrawn : ∀ k, n ≤ k → aliasOf (k + 1) ∉ used ∧ aliasOf (k + 1) ∉ rest
  unused : ∀ label ∈ rest, label ∉ used ∧ ∃ k, label = aliasOf (k + 1)

/-- Fewer aliases may be set aside. -/
theorem Spare.of_subset {used : List String} {n : Nat} (h : Spare used rest n)
    (hrest : rest' ⊆ rest) : Spare used rest' n where
  undrawn k hk := ⟨(h.undrawn k hk).1, fun hmem => (h.undrawn k hk).2 (hrest hmem)⟩
  unused label hlabel := h.unused label (hrest hlabel)

/-- The next alias of the counter is used. -/
theorem Spare.next {used : List String} {n : Nat} (h : Spare used rest n) :
    Spare (aliasOf (n + 1) :: used) rest (n + 1) where
  undrawn k hk := by
    have hne : aliasOf (k + 1) ≠ aliasOf (n + 1) := fun heq => by
      have := Aliases.aliasOf_injective heq
      omega
    exact ⟨List.not_mem_cons_of_ne_of_not_mem hne (h.undrawn k (by omega)).1,
      (h.undrawn k (by omega)).2⟩
  unused label hlabel := by
    obtain ⟨hunused, hdrawn⟩ := h.unused label hlabel
    have hne : label ≠ aliasOf (n + 1) := by
      rintro rfl
      exact (h.undrawn n (Nat.le_refl n)).2 hlabel
    exact ⟨List.not_mem_cons_of_ne_of_not_mem hne hunused, hdrawn⟩

/-- An alias that was set aside is used. -/
theorem Spare.take {used : List String} {n : Nat} {label : String}
    (h : Spare used (label :: rest) n) (hlabel : label ∉ rest) : Spare (label :: used) rest n where
  undrawn k hk := by
    obtain ⟨hused, hrest⟩ := h.undrawn k hk
    exact ⟨List.not_mem_cons_of_ne_of_not_mem (List.ne_of_not_mem_cons hrest) hused,
      List.not_mem_of_not_mem_cons hrest⟩
  unused other hother := by
    obtain ⟨hunused, hdrawn⟩ := h.unused other (List.mem_cons_of_mem _ hother)
    exact ⟨List.not_mem_cons_of_ne_of_not_mem (ne_of_mem_of_not_mem hother hlabel) hunused, hdrawn⟩

/-! ## More used aliases -/

/-- A site in which more aliases have been used, in subqueries. -/
def Site.spend (S : Site root) (used : List String) (h : S.used ⊆ used)
    (hdrawn : ∀ label ∈ used, ∃ n, label = aliasOf (n + 1)) : Site root where
  visible := S.visible
  used := used
  drawn := hdrawn
  taken label hlabel := (S.taken label hlabel).imp_right (h ·)
  distinct := S.distinct

/-- What fits a site fits it after more aliases have been used. -/
theorem Site.le_spend {used : List String} {h : S.used ⊆ used}
    {hdrawn : ∀ label ∈ used, ∃ n, label = aliasOf (n + 1)} : S ≤ S.spend used h hdrawn :=
  ⟨fun _ hlabel => hlabel, h, fun _ _ hlabel => .inl hlabel⟩

/-- A join that is placed at a site is placed at any later one. -/
theorem Join.Placed.mono {j : Join} (hle : S ≤ T) (h : j.Placed S) : j.Placed T where
  given := hle.2.1 h.given
  join := h.join
  single := h.single
  levels around here haround := h.levels around here (haround.mono hle)

/-- A clause after more aliases have been used outside its own. -/
def FromClause.spend (w : FromClause root) (used : List String) (h : w.outside.used ⊆ used)
    (hdrawn : ∀ label ∈ used, ∃ n, label = aliasOf (n + 1)) : FromClause root where
  outside := w.outside.spend used h hdrawn
  table := w.table
  elements := w.elements
  scope := w.scope
  taken := w.taken.imp_right (h ·)
  placed j hj := (w.placed j hj).mono Site.le_spend
  joined := w.joined
  distinct := w.distinct

/-- A clause goes on to the same clause with more aliases used. -/
theorem FromClause.le_spend {used : List String} {h : w.outside.used ⊆ used}
    {hdrawn : ∀ label ∈ used, ∃ n, label = aliasOf (n + 1)} : w ≤ w.spend used h hdrawn :=
  ⟨rfl, h, rfl, rfl, [], by simp [spend], List.forall_mem_nil _⟩

/-- An alias that has been used, but is not visible. -/
structure Site.Fresh (S : Site root) (label : String) : Prop where
  given : label ∈ S.used
  hidden : Unreserved root → label ∉ S.visible

/-- The clause of a subquery on rows that go by a fresh alias. -/
def Site.query (S : Site root) (label : String) (elements : Bool) (h : S.Fresh label) :
    FromClause root where
  outside := S
  table := label
  elements := elements
  scope := []
  taken := .inr h.given
  placed := nofun
  joined := Scope.wellJoined_nil
  distinct hroot := distinct_cons.mpr ⟨fun hmem => (h.hidden hroot hmem).elim, S.distinct hroot⟩

/-- What fits a site fits a subquery there, whose alias was new. -/
theorem Site.le_query {label : String} {elements : Bool} {h : T.Fresh label} (hle : S ≤ T)
    (hnew : label ∉ S.used) (hroot : Unreserved root → label ≠ root) :
    S ≤ (T.query label elements h).site := by
  refine ⟨fun l hl => FromClause.mem_site_of_outside (hle.1 hl), hle.2.1, fun hplain l hl => ?_⟩
  rcases List.mem_append.mp hl with hown | hout
  · obtain rfl := List.mem_singleton.mp hown
    exact .inr ⟨hroot hplain, hnew⟩
  · exact hle.2.2 hplain l hout

/-! ## Runs -/

/--
A run uses aliases, some of those set aside among them, and what it gives is as stated in the site
then.
-/
def Compile.Draws (rest rest' : List String) (S : Site root) (x : Compile α)
    (Q : Site root → α → Prop) : Prop :=
  ∀ ⦃n a n'⦄, Spare S.used rest n → Runs x n a n' →
    ∃ T, S ≤ T ∧ T.visible = S.visible ∧ Spare T.used rest' n' ∧ Q T a

/--
A run in a query uses aliases, for joins or in subqueries, and what it gives is as stated in the
clause then.
-/
def InScope.Draws (rest rest' : List String) (w : FromClause root) (x : InScope α)
    (Q : FromClause root → α → Prop) : Prop :=
  ∀ ⦃n a scope' n'⦄, Spare w.outside.used rest n → Runs x w.scope n a scope' n' →
    ∃ v, w ≤ v ∧ v.scope = scope' ∧ Spare v.outside.used rest' n' ∧ Q v a

namespace Compile.Draws

variable {Q R : Site root → α → Prop}

/-- What is returned uses no alias. -/
theorem pure {a : α} (h : Q S a) : Draws rest rest S (pure a) Q := by
  intro n a' n' hspare hrun
  obtain ⟨rfl, rfl⟩ := runs_pure.mp hrun
  exact ⟨S, le_rfl, rfl, hspare, h⟩

/-- A run goes on from the site that the run before it has left. -/
theorem bind {x : Compile α} {f : α → Compile β} {Q : Site root → β → Prop}
    (hx : Draws rest rest S x R) (hf : ∀ T, S ≤ T → ∀ a, R T a → Draws rest rest' T (f a) Q) :
    Draws rest rest' S (x >>= f) Q := by
  intro n b n' hspare hrun
  obtain ⟨a, m, hrx, hrf⟩ := runs_bind.mp hrun
  obtain ⟨T, hST, hsame, hspare, hR⟩ := hx hspare hrx
  obtain ⟨U, hTU, hsame', hspare, hQ⟩ := hf T hST a hR hspare hrf
  exact ⟨U, hST.trans hTU, hsame'.trans hsame, hspare, hQ⟩

/-- What runs outside of compilations leaves the site as it is. -/
theorem bindLift {r : Result α} {f : α → Compile β} {Q : Site root → β → Prop}
    (hf : ∀ a, r = .ok a → Draws rest rest' S (f a) Q) : Draws rest rest' S (liftM r >>= f) Q := by
  intro n b n' hspare hrun
  obtain ⟨a, m, hr, hrf⟩ := runs_bind.mp hrun
  obtain ⟨ha, rfl⟩ := runs_lift.mp hr
  exact hf a ha hspare hrf

/-- An alias of the counter has not been used before. -/
theorem freshAlias :
    Draws rest rest S ObjectQuery.freshAlias fun T label =>
      T.Fresh label ∧ label ∉ S.used ∧ (Unreserved root → label ≠ root) := by
  intro n label n' hspare hrun
  cases hrun
  have hnew := (hspare.undrawn n (Nat.le_refl n)).1
  have hne : Unreserved root → aliasOf (n + 1) ≠ root := fun hroot => (hroot.drawn n).symm
  refine ⟨S.spend _ (List.subset_cons_self _ _) (List.forall_mem_cons.mpr ⟨⟨n, rfl⟩, S.drawn⟩),
    Site.le_spend, rfl, hspare.next, ⟨List.mem_cons_self, fun hroot hmem => ?_⟩, hnew, hne⟩
  exact (S.taken _ hmem).elim (hne hroot) hnew

/-- A fresh target goes by an alias that was not used before. -/
theorem freshTarget {className : String} :
    Draws rest rest S (ObjectQuery.freshTarget className) fun T t =>
      T.Fresh t.label ∧ t.label ∉ S.used ∧ (Unreserved root → t.label ≠ root) :=
  bind freshAlias fun _ _ _ h => pure h

/-- A query of its own starts without joins. -/
theorem inNewScope {x : InScope α} {Q : FromClause root → α → Prop} (hscope : w.scope = [])
    (hx : InScope.Draws rest rest' w x Q) :
    Draws rest rest' w.outside (ObjectQuery.inNewScope x) fun T r =>
      ∃ v, w ≤ v ∧ v.outside = T ∧ v.scope = r.2 ∧ Q v r.1 := by
  intro n r n' hspare hrun
  rw [runs_inNewScope, ← hscope] at hrun
  obtain ⟨v, hwv, hjoins, hspare, hQ⟩ := hx hspare hrun
  exact ⟨v.outside, FromClause.outside_mono hwv, hwv.visible.symm, hspare, v, hwv, rfl, hjoins, hQ⟩

/-- A subquery stands where it is compiled, and its rows go by a fresh alias. -/
theorem query {x : InScope α} {Q : FromClause root → α → Prop} {label : String} (h : S.Fresh label)
    (elements : Bool) (hx : InScope.Draws rest rest' (S.query label elements h) x Q) :
    Draws rest rest' S (ObjectQuery.inNewScope x) fun T r =>
      ∃ v, S.query label elements h ≤ v ∧ v.outside = T ∧ v.scope = r.2 ∧ Q v r.1 :=
  inNewScope rfl hx

end Compile.Draws

namespace InScope.Draws

variable {rest'' : List String} {Q R : FromClause root → α → Prop}

/-- What is returned uses no alias and joins nothing. -/
theorem pure {a : α} (h : Q w a) : Draws rest rest w (pure a) Q := by
  intro n a' scope' n' hspare hrun
  obtain ⟨rfl, rfl, rfl⟩ := runs_pure.mp hrun
  exact ⟨w, le_rfl, rfl, hspare, h⟩

/-- Some of the aliases set aside may be used before, and some after. -/
theorem bindRest {x : InScope α} {f : α → InScope β} {Q : FromClause root → β → Prop}
    (hx : Draws rest rest' w x R) (hf : ∀ v, w ≤ v → ∀ a, R v a → Draws rest' rest'' v (f a) Q) :
    Draws rest rest'' w (x >>= f) Q := by
  intro n b scope' n' hspare hrun
  obtain ⟨a, mid, m, hrx, hrf⟩ := runs_bind.mp hrun
  obtain ⟨v, hwv, rfl, hspare, hR⟩ := hx hspare hrx
  obtain ⟨u, hvu, hscope, hspare, hQ⟩ := hf v hwv a hR hspare hrf
  exact ⟨u, hwv.trans hvu, hscope, hspare, hQ⟩

/-- All that is used of the aliases set aside may be used before. -/
theorem bindFirst {x : InScope α} {f : α → InScope β} {Q : FromClause root → β → Prop}
    (hx : Draws rest rest' w x R) (hf : ∀ v, w ≤ v → ∀ a, R v a → Draws rest' rest' v (f a) Q) :
    Draws rest rest' w (x >>= f) Q :=
  bindRest hx hf

/-- A run goes on from the clause that the run before it has left. -/
theorem bind {x : InScope α} {f : α → InScope β} {Q : FromClause root → β → Prop}
    (hx : Draws rest rest w x R) (hf : ∀ v, w ≤ v → ∀ a, R v a → Draws rest rest v (f a) Q) :
    Draws rest rest w (x >>= f) Q :=
  bindRest hx hf

/-- A run that fails leaves nothing to state. -/
theorem throw {e : Error} : Draws rest rest' w (throw e : InScope α) Q :=
  fun _ _ _ _ _ hrun => (not_runs_throw hrun).elim

/-- What runs outside of compilations leaves the clause as it is. -/
theorem lift {r : Result α} (h : ∀ a, r = .ok a → Q w a) : Draws rest rest w (liftM r) Q := by
  intro n a scope' n' hspare hrun
  obtain ⟨ha, rfl, rfl⟩ := runs_lift.mp hrun
  exact ⟨w, le_rfl, rfl, hspare, h a ha⟩

/-- Fewer aliases may be set aside in the end. -/
theorem of_subset {x : InScope α} (h : Draws rest rest' w x Q) (hrest : rest'' ⊆ rest') :
    Draws rest rest'' w x Q := by
  intro n a scope' n' hspare hrun
  obtain ⟨v, hwv, hscope, hspare, hQ⟩ := h hspare hrun
  exact ⟨v, hwv, hscope, hspare.of_subset hrest, hQ⟩

/-- A compilation outside of queries leaves the joins alone. -/
theorem liftCompile {x : Compile α} {Q : Site root → α → Prop}
    (h : Compile.Draws rest rest' w.site x Q) :
    Draws rest rest' w (liftM x) fun v a => Q v.site a := by
  intro n a scope' n' hspare hrun
  obtain ⟨hx, rfl⟩ := runs_liftCompile.mp hrun
  obtain ⟨T, hle, hsame, hspare, hQ⟩ := h hspare hx
  have hused : w.outside.used ⊆ T.used := hle.2.1
  have hsite : (w.spend T.used hused T.drawn).site = T := by
    cases T
    cases hsame
    rfl
  refine ⟨w.spend T.used hused T.drawn, FromClause.le_spend, rfl, hspare, ?_⟩
  change Q (w.spend T.used hused T.drawn).site a
  rwa [hsite]

/-- An alias that was set aside is taken for the rows of a subquery. -/
theorem take {x : InScope α} {label : String} (hlabel : label ∉ rest)
    (hx : ∀ v, w ≤ v → v.site.Fresh label → Draws rest rest' v x Q) :
    Draws (label :: rest) rest' w x Q := by
  intro n a scope' n' hspare hrun
  obtain ⟨hnew, k, hdrawn⟩ := hspare.unused label List.mem_cons_self
  have hused : w.outside.used ⊆ label :: w.outside.used := List.subset_cons_self _ _
  have hall : ∀ l ∈ label :: w.outside.used, ∃ n, l = aliasOf (n + 1) :=
    List.forall_mem_cons.mpr ⟨⟨k, hdrawn⟩, w.outside.drawn⟩
  have hfresh : (w.spend _ hused hall).site.Fresh label := by
    refine ⟨List.mem_cons_self, fun hplain hmem => ?_⟩
    exact (w.site.taken label hmem).elim (fun heq => hplain.drawn k (heq.symm.trans hdrawn)) hnew
  obtain ⟨v, hle, hrest⟩ := hx _ FromClause.le_spend hfresh (hspare.take hlabel) hrun
  exact ⟨v, FromClause.le_spend.trans hle, hrest⟩

end InScope.Draws

/-! ## The discipline of FROM clauses -/

/--
What the keys of a filter refer to can be read in a clause, and pointers of an object joined there.
-/
def Frame.ReadIn (w : FromClause root) : Frame → Prop
  | .table t => w.elements = false ∧ t.label ∈ w.own
  | .element o => Sql.Closed w.site.closedness o.sql

theorem Frame.readIn_element {o : Operand} :
    (Frame.element o).ReadIn w ↔ Sql.Closed w.site.closedness o.sql := Iff.rfl

/-- A frame that is read in a clause is read in any later one. -/
theorem Frame.ReadIn.mono {frame : Frame} (hle : w ≤ v) (h : frame.ReadIn w) : frame.ReadIn v := by
  cases frame with
  | table t => exact ⟨hle.elements ▸ h.1, FromClause.own_mono hle h.2⟩
  | element o => exact Site.closed_mono (FromClause.site_mono hle) h

/-- The rows of a subquery can be read in its clause. -/
theorem Site.readIn_query {t : Target} (h : S.Fresh t.label) :
    (Frame.table t).ReadIn (S.query t.label false h) :=
  ⟨rfl, List.mem_cons_self⟩

/-- The discipline of FROM clauses: what is compiled in a clause fits its site. -/
def clauseDiscipline (root : String) (rest : List String) : Discipline (FromClause root) where
  sense w := w.site.closedness
  Admits w frame := frame.ReadIn w
  Ensures w x Q := InScope.Draws rest rest w x Q
  closed_mono h hsql := Site.closed_mono (FromClause.site_mono h) hsql
  admits_mono h hframe := hframe.mono h
  pure h := .pure h
  bind hx hf := .bind hx hf
  throw _ := .throw
  lift h := .lift h

/-- What can be read in a clause may be referred to there. -/
theorem Frame.ReadIn.admits {frame : Frame} (h : frame.ReadIn w) :
    (clauseDiscipline root rest).Admits w frame := h

namespace FromClause

/-- What is closed in a clause is closed in any later one. -/
theorem closed_mono {sql : Sql} (hle : w ≤ v) (h : Closed w.site.closedness sql) :
    Closed v.site.closedness sql :=
  Site.closed_mono (site_mono hle) h

/-- All that is closed in a clause is closed in any later one. -/
theorem all_closed_mono {items : List Sql} (hle : w ≤ v)
    (h : ∀ sql ∈ items, Closed w.site.closedness sql) :
    ∀ sql ∈ items, Closed v.site.closedness sql :=
  Site.all_closed_mono (site_mono hle) h

/-- Entries that are closed in a clause are closed in any later one. -/
theorem entries_mono {entries : Entries} (hle : w ≤ v) (h : entries.Closed w.site.closedness) :
    entries.Closed v.site.closedness :=
  fun entry hentry => closed_mono hle (h entry hentry)

end FromClause

end ObjectQuery
