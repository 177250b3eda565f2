import ObjectQuery.Proofs.Scoping.Sites
import ObjectQuery.Proofs.Statement.Discipline
import ObjectQuery.Proofs.Statement.Runs

/-!
# FROM clauses under construction

While a query is compiled its FROM clause is a table and the joins so far, inside a site that the
queries around it make up. What is compiled in the query fits the site of the clause; when the
clause is printed, after the last join, the query as a whole fits the site outside. A run draws
aliases: those of the counter, and those of a plan, which have been drawn before and are set aside
until they are used.
-/

namespace ObjectQuery

open Sql

/-! ## Clauses -/

/--
A join that stands in a FROM clause in a site: its subquery is sound without the rest of the clause.
-/
structure Join.Placed {root : String} (S : Site root) (j : Join) : Prop where
  given : j.label ∈ S.used
  join : j.sql.isJoin = true
  single : j.sql.joins = []
  levels : ∀ around here, S.Sees around → ∀ level ∈ levelsIn around here j.sql, level.Sound root

/-- The FROM clause of a query that is being compiled. -/
structure FromClause (root : String) where
  outside : Site root
  table : String
  /-- Whether the rows are the elements of an array, which have no pointers. -/
  elements : Bool
  scope : Scope
  taken : table = root ∨ table ∈ outside.used
  placed : ∀ j ∈ scope, j.Placed outside
  joined : scope.WellJoined table
  distinct : Unreserved root → Distinct (table :: scope.map (·.label) ++ outside.visible)

namespace FromClause

variable {root : String} {w v : FromClause root}

/-- The aliases of the clause. -/
def own (w : FromClause root) : List String := w.table :: w.scope.map (·.label)

/-- An alias of the clause is the root's, or has been used. -/
theorem taken_of_own {label : String} (h : label ∈ w.own) :
    label = root ∨ label ∈ w.outside.used := by
  rcases List.mem_cons.mp h with rfl | h
  · exact w.taken
  · obtain ⟨j, hj, rfl⟩ := List.mem_map.mp h
    exact .inr (w.placed j hj).given

/-- The site in which the parts of the query are compiled. -/
def site (w : FromClause root) : Site root where
  visible := w.own ++ w.outside.visible
  used := w.outside.used
  drawn := w.outside.drawn
  taken label h := (List.mem_append.mp h).elim taken_of_own (w.outside.taken label)
  distinct := w.distinct

/-- An alias of the clause is the root's, or of the counter. -/
theorem named_of_own {label : String} (h : label ∈ w.own) :
    ∃ kind : AliasKind, kind.Names root label :=
  (taken_of_own h).elim (fun heq => ⟨.root, heq⟩) fun hused => ⟨.drawn, w.outside.drawn label hused⟩

/-- The aliases of the clause are visible in its parts. -/
theorem mem_site_of_own {label : String} (h : label ∈ w.own) : label ∈ w.site.visible :=
  List.mem_append_left _ h

/-- What is visible outside is visible in the parts of the query. -/
theorem mem_site_of_outside {label : String} (h : label ∈ w.outside.visible) :
    label ∈ w.site.visible :=
  List.mem_append_right _ h

/-- No two aliases of the clause are alike. -/
theorem nodup_own (hroot : Unreserved root) : w.own.Nodup := by
  exact (distinct_append.mp (w.distinct hroot)).1.nodup fun label hlabel =>
    Site.not_own_of_visible hroot (mem_site_of_own hlabel)

/-- Pointers are joined under aliases that were not used before; elements have none to join. -/
structure Le (w v : FromClause root) : Prop where
  visible : w.outside.visible = v.outside.visible
  used : w.outside.used ⊆ v.outside.used
  table : w.table = v.table
  elements : w.elements = v.elements
  scope : ∃ more, v.scope = w.scope ++ more ∧ ∀ j ∈ more, w.elements = false ∧
    j.label ∉ w.outside.used ∧ (Unreserved root → j.label ≠ root)

instance : Preorder (FromClause root) where
  le := Le
  le_refl w := ⟨rfl, fun _ h => h, rfl, rfl, [], by simp, nofun⟩
  le_trans w v u h₁ h₂ := by
    obtain ⟨more, hmore, hnew⟩ := h₁.scope
    obtain ⟨last, hlast, hlater⟩ := h₂.scope
    refine ⟨h₁.visible.trans h₂.visible, List.Subset.trans h₁.used h₂.used, h₁.table.trans h₂.table,
      h₁.elements.trans h₂.elements, more ++ last, by simp [hlast, hmore], ?_⟩
    refine List.forall_mem_append.mpr ⟨hnew, fun j hj => ?_⟩
    obtain ⟨helements, hunused, hroot⟩ := hlater j hj
    exact ⟨h₁.elements.trans helements, fun hmem => hunused (h₁.used hmem), hroot⟩

/-- A clause keeps its aliases while more are joined. -/
theorem own_mono (h : w ≤ v) {label : String} (hlabel : label ∈ w.own) : label ∈ v.own := by
  obtain ⟨more, hmore, -⟩ := h.scope
  rw [own, h.table] at hlabel
  rw [own, hmore, List.map_append, ← List.cons_append]
  exact List.mem_append_left _ hlabel

/-- Where the rows are elements, nothing is ever joined. -/
theorem scope_eq_nil (h : w ≤ v) (helements : w.elements = true) (hscope : w.scope = []) :
    v.scope = [] := by
  obtain ⟨more, hmore, hnew⟩ := h.scope
  cases more with
  | nil => rw [hmore, hscope, List.append_nil]
  | cons j rest =>
    have hfalse := (hnew j List.mem_cons_self).1
    rw [helements] at hfalse
    cases hfalse

/-- What fits outside of a clause fits outside of any later one. -/
theorem outside_mono (h : w ≤ v) : w.outside ≤ v.outside :=
  ⟨fun _ hlabel => h.visible ▸ hlabel, h.used, fun _ _ hlabel => .inl (h.visible ▸ hlabel)⟩

/-- What fits in the parts of a clause fits in those of any later one. -/
theorem site_mono (h : w ≤ v) : w.site ≤ v.site := by
  refine ⟨fun label hlabel => ?_, h.used, fun hroot label hlabel => ?_⟩
  · rcases List.mem_append.mp hlabel with hown | hout
    · exact mem_site_of_own (own_mono h hown)
    · exact mem_site_of_outside (h.visible ▸ hout)
  · obtain ⟨more, hmore, hnew⟩ := h.scope
    rcases List.mem_append.mp hlabel with hown | hout
    · rw [own, ← h.table, hmore, List.map_append, ← List.cons_append] at hown
      rcases List.mem_append.mp hown with hown | hlater
      · exact .inl (mem_site_of_own hown)
      · obtain ⟨j, hj, rfl⟩ := List.mem_map.mp hlater
        obtain ⟨-, hunused, hne⟩ := hnew j hj
        exact .inr ⟨hne hroot, hunused⟩
    · exact .inl (mem_site_of_outside (h.visible ▸ hout))

/-! ## Printing a clause -/

/-- A fragment is the FROM clause as it is printed. -/
structure Rows (w : FromClause root) (source : Sql) : Prop where
  introduced : source.introduced = w.own
  reads : ∀ label ∈ source.reads, label ∈ w.site.visible
  joins : source.joins = w.scope.map (·.sql)
  compound : ∀ label, source ≠ .binder label
  levels : ∀ around here, w.outside.Sees around → w.site.Sees here →
    ∀ level ∈ levelsIn around here source, level.Sound root

/--
What is visible outside at last and the aliases of the clause are what its query sees at last.
-/
theorem sees_own {here : List String} (h : w.outside.Sees here) : w.site.Sees (w.own ++ here) where
  kept label hlabel := (List.mem_append.mp hlabel).elim (List.mem_append_left _)
    fun hout => List.mem_append_right _ (h.kept label hout)
  named label hlabel := (List.mem_append.mp hlabel).elim named_of_own (h.named label)
  later hroot label hlabel := by
    rcases List.mem_append.mp hlabel with hown | hhere
    · exact .inr (.inl (mem_site_of_own hown))
    · exact (h.later hroot label hhere).imp_right (Or.imp_left mem_site_of_outside)
  distinct hroot := by
    obtain ⟨hown, -, hapart⟩ := distinct_append.mp (w.distinct hroot)
    refine distinct_append.mpr ⟨hown, h.distinct hroot, fun label hlabel hhere => ?_⟩
    rcases h.later hroot label hhere with hcompiler | hout | ⟨hne, hunused⟩
    · exact hcompiler
    · exact hapart label hlabel hout
    · exact ((taken_of_own hlabel).elim hne hunused).elim

namespace Rows

variable {source : Sql}

/-- Beside its FROM clause the parts of a query fit the site of the clause. -/
theorem within {word : String} (before after : List Sql) (hsource : w.Rows source)
    (hbefore : ∀ p ∈ before, Closed w.site.closedness p)
    (hafter : ∀ p ∈ after, Closed w.site.closedness p) :
    w.Rows (.seq (.raw word :: (before ++ source :: after))) := by
  have hmem : ∀ p ∈ raw word :: (before ++ source :: after),
      p = source ∨ Closed w.site.closedness p := by
    intro p hp
    have hp : p ∈ (raw word :: before) ++ source :: after := hp
    rcases List.mem_cons.mp (List.perm_middle.mem_iff.mp hp) with heq | hp
    · exact .inl heq
    · exact .inr (List.forall_mem_cons.mpr
        ⟨closed_raw, List.forall_mem_append.mpr ⟨hbefore, hafter⟩⟩ p hp)
  -- what the other parts have none of is that of the clause
  have honly : ∀ {α : Type} {f : Sql → List α}, f (.raw word) = [] →
      (∀ p, p.introduced = [] → f p = []) →
      (Sql.raw word :: (before ++ source :: after)).flatMap f = f source := by
    intro α f hword hothers
    have hbefore := List.flatMap_eq_nil_iff.mpr fun p hp => hothers p (hbefore p hp).introduced
    have hafter := List.flatMap_eq_nil_iff.mpr fun p hp => hothers p (hafter p hp).introduced
    rw [List.flatMap_cons, List.flatMap_append, List.flatMap_cons, hword, hbefore, hafter,
      List.nil_append, List.nil_append, List.append_nil]
  refine ⟨?introduced, fun label hlabel => ?reads, ?joins, nofun,
    fun around here haround hhere => ?levels⟩
  case introduced =>
    rw [introduced_seq, honly introduced_raw fun _ h => h, hsource.introduced]
  case reads =>
    obtain ⟨p, hp, hread⟩ := List.mem_flatMap.mp (reads_seq ▸ hlabel)
    rcases hmem p hp with rfl | hclosed
    · exact hsource.reads label hread
    · exact hclosed.reads label hread
  case joins =>
    rw [joins_seq, honly rfl fun _ => joins_eq_nil, hsource.joins]
    rfl
  case levels =>
    intro level hlevel
    have hnames : ∀ label, binder label ∉ Sql.raw word :: (before ++ source :: after) := by
      intro label hbinder
      rcases hmem _ hbinder with h | hclosed
      · exact hsource.compound label h.symm
      · simpa using hclosed.introduced
    obtain ⟨p, hp, hbelow⟩ := (mem_partLevels_iff hnames).mp hlevel
    rcases hmem p hp with rfl | hclosed
    · exact hsource.levels _ _ haround hhere level hbelow
    · exact hclosed.levels _ _ hhere level hbelow

/-- A query on the rows of a clause fits the site that the clause stands in. -/
theorem closed_block (hsource : w.Rows source) : Closed w.outside.closedness (.block source) := by
  refine ⟨rfl, nofun, fun around here hsees => ?_⟩
  have hinner := sees_own hsees
  have hstages : ∀ stage : Scope, stage <+: w.scope → stage.WellJoined w.table := by
    rintro stage ⟨more, hmore⟩
    have hjoined := w.joined
    rw [← hmore] at hjoined
    exact hjoined.of_append
  have hseen : w.site.Sees (level here source).visible := by
    rw [Level.visible, level, hsource.introduced]
    exact hinner
  unfold levelsIn
  rw [hsource.introduced]
  refine List.forall_mem_cons.mpr ⟨⟨fun label hlabel => ?bound,
    .inr ⟨w.table, w.scope, hsource.introduced, hsource.joins, hstages⟩,
    hseen.unambiguous (fun hroot => ?nodup) fun hroot label hlabel hcompiler => ?innermost⟩,
    hsource.levels _ _ hsees hinner⟩
  case bound => exact hseen.kept label (hsource.reads label hlabel)
  case nodup =>
    rw [level, hsource.introduced]
    exact nodup_own hroot
  case innermost =>
    exact (Site.not_own_of_visible hroot (hsource.reads label hlabel) hcompiler).elim

/-- A query on the rows of a clause, as a subquery. -/
theorem closed_select {list condition tail : Sql} (hsource : w.Rows source)
    (hlist : Closed w.site.closedness list) (hcondition : Closed w.site.closedness condition)
    (htail : Closed w.site.closedness tail) :
    Closed w.outside.closedness (.block (select list source condition tail)) :=
  closed_block (within [list, " FROM "] [" WHERE ", condition, tail] hsource (by simp [hlist])
    (by simp [hcondition, htail]))

end Rows

end FromClause

/-! ## The rows of a clause -/

/-- A fragment is a table, or a named subquery in place of one, that goes by a label. -/
inductive Sql.GoesBy (label : String) : Sql → Prop where
  | root : GoesBy label (.root label)
  | table (className : String) : GoesBy label (.table className label)
  | source (name : String) : GoesBy label (.source name label)

/-- A target goes by its alias, written as the root or as a table. -/
theorem Target.goesBy_table (t : Target) : t.table.GoesBy t.label := by
  unfold table
  split
  next h => exact h ▸ .root
  next => exact .table t.className

namespace Sql.GoesBy

variable {label : String} {table : Sql}

/-- Such a fragment introduces its label and nothing else. -/
theorem introduced (h : table.GoesBy label) : table.introduced = [label] := by
  cases h <;> rfl

/-- Such a fragment reads no column. -/
theorem reads (h : table.GoesBy label) : table.reads = [] := by
  cases h <;> rfl

/-- Such a fragment has no joins. -/
theorem joins (h : table.GoesBy label) : table.joins = [] := by
  cases h <;> rfl

/-- No query stands in such a fragment. -/
theorem levels (h : table.GoesBy label) {around here : List String} :
    levelsIn around here table = [] := by
  cases h <;> rfl

/-- Such a fragment is no binder. -/
theorem compound (h : table.GoesBy label) (name : String) : table ≠ .binder name := by
  cases h <;> exact nofun

/-- What is joined to such a fragment are the joins behind it. -/
theorem joinedTo (h : table.GoesBy label) {rest : List Sql} :
    joinedTo (.seq (table :: rest)) = rest.filter isJoin := by
  cases h <;> rfl

end Sql.GoesBy

namespace FromClause

variable {root : String} {w : FromClause root}

/-- What the parts of printed joins have, where the space between them has none. -/
theorem flatMap_joined {f : Sql → List α} (hspace : f (.raw " ") = []) {scope : Scope} :
    (scope.flatMap fun j => [raw " ", j.sql]).flatMap f = scope.flatMap fun j => f j.sql := by
  rw [List.flatMap_assoc]
  exact List.flatMap_congr fun j _ => by simp [hspace]

/-- A table with all that has been joined to it is the clause. -/
theorem rows_joined {table : Sql} (h : table.GoesBy w.table) : w.Rows (w.scope.joined table) where
  introduced := by
    rw [Scope.joined, introduced_seq, List.flatMap_cons, h.introduced, flatMap_joined rfl, own,
      List.singleton_append, List.flatMap_congr w.joined.introduced, List.map_eq_flatMap]
  reads label hlabel := by
    rw [Scope.joined, reads_seq, List.flatMap_cons, h.reads, List.nil_append, flatMap_joined rfl]
      at hlabel
    obtain ⟨j, hj, hread⟩ := List.mem_flatMap.mp hlabel
    obtain ⟨before, after, hsplit⟩ := List.append_of_mem hj
    refine mem_site_of_own ?_
    rcases w.joined.earlier before j after hsplit label hread with rfl | rfl | hbefore
    · exact List.mem_cons_of_mem _ (List.mem_map_of_mem hj)
    · exact List.mem_cons_self
    · rw [own, hsplit, List.map_append]
      exact List.mem_cons_of_mem _ (List.mem_append_left _ hbefore)
  joins := by
    have hspaced : (w.scope.flatMap fun j => [raw " ", j.sql]).filter isJoin =
        w.scope.map (·.sql) := by
      have hspace : isJoin (raw " ") = false := rfl
      rw [List.filter_flatMap, List.map_eq_flatMap]
      exact List.flatMap_congr fun j hj => by simp [hspace, (w.placed j hj).join]
    have hsingle : (w.scope.flatMap fun j => j.sql.joins) = [] :=
      List.flatMap_eq_nil_iff.mpr fun j hj => (w.placed j hj).single
    rw [Scope.joined, joins_seq, h.joinedTo, hspaced, List.flatMap_cons, h.joins,
      flatMap_joined rfl, hsingle, List.nil_append, List.append_nil]
  compound := nofun
  levels around here hout _ level hlevel := by
    have hnames : ∀ label, binder label ∉ table :: w.scope.flatMap fun j => [raw " ", j.sql] := by
      intro label hmem
      rcases List.mem_cons.mp hmem with heq | hmem
      · exact h.compound label heq.symm
      · obtain ⟨j, hj, hmem⟩ := List.mem_flatMap.mp hmem
        have hjoin := (w.placed j hj).join
        rcases List.mem_cons.mp hmem with heq | hmem
        · cases heq
        · rw [← List.mem_singleton.mp hmem] at hjoin
          cases hjoin
    obtain ⟨p, hp, hbelow⟩ := (mem_partLevels_iff hnames).mp hlevel
    rcases List.mem_cons.mp hp with rfl | hp
    · rw [h.levels] at hbelow
      cases hbelow
    · obtain ⟨j, hj, hp⟩ := List.mem_flatMap.mp hp
      rcases List.mem_cons.mp hp with rfl | hp
      · cases hbelow
      · obtain rfl := List.mem_singleton.mp hp
        exact (w.placed j hj).levels around here hout level hbelow

/-- The clause of a target has its rows under the aliases of the clause. -/
theorem rows_clause {t : Target} (h : w.table = t.label) : w.Rows (w.scope.clause t) :=
  rows_joined (h ▸ t.goesBy_table)

/-- A table to which nothing has been joined is the clause. -/
theorem rows_table {table : Sql} (h : table.GoesBy w.table) (hscope : w.scope = []) :
    w.Rows table where
  introduced := by rw [h.introduced, own, hscope]; rfl
  reads := h.reads ▸ List.forall_mem_nil _
  joins := by rw [h.joins, hscope]; rfl
  compound := h.compound
  levels around here _ _ := h.levels ▸ List.forall_mem_nil _

/-- The rows of the elements of what fits a site outside. -/
theorem rows_elements {S : Site root} {rows : Sql} {column : String}
    (hrows : Closed S.closedness rows) (hout : S ≤ w.outside) (hin : S ≤ w.site)
    (hscope : w.scope = []) :
    w.Rows (.seq [rows, " AS ", .binder w.table, "(", .ident column, ")"]) where
  introduced := by simp [hrows.introduced, own, hscope]
  reads label hlabel := hin.1 (hrows.reads label (by simpa using hlabel))
  joins := by
    have hnone : joinedTo (.seq [rows, " AS ", .binder w.table, "(", .ident column, ")"]) = [] := by
      cases rows <;> rfl
    rw [joins_seq, hnone, hscope, List.flatMap_cons, joins_eq_nil hrows.introduced]
    rfl
  compound := nofun
  levels around here haround hhere level hlevel := by
    obtain ⟨p, hp, hbelow⟩ := mem_partLevels hlevel
    rcases List.mem_cons.mp hp with rfl | hp
    · rcases hbelow with hbelow | ⟨-, hbelow⟩
      · exact hrows.levels _ _ (hhere.mono hin) level hbelow
      · exact hrows.levels _ _ (haround.mono hout) level hbelow
    · have hleaf : ∀ here, levelsIn around here p = [] := by
        simp only [List.mem_cons, List.not_mem_nil, or_false] at hp
        rcases hp with rfl | rfl | rfl | rfl | rfl <;> exact fun _ => rfl
      simp [hleaf] at hbelow

end FromClause

end ObjectQuery
