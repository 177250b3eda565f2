import ObjectQuery.Proofs.Columns.Created
import ObjectQuery.Proofs.Sql.Closed
import ObjectQuery.Proofs.Statement.Discipline
import ObjectQuery.Proofs.Statement.Runs

/-!
# Aliases and what is read through them

A fragment mentions columns, each through an alias, and tables, each under one. `Aliases` says what the
aliases of a statement stand for: the rows of a class, or rows of something else. A fragment is closed
under aliases if every table is mentioned under an alias that stands for its class, and every column
through an alias of a class that provides it. In a run aliases are only added, each of them new, so what
was closed stays closed; that makes the aliases the worlds of a discipline.
-/

namespace ObjectQuery

/-! ## Mentions -/

namespace Sql

/-- A column that is read through an alias, or a table of a class that goes by one. -/
inductive Mention where
  | column (label name : String)
  | table (t : Target)
deriving DecidableEq

mutual

/-- The columns and tables that a fragment mentions, in subqueries or not. -/
def mentions : Sql → List Mention
  | column label name => [.column label name]
  | root className => [.table (.root className)]
  | table className label => [.table ⟨className, label⟩]
  | seq parts => allMentions parts
  | join items _ => allMentions items
  | block body => mentions body
  | _ => []

def allMentions : List Sql → List Mention
  | [] => []
  | x :: xs => mentions x ++ allMentions xs

end

/-- Some parts mention what any of them does. -/
theorem mem_allMentions {parts : List Sql} {m : Mention} :
    m ∈ allMentions parts ↔ ∃ p ∈ parts, m ∈ p.mentions := by
  induction parts with
  | nil => simp [allMentions]
  | cons x xs ih => simp [allMentions, ih]

end Sql

/-! ## Aliases -/

/-- The rows an alias stands for: those of a class, or others. -/
inductive Rows where
  | objects (className : String)
  | other
deriving DecidableEq

/-- The alias that the counter gives out for a number. -/
def aliasOf (n : Nat) : String := "_p" ++ toString n

/-- The names that rows of no class go by, whatever the counter gives out. -/
abbrev fixedAliases : List String := Write.candidates :: Sql.ownAliases

/-- What the aliases of a statement stand for; classes that they stand for are those of the schema. -/
structure Aliases (s : Schema) where
  rows? : String → Option Rows
  known : ∀ label className, rows? label = some (.objects className) →
    (s.class? className).isSome = true

namespace Aliases

variable {s : Schema} {A B : Aliases s}

/-- Aliases are added, and stand for what they stood for. -/
instance : Preorder (Aliases s) where
  le A B := ∀ label rows, A.rows? label = some rows → B.rows? label = some rows
  le_refl _ _ _ h := h
  le_trans _ _ _ h₁ h₂ label rows h := h₂ label rows (h₁ label rows h)

/-- An alias stands for the objects of a class. -/
def Has (A : Aliases s) (t : Target) : Prop := A.rows? t.label = some (.objects t.className)

/-- A target that has its alias keeps it when more aliases are given out. -/
theorem Has.mono {t : Target} (h : A ≤ B) (ht : A.Has t) : B.Has t := h _ _ ht

/-- What a fragment mentions is there: the table under its alias, the column in a class with it. -/
def Allows (A : Aliases s) : Sql.Mention → Prop
  | .table t => A.Has t
  | .column label name =>
    label ∈ fixedAliases ∨ A.rows? label = some .other ∨
      ∃ className, A.rows? label = some (.objects className) ∧ s.Provides className name

/-- What may be mentioned may be mentioned when more aliases are given out. -/
theorem Allows.mono {m : Sql.Mention} (h : A ≤ B) (hm : A.Allows m) : B.Allows m := by
  cases m with
  | table t => exact Has.mono h hm
  | column label name =>
    exact hm.imp_right (Or.imp (h _ _) fun ⟨className, hlabel, hname⟩ =>
      ⟨className, h _ _ hlabel, hname⟩)

/-- A fragment is closed under aliases if they allow all that it mentions. -/
def closedness (A : Aliases s) : Sql.Closedness where
  Holds sql := ∀ m ∈ sql.mentions, A.Allows m
  raw _ := nofun
  ident _ := nofun
  str _ := nofun
  param _ := nofun
  seq := by
    intro parts
    simp only [Sql.mentions, Sql.mem_allMentions]
    grind
  join := by
    intro items separator
    simp only [Sql.mentions, Sql.mem_allMentions]
    grind
  block h := h
  own := by
    intro label before after hlabel hothers
    have hall := Sql.forall_of_own (P := fun p => ∀ m ∈ p.mentions, A.Allows m) nofun
      (fun name => List.forall_mem_singleton.mpr (.inl (List.mem_cons_of_mem _ hlabel))) hothers
    intro m hm
    obtain ⟨p, hp, hmem⟩ := Sql.mem_allMentions.mp hm
    exact hall p hp m hmem

instance : A.closedness.Lax where
  star _ := nofun
  binder _ := nofun

/-- A subquery is closed under aliases if its body is, for nothing is hidden from it. -/
@[simp]
theorem closed_block {body : Sql} :
    Sql.Closed A.closedness (.block body) ↔ Sql.Closed A.closedness body := Iff.rfl

/-- What is closed stays closed when more aliases are given out. -/
theorem closed_mono {sql : Sql} (h : A ≤ B) (hsql : Sql.Closed A.closedness sql) :
    Sql.Closed B.closedness sql :=
  fun m hm => (hsql m hm).mono h

/-- A column is closed that is provided by the class its alias stands for. -/
theorem closed_column {label name className : String} (h : A.rows? label = some (.objects className))
    (hname : s.Provides className name) : Sql.Closed A.closedness (.column label name) :=
  List.forall_mem_singleton.mpr (.inr (.inr ⟨className, h, hname⟩))

/-- A column of rows of something else is closed. -/
theorem closed_other {label name : String} (h : A.rows? label = some .other) :
    Sql.Closed A.closedness (.column label name) :=
  List.forall_mem_singleton.mpr (.inr (.inl h))

/-! ## New aliases -/

/-- The counter gives out every alias once. -/
theorem aliasOf_injective {m n : Nat} (h : aliasOf m = aliasOf n) : m = n := by
  have hdigits : Nat.toDigits 10 m = Nat.toDigits 10 n := by
    simpa [aliasOf] using congrArg String.toList h
  rw [← Nat.ofDigitChars_ten_toDigits (n := m), hdigits, Nat.ofDigitChars_ten_toDigits]

/-- Every alias that the counter gives out begins with an underscore. -/
theorem ne_aliasOf {className : String} (h : className.toList.head? ≠ some '_') (n : Nat) :
    className ≠ aliasOf n := by
  rintro rfl
  simp [aliasOf] at h

/-- The counter has not given out an alias above a number. -/
def Until (A : Aliases s) (n : Nat) : Prop := ∀ k, n < k → A.rows? (aliasOf k) = none

/-- An alias for the next number of the counter. -/
def give (A : Aliases s) (n : Nat) (rows : Rows)
    (hknown : ∀ className, rows = .objects className → (s.class? className).isSome = true) :
    Aliases s where
  rows? label := if label = aliasOf (n + 1) then some rows else A.rows? label
  known label className h := by
    split at h
    · exact hknown className (Option.some.inj h)
    · exact A.known label className h

section

variable {n : Nat} {rows : Rows}
  {hknown : ∀ className, rows = .objects className → (s.class? className).isSome = true}

/-- Giving out the next alias changes none of the others. -/
theorem le_give (hA : A.Until n) : A ≤ A.give n rows hknown := by
  intro label before h
  have hne : label ≠ aliasOf (n + 1) := by
    rintro rfl
    rw [hA (n + 1) (Nat.lt_succ_self n)] at h
    cases h
  simpa [give, hne] using h

/-- The alias that is given out is the next one. -/
theorem until_give (hA : A.Until n) : (A.give n rows hknown).Until (n + 1) := by
  intro k hk
  have hne : aliasOf k ≠ aliasOf (n + 1) := fun h => absurd (aliasOf_injective h) (by omega)
  simpa [give, hne] using hA k (by omega)

/-- The alias that is given out stands for the rows it is given to. -/
theorem rows?_give : (A.give n rows hknown).rows? (aliasOf (n + 1)) = some rows := by
  simp [give]

end

end Aliases

/-! ## Runs -/

/-- The joins of a query are closed, and each is of a pointer to the class its alias stands for. -/
def Scope.Resolved {s : Schema} (A : Aliases s) (scope : Scope) : Prop :=
  ∀ j ∈ scope, Sql.Closed A.closedness j.sql ∧
    ∃ owner target, A.rows? j.owner = some (.objects owner) ∧
      s.typeIn? owner j.column = some (.pointer target) ∧ A.rows? j.label = some (.objects target)

variable {s : Schema} {A B : Aliases s}

theorem Scope.resolved_nil : Scope.Resolved A [] := List.forall_mem_nil _

/-- Joins that are resolved stay so when more aliases are given out. -/
theorem Scope.Resolved.mono {scope : Scope} (h : A ≤ B) (hscope : scope.Resolved A) :
    scope.Resolved B := by
  intro j hj
  obtain ⟨hsql, owner, target, howner, htype, htarget⟩ := hscope j hj
  exact ⟨A.closed_mono h hsql, owner, target, h _ _ howner, htype, h _ _ htarget⟩

/-- A run adds aliases, and what it gives is as stated under these. -/
def Compile.Resolves (A : Aliases s) (x : Compile α) (Q : Aliases s → α → Prop) : Prop :=
  ∀ ⦃n a n'⦄, A.Until n → Runs x n a n' → ∃ B, A ≤ B ∧ B.Until n' ∧ Q B a

/-- A run in a query adds aliases, under which the joins are resolved and what it gives is as stated. -/
def InScope.Resolves (A : Aliases s) (x : InScope α) (Q : Aliases s → α → Prop) : Prop :=
  ∀ ⦃scope n a scope' n'⦄, A.Until n → scope.Resolved A → Runs x scope n a scope' n' →
    ∃ B, A ≤ B ∧ B.Until n' ∧ scope'.Resolved B ∧ Q B a

namespace Compile.Resolves

variable {Q R : Aliases s → α → Prop}

/-- What is returned at once gives out no alias. -/
theorem pure {a : α} (h : Q A a) : Resolves A (pure a) Q := by
  intro n a' n' hA hrun
  obtain ⟨rfl, rfl⟩ := runs_pure.mp hrun
  exact ⟨A, le_rfl, hA, h⟩

/-- What resolves goes on with what resolves, under the aliases it has given out. -/
theorem bind {x : Compile α} {f : α → Compile β} {Q : Aliases s → β → Prop} (hx : Resolves A x R)
    (hf : ∀ B, A ≤ B → ∀ a, R B a → Resolves B (f a) Q) : Resolves A (x >>= f) Q := by
  intro n b n' hA hrun
  obtain ⟨a, m, hrx, hrf⟩ := runs_bind.mp hrun
  obtain ⟨B, hAB, hB, hR⟩ := hx hA hrx
  obtain ⟨C, hBC, hC, hQ⟩ := hf B hAB a hR hB hrf
  exact ⟨C, hAB.trans hBC, hC, hQ⟩

/-- A refusal resolves, for there is no run in which it would not. -/
theorem throw {e : Error} : Resolves A (throw e : Compile α) Q :=
  fun _ _ _ _ hrun => (not_runs_throw hrun).elim

/-- A computation without aliases gives out none. -/
theorem lift {r : Result α} (h : ∀ a, r = .ok a → Q A a) : Resolves A (liftM r) Q := by
  intro n a n' hA hrun
  obtain ⟨ha, rfl⟩ := runs_lift.mp hrun
  exact ⟨A, le_rfl, hA, h a ha⟩

/-- A loop gives results that are as stated, if that lasts. -/
theorem mapM {f : α → Compile β} {xs : List α} {Q : Aliases s → β → Prop}
    (hmono : ∀ A B y, A ≤ B → Q A y → Q B y)
    (hf : ∀ B, A ≤ B → ∀ x ∈ xs, Resolves B (f x) Q) :
    Resolves A (xs.mapM f) fun B ys => ∀ y ∈ ys, Q B y := by
  induction xs generalizing A with
  | nil => exact pure nofun
  | cons x xs ih =>
    rw [List.mapM_cons]
    refine bind (hf A le_rfl x List.mem_cons_self) fun B hAB y hy => ?_
    refine bind (ih fun C hBC x hx => hf C (hAB.trans hBC) x (List.mem_cons_of_mem _ hx))
      fun C hBC ys hys => ?_
    exact pure (List.forall_mem_cons.mpr ⟨hmono _ _ _ hBC hy, hys⟩)

/-- A new alias stands for what it is given for. -/
theorem freshAlias {rows : Rows}
    (hknown : ∀ className, rows = .objects className → (s.class? className).isSome = true) :
    Resolves A ObjectQuery.freshAlias fun B label => B.rows? label = some rows := by
  intro n label n' hA hrun
  cases hrun
  exact ⟨A.give n rows hknown, A.le_give hA, A.until_give hA, A.rows?_give⟩

/-- A new alias for rows of no class. -/
theorem freshOther : Resolves A ObjectQuery.freshAlias fun B label => B.rows? label = some .other :=
  freshAlias nofun

/-- A new target is one of its class. -/
theorem freshTarget {className : String} (hknown : (s.class? className).isSome = true) :
    Resolves A (ObjectQuery.freshTarget className)
      fun B t => t.className = className ∧ B.Has t := by
  have hrows : ∀ name, Rows.objects className = .objects name → (s.class? name).isSome = true := by
    rintro _ ⟨⟩
    exact hknown
  exact bind (freshAlias hrows) fun B _ label hlabel => pure ⟨rfl, hlabel⟩

/-- A query of its own starts without joins. -/
theorem inNewScope {x : InScope α} (hx : InScope.Resolves A x Q) :
    Resolves A (ObjectQuery.inNewScope x) fun B r => r.2.Resolved B ∧ Q B r.1 := by
  intro n r n' hA hrun
  exact hx hA Scope.resolved_nil (runs_inNewScope.mp hrun)

end Compile.Resolves

namespace InScope.Resolves

variable {Q R : Aliases s → α → Prop}

/-- What is returned at once gives out no alias and joins nothing. -/
theorem pure {a : α} (h : Q A a) : Resolves A (pure a) Q := by
  intro scope n a' scope' n' hA hscope hrun
  obtain ⟨rfl, rfl, rfl⟩ := runs_pure.mp hrun
  exact ⟨A, le_rfl, hA, hscope, h⟩

/--
What resolves goes on with what resolves, under the aliases it has given out and behind its joins.
-/
theorem bind {x : InScope α} {f : α → InScope β} {Q : Aliases s → β → Prop} (hx : Resolves A x R)
    (hf : ∀ B, A ≤ B → ∀ a, R B a → Resolves B (f a) Q) : Resolves A (x >>= f) Q := by
  intro scope n b scope' n' hA hscope hrun
  obtain ⟨a, mid, m, hrx, hrf⟩ := runs_bind.mp hrun
  obtain ⟨B, hAB, hB, hmid, hR⟩ := hx hA hscope hrx
  obtain ⟨C, hBC, hC, hlast, hQ⟩ := hf B hAB a hR hB hmid hrf
  exact ⟨C, hAB.trans hBC, hC, hlast, hQ⟩

/-- A refusal resolves, whatever has been joined. -/
theorem throw {e : Error} : Resolves A (throw e : InScope α) Q :=
  fun _ _ _ _ _ _ _ hrun => (not_runs_throw hrun).elim

/-- What does not look at the joins resolves as it does without. -/
theorem liftCompile {x : Compile α} (h : Compile.Resolves A x Q) : Resolves A (liftM x) Q := by
  intro scope n a scope' n' hA hscope hrun
  obtain ⟨hx, rfl⟩ := runs_liftCompile.mp hrun
  obtain ⟨B, hAB, hB, hQ⟩ := h hA hx
  exact ⟨B, hAB, hB, hscope.mono hAB, hQ⟩

/-- A computation without aliases and joins gives out none. -/
theorem lift {r : Result α} (h : ∀ a, r = .ok a → Q A a) : Resolves A (liftM r) Q := by
  intro scope n a scope' n' hA hscope hrun
  obtain ⟨ha, rfl, rfl⟩ := runs_lift.mp hrun
  exact ⟨A, le_rfl, hA, hscope, h a ha⟩

/-- The joins are resolved when they are looked at. -/
theorem get : Resolves A get fun B scope => scope.Resolved B := by
  intro scope n a scope' n' hA hscope hrun
  cases hrun
  exact ⟨A, le_rfl, hA, hscope, hscope⟩

/-- The joins may be changed in whatever way keeps them resolved. -/
theorem modify {f : Scope → Scope} (h : ∀ scope, scope.Resolved A → (f scope).Resolved A) :
    Resolves A (modify f) fun _ _ => True := by
  intro scope n a scope' n' hA hscope hrun
  cases hrun
  exact ⟨A, le_rfl, hA, h scope hscope, trivial⟩

end InScope.Resolves

/-- What the keys of a filter refer to is there. -/
def Frame.Resolved (A : Aliases s) : Frame → Prop
  | .table t => A.Has t
  | .element o => Sql.Closed A.closedness o.sql

/-- The discipline of aliases: what is compiled is closed under those that have been given out. -/
def aliasDiscipline (s : Schema) : Discipline (Aliases s) where
  sense A := A.closedness
  Admits A frame := frame.Resolved A
  Ensures A x Q := InScope.Resolves A x Q
  closed_mono h hsql := Aliases.closed_mono h hsql
  admits_mono {A B frame} h hframe := by
    cases frame with
    | table t => exact Aliases.Has.mono h hframe
    | element o => exact Aliases.closed_mono h hframe
  pure h := .pure h
  bind hx hf := .bind hx hf
  throw _ := .throw
  lift h := .lift h

/-- Fragments that are closed stay so when more aliases are given out. -/
theorem Aliases.all_closed_mono {items : List Sql} (h : A ≤ B)
    (hitems : ∀ sql ∈ items, Sql.Closed A.closedness sql) :
    ∀ sql ∈ items, Sql.Closed B.closedness sql :=
  fun sql hsql => Aliases.closed_mono h (hitems sql hsql)

/-- Entries that are closed stay so when more aliases are given out. -/
theorem Aliases.entries_mono {entries : Entries} (h : A ≤ B) (hentries : entries.Closed A.closedness) :
    entries.Closed B.closedness :=
  (aliasDiscipline s).entries_mono h hentries

/-- The fields of an object may be referred to where its target has an alias. -/
theorem Aliases.Has.admits {t : Target} (h : A.Has t) : (aliasDiscipline s).Admits A (.table t) := h

end ObjectQuery
