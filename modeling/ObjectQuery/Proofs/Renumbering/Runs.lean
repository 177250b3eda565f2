import ObjectQuery.Proofs.Columns.Routes
import ObjectQuery.Proofs.Scoping.Sites
import ObjectQuery.Proofs.Sql.Alike

/-!
# Two runs of a compilation

A compiler that has drawn aliases before draws later ones. `Renumbered` says which aliases of two runs
correspond: those that were drawn, by number, and any other alias to itself. The class of a query may be
unknown to the schema, and then be named like an alias that is drawn; it corresponds to itself all the
same, as the name that the root goes by.

Two runs agree if they give what corresponds, or are refused alike, and leave the counters as far apart
as they were. There is one rule for each way in which compilations are composed.
-/

namespace ObjectQuery

/-- Aliases that have been drawn, the second of them later by some numbers. -/
def DrawnApart (shift : Nat) (label label' : String) : Prop :=
  ∃ n, label = aliasOf (n + 1) ∧ label' = aliasOf (n + 1 + shift)

/-- Aliases that correspond where some are drawn later, but for that of the root. -/
inductive Renumbered (shift : Nat) (root : Option String) : String → String → Prop where
  | drawn {label label' : String} (h : DrawnApart shift label label') :
    Renumbered shift root label label'
  | fixed {label : String} (h : label ∈ root ∨ ∀ n, label ≠ aliasOf (n + 1)) :
    Renumbered shift root label label

namespace Renumbered

variable {shift : Nat} {root : Option String} {a a' b b' : String}

instance : Sql.KeepsOwn (Renumbered shift root) where
  own label hlabel := .fixed (.inr fun n => by
    rintro rfl
    exact (AliasKind.aliasOf_unreserved _).1 hlabel)

/-- Unless the root is named like an alias that is drawn, aliases correspond one to one. -/
theorem eq_iff (hroot : ∀ className ∈ root, ∀ n, className ≠ aliasOf (n + 1))
    (ha : Renumbered shift root a a') (hb : Renumbered shift root b b') : a = b ↔ a' = b' := by
  have hdrawn {m n : Nat} : aliasOf m = aliasOf n ↔ m = n :=
    ⟨Aliases.aliasOf_injective, congrArg aliasOf⟩
  have hfixed {label : String} (h : label ∈ root ∨ ∀ n, label ≠ aliasOf (n + 1)) (n : Nat) :
      label ≠ aliasOf (n + 1) :=
    h.elim (hroot label · n) (· n)
  rcases ha with ⟨m, rfl, rfl⟩ | ha <;> rcases hb with ⟨n, rfl, rfl⟩ | hb
  · simp only [hdrawn]
    omega
  · refine ⟨fun h => (hfixed hb m h.symm).elim, fun h => (hfixed hb (m + shift) ?_).elim⟩
    rw [← h, Nat.add_right_comm]
  · refine ⟨fun h => (hfixed ha n h).elim, fun h => (hfixed ha (n + shift) ?_).elim⟩
    rw [h, Nat.add_right_comm]
  · exact Iff.rfl

end Renumbered

/--
Two compilers of a schema in which no class is named like an alias: the second is ahead by `shift`
aliases. Both compile a statement whose root, if any, is of the same class.
-/
structure Offset where
  schema : Schema
  accepted : schema.Accepted
  names : ∀ className, (schema.class? className).isSome = true → ∀ n, className ≠ aliasOf (n + 1)
  shift : Nat
  root : Option String

namespace Offset

variable (ν : Offset)

/-- Aliases of the two runs that correspond. -/
abbrev Labels : String → String → Prop := Renumbered ν.shift ν.root

/-- Fragments of the two runs that correspond. -/
abbrev Fragments : Sql → Sql → Prop := Sql.Alike ν.Labels

/-- Both are the root, or a class of the schema under aliases that correspond. -/
inductive Targets : Target → Target → Prop where
  | root {className : String} (h : className ∈ ν.root) :
    Targets (.root className) (.root className)
  | drawn {className label label' : String} (hknown : (ν.schema.class? className).isSome = true)
    (h : DrawnApart ν.shift label label') : Targets ⟨className, label⟩ ⟨className, label'⟩

/-- Joins of the same column; no root of an unknown class is joined to. -/
structure Joins (j j' : Join) : Prop where
  owner : Renumbered ν.shift none j.owner j'.owner
  column : j.column = j'.column
  label : DrawnApart ν.shift j.label j'.label
  sql : ν.Fragments j.sql j'.sql

/-- FROM clauses with the same joins. -/
abbrev Scopes : Scope → Scope → Prop := List.Forall₂ ν.Joins

/-- What the keys of a filter refer to in the two runs. -/
inductive Frames : Frame → Frame → Prop where
  | table {t t' : Target} (h : ν.Targets t t') : Frames (.table t) (.table t')
  | element {o o' : Operand} (h : o.Alike ν.Labels o') : Frames (.element o) (.element o')

/-- Two runs give what corresponds or are refused alike; the counters stay as far apart. -/
def Agree (R : α → α' → Prop) (x : Compile α) (x' : Compile α') : Prop :=
  ∀ n, Result.Agree R (x.run.run n).1 (x'.run.run (n + ν.shift)).1 ∧
    (x'.run.run (n + ν.shift)).2 = (x.run.run n).2 + ν.shift

/-- Two runs inside queries whose joins correspond give what corresponds, with such joins. -/
def AgreeIn (R : α → α' → Prop) (x : InScope α) (x' : InScope α') : Prop :=
  ∀ ⦃scope scope'⦄, ν.Scopes scope scope' →
    ν.Agree (fun r r' => R r.1 r'.1 ∧ ν.Scopes r.2 r'.2) (x.run scope) (x'.run scope')

variable {ν}

/-! ## Targets -/

namespace Targets

variable {t t' : Target}

/-- Targets that correspond are of one class. -/
theorem className_eq (h : ν.Targets t t') : t.className = t'.className := by
  cases h <;> rfl

/-- Targets that correspond have aliases that do. -/
theorem label (h : ν.Targets t t') : ν.Labels t.label t'.label := by
  cases h with
  | root h => exact .fixed (.inl h)
  | drawn _ h => exact .drawn h

/-- A target of a class of the schema is told apart from others by its alias. -/
theorem distinct (h : ν.Targets t t') (hknown : (ν.schema.class? t.className).isSome = true) :
    Renumbered ν.shift none t.label t'.label := by
  cases h with
  | root _ => exact .fixed (.inr (ν.names _ hknown))
  | drawn _ h => exact .drawn h

/-- Columns of targets that correspond are alike. -/
@[simp]
theorem column (h : ν.Targets t t') {name : String} :
    ν.Fragments (t.column name) (t'.column name) :=
  .column name h.label

/-- Tokens of targets that correspond are alike. -/
@[simp]
theorem token (h : ν.Targets t t') : ν.Fragments t.token t'.token := by
  simp [Target.token, h.column, h.className_eq]

/-- The table of a target is introduced in the same way. -/
theorem table (h : ν.Targets t t') : ν.Fragments t.table t'.table := by
  cases h with
  | root _ => simp [Target.table, Target.root]
  | @drawn className label label' hknown h =>
    obtain ⟨n, rfl, rfl⟩ := h
    have hfirst : aliasOf (n + 1) ≠ className := (ν.names className hknown n).symm
    have hsecond : aliasOf (n + 1 + ν.shift) ≠ className := by
      rw [Nat.add_right_comm]
      exact (ν.names className hknown _).symm
    simp only [Target.table, hfirst, hsecond, if_false]
    exact .table className (.drawn ⟨n, rfl, rfl⟩)

end Targets

/-! ## Joins -/

namespace Scopes

variable {scope scope' : Scope}

/-- A pointer of a class of the schema has been joined in both runs or in none. -/
theorem label? (h : ν.Scopes scope scope') {owner owner' : String}
    (howner : Renumbered ν.shift none owner owner') (column : String) :
    Option.Rel (DrawnApart ν.shift) (scope.label? owner column) (scope'.label? owner' column) := by
  induction h with
  | nil => exact .none
  | @cons j j' _ _ hj _ ih =>
    have hsame : (j.owner == owner && j.column == column) =
        (j'.owner == owner' && j'.column == column) := by
      have howners : j.owner = owner ↔ j'.owner = owner' := hj.owner.eq_iff (by simp) howner
      rw [hj.column, Bool.eq_iff_iff]
      simp only [Bool.and_eq_true, beq_iff_eq, howners]
    unfold Scope.label? at ih ⊢
    rw [List.find?_cons, List.find?_cons, hsame]
    split
    · exact .some hj.label
    · exact ih

/-- Joins that correspond make like tables of like tables. -/
theorem joined (h : ν.Scopes scope scope') {table table' : Sql} (htable : ν.Fragments table table') :
    ν.Fragments (scope.joined table) (scope'.joined table') := by
  refine .seq (.cons htable ?_)
  induction h with
  | nil => exact .nil
  | cons hj _ ih => exact .cons (.raw _) (.cons hj.sql ih)

/-- A target with joins that correspond is read in like clauses. -/
theorem clause (h : ν.Scopes scope scope') {t t' : Target} (ht : ν.Targets t t') :
    ν.Fragments (scope.clause t) (scope'.clause t') :=
  joined h ht.table

end Scopes

/-! ## Rules -/

namespace Agree

variable {R : α → α' → Prop} {S : β → β' → Prop}

/-- What is returned at once corresponds if it is given to. -/
theorem pure {a : α} {a' : α'} (h : R a a') : ν.Agree R (pure a) (pure a') :=
  fun _ => ⟨.ok h, rfl⟩

/-- Both runs are refused with the same error. -/
theorem throw {e : Error} : ν.Agree R (throw e) (throw e) := fun _ => ⟨.error e, rfl⟩

/-- Computations without aliases that agree do so in both runs. -/
theorem lift {r : Result α} {r' : Result α'} (h : r.Agree R r') :
    ν.Agree R (liftM r) (liftM r') := by
  cases h with
  | ok h => exact pure h
  | error e => exact throw

/-- Runs that agree go on to agree, if they do from all results that correspond. -/
theorem bind {x : Compile α} {x' : Compile α'} {f : α → Compile β} {f' : α' → Compile β'}
    (hx : ν.Agree R x x') (hf : ∀ a a', R a a' → ν.Agree S (f a) (f' a')) :
    ν.Agree S (x >>= f) (x' >>= f') := by
  intro n
  obtain ⟨hresult, hcounter⟩ := hx n
  rw [Compile.run_bind, Compile.run_bind]
  cases hrun : x.run.run n with
  | mk r m =>
    cases hrun' : x'.run.run (n + ν.shift) with
    | mk r' m' =>
      rw [hrun, hrun'] at hresult hcounter
      obtain rfl : m' = m + ν.shift := hcounter
      cases hresult with
      | ok h => exact hf _ _ h m
      | error e => exact ⟨.error e, rfl⟩

/-- Results that correspond in one way correspond in every weaker one. -/
theorem imp {Q : α → α' → Prop} {x : Compile α} {x' : Compile α'} (h : ν.Agree R x x')
    (hR : ∀ a a', R a a' → Q a a') : ν.Agree Q x x' :=
  fun n => ⟨(h n).1.imp hR, (h n).2⟩

/-- Two loops over the same items. -/
theorem mapM {f : γ → Compile α} {f' : γ → Compile α'} {xs : List γ}
    (hf : ∀ x ∈ xs, ν.Agree R (f x) (f' x)) :
    ν.Agree (List.Forall₂ R) (xs.mapM f) (xs.mapM f') := by
  induction xs with
  | nil => exact pure .nil
  | cons x xs ih =>
    rw [List.mapM_cons, List.mapM_cons]
    refine bind (hf x List.mem_cons_self) fun a a' ha => ?_
    refine bind (ih fun y hy => hf y (List.mem_cons_of_mem _ hy)) fun as as' has => ?_
    exact pure (.cons ha has)

/-- The aliases that are given out next correspond by their numbers. -/
theorem freshAlias : ν.Agree (DrawnApart ν.shift) freshAlias freshAlias := by
  refine fun n => ⟨.ok ⟨n, rfl, ?_⟩, Nat.add_right_comm _ _ _⟩
  rw [Nat.add_right_comm]
  rfl

/-- Targets of a class that have drawn their aliases; nothing is known of the class. -/
theorem drawnTarget {className : String} :
    ν.Agree (fun t t' => ∃ label label', t = ⟨className, label⟩ ∧ t' = ⟨className, label'⟩ ∧
      DrawnApart ν.shift label label') (freshTarget className) (freshTarget className) :=
  freshAlias.bind fun label label' h => pure ⟨label, label', rfl, rfl, h⟩

/-- New targets of one class correspond, if the schema knows the class. -/
theorem freshTarget {className : String} (hknown : (ν.schema.class? className).isSome = true) :
    ν.Agree (fun t t' => ν.Targets t t' ∧ t.className = className) (freshTarget className)
      (ObjectQuery.freshTarget className) := by
  refine drawnTarget.imp ?_
  rintro _ _ ⟨label, label', rfl, rfl, h⟩
  exact ⟨.drawn hknown h, rfl⟩

/-- Scopes of their own are run without any joins, and what they join corresponds. -/
theorem inNewScope {x : InScope α} {x' : InScope α'} (h : ν.AgreeIn R x x') :
    ν.Agree (fun r r' => R r.1 r'.1 ∧ ν.Scopes r.2 r'.2) (inNewScope x)
      (ObjectQuery.inNewScope x') :=
  h .nil

end Agree

namespace AgreeIn

variable {R : α → α' → Prop} {S : β → β' → Prop}

/-- What is returned at once corresponds if it is given to, and joins nothing. -/
theorem pure {a : α} {a' : α'} (h : R a a') : ν.AgreeIn R (pure a) (pure a') :=
  fun _ _ hscope => .pure ⟨h, hscope⟩

theorem throw {e : Error} : ν.AgreeIn R (throw e) (throw e) := fun _ _ _ => .throw

/-- Runs that agree go on to agree, behind joins that correspond. -/
theorem bind {x : InScope α} {x' : InScope α'} {f : α → InScope β} {f' : α' → InScope β'}
    (hx : ν.AgreeIn R x x') (hf : ∀ a a', R a a' → ν.AgreeIn S (f a) (f' a')) :
    ν.AgreeIn S (x >>= f) (x' >>= f') :=
  fun _ _ hscope => (hx hscope).bind fun _ _ h => hf _ _ h.1 h.2

/-- What does not look at the joins agrees as it does without. -/
theorem liftCompile {x : Compile α} {x' : Compile α'} (h : ν.Agree R x x') :
    ν.AgreeIn R (liftM x) (liftM x') :=
  fun _ _ hscope => h.bind fun _ _ h => .pure ⟨h, hscope⟩

/-- Computations without aliases and joins that agree do so in both runs. -/
theorem lift {r : Result α} {r' : Result α'} (h : r.Agree R r') :
    ν.AgreeIn R (liftM r) (liftM r') :=
  liftCompile (.lift h)

/-- The joins that have been made correspond when they are looked at. -/
theorem get : ν.AgreeIn ν.Scopes get get := fun _ _ hscope => .pure ⟨hscope, hscope⟩

/-- The joins may be changed in ways that keep them corresponding. -/
theorem modify {f f' : Scope → Scope}
    (h : ∀ scope scope', ν.Scopes scope scope' → ν.Scopes (f scope) (f' scope')) :
    ν.AgreeIn Eq (modify f) (modify f') :=
  fun _ _ hscope => .pure ⟨rfl, h _ _ hscope⟩

/-- Two loops over the same items. -/
theorem mapM {f : γ → InScope α} {f' : γ → InScope α'} {xs : List γ}
    (hf : ∀ x ∈ xs, ν.AgreeIn R (f x) (f' x)) :
    ν.AgreeIn (List.Forall₂ R) (xs.mapM f) (xs.mapM f') := by
  induction xs with
  | nil => exact pure .nil
  | cons x xs ih =>
    rw [List.mapM_cons, List.mapM_cons]
    refine bind (hf x List.mem_cons_self) fun a a' ha => ?_
    refine bind (ih fun y hy => hf y (List.mem_cons_of_mem _ hy)) fun as as' has => ?_
    exact pure (.cons ha has)

/-- What may be missing agrees if it does where it is there, for it is missing in both runs. -/
theorem optionMapM {f : γ → InScope α} {f' : γ → InScope α'} {o : Option γ}
    (hf : ∀ x ∈ o, ν.AgreeIn R (f x) (f' x)) :
    ν.AgreeIn (Option.Rel R) (o.mapM f) (o.mapM f') := by
  cases o with
  | none => exact pure .none
  | some x => exact (hf x rfl).bind fun _ _ h => pure (.some h)

/-- Scopes of their own agree inside others if they do by themselves. -/
theorem inNewScope {x : InScope α} {x' : InScope α'} (h : ν.AgreeIn R x x') :
    ν.AgreeIn (fun r r' => R r.1 r'.1 ∧ ν.Scopes r.2 r'.2) (liftM (inNewScope x))
      (liftM (ObjectQuery.inNewScope x')) :=
  liftCompile (.inNewScope h)

end AgreeIn

end Offset

end ObjectQuery
