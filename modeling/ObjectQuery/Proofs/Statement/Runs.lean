import Mathlib.Data.List.Forall2
import ObjectQuery.Statement.Scope

/-!
# Runs of a compilation

What a compilation does is read off its successful runs: the result, the joins of the query it is
part of, and the counter that aliases are drawn from. A run of a composed compilation is taken apart
into runs of its parts. Most of what is shown of a compiler needs no more than an invariant of the
joins: `InScope.Upholds` says that it is kept and that the result is as stated, `Compile.Yields` the
latter alone where there is no query yet. There is one rule for each way in which compilations are
composed.
-/

namespace ObjectQuery

/-- A compilation goes through with `a`; the counter goes from `n` to `n'`. -/
def Compile.Runs (x : Compile α) (n : Nat) (a : α) (n' : Nat) : Prop :=
  x.run.run n = (.ok a, n')

/-- A compilation inside a query goes through; the query's joins go from `scope` to `scope'`. -/
def InScope.Runs (x : InScope α) (scope : Scope) (n : Nat) (a : α) (scope' : Scope) (n' : Nat) :
    Prop :=
  Compile.Runs (x.run scope) n (a, scope') n'

namespace Compile

variable {a : α} {b : β} {n n' : Nat}

/-- What is returned at once leaves the counter as it is. -/
@[simp]
theorem runs_pure {a' : α} : Runs (pure a) n a' n' ↔ a = a' ∧ n = n' := by
  constructor
  · intro h
    cases h
    exact ⟨rfl, rfl⟩
  · rintro ⟨rfl, rfl⟩
    rfl

/-- A compilation goes on where another ends, unless that one fails. -/
theorem run_bind {x : Compile α} {f : α → Compile β} :
    (x >>= f).run.run n =
      match x.run.run n with
      | (.ok a, m) => (f a).run.run m
      | (.error e, m) => (.error e, m) := by
  simp only [ExceptT.run_bind, StateT.run_bind]
  cases x.run.run n with
  | mk r m => cases r <;> rfl

/--
A run of two steps is a run of the first and then one of the second, from where the counter stands.
-/
theorem runs_bind {x : Compile α} {f : α → Compile β} :
    Runs (x >>= f) n b n' ↔ ∃ a m, Runs x n a m ∧ Runs (f a) m b n' := by
  unfold Runs
  rw [run_bind]
  constructor
  · intro h
    split at h
    next a m hx => exact ⟨a, m, hx, h⟩
    next => cases h
  · rintro ⟨a, m, hx, hf⟩
    rw [hx]
    exact hf

/-- A refusal has no run. -/
@[simp]
theorem not_runs_throw {e : Error} : ¬ Runs (throw e : Compile α) n a n' := by
  intro h
  cases h

/-- A computation without aliases runs if it has a result, and leaves the counter as it is. -/
@[simp]
theorem runs_lift {r : Result α} :
    Runs (liftM r : Compile α) n a n' ↔ r = .ok a ∧ n = n' := by
  constructor
  · intro h
    cases r with
    | error e => cases h
    | ok a' =>
      cases h
      exact ⟨rfl, rfl⟩
  · rintro ⟨rfl, rfl⟩
    rfl

/-- A scope of its own is run without any joins, and gives what it has joined. -/
@[simp]
theorem runs_inNewScope {x : InScope α} {r : α × Scope} :
    Runs (inNewScope x) n r n' ↔ InScope.Runs x [] n r.1 r.2 n' :=
  Iff.rfl

/-- Every result of a loop that went through is that of a run on its item. -/
theorem forall₂_of_mapM {f : α → Compile β} {xs : List α} {ys : List β}
    (h : Runs (xs.mapM f) n ys n') :
    List.Forall₂ (fun x y => ∃ m m', Runs (f x) m y m') xs ys := by
  induction xs generalizing n n' ys with
  | nil =>
    obtain ⟨rfl, -⟩ := runs_pure.mp h
    exact .nil
  | cons x rest ih =>
    rw [List.mapM_cons] at h
    obtain ⟨y, m, hx, h⟩ := runs_bind.mp h
    obtain ⟨more, m', hrest, h⟩ := runs_bind.mp h
    obtain ⟨rfl, -⟩ := runs_pure.mp h
    exact .cons ⟨n, m, hx⟩ (ih hrest)

/-- A compilation that passes a test has a run. -/
theorem exists_runs_of_any {x : Compile α} {p : α → Bool}
    (h : ((x.run.run n).1.toOption.any p) = true) : ∃ a n', Runs x n a n' ∧ p a = true := by
  cases hx : x.run.run n with
  | mk r m =>
    rw [hx] at h
    cases r with
    | error e => cases h
    | ok a => exact ⟨a, m, hx, h⟩

/-- What a compilation gives satisfies `Q`. -/
def Yields (x : Compile α) (Q : α → Prop) : Prop :=
  ∀ ⦃n a n'⦄, Runs x n a n' → Q a

namespace Yields

variable {Q R : α → Prop}

/-- What is returned at once is as it is said to be. -/
theorem pure (h : Q a) : Yields (pure a) Q := by
  intro n a' n' hrun
  obtain ⟨rfl, rfl⟩ := runs_pure.mp hrun
  exact h

/-- What yields results of some kind goes on with what is said of such results. -/
theorem bind {x : Compile α} {f : α → Compile β} {Q : β → Prop} (hx : Yields x R)
    (hf : ∀ a, R a → Yields (f a) Q) : Yields (x >>= f) Q := by
  intro n b n' hrun
  obtain ⟨a, m, hrx, hrf⟩ := runs_bind.mp hrun
  exact hf a (hx hrx) hrf

/-- A refusal yields nothing that could be otherwise. -/
theorem throw {e : Error} : Yields (throw e : Compile α) Q :=
  fun _ _ _ hrun => (not_runs_throw hrun).elim

/-- A computation without aliases yields its result. -/
theorem lift {r : Result α} (h : ∀ a, r = .ok a → Q a) : Yields (liftM r) Q :=
  fun _ a _ hrun => h a (runs_lift.mp hrun).1

/-- Nothing need be said of what is yielded. -/
theorem any {x : Compile α} : Yields x fun _ => True :=
  fun _ _ _ _ => trivial

end Yields

end Compile

namespace InScope

variable {a : α} {b : β} {scope scope' : Scope} {n n' : Nat}

/-- What is returned at once leaves the joins and the counter as they are. -/
@[simp]
theorem runs_pure {a' : α} :
    Runs (pure a) scope n a' scope' n' ↔ a = a' ∧ scope = scope' ∧ n = n' := by
  constructor
  · intro h
    cases h
    exact ⟨rfl, rfl, rfl⟩
  · rintro ⟨rfl, rfl, rfl⟩
    rfl

/--
A run of two steps is a run of the first and then one of the second, behind the joins it has added.
-/
theorem runs_bind {x : InScope α} {f : α → InScope β} :
    Runs (x >>= f) scope n b scope' n' ↔
      ∃ a mid m, Runs x scope n a mid m ∧ Runs (f a) mid m b scope' n' := by
  unfold Runs
  rw [StateT.run_bind, Compile.runs_bind]
  constructor
  · rintro ⟨⟨a, mid⟩, m, hx, hf⟩
    exact ⟨a, mid, m, hx, hf⟩
  · rintro ⟨a, mid, m, hx, hf⟩
    exact ⟨(a, mid), m, hx, hf⟩

/-- A refusal has no run, whatever has been joined. -/
@[simp]
theorem not_runs_throw {e : Error} : ¬ Runs (throw e : InScope α) scope n a scope' n' := by
  intro h
  cases h

/-- What does not look at the joins runs as it does without, and leaves them as they are. -/
@[simp]
theorem runs_liftCompile {x : Compile α} :
    Runs (liftM x : InScope α) scope n a scope' n' ↔ Compile.Runs x n a n' ∧ scope = scope' := by
  change Compile.Runs (x >>= fun a => pure (a, scope)) n (a, scope') n' ↔ _
  rw [Compile.runs_bind]
  constructor
  · rintro ⟨a, m, hx, h⟩
    cases h
    exact ⟨hx, rfl⟩
  · rintro ⟨hx, rfl⟩
    exact ⟨a, n', hx, rfl⟩

/-- A computation without aliases and joins runs if it has a result, and leaves both as they are. -/
@[simp]
theorem runs_lift {r : Result α} :
    Runs (liftM r : InScope α) scope n a scope' n' ↔ r = .ok a ∧ scope = scope' ∧ n = n' := by
  change Runs (liftM (liftM r : Compile α) : InScope α) scope n a scope' n' ↔ _
  rw [runs_liftCompile, Compile.runs_lift]
  exact and_assoc.trans (and_congr_right fun _ => and_comm)

/-! ## Invariants of the joins -/

/-- Some run of a compilation gives this. -/
def Gives (x : InScope α) (a : α) : Prop :=
  ∃ scope n scope' n', Runs x scope n a scope' n'

namespace Gives

/-- What is returned at once is all that is given. -/
theorem of_pure {a' : α} (h : Gives (pure a) a') : a = a' := by
  obtain ⟨_, _, _, _, hrun⟩ := h
  exact (runs_pure.mp hrun).1

/-- What two steps give, the second gives of something that the first does. -/
theorem of_bind {x : InScope α} {f : α → InScope β} (h : Gives (x >>= f) b) :
    ∃ a, Gives x a ∧ Gives (f a) b := by
  obtain ⟨_, _, _, _, hrun⟩ := h
  obtain ⟨a, _, _, hx, hf⟩ := runs_bind.mp hrun
  exact ⟨a, ⟨_, _, _, _, hx⟩, _, _, _, _, hf⟩

/-- A refusal gives nothing. -/
theorem not_throw {e : Error} : ¬ Gives (throw e : InScope α) a := by
  rintro ⟨_, _, _, _, hrun⟩
  exact not_runs_throw hrun

/-- What is given in a scope of its own is given behind no joins. -/
theorem of_inNewScope {x : InScope α} {r : α × Scope}
    (h : Gives (liftM (ObjectQuery.inNewScope x)) r) : Gives x r.1 := by
  obtain ⟨_, _, _, _, hrun⟩ := h
  exact ⟨_, _, _, _, Compile.runs_inNewScope.mp (runs_liftCompile.mp hrun).1⟩

/-- Every result of a loop is that of its item. -/
theorem of_mapM {f : α → InScope β} {xs : List α} {ys : List β} (h : Gives (xs.mapM f) ys) :
    List.Forall₂ (fun x y => Gives (f x) y) xs ys := by
  induction xs generalizing ys with
  | nil =>
    obtain rfl := h.of_pure
    exact .nil
  | cons x rest ih =>
    rw [List.mapM_cons] at h
    obtain ⟨y, hy, h⟩ := h.of_bind
    obtain ⟨more, hmore, h⟩ := h.of_bind
    obtain rfl := h.of_pure
    exact .cons hy (ih hmore)

/-- What each turn settles of its result is settled by the loop's items. -/
theorem map_eq_of_mapM {f : α → InScope β} {xs : List α} {ys : List β} {key : β → γ} {key' : α → γ}
    (hkey : ∀ x y, Gives (f x) y → key y = key' x) (h : Gives (xs.mapM f) ys) :
    ys.map key = xs.map key' := by
  have hall := of_mapM h
  clear h
  induction hall with
  | nil => rfl
  | cons hy _ ih => rw [List.map_cons, List.map_cons, hkey _ _ hy, ih]

end Gives

/-- A compilation keeps an invariant of the joins, and what it gives satisfies `Q`. -/
def Upholds (I : Scope → Prop) (x : InScope α) (Q : α → Prop) : Prop :=
  ∀ ⦃scope n a scope' n'⦄, I scope → Runs x scope n a scope' n' → I scope' ∧ Q a

namespace Upholds

variable {I : Scope → Prop} {Q R : α → Prop}

/-- What is returned at once keeps the joins, and is as it is said to be. -/
theorem pure (h : Q a) : Upholds I (pure a) Q := by
  intro scope n a' scope' n' hI hrun
  obtain ⟨rfl, rfl, rfl⟩ := runs_pure.mp hrun
  exact ⟨hI, h⟩

/-- What keeps the joins goes on with what keeps them, said of results of its kind. -/
theorem bind {x : InScope α} {f : α → InScope β} {Q : β → Prop} (hx : Upholds I x R)
    (hf : ∀ a, R a → Upholds I (f a) Q) : Upholds I (x >>= f) Q := by
  intro scope n b scope' n' hI hrun
  obtain ⟨a, mid, m, hrx, hrf⟩ := runs_bind.mp hrun
  obtain ⟨hmid, hR⟩ := hx hI hrx
  exact hf a hR hmid hrf

/-- A refusal keeps the joins, for there is no run in which it would not. -/
theorem throw {e : Error} : Upholds I (throw e : InScope α) Q :=
  fun _ _ _ _ _ _ hrun => (not_runs_throw hrun).elim

/-- A computation without joins keeps them. -/
theorem lift {r : Result α} (h : ∀ a, r = .ok a → Q a) : Upholds I (liftM r) Q := by
  intro scope n a scope' n' hI hrun
  obtain ⟨ha, rfl, rfl⟩ := runs_lift.mp hrun
  exact ⟨hI, h a ha⟩

/-- What does not look at the joins keeps them. -/
theorem liftCompile {x : Compile α} (h : Compile.Yields x Q) : Upholds I (liftM x) Q := by
  intro scope n a scope' n' hI hrun
  obtain ⟨hx, rfl⟩ := runs_liftCompile.mp hrun
  exact ⟨hI, h hx⟩

/-- The joins are as they are kept when they are looked at. -/
theorem get : Upholds I get I := by
  intro scope n a scope' n' hI hrun
  cases hrun
  exact ⟨hI, hI⟩

/-- The joins may be changed in whatever way keeps what is said of them. -/
theorem modify {f : Scope → Scope} (h : ∀ scope, I scope → I (f scope)) :
    Upholds I (modify f) fun _ => True := by
  intro scope n a scope' n' hI hrun
  cases hrun
  exact ⟨h scope hI, trivial⟩

/-- Beside what is known of its result, that a run has given it. -/
theorem given {x : InScope α} (hx : Upholds I x Q) : Upholds I x fun a => Q a ∧ Gives x a :=
  fun _ _ _ _ _ hI hrun => ⟨(hx hI hrun).1, (hx hI hrun).2, _, _, _, _, hrun⟩

/-- A compilation of each of some items keeps the joins if each single one does. -/
theorem mapM {f : α → InScope β} {xs : List α} {Q : β → Prop}
    (hf : ∀ x ∈ xs, Upholds I (f x) Q) : Upholds I (xs.mapM f) fun ys => ∀ y ∈ ys, Q y := by
  induction xs with
  | nil => exact pure nofun
  | cons x xs ih =>
    rw [List.mapM_cons]
    refine bind (hf x List.mem_cons_self) fun y hy => ?_
    refine bind (ih fun x hx => hf x (List.mem_cons_of_mem _ hx)) fun ys hys => ?_
    exact pure (List.forall_mem_cons.mpr ⟨hy, hys⟩)

end Upholds

end InScope

/-- A query of its own starts without joins. -/
theorem Compile.Yields.inNewScope {I : Scope → Prop} {x : InScope α} {Q : α → Prop} (h : I [])
    (hx : InScope.Upholds I x Q) :
    Yields (ObjectQuery.inNewScope x) fun r => I r.2 ∧ Q r.1 :=
  fun _ _ _ hrun => hx h (runs_inNewScope.mp hrun)

end ObjectQuery
