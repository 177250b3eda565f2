import ObjectQuery.Statement.Condition

/-!
# Conditions that are never null

The store knows three truth values: a comparison with null is neither true nor false, and a negation
of what is null is null. A condition that is negated has to be true or false in every row. `Decided`
is the grammar of the conditions that a filter is compiled to; `Decided.eval` is what the store makes
of them, null included, and `Decided.eval_isSome` says that null does not occur. The tests of an
operand, the comparisons and the connectives all stay in the grammar.
-/

namespace ObjectQuery

/-! ## Three truth values -/

/-- A truth value of the store; none is null. -/
abbrev Truth := Option Bool

namespace Truth

/-- A negation of null is null. -/
def not (a : Truth) : Truth := a.map fun b => !b

/-- What is false makes a conjunction false, whatever stands beside it. -/
def and : Truth → Truth → Truth
  | some false, _ => some false
  | _, some false => some false
  | some true, some true => some true
  | _, _ => none

/-- What is true makes a disjunction true, whatever stands beside it. -/
def or : Truth → Truth → Truth
  | some true, _ => some true
  | _, some true => some true
  | some false, some false => some false
  | _, _ => none

/-- A negation is known where what it negates is. -/
theorem isSome_not {a : Truth} (ha : a.isSome = true) : a.not.isSome = true := by
  simpa [not] using ha

/-- A conjunction is known where both sides are. -/
theorem isSome_and {a b : Truth} (ha : a.isSome = true) (hb : b.isSome = true) :
    (a.and b).isSome = true := by
  obtain ⟨a, rfl⟩ := Option.isSome_iff_exists.mp ha
  obtain ⟨b, rfl⟩ := Option.isSome_iff_exists.mp hb
  cases a <;> cases b <;> rfl

/-- A disjunction is known where both sides are. -/
theorem isSome_or {a b : Truth} (ha : a.isSome = true) (hb : b.isSome = true) :
    (a.or b).isSome = true := by
  obtain ⟨a, rfl⟩ := Option.isSome_iff_exists.mp ha
  obtain ⟨b, rfl⟩ := Option.isSome_iff_exists.mp hb
  cases a <;> cases b <;> rfl

end Truth

/-- What the fragments of a statement come to in the row at hand. -/
structure Valuation where
  Value : Type
  /-- What a fragment comes to as a value; none is null. -/
  value : Sql → Option Value
  /-- What a fragment comes to as a condition. -/
  truth : Sql → Truth
  /-- Whether a subquery has a row. -/
  hasRow : Sql → Bool
  /-- A constant that is written into the statement; no such constant is null. -/
  constant : String → Value
  equal : Value → Value → Bool
  /-- The kind of a document. -/
  kind : Value → String
  /-- The number of items of an array. -/
  cardinality : Value → Nat
  /-- How a document stands to a list. -/
  related : SetRelation → Value → Json → Bool

namespace Valuation

variable (ρ : Valuation)

def isNull (x : Sql) : Truth := some (ρ.value x).isNone

/-- Beside null an equation is null. -/
def equals (x : Sql) (constant : String) : Truth :=
  (ρ.value x).map fun v => ρ.equal v (ρ.constant constant)

/-- Beside null a membership is null. -/
def isAmong (x : Sql) (constants : List String) : Truth :=
  (ρ.value x).map fun v => constants.any fun c => ρ.equal v (ρ.constant c)

/-- Null is distinct from every value, and not from null. -/
def distinct (x y : Sql) : Bool :=
  match ρ.value x, ρ.value y with
  | none, none => false
  | some a, some b => !ρ.equal a b
  | _, _ => true

/-- The number of items; null has none. -/
def size (x : Sql) : Nat := ((ρ.value x).map ρ.cardinality).getD 0

/-- A test for null settles a disjunction with what is unknown only for null. -/
theorem isSome_isNull_or {x : Sql} {t : Truth} (h : (ρ.value x).isSome → t.isSome) :
    ((ρ.isNull x).or t).isSome = true := by
  unfold isNull
  cases hx : ρ.value x with
  | none => cases t with | none => rfl | some b => cases b <;> rfl
  | some v => exact Truth.isSome_or rfl (h (by rw [hx]; rfl))

end Valuation

/-! ## The grammar -/

/-- The tests of a document that is known to be an array. -/
inductive ArrayTest where
  | related (relation : SetRelation) (list : Json)
  | hasRow (subquery : Sql)

namespace ArrayTest

/-- The test of a document. -/
def sql (x : Sql) : ArrayTest → Sql
  | related relation list => .seq [x, relation.sql, .param (.json list)]
  | hasRow subquery => .seq ["EXISTS (", .block subquery, ")"]

/-- Beside null a relation is null. -/
def eval (ρ : Valuation) (x : Sql) : ArrayTest → Truth
  | related relation list => (ρ.value x).map fun v => ρ.related relation v list
  | hasRow subquery => some (ρ.hasRow subquery)

/-- A test of an array is known if the array is there. -/
theorem eval_isSome {ρ : Valuation} {x : Sql} (hx : (ρ.value x).isSome = true) (t : ArrayTest) :
    (t.eval ρ x).isSome = true := by
  cases t with
  | related relation list => simpa [eval] using hx
  | hasRow subquery => rfl

end ArrayTest

/-- A condition that is true or false in every row. -/
inductive Decided where
  | known (b : Bool)
  /-- Any condition, null counting as false. -/
  | orFalse (condition : Sql)
  | isNull (x : Sql)
  | isNotNull (x : Sql)
  | distinct (x y : Sql)
  | notDistinct (x y : Sql)
  | nullOrEqual (x : Sql) (constant : String)
  | nullOrAmong (x : Sql) (constants : List String)
  /-- An array has a number of items; null has none. -/
  | hasSize (x : Sql) (count : Int)
  | hasNone (x : Sql)
  /-- A document is an array or null; where there is none that counts as true. -/
  | arrayOrNull (x : Sql)
  /-- A document is an array that passes a test. -/
  | ifArray (x : Sql) (t : ArrayTest)
  | hasRow (subquery : Sql)
  | hasNoRow (subquery : Sql)
  | not (p : Decided)
  | all (ps : List Decided)
  | any (ps : List Decided)

namespace Decided

mutual

/-- A condition as it is written. -/
def sql : Decided → Sql
  | known b => if b then "true" else "false"
  | orFalse condition => .seq ["COALESCE(", condition, ", false)"]
  | isNull x => .seq [x.parens, " IS NULL"]
  | isNotNull x => .seq [x.parens, " IS NOT NULL"]
  | distinct x y => .seq ["(", x, " IS DISTINCT FROM ", y, ")"]
  | notDistinct x y => .seq ["(", x, " IS NOT DISTINCT FROM ", y, ")"]
  | nullOrEqual x constant => .seq ["(", x, " IS NULL OR ", x, .raw (" = " ++ constant ++ ")")]
  | nullOrAmong x constants =>
    .seq ["(", x, " IS NULL OR ", x, .raw (" IN (" ++ ", ".intercalate constants ++ "))")]
  | hasSize x count => .seq ["COALESCE(cardinality(", x, "), 0) = ", Sql.int count]
  | hasNone x => .seq ["COALESCE(cardinality(", x, "), 0) = 0"]
  | arrayOrNull x => .seq ["COALESCE(jsonb_typeof(", x, ") IN ('array', 'null'), true)"]
  | ifArray x t => .seq ["CASE WHEN ", x.jsonIs "array", " THEN ", t.sql x, " ELSE false END"]
  | hasRow subquery => .seq ["EXISTS (", .block subquery, ")"]
  | hasNoRow subquery => .seq ["NOT ", .seq ["EXISTS (", .block subquery, ")"]]
  | not p => p.sql.not
  | all ps => .seq ["(", .join ((sqls ps).map Sql.parens) " AND ", ")"]
  | any ps => .seq ["(", .join ((sqls ps).map Sql.parens) " OR ", ")"]

def sqls : List Decided → List Sql
  | [] => []
  | p :: ps => p.sql :: sqls ps

end

mutual

/-- What the store makes of a condition. -/
def eval (ρ : Valuation) : Decided → Truth
  | known b => some b
  | orFalse condition => some ((ρ.truth condition).getD false)
  | isNull x => ρ.isNull x
  | isNotNull x => (ρ.isNull x).not
  | distinct x y => some (ρ.distinct x y)
  | notDistinct x y => some (!ρ.distinct x y)
  | nullOrEqual x constant => (ρ.isNull x).or (ρ.equals x constant)
  | nullOrAmong x constants => (ρ.isNull x).or (ρ.isAmong x constants)
  | hasSize x count => some (decide ((ρ.size x : Int) = count))
  | hasNone x => some (decide (ρ.size x = 0))
  | arrayOrNull x =>
    some (((ρ.value x).map fun v => ρ.kind v == "array" || ρ.kind v == "null").getD true)
  | ifArray x t => if (ρ.value x).map ρ.kind = some "array" then t.eval ρ x else some false
  | hasRow subquery => some (ρ.hasRow subquery)
  | hasNoRow subquery => some (!ρ.hasRow subquery)
  | not p => (eval ρ p).not
  | all ps => evalAll ρ ps
  | any ps => evalAny ρ ps

def evalAll (ρ : Valuation) : List Decided → Truth
  | [] => some true
  | p :: ps => (eval ρ p).and (evalAll ρ ps)

def evalAny (ρ : Valuation) : List Decided → Truth
  | [] => some false
  | p :: ps => (eval ρ p).or (evalAny ρ ps)

end

mutual

/-- No condition of the grammar is null, whatever the row. -/
theorem eval_isSome (ρ : Valuation) : ∀ p : Decided, (p.eval ρ).isSome = true
  | known b => rfl
  | orFalse condition => rfl
  | isNull x => rfl
  | isNotNull x => rfl
  | distinct x y => rfl
  | notDistinct x y => rfl
  | nullOrEqual x constant => by
    unfold eval
    exact ρ.isSome_isNull_or fun hx => by simpa [Valuation.equals] using hx
  | nullOrAmong x constants => by
    unfold eval
    exact ρ.isSome_isNull_or fun hx => by simpa [Valuation.isAmong] using hx
  | hasSize x count => rfl
  | hasNone x => rfl
  | arrayOrNull x => rfl
  | ifArray x t => by
    unfold eval
    split
    next hkind =>
      obtain ⟨v, hv, -⟩ := Option.map_eq_some_iff.mp hkind
      exact ArrayTest.eval_isSome (by rw [hv]; rfl) t
    next => rfl
  | hasRow subquery => rfl
  | hasNoRow subquery => rfl
  | not p => by
    unfold eval
    exact Truth.isSome_not (eval_isSome ρ p)
  | all ps => by
    unfold eval
    exact evalAll_isSome ρ ps
  | any ps => by
    unfold eval
    exact evalAny_isSome ρ ps

/-- A conjunction of decided conditions is known. -/
theorem evalAll_isSome (ρ : Valuation) : ∀ ps : List Decided, (evalAll ρ ps).isSome = true
  | [] => rfl
  | p :: ps => by
    unfold evalAll
    exact Truth.isSome_and (eval_isSome ρ p) (evalAll_isSome ρ ps)

/-- A disjunction of decided conditions is known. -/
theorem evalAny_isSome (ρ : Valuation) : ∀ ps : List Decided, (evalAny ρ ps).isSome = true
  | [] => rfl
  | p :: ps => by
    unfold evalAny
    exact Truth.isSome_or (eval_isSome ρ p) (evalAny_isSome ρ ps)

end

end Decided

/-! ## Fragments of the grammar -/

/-- A fragment is a condition of the grammar. -/
def Sql.IsDecided (sql : Sql) : Prop := ∃ p : Decided, sql = p.sql

namespace Sql

/-- A known truth is decided. -/
theorem isDecided_known (b : Bool) : IsDecided (if b then "true" else "false") := ⟨.known b, rfl⟩

theorem isDecided_true : IsDecided "true" := isDecided_known true

theorem isDecided_false : IsDecided "false" := isDecided_known false

/-- A test that is false where it is unknown is decided, whatever it is. -/
theorem isDecided_orFalse (condition : Sql) : IsDecided condition.orFalse :=
  ⟨.orFalse condition, rfl⟩

/-- A negation of what is decided is decided. -/
theorem IsDecided.not {sql : Sql} (h : IsDecided sql) : IsDecided sql.not := by
  obtain ⟨p, rfl⟩ := h
  exact ⟨.not p, rfl⟩

/-- Fragments that are all decided are those of some conditions of the grammar. -/
theorem exists_sqls {items : List Sql} (h : ∀ i ∈ items, IsDecided i) :
    ∃ ps, items = Decided.sqls ps := by
  induction items with
  | nil => exact ⟨[], rfl⟩
  | cons item rest ih =>
    obtain ⟨⟨p, rfl⟩, hrest⟩ := List.forall_mem_cons.mp h
    obtain ⟨ps, rfl⟩ := ih hrest
    exact ⟨p :: ps, rfl⟩

/-- Conditions of the grammar are joined in it; of none and of one there is nothing to join. -/
theorem isDecided_connect {items : List Sql} {separator whenEmpty : String}
    (h : ∀ i ∈ items, IsDecided i) (hempty : IsDecided (raw whenEmpty))
    (hjoin : ∀ ps, IsDecided
      (.seq ["(", .join ((Decided.sqls ps).map Sql.parens) separator, ")"])) :
    IsDecided (connect items separator whenEmpty) := by
  have hwritten : ∀ i ∈ items.filter (fun i => !isEmpty i), IsDecided i :=
    fun i hi => h i (List.mem_filter.mp hi).1
  unfold connect
  split
  next => exact hempty
  next item heq => exact hwritten item (heq ▸ List.mem_singleton_self item)
  next =>
    obtain ⟨ps, hps⟩ := exists_sqls hwritten
    rw [hps]
    exact hjoin ps

/-- A conjunction of decided fragments is decided, and so is the empty one. -/
theorem isDecided_and {items : List Sql} (h : ∀ i ∈ items, IsDecided i) : IsDecided (and items) :=
  isDecided_connect h isDecided_true fun ps => ⟨.all ps, rfl⟩

/-- A disjunction of decided fragments is decided, and so is the empty one. -/
theorem isDecided_or {items : List Sql} (h : ∀ i ∈ items, IsDecided i) : IsDecided (or items) :=
  isDecided_connect h isDecided_false fun ps => ⟨.any ps, rfl⟩

end Sql

open Sql

/-- Whatever connects decided fragments, the whole is decided. -/
theorem Connective.isDecided_sql (op : Connective) {items : List Sql}
    (h : ∀ i ∈ items, IsDecided i) : IsDecided (op.sql items) := by
  cases op with
  | and => exact isDecided_and h
  | or => exact isDecided_or h
  | nor => exact (isDecided_or h).not

/-! ## Tests of operands -/

namespace Operand

variable (o : Operand)

/-- A test for null is decided. -/
theorem isDecided_isNull : IsDecided o.isNull := by
  unfold isNull
  split
  next => exact ⟨.nullOrEqual o.sql "'null'::jsonb", rfl⟩
  next => exact isDecided_false
  next => exact ⟨.isNull o.sql, rfl⟩

/-- A comparison with a constant is decided. -/
theorem isDecided_compareConstant (op : Comparison) (v : Json) :
    IsDecided (o.compareConstant op v) := by
  unfold compareConstant
  split
  next =>
    split
    next => exact o.isDecided_isNull
    next => exact o.isDecided_isNull.not
    next => exact isDecided_false
  next =>
    split
    next => exact isDecided_true
    next => exact isDecided_false
    next => exact isDecided_orFalse _
    next => exact (isDecided_orFalse _).not
    next =>
      split
      next => exact isDecided_orFalse _
      next => exact isDecided_false

/-- That a document is not null is the negation of what is true where it is missing. -/
example : compareConstant ⟨"x", .json⟩ .ne .null =
    (Decided.not (.nullOrEqual "x" "'null'::jsonb")).sql := rfl

/-- A comparison with several constants is decided. -/
theorem isDecided_equalsOne (list : List Json) : IsDecided (o.equalsOne list) := by
  refine isDecided_or fun i hi => ?_
  obtain ⟨v, -, rfl⟩ := List.mem_map.mp hi
  exact o.isDecided_compareConstant .eq v

/-- A test of a string is decided. -/
theorem isDecided_testString (operator param : String) : IsDecided (o.testString operator param) := by
  unfold testString
  split
  next => exact isDecided_orFalse _
  next => exact isDecided_orFalse _
  next => exact isDecided_false

/-- A test of an array is decided. -/
theorem isDecided_testArray (sql : Sql) (relation : SetRelation) (complete : Bool) (list : Param) :
    IsDecided (testArray sql relation complete list) := by
  unfold testArray
  split
  next => exact isDecided_false
  next => exact isDecided_orFalse _

/-- A test of an array in a document is decided. -/
theorem isDecided_testJsonArray (sql : Sql) (relation : SetRelation) (list : Json) :
    IsDecided (testJsonArray sql relation (.json list)) := by
  cases relation with
  | subset => exact ⟨.ifArray sql (.related .subset list), rfl⟩
  | superset => exact ⟨.ifArray sql (.related .superset list), rfl⟩
  | intersect => exact ⟨.ifArray sql (.hasRow _), rfl⟩

/-- A test against a set is decided. -/
theorem isDecided_testSet (relation : SetRelation) (list : List Json) :
    IsDecided (o.testSet relation list) := by
  unfold testSet
  split
  next => exact isDecided_testArray ..
  next => exact isDecided_testArray ..
  next => exact isDecided_testJsonArray ..
  next => exact isDecided_false

/-- A test of a size is decided. -/
theorem isDecided_testSize (count : Nat) : IsDecided (o.testSize count) := by
  unfold testSize
  dsimp only
  split
  next => exact isDecided_orFalse _
  next => exact isDecided_orFalse _
  next => exact ⟨.hasSize o.sql _, rfl⟩
  next => exact isDecided_orFalse _
  next => exact isDecided_false

/-- A test for being empty is decided. -/
theorem isDecided_isEmpty : IsDecided o.isEmpty := by
  unfold isEmpty
  split
  next => exact ⟨.nullOrEqual o.sql "''", rfl⟩
  next => exact ⟨.hasNone o.sql, rfl⟩
  next => exact ⟨.hasNone o.sql, rfl⟩
  next =>
    exact ⟨.nullOrAmong o.sql
      ["'null'::jsonb", "'\"\"'::jsonb", "'[]'::jsonb", "'\x7b\x7d'::jsonb"], rfl⟩
  next => exact ⟨.isNull o.sql, rfl⟩

/-- A test that is no filter for elements is a condition of the grammar. -/
theorem exists_isDecided_test : ∀ t : FieldTest, t.elementFilter? = none →
    ∃ sql, o.test t = .ok sql ∧ IsDecided sql
  | .compare op v, _ => ⟨_, rfl, o.isDecided_compareConstant op v⟩
  | .oneOf list, _ => ⟨_, rfl, o.isDecided_equalsOne list⟩
  | .noneOf list, _ => ⟨_, rfl, (o.isDecided_equalsOne list).not⟩
  | .subset list, _ => ⟨_, rfl, o.isDecided_testSet .subset list⟩
  | .superset list, _ => ⟨_, rfl, o.isDecided_testSet .superset list⟩
  | .intersect list, _ => ⟨_, rfl, o.isDecided_testSet .intersect list⟩
  | .not t, h => by
    obtain ⟨sql, htest, hsql⟩ := exists_isDecided_test t h
    exact ⟨sql.not, by rw [test, htest], hsql.not⟩
  | .pattern .., _ => ⟨_, rfl, o.isDecided_testString _ _⟩
  | .startsWith text, _ => ⟨_, rfl, o.isDecided_testString _ _⟩
  | .endsWith text, _ => ⟨_, rfl, o.isDecided_testString _ _⟩
  | .size count, _ => ⟨_, rfl, o.isDecided_testSize count⟩
  | .empty expected, _ => by
    refine ⟨_, rfl, ?_⟩
    split
    next => exact o.isDecided_isEmpty
    next => exact o.isDecided_isEmpty.not

/-! ## Operands of expressions -/

/-- The truth value of an operand is decided. -/
theorem isDecided_truthy : IsDecided o.truthy := by
  unfold truthy
  split
  next => exact isDecided_orFalse _
  next => exact isDecided_orFalse _
  next => exact isDecided_true
  next => exact ⟨.isNotNull o.sql, rfl⟩

/-- A comparison of two operands is decided. -/
theorem isDecided_compare (op : Comparison) (l r : Operand) : IsDecided (compare op l r) := by
  unfold compare
  generalize compareSides l r = sides
  obtain ⟨left, right, ordered⟩ := sides
  dsimp only
  split
  next => exact ⟨.notDistinct left right, rfl⟩
  next => exact ⟨.distinct left right, rfl⟩
  next =>
    split
    next => exact isDecided_orFalse _
    next => exact isDecided_false

end Operand

/-- The truth value of a term is decided. -/
theorem Term.isDecided_truth (t : Term) : IsDecided t.truth := by
  cases t with
  | operand o => exact o.isDecided_truthy
  | constant v => exact isDecided_known _

namespace Context

/-- A condition on the members of a relation is decided, for a subquery has rows or has none. -/
theorem isDecided_quantified (every : Bool) (source : Sql) (conditions : List Sql)
    (condition : Sql) : IsDecided (quantified every source conditions condition) := by
  unfold quantified
  split
  next => exact ⟨.hasNoRow _, rfl⟩
  next => exact ⟨.hasRow _, rfl⟩

/-- A test for a list, or for nothing, is decided. -/
theorem isDecided_isListOrNull (sql : Sql) : IsDecided (isListOrNull sql) :=
  ⟨.arrayOrNull sql, rfl⟩

end Context

end ObjectQuery
