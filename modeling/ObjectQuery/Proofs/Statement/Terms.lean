import ObjectQuery.Proofs.Sql.Predicate
import ObjectQuery.Statement.Projection

/-!
# Closed terms and objects

What the compiler makes of closed operands is closed, in whatever sense: terms, connectives, vectors, the
elements of an array, the inputs of aggregates, and the objects of a result.
-/

namespace ObjectQuery

open Sql

variable {K : Closedness}

/-! ## Terms -/

/-- The operand of a term is closed; constants always are. -/
def Term.Closed (K : Closedness) : Term → Prop
  | .operand o => Sql.Closed K o.sql
  | .constant _ => True

theorem Term.predicate_knownTruth {b : Bool} : Predicate K (knownTruth b) := by
  cases b <;> exact ⟨closed_raw, rfl⟩

/-- The truth of a closed term is a predicate. -/
theorem Term.predicate_truth {t : Term} (h : t.Closed K) : Predicate K t.truth := by
  cases t with
  | operand o => exact Operand.predicate_truthy h
  | constant v => exact predicate_knownTruth

/-- The document of a closed term is closed. -/
theorem Term.document_closed {t : Term} (h : t.Closed K) : Sql.Closed K t.document := by
  cases t with
  | operand o =>
    have ho : Sql.Closed K o.sql := h
    unfold document
    dsimp only
    split <;> simp [ho]
  | constant v => exact closed_param

/-- An array of closed terms is closed. -/
theorem Term.array_closed {items : List Term} (h : ∀ t ∈ items, t.Closed K) :
    (Term.array items).Closed K := by
  unfold array
  split
  next => trivial
  next =>
    change Sql.Closed K _
    simpa using fun t ht => document_closed (h t ht)

/-- A comparison of closed terms is closed. -/
theorem Term.compare_closed {op : Comparison} {l r : Term} (hl : l.Closed K) (hr : r.Closed K) :
    Sql.Closed K (compare op l r) := by
  cases l with
  | operand l =>
    cases r with
    | operand r => exact Operand.compare_closed hl hr
    | constant v => exact (Operand.predicate_compareConstant hl).closed
  | constant v =>
    cases r with
    | operand r => exact (Operand.predicate_compareConstant hr).closed
    | constant w => exact predicate_knownTruth.closed

/-- A connective of closed parts is a predicate. -/
theorem Connective.predicate_sql {op : Connective} {parts : List Sql}
    (h : ∀ p ∈ parts, Closed K p) : Predicate K (op.sql parts) := by
  cases op with
  | and => exact predicate_and h
  | or => exact predicate_or h
  | nor => exact predicate_not (closed_or h)

/-- A cast to a vector is closed exactly when what it casts is. -/
@[simp]
theorem Vector.closed_cast {sql : Sql} {dimension : Option Nat} :
    Closed K (Vector.cast sql dimension) ↔ Closed K sql := by
  unfold cast
  cases dimension <;> simp

/-- A vector taken of a closed term is closed. -/
theorem Vector.ofTerm_closed {dimension : Option Nat} {t : Term} {sql : Sql} (ht : t.Closed K)
    (h : Vector.ofTerm dimension t = .ok sql) : Closed K sql := by
  unfold ofTerm at h
  split at h
  next => cases h; exact closed_cast.mpr ht
  next element =>
    have helement : Sql.Closed K element := ht
    cases h
    simp [helement]
  next =>
    split at h
    next => cases h; simp [ofDoubles]
    next => cases h
  next => cases h; simp [ofDoubles]
  next => cases h

/-- An element of a vector taken of a closed term is closed. -/
theorem Vector.elementOfTerm_closed {t : Term} {sql : Sql} (ht : t.Closed K)
    (h : Vector.elementOfTerm t = .ok sql) : Closed K sql := by
  unfold elementOfTerm at h
  split at h
  next => cases h; exact closed_param
  next element kind =>
    have helement : Sql.Closed K element := ht
    split at h
    next => cases h; simpa using helement
    next => cases h
  next => cases h

/-- What stands at a path in a closed element is closed. -/
theorem Context.elementOperand_closed {element o : Operand} {path : String}
    (hsql : Closed K element.sql) (h : elementOperand element path = .ok o) : Closed K o.sql := by
  unfold elementOperand at h
  split at h
  next => cases h; exact hsql
  next =>
    split at h
    next =>
      obtain ⟨segments, -, h⟩ := Result.bind_eq_ok.mp h
      cases h
      simpa using hsql
    next => cases h

/-- The rows of the elements of a closed operand are closed. -/
theorem Context.elementsOf?_closed {o : Operand} {rows : Sql} {type : OperandType}
    (ho : Closed K o.sql) (h : elementsOf? o = some (rows, type)) : Closed K rows := by
  unfold elementsOf? at h
  split at h
  next => cases h; simp [unnest, ho]
  next => cases h; simp [unnest, ho]
  next => cases h; simp [unnest, ho]
  next => cases h; simp [unnestJson, ho]
  next => cases h

/-- The condition on the rows may be closed in another sense than the whole. -/
theorem Context.predicate_quantified {R : Closedness} {every : Bool} {source condition : Sql}
    {conditions : List Sql} (hcondition : Predicate R condition)
    (h : ∀ extra, Predicate R extra →
      Closed K (.block (select "1" source (and (conditions ++ [extra])) .empty))) :
    Predicate K (quantified every source conditions condition) := by
  unfold quantified
  split
  next =>
    have hexists := predicate_existsIn (h _ (predicate_not hcondition.closed))
    exact ⟨by simp [hexists.closed], rfl⟩
  next => exact predicate_existsIn (h _ hcondition)

/-- What members have to satisfy: the conditions on members, and what is asked for. -/
theorem Context.closed_members {contained asked : List Sql}
    (hcontained : ∀ c ∈ contained, Closed K c) (hasked : ∀ c ∈ asked, Predicate K c) :
    Closed K (Sql.and (contained ++ asked)) :=
  closed_and (List.forall_mem_append.mpr ⟨hcontained, fun c hc => (hasked c hc).closed⟩)

/-- The input that an aggregate takes of a closed term is closed. -/
theorem Context.aggregateInput_closed {numeric : Bool} {t : Term} {sql : Sql} (ht : t.Closed K)
    (h : aggregateInput numeric t = .ok sql) : Closed K sql := by
  unfold aggregateInput at h
  split at h
  next =>
    split at h
    next =>
      split at h
      next => cases h; exact closed_param
      next => cases h
    next => cases h; exact closed_param
  next o =>
    have ho : Closed K o.sql := ht
    split at h
    next =>
      cases h
      split <;> simp [ho]
    next =>
      split at h
      next => cases h
      next => cases h; exact ho
    next =>
      split at h
      next => cases h
      next => cases h; exact ho

/-- An ordered aggregate of a closed function and input is closed. -/
theorem Context.withinGroup_closed {function input : Sql} (hf : Closed K function)
    (hi : Closed K input) : Closed K (withinGroup function input) := by
  simp [withinGroup, hf, hi]

/-- Grouped rows are closed when their query is, whatever it lists. -/
theorem Context.groupRows_closed [K.Lax] {label : String} {key value source condition : Sql}
    (hlabel : ∀ name, Closed K (.column label name))
    (h : ∀ list tail, Closed K list → Closed K tail →
      Closed K (.block (select list source condition tail)))
    (hkey : Closed K key) (hvalue : Closed K value) :
    Closed K (groupRows label key value source condition) := by
  have hrows := h (.seq [key, " AS ", .ident "key", ", to_jsonb(", value, ") AS ", .ident "value"])
    " GROUP BY 1" (by simp [hkey, hvalue]) closed_raw
  simp only [groupRows, closed_seq, List.forall_mem_cons, closed_raw, true_and]
  exact ⟨Closed.block (by simp [hlabel, hrows]), List.forall_mem_nil _⟩

/-! ## Objects -/

/-- Documents that are closed, under whatever keys. -/
def Entries.Closed (K : Closedness) (entries : Entries) : Prop :=
  ∀ entry ∈ entries, Sql.Closed K entry.2

/-- Limit and offset are closed. -/
theorem Sql.bounds_closed {limit skip : Option Nat} : Closed K (bounds limit skip) := by
  unfold bounds
  cases limit <;> cases skip.filter (0 < ·) <;> simp

/-- An object built of closed entries is closed. -/
theorem Sql.buildObject_closed {entries : Entries} (h : entries.Closed K) :
    Closed K (buildObject entries) := by
  simpa [buildObject, Entries.Closed] using h

/-- The chunks are the entries, in order. -/
theorem flatten_chunksFrom {size : Nat} {chunk entries : Entries} :
    (chunksFrom size chunk entries).flatten = chunk ++ entries := by
  induction entries generalizing chunk with
  | nil =>
    unfold chunksFrom
    cases chunk <;> simp
  | cons entry rest ih =>
    unfold chunksFrom
    split <;> simp [ih]

/-- An object of closed entries is closed, with or without any entry. -/
theorem Sql.object_closed {entries : Entries} (h : entries.Closed K) :
    Closed K (object entries) := by
  unfold object
  split
  next => exact closed_raw
  next entries =>
    refine closed_join_map.mpr fun chunk hchunk => buildObject_closed fun entry hentry => ?_
    have hmem := List.mem_flatten_of_mem hchunk hentry
    rw [flatten_chunksFrom, List.nil_append] at hmem
    exact h entry hmem

end ObjectQuery
