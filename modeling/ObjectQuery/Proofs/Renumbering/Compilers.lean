import ObjectQuery.Proofs.Renumbering.Statements
import ObjectQuery.Proofs.Scoping.Statements
import ObjectQuery.Statement.Compiler

/-!
# Statements one after another

A statement puts the conditions of its own query in force before it is compiled, or looks at none. So
of what a compiler has compiled before, only the number of aliases it has drawn is left to tell, and
that moves the aliases of the statement without changing anything else of it.
-/

namespace ObjectQuery

open Offset

variable {ν : Offset} {q : Query} {s : Schema}

/-! ## One statement -/

/-- What is done with the objects of a query is compiled alike in both runs. -/
theorem Operation.agree_compile (hq : q.className ∈ ν.root) (op : Operation) :
    ν.Agree ν.Fragments (op.compile ν.schema q) (op.compile ν.schema q) := by
  cases op with
  | find lock => exact Read.agree_find hq
  | count => exact Read.agree_count hq
  | random weight => exact Read.agree_random hq
  | explain => exact Read.agree_explain hq
  | insert objects => exact Write.agree_insert hq
  | update document => exact Write.agree_update hq
  | upsert document object => exact Write.agree_upsert hq
  | delete => exact Write.agree_delete hq

theorem Tables.agree_prepare :
    ν.Agree (List.Forall₂ ν.Fragments) (prepare ν.schema) (prepare ν.schema) := by
  refine .lift ((Result.Agree.refl _).imp ?_)
  rintro statements _ ⟨rfl, hprepare⟩
  refine List.forall₂_same.mpr fun sql hsql => ?_
  exact Tables.closed_of_mem_prepare (K := Sql.selfAlike ν.Labels) hprepare hsql

/-- The class of the query that a statement is for. -/
def Statement.root? : Statement → Option String
  | .operation q _ | .nonrefs q => q.className
  | .refs .. | .tables => none

namespace Compiler

variable {c c' : Compiler}

/-- The second of two compilers is ahead of the first. -/
structure Ahead (ν : Offset) (c c' : Compiler) : Prop where
  schema : c.schema = ν.schema
  schema' : c'.schema = ν.schema
  drawn : c'.drawn = c.drawn + ν.shift

/-- Both compilers answer alike, and the second is still ahead. -/
theorem Ahead.run (h : Ahead ν c c') {x x' : Compile α} {R : α → α → Prop} (hx : ν.Agree R x x') :
    (c.run x).1.Agree R (c'.run x').1 ∧ Ahead ν (c.run x).2 (c'.run x').2 := by
  obtain ⟨hresult, hcounter⟩ := hx c.drawn
  rw [← h.drawn] at hresult hcounter
  exact ⟨hresult, h.schema, h.schema', hcounter⟩

theorem Ahead.start (h : Ahead ν c c') : Ahead ν (c.start q) (c'.start q) :=
  ⟨h.schema, h.schema', h.drawn⟩

/-- Whatever conditions were in force, a query is compiled under its own. -/
theorem Ahead.runQuery (h : Ahead ν c c') {compile : Schema → Query → Compile Sql}
    (hx : ν.Agree ν.Fragments (compile ν.schema q) (compile ν.schema q)) :
    ((c.start q).runQuery q compile).1.Agree (List.Forall₂ ν.Fragments)
        ((c'.start q).runQuery q compile).1 ∧
      Ahead ν ((c.start q).runQuery q compile).2 ((c'.start q).runQuery q compile).2 := by
  refine h.start.run ?_
  rw [h.start.schema, h.start.schema']
  exact .bind hx fun _ _ hsql => .pure (.cons hsql .nil)

/-- One step: the statements that two compilers answer with differ in drawn aliases alone. -/
theorem Ahead.perform (h : Ahead ν c c') {st : Statement} (hroot : ν.root = st.root?) :
    (c.perform st).1.Agree (List.Forall₂ ν.Fragments) (c'.perform st).1 ∧
      Ahead ν (c.perform st).2 (c'.perform st).2 := by
  cases st with
  | operation q op => exact h.runQuery (op.agree_compile hroot)
  | nonrefs q => exact h.runQuery (Read.agree_nonrefs hroot)
  | refs className ids =>
    refine h.run ?_
    rw [h.schema, h.schema']
    exact .bind Read.agree_refs fun _ _ hsql => .pure (.cons hsql .nil)
  | tables =>
    refine h.run ?_
    rw [h.schema, h.schema']
    exact Tables.agree_prepare

/-! ## Any statements before -/

theorem schema_perform {st : Statement} : (c.perform st).2.schema = c.schema := by
  cases st <;> rfl

theorem schema_after {before : List Statement} : (c.after before).schema = c.schema := by
  induction before generalizing c with
  | nil => rfl
  | cons st before ih => exact ih.trans schema_perform

/--
Whatever a compiler has compiled before, with success or without, under whatever conditions: it answers
a statement as a new one does, with the same refusal or with statements that are the same trees and bind
the same parameters, except that each alias that is drawn has a number that is higher by those drawn
before. The root keeps the name of its class, also of one that the schema does not know and that is
named like an alias.
-/
theorem perform_after (hs : s.Accepted)
    (hnames : ∀ className, (s.class? className).isSome = true → ∀ n, className ≠ aliasOf (n + 1))
    (before : List Statement) (st : Statement) :
    Result.Agree
      (fun fresh later =>
        List.Forall₂ (Sql.Alike (Renumbered ((new s).after before).drawn st.root?)) fresh later ∧
          fresh.map (·.compile.params) = later.map (·.compile.params))
      ((new s).perform st).1 (((new s).after before).perform st).1 ∧
    (((new s).after before).perform st).2.drawn =
      ((new s).perform st).2.drawn + ((new s).after before).drawn := by
  let ν : Offset := ⟨s, hs, hnames, ((new s).after before).drawn, st.root?⟩
  have hahead : Ahead ν (new s) ((new s).after before) :=
    ⟨rfl, schema_after, (Nat.zero_add _).symm⟩
  obtain ⟨hagree, hnext⟩ := hahead.perform rfl
  refine ⟨hagree.imp fun fresh later h => ⟨h, ?_⟩, hnext.drawn⟩
  exact List.forall₂_eq_eq_eq ▸ List.rel_map (fun _ _ h => h.params_eq) h

/-- Something that is done with the tags on notes from one city. -/
def withTags (extraFilter : Option ClassFilter) (op : Operation) : Statement :=
  .operation
    { className := "Tag"
      base := { filter := .field "note.info.city" (.compare .eq (.str "Rome")) }
      includes := ["label"]
      extraFilter
      relatedBy := none } op

/-- Notes are hidden unless they are from another city. -/
def otherNotes : ClassFilter := fun className =>
  if className = "Note" then .field "info.city" (.compare .eq (.str "Oslo")) else .truth

/-- Statements of other callers; the last is refused for its weight, after it has joined the notes. -/
def earlier : List Statement :=
  [.tables, .refs "Note" ["n"], withTags (some otherNotes) .count,
    withTags (some otherNotes) (.random (some "weight"))]

/-- The notes are joined to the tags under a later alias, and none of them is hidden any more. -/
theorem perform_after_of_withTags :
    ∃ fresh later, Gate.taggedSchema.Accepted ∧
      (∀ className, (Gate.taggedSchema.class? className).isSome = true →
        ∀ n, className ≠ aliasOf (n + 1)) ∧
      ((new Gate.taggedSchema).after earlier).drawn = 2 ∧
      ((new Gate.taggedSchema).after earlier).guards.isSome = true ∧
      ((new Gate.taggedSchema).perform (withTags none .count)).1 = .ok fresh ∧
      (((new Gate.taggedSchema).after earlier).perform (withTags none .count)).1 = .ok later ∧
      fresh.flatMap (·.tables) = [⟨"Tag", "Tag"⟩, ⟨"Note", "_p1"⟩] ∧
      later.flatMap (·.tables) = [⟨"Tag", "Tag"⟩, ⟨"Note", "_p3"⟩] ∧
      List.Forall₂ (Sql.Alike (Renumbered 2 (some "Tag"))) fresh later := by
  have hs : Gate.taggedSchema.Accepted := Schema.accepted_of_ofJson Gate.ofJson_taggedNotes
  have hdrawn : ((new Gate.taggedSchema).after earlier).drawn = 2 := by decide +kernel
  have hguards : ((new Gate.taggedSchema).after earlier).guards.isSome = true := by decide +kernel
  obtain ⟨fresh, hfresh, hfirst⟩ := Result.exists_of_any
    (x := ((new Gate.taggedSchema).perform (withTags none .count)).1)
    (p := fun fresh => fresh.flatMap (·.tables) = [⟨"Tag", "Tag"⟩, ⟨"Note", "_p1"⟩])
    (by decide +kernel)
  obtain ⟨later, hlater, hmoved⟩ := Result.exists_of_any
    (x := (((new Gate.taggedSchema).after earlier).perform (withTags none .count)).1)
    (p := fun later => later.flatMap (·.tables) = [⟨"Tag", "Tag"⟩, ⟨"Note", "_p3"⟩])
    (by decide +kernel)
  have hheads : ∀ e ∈ Gate.taggedSchema.classes, e.1.toList.head? ≠ some '_' := by decide
  have hnames : ∀ className, (Gate.taggedSchema.class? className).isSome = true →
      ∀ n, className ≠ aliasOf (n + 1) := by
    intro className hknown n
    obtain ⟨c, hc⟩ := Option.isSome_iff_exists.mp hknown
    exact Aliases.ne_aliasOf (hheads _ (hs.ordered.find?_eq_some_iff.mp hc)) _
  obtain ⟨hagree, -⟩ := perform_after hs hnames earlier (withTags none .count)
  rw [hfresh, hlater, hdrawn] at hagree
  cases hagree with
  | ok h =>
    exact ⟨fresh, later, hs, hnames, hdrawn, hguards, hfresh, hlater,
      of_decide_eq_true hfirst, of_decide_eq_true hmoved, h.1⟩

end Compiler

end ObjectQuery
