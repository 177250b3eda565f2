import ObjectQuery.Proofs.Columns.Created

/-!
# Created indexes

An index is named after its class and its columns, with underscores between them and in them. The name
is nothing but the words between the underscores: two indexes share it exactly if they share all words.
So directions and uniqueness tell no index from another; class, columns, vector field and method do as
long as no name goes on where another ends with an underscore.
-/

namespace ObjectQuery

/-! ## Words of a text -/

namespace Text

variable {sep : Char}

theorem intercalate_append {front back : List (List Char)} (hfront : front ≠ []) (hback : back ≠ []) :
    [sep].intercalate (front ++ back) =
      [sep].intercalate front ++ sep :: [sep].intercalate back := by
  induction front with
  | nil => exact absurd rfl hfront
  | cons part rest ih =>
    cases rest with
    | nil =>
      obtain ⟨first, others, rfl⟩ := List.exists_cons_of_ne_nil hback
      rw [List.singleton_append, List.intercalate_cons_cons, List.intercalate_singleton,
        List.append_assoc, List.singleton_append]
    | cons next rest =>
      rw [List.cons_append, List.cons_append, List.intercalate_cons_cons, ← List.cons_append,
        ih (List.cons_ne_nil _ _), List.intercalate_cons_cons]
      simp only [List.append_assoc]

/-- A text whose parts begin another's is that text, or a separator follows it there. -/
theorem eq_or_continues {a b : List Char} (h : splitChars sep a <+: splitChars sep b) :
    a = b ∨ ∃ rest, b = a ++ sep :: rest := by
  obtain ⟨parts, hparts⟩ := h
  have hb := intercalate_splitChars sep b
  by_cases hempty : parts = []
  · subst hempty
    rw [List.append_nil] at hparts
    rw [← hparts, intercalate_splitChars] at hb
    exact .inl hb
  · rw [← hparts, intercalate_append (splitChars_ne_nil sep a) hempty, intercalate_splitChars] at hb
    exact .inr ⟨_, hb.symm⟩

end Text

/-- A name that goes on where another ends with an underscore. -/
def Continues (a b : String) : Prop := ∃ rest, b = a ++ "_" ++ rest

/-- The parts between the underscores of some names. -/
def words (names : List String) : List String := names.flatMap (Text.split '_')

variable {a b : String} {names others : List String}

theorem eq_or_continues_of_split (h : Text.split '_' a <+: Text.split '_' b) :
    a = b ∨ Continues a b := by
  have hchars : ∀ text, (Text.split '_' text).map String.toList = Text.splitChars '_' text.toList := by
    intro text
    simp [Text.split, Function.comp_def]
  have hprefix := h.map String.toList
  rw [hchars, hchars] at hprefix
  rcases Text.eq_or_continues hprefix with heq | ⟨rest, heq⟩
  · exact .inl (String.toList_injective heq)
  · refine .inr ⟨String.ofList rest, String.toList_injective ?_⟩
    simp [String.toList_append, heq]

theorem words_cons : words (a :: names) = Text.split '_' a ++ words names := List.flatMap_cons

theorem words_ne_nil (h : names ≠ []) : words names ≠ [] := by
  obtain ⟨first, rest, rfl⟩ := List.exists_cons_of_ne_nil h
  rw [words_cons]
  exact List.append_ne_nil_of_left_ne_nil (Text.split_ne_nil _ _) _

theorem split_intercalate_underscore (h : names ≠ []) :
    Text.split '_' ("_".intercalate names) = words names := by
  induction names with
  | nil => exact absurd rfl h
  | cons first rest ih =>
    cases rest with
    | nil => simp [words]
    | cons next rest =>
      rw [String.intercalate_cons_cons, words_cons, ← ih (List.cons_ne_nil _ _)]
      exact Text.split_join '_' _ _

/-- A name that does not go on behind another is told from it by its words, whatever follows. -/
theorem of_words_cons (hfree : ¬Continues a b ∧ ¬Continues b a)
    (h : words (a :: names) = words (b :: others)) : a = b ∧ words names = words others := by
  rw [words_cons, words_cons] at h
  have hsame : a = b := by
    rcases List.prefix_or_prefix_of_prefix (List.prefix_append _ _)
        (h ▸ List.prefix_append (Text.split '_' b) _) with hprefix | hprefix
    · exact (eq_or_continues_of_split hprefix).resolve_right hfree.1
    · exact ((eq_or_continues_of_split hprefix).resolve_right hfree.2).symm
  subst hsame
  exact ⟨rfl, List.append_cancel_left h⟩

/-- Where no name goes on behind another, the words of a list are those of no other list. -/
theorem eq_of_words (hfree : ∀ a ∈ names, ∀ b ∈ others, ¬Continues a b ∧ ¬Continues b a)
    (h : words names = words others) : names = others := by
  induction names generalizing others with
  | nil =>
    by_contra hne
    exact words_ne_nil (Ne.symm hne) h.symm
  | cons a names ih =>
    cases others with
    | nil => exact absurd h (words_ne_nil (List.cons_ne_nil _ _))
    | cons b others =>
      obtain ⟨rfl, hrest⟩ := of_words_cons (hfree a List.mem_cons_self b List.mem_cons_self) h
      rw [ih (fun a ha b hb => hfree a (List.mem_cons_of_mem _ ha) b (List.mem_cons_of_mem _ hb)) hrest]

/-! ## Names of indexes -/

/-- What an index is named after behind its class: its columns, or its field and the operators. -/
def Index.parts : Index → List String
  | .keys entries _ => entries.map (·.1)
  | .vector field method => [field, method.operatorClass]

/-- The name of an index of a class. -/
def Index.name (className : String) (index : Index) : String :=
  className ++ "_" ++ "_".intercalate index.parts ++ "_idx"

theorem Index.split_name {className : String} {index : Index} (h : index.parts ≠ []) :
    Text.split '_' (index.name className) = words (className :: index.parts) ++ ["idx"] := by
  have hname : index.name className =
      (className ++ "_" ++ "_".intercalate index.parts) ++ String.singleton '_' ++ "idx" := by
    have htail : ("_idx" : String) = String.singleton '_' ++ "idx" := by rfl
    rw [Index.name, htail, ← String.append_assoc]
  have hclass : Text.split '_' (className ++ "_" ++ "_".intercalate index.parts) =
      Text.split '_' className ++ Text.split '_' ("_".intercalate index.parts) :=
    Text.split_join '_' _ _
  rw [hname, Text.split_join, hclass, split_intercalate_underscore h, words_cons]
  rfl

/-- Indexes are called the same when all words are. -/
theorem Index.name_eq_iff {className other : String} {index index' : Index} (h : index.parts ≠ [])
    (h' : index'.parts ≠ []) :
    index.name className = index'.name other ↔
      words (className :: index.parts) = words (other :: index'.parts) := by
  constructor
  · intro hname
    have hsplit := congrArg (Text.split '_') hname
    rw [split_name h, split_name h'] at hsplit
    exact List.append_cancel_right hsplit
  · intro hwords
    have hsplit : Text.split '_' (index.name className) = Text.split '_' (index'.name other) := by
      rw [split_name h, split_name h', hwords]
    exact Text.split_injective hsplit

/-- Classes and columns that run into each other share a name. -/
example : (Index.keys [("c", .null)] false).name "A_b" =
    (Index.keys [("b", .null), ("c", .null)] true).name "A" := by rfl

/--
No class of two goes on behind the other's name, and no column or operator of one index behind one of the
other.
-/
structure Index.Apart (className other : String) (index index' : Index) : Prop where
  classes : ¬Continues className other ∧ ¬Continues other className
  parts : ∀ a ∈ index.parts, ∀ b ∈ index'.parts, ¬Continues a b ∧ ¬Continues b a

/-- Indexes whose names do not run into each other are called the same when class and columns are. -/
theorem Index.name_eq_iff_of_apart {className other : String} {index index' : Index}
    (h : index.parts ≠ []) (h' : index'.parts ≠ []) (hapart : Apart className other index index') :
    index.name className = index'.name other ↔ className = other ∧ index.parts = index'.parts := by
  rw [name_eq_iff h h']
  constructor
  · intro hwords
    obtain ⟨hclass, hparts⟩ := of_words_cons hapart.classes hwords
    exact ⟨hclass, eq_of_words hapart.parts hparts⟩
  · rintro ⟨rfl, hparts⟩
    rw [hparts]

/-! ## Statements that create indexes -/

namespace Tables

/-- The name of the index that a statement creates unless there is one already. -/
def indexName? : Sql → Option String
  | .seq (.raw word :: .ident name :: _) =>
    if ["CREATE UNIQUE INDEX IF NOT EXISTS ", "CREATE INDEX IF NOT EXISTS "].contains word then some name
    else none
  | _ => none

/--
The index that a store has under a name when some statements have run: the first statement to create it
does, the others find it there and change nothing.
-/
def made (statements : List Sql) (name : String) : Option Sql :=
  statements.find? fun sql => indexName? sql == some name

variable {s : Schema} {className : String} {c : Class} {index : Index} {sql : Sql}
  {statements : List Sql}

theorem name_of_indexColumn (hs : s.Accepted) (hc : s.class? className = some c)
    {entry : String × Json} {column : String × Direction}
    (h : indexColumn s className entry = .ok column) : column.1 = entry.1 := by
  obtain ⟨⟨name, ty, path⟩, hcolumn, h⟩ := Result.bind_eq_ok.mp h
  obtain ⟨hindexed, h⟩ := Result.refuse_eq_ok.mp h
  obtain rfl := Result.pure_eq_ok.mp h
  obtain ⟨rfl, -⟩ : path = .column ∧ _ := by simpa using hindexed
  exact ((hs.column_eq_column hc).mp hcolumn).2

/-- A statement that creates an index creates it under its name. -/
theorem indexName?_of_createIndex (hs : s.Accepted) (hc : s.class? className = some c)
    (h : createIndex s className index = .ok sql) :
    index.parts ≠ [] ∧ indexName? sql = some (index.name className) := by
  cases index with
  | keys entries unique =>
    obtain ⟨hentries, h⟩ := Result.refuse_eq_ok.mp h
    obtain ⟨columns, hcolumns, h⟩ := Result.bind_eq_ok.mp h
    have hnames : columns.map (·.1) = entries.map (·.1) := by
      rw [← List.forall₂_eq_eq_eq, List.forall₂_map_left_iff, List.forall₂_map_right_iff]
      exact ((Result.mapM_eq_ok.mp hcolumns).imp fun _ _ h => name_of_indexColumn hs hc h).flip
    obtain rfl := Result.pure_eq_ok.mp h
    refine ⟨by simpa [Index.parts] using hentries, ?_⟩
    rw [hnames]
    cases unique <;> rfl
  | vector field method =>
    obtain ⟨dimension, -, h⟩ := Result.bind_eq_ok.mp h
    obtain rfl := Result.pure_eq_ok.mp h
    refine ⟨List.cons_ne_nil _ _, ?_⟩
    simp [indexName?, Index.name, Index.parts, String.append_assoc]

/-- Only what creates an index has the name of one. -/
theorem indexName?_of_columnStatements (h : sql ∈ columnStatements className c) :
    indexName? sql = none := by
  rcases List.mem_cons.mp h with rfl | h
  · rfl
  · obtain ⟨column, -, hadded⟩ := List.mem_filterMap.mp h
    obtain ⟨rest, rfl⟩ := addColumn_begins hadded
    rfl

end Tables

/-- An index of a class of the schema. -/
def Schema.Declares (s : Schema) (className : String) (index : Index) : Prop :=
  ∃ c, s.class? className = some c ∧ index ∈ c.indexes

namespace Tables

variable {s : Schema} {className : String} {index : Index} {sql : Sql} {statements : List Sql}

theorem exists_of_declares (hprepare : prepare s = .ok statements)
    (h : s.Declares className index) :
    ∃ sql ∈ statements, createIndex s className index = .ok sql := by
  obtain ⟨c, hc, hindex⟩ := h
  have hclass := Table.mem_of_find?_eq_some hc
  obtain ⟨tables, htables, -⟩ := Result.bind_eq_ok.mp hprepare
  obtain ⟨own, hown⟩ := Result.exists_of_mem_of_mapM_eq_ok htables _ hclass
  obtain ⟨indexes, hindexes, -⟩ := Result.bind_eq_ok.mp hown
  obtain ⟨sql, hsql⟩ := Result.exists_of_mem_of_mapM_eq_ok hindexes index hindex
  exact ⟨sql, (mem_prepare hprepare).mpr (.inr ⟨_, hclass, .inr ⟨index, hindex, hsql⟩⟩), hsql⟩

/-- What creates an index among the statements that prepare a store is declared. -/
theorem declares_of_mem_prepare (hs : s.Accepted) (hprepare : prepare s = .ok statements)
    (hsql : sql ∈ statements) (h : (indexName? sql).isSome = true) :
    ∃ className index, s.Declares className index ∧ createIndex s className index = .ok sql := by
  rcases (mem_prepare hprepare).mp hsql with ⟨-, rfl⟩ | ⟨m, hm, hcolumn | ⟨index, hindex, hcreate⟩⟩
  · cases h
  · rw [indexName?_of_columnStatements hcolumn] at h
    cases h
  · exact ⟨m.1, index, ⟨m.2, hs.ordered.find?_eq_some_iff.mpr hm, hindex⟩, hcreate⟩

/--
Every index of a schema is asked for by a statement under its name, and what the store then has under
that name is an index of the schema with the same words. Two indexes have one name exactly if they share
all words: where no name goes on behind another, exactly if class and columns are the same.
-/
theorem prepare_indexes {document : Json} (hs : Schema.ofJson document = .ok s)
    (hprepare : prepare s = .ok statements) :
    (∀ className index, s.Declares className index →
      (∃ sql ∈ statements, createIndex s className index = .ok sql ∧
        indexName? sql = some (index.name className)) ∧
      ∃ other index' sql, s.Declares other index' ∧ createIndex s other index' = .ok sql ∧
        made statements (index.name className) = some sql ∧
        index'.name other = index.name className) ∧
    ∀ className index other index', s.Declares className index → s.Declares other index' →
      (index.name className = index'.name other ↔
        words (className :: index.parts) = words (other :: index'.parts)) ∧
      (Index.Apart className other index index' →
        (index.name className = index'.name other ↔
          className = other ∧ index.parts = index'.parts)) := by
  have haccepted := Schema.accepted_of_ofJson hs
  have hnamed : ∀ {className index sql}, s.Declares className index →
      createIndex s className index = .ok sql →
        index.parts ≠ [] ∧ indexName? sql = some (index.name className) := by
    rintro className index sql ⟨c, hc, -⟩ hsql
    exact indexName?_of_createIndex haccepted hc hsql
  constructor
  · intro className index hdeclares
    obtain ⟨sql, hmem, hsql⟩ := exists_of_declares hprepare hdeclares
    have hname := (hnamed hdeclares hsql).2
    refine ⟨⟨sql, hmem, hsql, hname⟩, ?_⟩
    obtain ⟨first, hfirst⟩ : ∃ first, made statements (index.name className) = some first := by
      rw [← Option.isSome_iff_exists, made, List.find?_isSome]
      exact ⟨sql, hmem, beq_iff_eq.mpr hname⟩
    have hfound : indexName? first = some (index.name className) := by
      simpa using List.find?_some hfirst
    obtain ⟨other, index', hother, hcreates⟩ := declares_of_mem_prepare haccepted hprepare
      (List.mem_of_find?_eq_some hfirst) (by rw [hfound]; rfl)
    have hsame := (hnamed hother hcreates).2
    rw [hfound] at hsame
    exact ⟨other, index', first, hother, hcreates, hfirst, (Option.some.inj hsame).symm⟩
  · intro className index other index' h h'
    obtain ⟨sql, -, hsql⟩ := exists_of_declares hprepare h
    obtain ⟨sql', -, hsql'⟩ := exists_of_declares hprepare h'
    exact ⟨Index.name_eq_iff (hnamed h hsql).1 (hnamed h' hsql').1,
      Index.name_eq_iff_of_apart (hnamed h hsql).1 (hnamed h' hsql').1⟩

/-! ## Two classes with their indexes -/

/-- A name that is no longer than another does not go on behind it. -/
theorem not_continues_of_length {a b : String} (h : b.length ≤ a.length) : ¬Continues a b := by
  rintro ⟨rest, rfl⟩
  simp only [String.length_append] at h
  have hunderscore : "_".length = 1 := rfl
  omega

/-- Notes with an index on their text, a unique one on it, and one on text and rank. -/
def rankedNotes : Json :=
  .obj [("Note", .obj [
    ("fields", .obj [("rank", .str "number"), ("text", .str "string")]),
    ("indexes", .arr [
      .obj [("keys", .obj [("text", .num (.int 1))])],
      .obj [("keys", .obj [("text", .num (.int 1))]), ("unique", .bool true)],
      .obj [("keys", .obj [("text", .num (.int 1)), ("rank", .num (.int (-1)))])]])])]

def plainIndex : Index := .keys [("text", .num (.int 1))] false

def uniqueIndex : Index := .keys [("text", .num (.int 1))] true

def rankIndex : Index := .keys [("text", .num (.int 1)), ("rank", .num (.int (-1)))] false

/-- The notes as a schema. -/
def rankedSchema : Schema where
  classes := [("Note", {
    fields := Field.defaults.foldl (fun t f => t.insert f.1 f.2)
      [("rank", .primitive .number none), ("text", .primitive .string none)]
    indexes := [plainIndex, uniqueIndex, rankIndex] })]

/-- The index on text and rank is called otherwise than that on the text, and is created. -/
theorem prepare_indexes_of_rankedNotes :
    ∃ statements, Schema.ofJson rankedNotes = .ok rankedSchema ∧
      prepare rankedSchema = .ok statements ∧
      Index.Apart "Note" "Note" rankIndex plainIndex ∧
      rankIndex.name "Note" ≠ plainIndex.name "Note" ∧
      ∃ sql ∈ statements, createIndex rankedSchema "Note" rankIndex = .ok sql ∧
        indexName? sql = some "Note_text_rank_idx" := by
  have hschema : Schema.ofJson rankedNotes = .ok rankedSchema := by rfl
  obtain ⟨statements, hprepare⟩ : ∃ statements, prepare rankedSchema = .ok statements := ⟨_, by rfl⟩
  have hrank : rankedSchema.Declares "Note" rankIndex := ⟨_, rfl, by simp⟩
  have hplain : rankedSchema.Declares "Note" plainIndex := ⟨_, rfl, by simp⟩
  have hapart : Index.Apart "Note" "Note" rankIndex plainIndex := by
    refine ⟨⟨not_continues_of_length le_rfl, not_continues_of_length le_rfl⟩, fun a ha b hb => ?_⟩
    have hlength : ∀ a ∈ rankIndex.parts, ∀ b ∈ plainIndex.parts, a.length = b.length := by decide
    have hsame := hlength a ha b hb
    exact ⟨not_continues_of_length hsame.ge, not_continues_of_length hsame.le⟩
  obtain ⟨hcreated, hnames⟩ := prepare_indexes hschema hprepare
  refine ⟨statements, hschema, hprepare, hapart, ?_, (hcreated "Note" rankIndex hrank).1⟩
  rw [Ne, ((hnames "Note" rankIndex "Note" plainIndex hrank hplain).2 hapart), not_and]
  exact fun _ => by decide

/-- Notes with a unique index that has the name of another, and that the store does not have. -/
theorem prepare_indexes_loses_unique :
    ∃ statements plain unique, Schema.ofJson rankedNotes = .ok rankedSchema ∧
      prepare rankedSchema = .ok statements ∧ rankedSchema.Declares "Note" uniqueIndex ∧
      createIndex rankedSchema "Note" plainIndex = .ok plain ∧
      createIndex rankedSchema "Note" uniqueIndex = .ok unique ∧
      plainIndex.name "Note" = uniqueIndex.name "Note" ∧
      made statements (uniqueIndex.name "Note") = some plain ∧ plain ≠ unique :=
  ⟨_, _, _, by rfl, by rfl, ⟨_, rfl, by simp⟩, by rfl, by rfl, by rfl, by rfl, by simp⟩

end Tables

end ObjectQuery
