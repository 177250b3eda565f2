import ObjectQuery.Proofs.Literals.Conditions
import ObjectQuery.Proofs.Renumbering.Terms
import ObjectQuery.Proofs.Sql.Quoting
import ObjectQuery.Proofs.Statement.Keys
import ObjectQuery.Proofs.Statement.Terms

/-!
# Names that statements tell apart

A client names what a statement returns: a document has its key as the label of a column, or as a
member of an object, and the key of a group ends with the name the client gave it. All of them are
quoted, so statements of one text return the same documents under the same keys. Two queries that differ
in nothing but the names of their groups are compiled in step, and if the statements come out alike then
the names were the same.
-/

namespace ObjectQuery

open Sql (Fills fills_join fills_same Filled Plain Slot)

/-! ## Entries -/

namespace Entries

/-- The same documents, under keys of their own. -/
def SameValues (entries entries' : Entries) : Prop :=
  List.Forall₂ (fun e e' => e.2 = e'.2) entries entries'

/-- Statements of one text select both at the same place: as the columns of a result, or as objects. -/
def SameText (entries entries' : Entries) : Prop :=
  ∃ source condition tail source' condition' tail' : Sql,
    (Sql.select (.resultList entries) source condition tail).WrittenAlike
        (.select (.resultList entries') source' condition' tail') ∨
      (Sql.select (.object entries) source condition tail).WrittenAlike
        (.select (.object entries') source' condition' tail')

variable {entries entries' : Entries}

theorem SameValues.refl (entries : Entries) : entries.SameValues entries :=
  List.forall₂_same.mpr fun _ _ => rfl

theorem plain_comma : Plain ", " := ⟨',', rfl, by decide⟩

theorem fills_resultList (h : entries.SameValues entries') :
    Fills (entries.map (·.1)) (entries'.map (·.1)) (.resultList entries) (.resultList entries') := by
  rw [List.map_eq_flatMap, List.map_eq_flatMap]
  refine fills_join plain_comma ?_ h
  rintro ⟨key, value⟩ ⟨key', _⟩ rfl xs ys ts us hrest
  have hlabel := Filled.slot .name key key' (hrest.ends _) (hrest.ends' _) hrest.filled
  simpa [Sql.terms, Sql.seqTerms, Slot.term] using (hlabel.same (.raw " AS ")).after value.terms

theorem fills_member {key key' : String} {value : Sql} :
    Fills [key] [key'] (.seq [.str key, ", ", value]) (.seq [.str key', ", ", value]) := by
  intro xs ys ts us hrest
  have hvalue := (hrest.filled.after value.terms).following plain_comma
  simpa [Sql.terms, Sql.seqTerms, Slot.term] using
    Filled.slot .constant key key' (hvalue.ends _) (hvalue.ends' _) hvalue.filled

theorem fills_buildObject (h : entries.SameValues entries') :
    Fills (entries.map (·.1)) (entries'.map (·.1)) (.buildObject entries)
      (.buildObject entries') := by
  have hclose : Plain ")" := ⟨')', rfl, by decide⟩
  have hmembers : Fills (entries.flatMap fun e => [e.1]) (entries'.flatMap fun e => [e.1])
      (.join (entries.map fun e => .seq [.str e.1, ", ", e.2]) ", ")
      (.join (entries'.map fun e => .seq [.str e.1, ", ", e.2]) ", ") := by
    refine fills_join plain_comma ?_ h
    rintro ⟨key, value⟩ ⟨key', _⟩ rfl
    exact fills_member
  intro xs ys ts us hrest
  rw [List.map_eq_flatMap, List.map_eq_flatMap]
  simpa [Sql.buildObject, Sql.terms, Sql.seqTerms] using
    (hmembers (hrest.filled.following hclose)).same (.raw "jsonb_build_object(")

theorem keys_chunksFrom (entries : Entries) :
    (chunksFrom objectChunk [] entries).flatMap (fun chunk => chunk.map (·.1)) =
      entries.map (·.1) := by
  rw [List.flatMap_def, ← List.map_flatten, flatten_chunksFrom, List.nil_append]

theorem fills_object (h : entries.SameValues entries') :
    Fills (entries.map (·.1)) (entries'.map (·.1)) (.object entries) (.object entries') := by
  cases h with
  | nil => exact fills_same _
  | @cons e e' es es' he hes =>
    have hbars : Plain " || " := ⟨' ', rfl, by decide⟩
    rw [← keys_chunksFrom (e :: es), ← keys_chunksFrom (e' :: es')]
    exact fills_join hbars (fun _ _ h => fills_buildObject h)
      (forall₂_chunksFrom .nil (.cons he hes))

theorem eq_of_keys_eq (h : entries.SameValues entries')
    (hkeys : entries.map (·.1) = entries'.map (·.1)) : entries = entries' := by
  induction h with
  | nil => rfl
  | cons hvalue _ ih =>
    obtain ⟨hkey, hrest⟩ := List.cons.inj hkeys
    rw [ih hrest, Prod.ext hkey hvalue]

/-- The same documents that are written alike have the same keys. -/
theorem SameText.eq (htext : entries.SameText entries') (h : entries.SameValues entries') :
    entries = entries' := by
  obtain ⟨_, _, _, _, _, _, hlist | hobject⟩ := htext
  · exact eq_of_keys_eq h ((fills_resultList h).names_eq_of_select hlist)
  · exact eq_of_keys_eq h ((fills_object h).names_eq_of_select hobject)

end Entries

/-! ## Groups -/

/-- The same accumulators on the same relations, under names of their own. -/
def SameGroups (groups groups' : Table (Table Accumulator)) : Prop :=
  List.Forall₂ (fun g g' => g.1 = g'.1 ∧ List.Forall₂ (fun a a' => a.2 = a'.2) g.2 g'.2) groups groups'

/-- The keys under which groups are returned. -/
def groupKeys (lead : String) (groups : Table (Table Accumulator)) : List String :=
  groups.flatMap fun group => group.2.map fun named =>
    "$" ++ lead ++ group.1 ++ "." ++ named.1

theorem SameGroups.eq_of_keys_eq {lead : String} {groups groups' : Table (Table Accumulator)}
    (h : SameGroups groups groups') (hkeys : groupKeys lead groups = groupKeys lead groups') :
    groups = groups' := by
  have hnamed : ∀ {relation : String} {named named' : Table Accumulator},
      List.Forall₂ (fun a a' => a.2 = a'.2) named named' →
      named.map (fun a => "$" ++ lead ++ relation ++ "." ++ a.1) =
        named'.map (fun a => "$" ++ lead ++ relation ++ "." ++ a.1) → named = named' := by
    intro relation named named' hall heq
    induction hall with
    | nil => rfl
    | cons haccumulator _ ih =>
      obtain ⟨hname, hrest⟩ := List.cons.inj heq
      rw [ih hrest, Prod.ext ((String.append_right_inj _).mp hname) haccumulator]
  unfold groupKeys at hkeys
  induction h with
  | nil => rfl
  | @cons g g' rest rest' hg _ ih =>
    obtain ⟨relation, named⟩ := g
    obtain ⟨relation', named'⟩ := g'
    obtain ⟨hrelation, hall⟩ := hg
    obtain rfl : relation = relation' := hrelation
    rw [List.flatMap_cons, List.flatMap_cons] at hkeys
    obtain ⟨hhead, hrest⟩ := List.append_inj hkeys (by simpa using hall.length_eq)
    obtain rfl : named = named' := hnamed hall hhead
    rw [ih hrest]

namespace Context

open InScope (Gives InStep)

variable {ctx : Context} {owner : Target} {lead : String} {query : BaseQuery}
  {groups' : Table (Table Accumulator)}

theorem keys_groupEntries {entries : Entries}
    (h : Gives (ctx.groupEntries owner lead query) entries) :
    entries.map (·.1) = groupKeys lead query.groups := by
  unfold groupEntries at h
  obtain ⟨lists, hlists, h⟩ := h.of_bind
  obtain rfl := h.of_pure
  rw [List.map_flatten, groupKeys, List.flatMap_def]
  refine congrArg List.flatten (Gives.map_eq_of_mapM ?_ hlists)
  rintro ⟨relation, named⟩ es hes
  refine Gives.map_eq_of_mapM ?_ hes
  rintro ⟨name, accumulator⟩ e he
  obtain ⟨value, -, he⟩ := he.of_bind
  obtain rfl := he.of_pure
  rfl

/-- A group is compiled whatever its name and those of the others are. -/
theorem groupEntries_inStep (h : SameGroups query.groups groups') :
    InStep Entries.SameValues (ctx.groupEntries owner lead query)
      (ctx.groupEntries owner lead { query with groups := groups' }) := by
  unfold groupEntries
  refine .bind (.mapM (h.imp ?_)) fun lists lists' hlists => .pure (List.rel_flatten hlists)
  rintro ⟨relation, named⟩ ⟨_, named'⟩ ⟨rfl, hall⟩
  refine .mapM (hall.imp ?_)
  rintro ⟨name, accumulator⟩ ⟨name', _⟩ rfl
  exact .after _ fun value => .pure rfl

/-- Entries of a node that come out alike had the same names for its groups. -/
theorem nodeEntries_inStep {columns : List (String × FieldType)} {below : InScope Entries}
    (h : SameGroups query.groups groups') :
    InStep (fun entries entries' => entries.SameText entries' → query.groups = groups')
      (ctx.nodeEntries owner lead columns query below)
      (ctx.nodeEntries owner lead columns { query with groups := groups' } below) := by
  unfold nodeEntries
  refine .after below fun inner => .bind (groupEntries_inStep h).given ?_
  rintro groups groups'' ⟨hvalues, hgives, hgives'⟩
  refine .pure fun htext => ?_
  have hentries := htext.eq (List.rel_append (Entries.SameValues.refl _) hvalues)
  rw [List.append_cancel_left_eq] at hentries
  subst hentries
  exact h.eq_of_keys_eq ((keys_groupEntries hgives).symm.trans (keys_groupEntries hgives'))

end Context

namespace Sql.Quoted

open InScope (InStep)

/--
Quoting is self-delimiting, so the text of a statement settles the names a client chose: those in the
slots of statements that are the same otherwise; the keys of a place in a document, one that is read or
one that is updated, however many they are; the keys under which the same documents are returned; and
the names of groups, if two queries differ in nothing else.
-/
theorem self_delimiting :
    Delimits '"' .name ident ∧ Delimits '\'' .string string ∧
      (∀ (xs ys : List String) (a b : Sql), Filled xs ys a.terms b.terms →
        a.compile.text = b.compile.text → xs = ys) ∧
      (∀ (sql : Sql) (keys keys' : List String),
        (sql.jsonAt keys).WrittenAlike (sql.jsonAt keys') → keys = keys') ∧
      (∀ (current a b : Sql) (path path' : List String) (u u' : Update),
        Update.inside current path u = .ok a → Update.inside current path' u' = .ok b →
          a.WrittenAlike b → path = path') ∧
      (∀ entries entries' : Entries, entries.SameValues entries' → entries.SameText entries' →
        entries = entries') ∧
      ∀ (ctx : Context) (owner : Target) (lead : String) (columns : List (String × FieldType))
        (query : BaseQuery) (groups' : Table (Table Accumulator)) (below : InScope Entries),
        SameGroups query.groups groups' →
          InStep (fun entries entries' => entries.SameText entries' → query.groups = groups')
            (ctx.nodeEntries owner lead columns query below)
            (ctx.nodeEntries owner lead columns { query with groups := groups' } below) := by
  refine ⟨delimits_encode .name, delimits_encode .constant, fun xs ys a b h htext => ?_,
    fun _ _ _ h => jsonAt_inj h,
    fun _ _ _ _ _ _ _ ha hb h => inside_inj ha hb h, fun _ _ h htext => htext.eq h,
    fun _ _ _ _ _ _ _ h => Context.nodeEntries_inStep h⟩
  rw [compile_eq, compile_eq] at htext
  exact h.names_eq htext

/-- The comments on a note are counted under a name of the client's. -/
def countedAs (name : String) : BaseQuery where
  groups := [("comments", [(name, .count)])]

/-- What a statement returns of a note then. -/
def countedEntries (name : String) : InScope Entries :=
  (Context.of Plan.commentedGate.schema none).nodeEntries (.root "Note") "" [] (countedAs name) (pure [])

/-- Text that would end a constant and begin another does neither, nor does a name of quotes. -/
theorem self_delimiting_of_countedAs :
    (" AS ".toList.head? ≠ some '"' ∧
        Token.read? (ident "\"a\"\"" ++ " AS ") = some (.name "\"a\"\"", " AS ")) ∧
      (", ".toList.head? ≠ some '\'' ∧
        Token.read? (string "'" ++ ", ") = some (.string "'", ", ")) ∧
      (Filled ["a"] ["\""] (Sql.ident "a").terms (Sql.ident "\"").terms ∧
        (Sql.ident "a").compile.text ≠ (Sql.ident "\"").compile.text) ∧
      (((raw "c").jsonAt ["a', 'b"]).WrittenAlike ((raw "c").jsonAt ["a', 'b"]) ∧
        ¬ ((raw "c").jsonAt ["a", "b"]).WrittenAlike ((raw "c").jsonAt ["a', 'b"])) ∧
      (∃ a b, Update.inside (raw "c") ["a", "b"] ⟨.popLast, .null⟩ = .ok a ∧
        Update.inside (raw "c") ["a', 'b"] ⟨.popLast, .null⟩ = .ok b ∧
        a.WrittenAlike a ∧ ¬ a.WrittenAlike b) ∧
      (Entries.SameValues [("a", raw "c")] [("\"", raw "c")] ∧
        Entries.SameText [("a", raw "c")] [("a", raw "c")] ∧
        ¬ Entries.SameText [("a", raw "c")] [("\"", raw "c")]) ∧
      ∃ entries entries' scope n,
        SameGroups (countedAs "\"").groups (countedAs "\"\"").groups ∧
        InScope.Runs (countedEntries "\"") [] 0 entries scope n ∧
        InScope.Runs (countedEntries "\"\"") [] 0 entries' scope n ∧ ¬ entries.SameText entries' := by
  obtain ⟨hname, hstring, hslots, hplace, hupdate, hentries, hgroups⟩ := self_delimiting
  have hends : ∀ q, opens [] ≠ some q := nofun
  have hfilled : Filled ["a"] ["\""] (Sql.ident "a").terms (Sql.ident "\"").terms :=
    .slot .name _ _ (hends _) (hends _) (.rest [] [])
  have hspace : " AS ".toList.head? ≠ some '"' := by decide
  have hcomma : ", ".toList.head? ≠ some '\'' := by decide
  refine ⟨⟨hspace, (hname.reads _ _ _).mpr ⟨rfl, hspace⟩⟩,
    ⟨hcomma, (hstring.reads _ _ _).mpr ⟨rfl, hcomma⟩⟩,
    ⟨hfilled, fun htext => ?slots⟩, ⟨.refl _, fun h => ?place⟩,
    ⟨_, _, rfl, rfl, .refl _, fun h => ?updated⟩,
    ⟨.cons rfl .nil, ⟨.empty, .empty, .empty, .empty, .empty, .empty, .inl (.refl _)⟩,
      fun h => ?entries⟩, ?groups⟩
  case slots => exact absurd (hslots _ _ _ _ hfilled htext) (by decide)
  case place => exact absurd (hplace _ _ _ h) (by decide)
  case updated =>
    have hpath := hupdate (raw "c") _ _ ["a", "b"] ["a', 'b"] ⟨.popLast, .null⟩ ⟨.popLast, .null⟩
      rfl rfl h
    exact absurd hpath (by decide)
  case entries =>
    have hsame := hentries [("a", raw "c")] [("\"", raw "c")] (.cons rfl .nil) h
    simp at hsame
  case groups =>
    have hsame : SameGroups (countedAs "\"").groups (countedAs "\"\"").groups :=
      .cons ⟨rfl, .cons rfl .nil⟩ .nil
    have hstep : InStep (fun entries entries' => entries.SameText entries' →
        (countedAs "\"").groups = (countedAs "\"\"").groups)
        (countedEntries "\"") (countedEntries "\"\"") := hgroups _ _ _ _ _ _ _ hsame
    obtain ⟨⟨entries, scope⟩, n, hrun, -⟩ := Compile.exists_runs_of_any (n := 0)
      (x := (countedEntries "\"").run []) (p := fun r => r.1.length = 1) (by decide +kernel)
    obtain ⟨entries', hrun', htext⟩ := hstep.runs hrun
    refine ⟨entries, entries', scope, n, hsame, hrun, hrun', fun h => ?_⟩
    exact absurd (htext h) (by simp [countedAs])

end Sql.Quoted

end ObjectQuery
