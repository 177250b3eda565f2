import ObjectQuery.Proofs.Schema.Walks
import ObjectQuery.Proofs.Sql.Predicate
import ObjectQuery.Proofs.Statement.Reached
import ObjectQuery.Proofs.Statement.Runs
import ObjectQuery.Statement.Reach

/-!
# Values have the type of their path

A compiled value is tagged with what it holds, and constants are put beside it by that tag. The tag is
the one that a column of the path's type has: through pointer hops, members of relations and elements of
vectors, the route to the value ends at the type that the type walk finds.
-/

namespace ObjectQuery

namespace Route

/-- The type at the end of a route, unless it is refused. -/
def type? : Route → Option (Option FieldType)
  | refused _ => none
  | hop _ _ next => next.type?
  | .column _ ty => some (some ty)
  | json _ _ => some none
  | vectorElement _ _ => some (some (.primitive .number none))
  | relationElement _ _ _ next => next.type?

/-- The pointers a route starts with: their columns and the classes they lead to. -/
def hops : Route → List (String × String)
  | hop name target next => (name, target) :: next.hops
  | _ => []

/-- The route behind the pointers it starts with, which is no hop. -/
def stop : Route → Route
  | hop _ _ next => next.stop
  | route => route

theorem hops_stop (route : Route) : route.stop.hops = [] := by
  induction route with
  | hop name target next ih => exact ih
  | _ => simp [stop, hops]

end Route

/-- An operand is that of a column of a type; without a type it is untyped JSON. -/
def Operand.Holds (o : Operand) : Option FieldType → Prop
  | none => o.type = .json
  | some ty => Operand.ofColumn o.sql ty = .ok o

theorem Operand.holds_some {o : Operand} {ty : FieldType} :
    o.Holds (some ty) ↔ OperandType.ofType? ty = some o.type := by
  obtain ⟨sql, type⟩ := o
  unfold Holds ofColumn
  dsimp only
  split <;> simp_all

/-- What is held does not depend on the fragment. -/
theorem Operand.Holds.withSql {o : Operand} {t : Option FieldType} (h : o.Holds t) (sql : Sql) :
    { o with sql }.Holds t := by
  cases t with
  | none => exact h
  | some ty =>
    have hty := holds_some.mp h
    exact holds_some.mpr hty

/-! ## Routes -/

namespace Schema

variable {s : Schema} {className path : String} {segments : List Segment} {t : Option FieldType}

/-- A route ends at the type that the type walk finds. -/
theorem typeOf_of_routeOf (h : (s.routeOf className path segments).type? = some t) :
    s.typeOf className segments = .ok t := by
  fun_induction routeOf s className path segments with
  | case1 => cases h
  | case2 className path segments name target rest hfound ih =>
    obtain ⟨_, htype, _, hsame, hrest⟩ := typeOf_of_columnOf hfound
    cases hsame
    rw [htype, ← hrest]
    exact ih h
  | case3 className path segments name target foreign i rest hfound ih =>
    obtain ⟨_, htype, _, _, hsame, hrest⟩ := typeOf_of_columnOf hfound
    cases hsame
    rw [htype, ← hrest]
    exact ih h
  | case4 className path segments name ty hfound =>
    obtain ⟨_, htype, rfl⟩ := typeOf_of_columnOf hfound
    exact htype.trans (congrArg _ (Option.some.inj h))
  | case5 className path segments name ty keys hfound =>
    obtain ⟨_, htype, rfl⟩ := typeOf_of_columnOf hfound
    exact htype.trans (congrArg _ (Option.some.inj h))
  | case6 className path segments name ty i hfound =>
    obtain ⟨_, htype, rfl⟩ := typeOf_of_columnOf hfound
    exact htype.trans (congrArg _ (Option.some.inj h))
  | case7 => cases h

/-- Every hop takes at least one segment, and one is left. -/
theorem hops_routeOf (hne : segments ≠ []) :
    (s.routeOf className path segments).hops.length < segments.length := by
  fun_induction routeOf s className path segments with
  | case2 className path segments name target rest hfound ih =>
    have hrest : rest ≠ [] := (rest_of_columnOf hfound rfl).1
    have hless : rest.length < segments.length := restLength_columnOf hfound
    exact Nat.lt_of_le_of_lt (ih hrest) hless
  | case1 | case3 | case4 | case5 | case6 | case7 => exact List.length_pos_iff.mpr hne

/-! ### One hop at a time

A route is cut once and for all. That is what comes out if the rest of the path is written out behind
each reference, and read there as a path of its own.
-/

theorem route_of_column {column : Column} (h : s.column className path = .ok column) :
    ∃ segments, s.columnOf className path segments = .ok column ∧
      s.route className path = s.routeOf className path segments := by
  obtain ⟨segments, hparse, hcolumn⟩ := Result.bind_eq_ok.mp h
  exact ⟨segments, hcolumn, by rw [route, hparse]⟩

theorem route_render {rest : List Segment} (h : Path.parse (Path.render rest) = .ok rest)
    (target : String) :
    s.route target (Path.render rest) = s.routeOf target (Path.render rest) rest := by
  rw [route, h]

theorem route_of_pointer {name target : String} {rest : List Segment}
    (h : s.column className path = .ok ⟨name, .pointer target, .pointer rest⟩) :
    s.route className path = .hop name target (s.route target (Path.render rest)) := by
  obtain ⟨segments, hcolumn, hroute⟩ := route_of_column h
  rw [hroute, route_render (parse_render_rest h rfl), routeOf_of_pointer hcolumn]

theorem route_of_relationElement {name target : String} {foreign : Option String} {i : Nat}
    {rest : List Segment}
    (h : s.column className path = .ok ⟨name, .relation target foreign, .relationElement i rest⟩) :
    s.route className path = .relationElement name target i (s.route target (Path.render rest)) := by
  obtain ⟨segments, hcolumn, hroute⟩ := route_of_column h
  rw [hroute, route_render (parse_render_rest h rfl), routeOf_of_relationElement hcolumn]

end Schema

/-! ## Values -/

namespace Context

open InScope

variable {ctx : Context} {owner : Target} {o : Operand}

/-- Joins pointers one after the other, from an object on. -/
def follow (ctx : Context) (owner : Target) (hops : List (String × String)) : InScope Target :=
  hops.foldlM (fun t hop => ctx.pointerJoin t hop.1 hop.2 none) owner

/-- What a route ends at is located by following the pointers the route starts with. -/
theorem locate_eq (route : Route) :
    ctx.locate owner route =
      ctx.follow owner route.hops >>= fun last => ctx.locate last route.stop := by
  unfold follow
  induction route generalizing owner with
  | hop name target next ih =>
    rw [locate, Route.hops, List.foldlM_cons, bind_assoc]
    exact bind_congr fun t => ih
  | _ => simp [Route.hops, Route.stop]

theorem type_of_operandAt (route : Route) (h : Gives (ctx.operandAt owner route) o) :
    ∃ t, route.type? = some t ∧ o.Holds t := by
  induction route generalizing owner o with
  | refused e => exact (Gives.not_throw h).elim
  | hop name target next ih =>
    obtain ⟨t, -, hnext⟩ := Gives.of_bind h
    exact ih hnext
  | column name ty =>
    refine ⟨some ty, rfl, ?_⟩
    unfold operandAt at h
    split at h
    · obtain ⟨sql, -, hpure⟩ := Gives.of_bind h
      obtain rfl := hpure.of_pure
      exact rfl
    · obtain ⟨_, _, _, _, hrun⟩ := h
      have hcolumn : Operand.ofColumn (owner.column name) ty = .ok o := (runs_lift.mp hrun).1
      rw [← Operand.ofColumn_sql hcolumn] at hcolumn
      exact hcolumn
  | json name keys =>
    obtain rfl := Gives.of_pure h
    exact ⟨none, rfl, rfl⟩
  | vectorElement name position =>
    obtain rfl := Gives.of_pure h
    exact ⟨_, rfl, rfl⟩
  | relationElement name target position next ih =>
    unfold operandAt at h
    obtain ⟨member, -, h⟩ := Gives.of_bind h
    obtain ⟨⟨⟨value, conditions⟩, inner⟩, hinner, h⟩ := Gives.of_bind h
    obtain ⟨value, hvalue, hrest⟩ := Gives.of_bind (Gives.of_inNewScope hinner)
    obtain ⟨conditions, -, hpure⟩ := Gives.of_bind hrest
    cases hpure.of_pure
    obtain ⟨t, htype, hholds⟩ := ih hvalue
    obtain rfl := h.of_pure
    exact ⟨t, htype, hholds.withSql _⟩

/-- A hop goes on with the rest of the path, written out, from the object that was joined. -/
theorem locate_of_pointer {path name target : String} {rest : List Segment}
    (h : ctx.schema.column owner.className path = .ok ⟨name, .pointer target, .pointer rest⟩) :
    ctx.locate owner (ctx.schema.route owner.className path) =
      ctx.pointerJoin owner name target none >>= fun t =>
        ctx.locate t (ctx.schema.route target (Path.render rest)) := by
  rw [Schema.route_of_pointer h]
  rfl

/--
What a path of an object compiles to is tagged as a column of the path's type would be. Locating its end
joins at most one pointer for each segment of the path, and none is left to be joined where it stops.
-/
theorem operand_typed (ctx : Context) (owner : Target) (path : String) :
    (∀ o, path ≠ Filter.selfKey → Gives (ctx.operand (.table owner) path) o →
      ∃ t, ctx.schema.typeAt owner.className path = .ok t ∧ o.Holds t) ∧
    ∀ segments, Path.parse path = .ok segments →
      ∃ (hops : List (String × String)) (stop : Route),
        hops.length ≤ segments.length ∧ stop.hops = [] ∧
          ctx.locate owner (ctx.schema.route owner.className path) =
            ctx.follow owner hops >>= fun last => ctx.locate last stop := by
  refine ⟨fun o hself h => ?_, fun segments hparse => ?_⟩
  · have hroute : ctx.operand (.table owner) path =
        ctx.operandAt owner (ctx.schema.route owner.className path) := if_neg hself
    obtain ⟨t, htype, hholds⟩ := type_of_operandAt _ (hroute ▸ h)
    unfold Schema.route at htype
    split at htype
    · next segments hparse =>
      have hwalk := Schema.typeOf_of_routeOf htype
      exact ⟨t, Result.bind_eq_ok.mpr ⟨segments, hparse, hwalk⟩, hholds⟩
    · cases htype
  · refine ⟨_, _, ?_, Route.hops_stop _, locate_eq _⟩
    rw [Schema.route, hparse]
    exact (Schema.hops_routeOf (Path.parse_ne_nil hparse)).le

/-- What is compiled without conditions on the objects that are reached. -/
def authoredContext : Context where
  schema := Schema.authoredSchema
  guard _ := pure none

/-- A number in another note by the author of a note is a number. -/
theorem operand_typed_of_authoredNotes :
    ∃ o, Schema.ofJson Schema.authoredNotes = .ok authoredContext.schema ∧
      Gives (authoredContext.operand (.table (.root "Note")) "author.notes[1].embedding[2]") o ∧
      o.Holds (some (.primitive .number none)) ∧
      Path.parse "author.notes[1].embedding[2]" =
        .ok [.field "author", .field "notes", .index 1, .field "embedding", .index 2] ∧
      ∃ (hops : List (String × String)) (stop : Route), hops.length ≤ 5 ∧ stop.hops = [] ∧
        authoredContext.locate (.root "Note")
            (Schema.authoredSchema.route "Note" "author.notes[1].embedding[2]") =
          authoredContext.follow (.root "Note") hops >>=
            fun last => authoredContext.locate last stop := by
  obtain ⟨typed, located⟩ :=
    operand_typed authoredContext (.root "Note") "author.notes[1].embedding[2]"
  have hparse : Path.parse "author.notes[1].embedding[2]" =
      .ok [.field "author", .field "notes", .index 1, .field "embedding", .index 2] := by rfl
  obtain ⟨⟨o, scope⟩, n, hrun, -⟩ := Compile.exists_runs_of_any
    (x := (authoredContext.operand (.table (.root "Note")) "author.notes[1].embedding[2]").run [])
    (n := 0) (p := fun _ => true) (by decide +kernel)
  have hgives : Gives _ o := ⟨[], 0, scope, n, hrun⟩
  obtain ⟨t, htype, hholds⟩ := typed o (by decide) hgives
  obtain rfl : some (.primitive .number none) = t := Except.ok.inj htype
  exact ⟨o, by rfl, hgives, hholds, hparse, located _ hparse⟩

end Context

end ObjectQuery
