import ObjectQuery.Proofs.Access.Groups
import ObjectQuery.Proofs.Row.Decode
import ObjectQuery.Proofs.Schema.Leaves
import ObjectQuery.Proofs.Statement.Acyclic
import ObjectQuery.Proofs.Statement.Reached
import ObjectQuery.Statement.Projection

/-!
# Keys of groups

Groups are computed over a relation that a path leads to through pointers. The path ends there: what
goes on behind it leads to one of the members, or nowhere, but to no relation. So of the paths of two
groups none is a part of the other, unless they are the same path.

A group stands under a key of its own: a dollar sign, the path of the relation, the group's name. A
name has no dot and behind the path of a relation lies no other, so the keys of different groups lead
apart.
-/

namespace ObjectQuery.Schema

variable {s : Schema} {className path name : String} {c : Class} {ty : FieldType}

/-! ## Names that lead to a pointer or a relation -/

/-- What is left behind a pointer are the segments after the names that lead to it. -/
theorem columnBelow_eq_pointer {refuse : PathReason → Error} {column target : String}
    {segments rest : List Segment}
    (h : s.columnBelow refuse name ty segments = .ok ⟨column, .pointer target, .pointer rest⟩) :
    rest ≠ [] ∧ ∃ names, segments = names.map .field ++ rest ∧
      ty.below? names = some (.pointer target) := by
  fun_induction columnBelow s refuse name ty segments with
  | case2 name rest fields sub member hfound ih =>
    obtain ⟨hne, names, rfl, hbelow⟩ := ih h
    exact ⟨hne, sub :: names, rfl, FieldType.below?_shape.mpr ⟨member, hfound, hbelow⟩⟩
  | case9 =>
    obtain ⟨_, -, heq⟩ := Result.map_eq_ok.mp h
    cases heq
    exact ⟨List.cons_ne_nil _ _, [], rfl, FieldType.below?_nil _⟩
  | case8 =>
    obtain ⟨_, -, heq⟩ := Result.map_eq_ok.mp h
    cases heq
  | case1 | case3 | case4 | case5 | case6 | case7 | case10 | case11 | case12 => cases h

/-- How a route leads to the members of a relation: names inside shapes lead to the relation, or to
a pointer behind which the route goes on. -/
theorem members?_routeOf {segments : List Segment} {target : String}
    (h : (s.routeOf className path segments).members? = some target) :
    ∃ c names rest leaf, s.class? className = some c ∧ segments = names.map .field ++ rest ∧
      c.below? names = some leaf ∧
      (rest = [] ∧ (∃ foreign, leaf = .relation target foreign) ∨
        ∃ pointee, leaf = .pointer pointee ∧ rest ≠ [] ∧
          (s.routeOf pointee (Path.render rest) rest).members? = some target) := by
  rw [routeOf] at h
  split at h
  · cases h
  · next column pointee rest hcolumn =>
    obtain ⟨c, field, _, ty, hc, rfl, hf, hbelow⟩ := columnOf_eq_ok.mp hcolumn
    obtain ⟨hne, names, rfl, hleaf⟩ := columnBelow_eq_pointer hbelow
    exact ⟨c, field :: names, rest, _, hc, rfl,
      Class.below?_eq_some.mpr ⟨field, names, ty, rfl, hf, hleaf⟩, .inr ⟨pointee, rfl, hne, h⟩⟩
  · cases h
  · next column ty hcolumn =>
    cases ty with
    | relation related foreign =>
      cases h
      obtain ⟨c, field, _, ty, hc, rfl, hf, hbelow⟩ := columnOf_eq_ok.mp hcolumn
      obtain ⟨names, rfl, hleaf, -⟩ := columnBelow_eq_column.mp hbelow
      exact ⟨c, field :: names, [], _, hc, (List.append_nil _).symm,
        Class.below?_eq_some.mpr ⟨field, names, ty, rfl, hf, hleaf⟩, .inl ⟨rfl, foreign, rfl⟩⟩
    | primitive | vector | shape | pointer => cases h
  · cases h
  · cases h
  · cases h

/-! ## Relations -/

/-- What goes on behind the path of a relation leads to no relation. -/
theorem eq_nil_of_members?_append {front back : List Segment} {other target more : String}
    (h : (s.routeOf className path front).members? = some target)
    (hmore : (s.routeOf className other (front ++ back)).members? = some more) : back = [] := by
  induction hlength : front.length using Nat.strong_induction_on
    generalizing className path other front with
  | _ length ih =>
    obtain ⟨c, names, rest, leaf, hc, rfl, hleaf, hends⟩ := members?_routeOf h
    obtain ⟨c', others, left, leaf', hc', hsplit, hleaf', hends'⟩ := members?_routeOf hmore
    obtain rfl := Option.some.inj (hc.symm.trans hc')
    have hshape : leaf.isShape = false := by
      rcases hends with ⟨-, _, rfl⟩ | ⟨_, rfl, -⟩ <;> rfl
    have hshape' : leaf'.isShape = false := by
      rcases hends' with ⟨-, _, rfl⟩ | ⟨_, rfl, -⟩ <;> rfl
    rw [List.append_assoc] at hsplit
    obtain ⟨rfl, rfl⟩ := Class.below?_unique hleaf hshape hleaf' hshape' hsplit
    rcases hends with ⟨rfl, foreign, rfl⟩ | ⟨pointee, rfl, hne, hrest⟩
    · rcases hends' with ⟨hnil, -⟩ | ⟨_, hpointer, -⟩
      · simpa using hnil
      · cases hpointer
    · rcases hends' with ⟨-, _, hrelation⟩ | ⟨_, hpointer, -, hleft⟩
      · cases hrelation
      · cases hpointer
        have hfirst : names ≠ [] := by
          rintro rfl
          cases hleaf
        have hshorter : rest.length < length := by
          have := List.length_pos_of_ne_nil hfirst
          rw [← hlength, List.length_append, List.length_map]
          omega
        exact ih _ hshorter hrest hleft rfl

/-- Of the paths of two relations none is a part of the other. -/
theorem eq_nil_of_members?_route {longer target more : String} {names : List String}
    (hsplit : Text.split '.' longer = Text.split '.' path ++ names)
    (h : (s.route className path).members? = some target)
    (hlonger : (s.route className longer).members? = some more) : names = [] := by
  by_contra hne
  unfold route at h hlonger
  split at h
  · next front hfront =>
    split at hlonger
    · next all hall =>
      obtain ⟨behind, hbehind, rfl⟩ := Path.parse_append hsplit hne hfront hall
      exact hbehind (eq_nil_of_members?_append h hlonger)
    · cases hlonger
  · cases h

end ObjectQuery.Schema

namespace ObjectQuery

open Row (Separate)
open InScope (Gives)

/-- The key of a group. -/
def keyOfGroup (relation name : String) : String := "$" ++ relation ++ "." ++ name

/-- No key of some entries leads through another. -/
def Entries.Apart (entries : Entries) : Prop :=
  entries.Pairwise fun a b => Separate (Text.split '.' a.1) (Text.split '.' b.1)

variable {s : Schema} {className relation name : String}

theorem isGroupKey_keyOfGroup (relation name : String) :
    Row.isGroupKey (keyOfGroup relation name) = true := by
  simp [Row.isGroupKey, Text.opensWith, keyOfGroup, String.toList_append]

theorem not_mem_dot_of_isGroupName (h : Gate.isGroupName name = true) : '.' ∉ name.toList := by
  simp only [Gate.isGroupName, Bool.and_eq_true, Bool.not_eq_true'] at h
  simpa using h.1.2

/-- The key of a group consists of the relation's path, marked, and the group's name. -/
theorem split_keyOfGroup (relation : String) (h : Gate.isGroupName name = true) :
    ∃ first rest, Text.split '.' relation = first :: rest ∧
      Text.split '.' (keyOfGroup relation name) = ("$" ++ first) :: (rest ++ [name]) := by
  have hdollar : "$" = String.singleton '$' := rfl
  obtain ⟨first, rest, hsplit, hpushed⟩ := Text.split_push (c := '$') (by decide) relation
  refine ⟨first, rest, hsplit, ?_⟩
  rw [keyOfGroup, Text.split_append, Text.split_of_not_mem (not_mem_dot_of_isGroupName h), hdollar,
    hpushed]
  rfl

/-- Different groups over relations have keys apart. -/
theorem separate_keyOfGroup {other more : String} (hname : Gate.isGroupName name = true)
    (hmore : Gate.isGroupName more = true)
    (hroute : (s.route className relation).members?.isSome = true)
    (hother : (s.route className other).members?.isSome = true)
    (hne : relation ≠ other ∨ name ≠ more) :
    Separate (Text.split '.' (keyOfGroup relation name)) (Text.split '.' (keyOfGroup other more)) := by
  have hhalf : ∀ {r r' n n' : String}, Gate.isGroupName n = true → Gate.isGroupName n' = true →
      (s.route className r).members?.isSome = true →
      (s.route className r').members?.isSome = true → r ≠ r' ∨ n ≠ n' →
        ¬ Text.split '.' (keyOfGroup r n) <+: Text.split '.' (keyOfGroup r' n') := by
    intro r r' n n' hn hn' hr hr' hne hlead
    obtain ⟨first, rest, hsplit, hkey⟩ := split_keyOfGroup r hn
    obtain ⟨first', rest', hsplit', hkey'⟩ := split_keyOfGroup r' hn'
    rw [hkey, hkey', List.cons_prefix_cons] at hlead
    obtain ⟨hfirst, hrest⟩ := hlead
    obtain rfl : first = first' := by simpa using hfirst
    rcases List.prefix_concat_iff.mp hrest with hsame | ⟨left, hleft⟩
    · obtain ⟨rfl, hlast⟩ := List.append_inj' hsame rfl
      have hrelation : r = r' := Text.split_injective (hsplit.trans hsplit'.symm)
      exact hne.elim (· hrelation) (· (List.cons.inj hlast).1)
    · obtain ⟨target, htarget⟩ := Option.isSome_iff_exists.mp hr
      obtain ⟨target', htarget'⟩ := Option.isSome_iff_exists.mp hr'
      have hlonger : Text.split '.' r' = Text.split '.' r ++ (n :: left) := by
        rw [hsplit, hsplit', ← hleft]
        simp
      exact List.cons_ne_nil _ _ (Schema.eq_nil_of_members?_route hlonger htarget htarget')
  exact ⟨hhalf hname hmore hroute hother hne,
    hhalf hmore hname hother hroute (hne.imp Ne.symm Ne.symm)⟩

/-- An entry that stands for a group over a relation of a class. -/
structure IsGroup (s : Schema) (className relation : String) (named : String × Accumulator)
    (e : String × Sql) : Prop where
  name : Gate.isGroupName named.1 = true
  key : e.1 = keyOfGroup relation named.1
  members : (s.route className relation).members?.isSome = true

namespace Context

variable {ctx : Context} {owner : Target} {query : BaseQuery}

/-- A group that is compiled has a relation at the end of its path. -/
theorem members?_of_group {accumulator : Accumulator} {sql : Sql}
    (h : Gives (ctx.group owner relation accumulator query) sql) :
    (ctx.schema.route owner.className relation).members?.isSome = true := by
  unfold group at h
  obtain ⟨⟨place, route⟩, hlocated, h⟩ := h.of_bind
  obtain ⟨-, -, hmembers⟩ := locate_given hlocated
  dsimp only at h hmembers
  rw [← hmembers]
  split at h
  · rfl
  · exact (Gives.not_throw h).elim

/-- The entries of the groups of a query, those of one relation after another. -/
theorem groupEntries_gives (hgrouped : query.Grouped) {entries : Entries}
    (h : Gives (ctx.groupEntries owner "" query) entries) :
    ∃ lists, entries = lists.flatten ∧ List.Forall₂ (fun group es =>
      List.Forall₂ (IsGroup ctx.schema owner.className group.1) group.2 es)
        query.groups lists := by
  obtain ⟨-, hnamed, -⟩ := hgrouped
  unfold groupEntries at h
  obtain ⟨lists, hlists, h⟩ := h.of_bind
  obtain rfl := h.of_pure
  refine ⟨lists, rfl, ?_⟩
  refine ((List.forall₂_and_left _ _).mpr ⟨hnamed, Gives.of_mapM hlists⟩).imp ?_
  rintro ⟨relation, named⟩ es ⟨hgroup, hes⟩
  refine ((List.forall₂_and_left _ _).mpr ⟨hgroup.2, Gives.of_mapM hes⟩).imp ?_
  rintro ⟨name, accumulator⟩ e ⟨hname, he⟩
  obtain ⟨value, hvalue, he⟩ := he.of_bind
  obtain rfl := he.of_pure
  exact ⟨hname, by simp [keyOfGroup], members?_of_group hvalue⟩

/-- The groups of a query stand under keys apart, which name them. -/
theorem groupEntries_apart (hgrouped : query.Grouped) {entries : Entries}
    (h : Gives (ctx.groupEntries owner "" query) entries) :
    entries.Apart ∧ ∀ e ∈ entries, ∃ group ∈ query.groups, ∃ named ∈ group.2,
      IsGroup ctx.schema owner.className group.1 named e := by
  obtain ⟨lists, rfl, hall⟩ := groupEntries_gives hgrouped h
  obtain ⟨hrelations, hnamed, -⟩ := hgrouped
  constructor
  · refine List.pairwise_flatten.mpr ⟨fun es hes => ?_, ?_⟩
    · obtain ⟨group, hgroup, hes⟩ := Result.exists_left_of_forall₂ hall es hes
      refine Result.pairwise_of_forall₂ hes (hnamed group hgroup).1 fun a b e e' ha hb hlt => ?_
      rw [ha.key, hb.key]
      exact separate_keyOfGroup ha.name hb.name ha.members hb.members (.inr (ne_of_lt hlt))
    · refine Result.pairwise_of_forall₂ hall hrelations fun a b es es' ha hb hlt e he e' he' => ?_
      obtain ⟨named, -, hkey⟩ := Result.exists_left_of_forall₂ ha e he
      obtain ⟨named', -, hkey'⟩ := Result.exists_left_of_forall₂ hb e' he'
      rw [hkey.key, hkey'.key]
      exact separate_keyOfGroup hkey.name hkey'.name hkey.members hkey'.members (.inl (ne_of_lt hlt))
  · intro e he
    obtain ⟨es, hes, he⟩ := List.mem_flatten.mp he
    obtain ⟨group, hgroup, hpairs⟩ := Result.exists_left_of_forall₂ hall es hes
    obtain ⟨named, hmem, hnames⟩ := Result.exists_left_of_forall₂ hpairs e he
    exact ⟨group, hgroup, named, hmem, hnames⟩

end Context

end ObjectQuery
