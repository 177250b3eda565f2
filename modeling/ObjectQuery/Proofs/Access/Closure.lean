import ObjectQuery.Proofs.Access.Expansion
import ObjectQuery.Proofs.Statement.Plan

/-!
# An expansion expands to itself

A leaf of an expansion expands to itself, after the default fields of the classes on the way to it.
Those stand in the expansion already, each class's in one block before everything else behind it. So if
all of an expansion may be read, expanding it once more changes neither its paths nor their order.
-/

namespace ObjectQuery

/-! ## Lists but for repetitions -/

section Firsts

variable {xs xs' ys ys' : List String}

/-- The same items, which first occur in the same order. -/
def SameFirsts (xs ys : List String) : Prop := xs.eraseDups = ys.eraseDups

/-- First occurrences may be chosen before or after. -/
theorem eraseDups_filter (p : String → Bool) (xs : List String) :
    (xs.filter p).eraseDups = xs.eraseDups.filter p := by
  match xs with
  | [] => rfl
  | x :: rest =>
    -- The recursion of `eraseDups` goes on with the items other than the first.
    have hrest : ((rest.filter (!· == x)).filter p).eraseDups =
        (rest.filter (!· == x)).eraseDups.filter p := eraseDups_filter p (rest.filter (!· == x))
    rw [List.eraseDups_cons]
    by_cases hx : p x = true
    · rw [List.filter_cons_of_pos hx, List.filter_cons_of_pos hx, List.eraseDups_cons, ← hrest,
        List.filter_filter, List.filter_filter]
      simp only [Bool.and_comm]
    · have hsame : (rest.filter (!· == x)).filter p = rest.filter p := by
        rw [List.filter_filter]
        refine List.filter_congr fun y _ => ?_
        by_cases hy : y = x
        · rw [hy, Bool.eq_false_iff.mpr hx, Bool.false_and]
        · simp [hy]
      rw [List.filter_cons_of_neg hx, List.filter_cons_of_neg hx, ← hrest, hsame]
termination_by xs.length
decreasing_by exact Nat.lt_succ_of_le (List.length_filter_le _ _)

/-- First occurrences come once. -/
theorem nodup_eraseDups (xs : List String) : xs.eraseDups.Nodup := by
  match xs with
  | [] => exact List.nodup_nil
  | x :: rest =>
    rw [List.eraseDups_cons, List.nodup_cons]
    refine ⟨fun hx => ?_, nodup_eraseDups _⟩
    have hkept := List.mem_filter.mp (List.mem_eraseDups.mp hx)
    simp at hkept
termination_by xs.length
decreasing_by exact Nat.lt_succ_of_le (List.length_filter_le _ _)

/-- A list without repetitions is made of first occurrences. -/
theorem eraseDups_eq_self (h : xs.Nodup) : xs.eraseDups = xs := by
  induction xs with
  | nil => rfl
  | cons x rest ih =>
    obtain ⟨hx, hrest⟩ := List.nodup_cons.mp h
    have hall : rest.filter (!· == x) = rest := by
      refine List.filter_eq_self.mpr fun y hy => ?_
      have hne : y ≠ x := fun heq => hx (heq ▸ hy)
      simp [hne]
    rw [List.eraseDups_cons, hall, ih hrest]

namespace SameFirsts

theorem refl (xs : List String) : SameFirsts xs xs := rfl

theorem symm (h : SameFirsts xs ys) : SameFirsts ys xs := Eq.symm h

/-- Lists that have the first occurrences of a third have each other's. -/
theorem trans {zs : List String} (h : SameFirsts xs ys) (h' : SameFirsts ys zs) : SameFirsts xs zs :=
  Eq.trans h h'

/-- Lists with the same first occurrences hold the same. -/
theorem mem_iff (h : SameFirsts xs ys) {x : String} : x ∈ xs ↔ x ∈ ys := by
  rw [← List.mem_eraseDups, h, List.mem_eraseDups]

/-- Repetitions in the first list and in the second one do not matter for the joined lists. -/
theorem append (h : SameFirsts xs xs') (h' : SameFirsts ys ys') :
    SameFirsts (xs ++ ys) (xs' ++ ys') := by
  have hnew : ys.removeAll xs = ys.removeAll xs' := by
    refine List.filter_congr fun y _ => ?_
    simp [h.mem_iff]
  have hrest : (ys.removeAll xs').eraseDups = (ys'.removeAll xs').eraseDups := by
    rw [List.removeAll, List.removeAll, eraseDups_filter, eraseDups_filter, h']
  rw [SameFirsts, List.eraseDups_append, List.eraseDups_append, h, hnew, hrest]

/-- What is there already adds nothing. -/
theorem absorb (h : ys ⊆ xs) : SameFirsts (xs ++ ys) xs := by
  have hnothing : ys.removeAll xs = [] := by
    refine List.filter_eq_nil_iff.mpr fun y hy => ?_
    simp [h hy]
  rw [SameFirsts, List.eraseDups_append, hnothing]
  simp

/-- First occurrences are those of the list that they are taken from. -/
theorem eraseDups (xs : List String) : SameFirsts xs.eraseDups xs :=
  eraseDups_eq_self (nodup_eraseDups xs)

/-- An item whose images are there already may be left out, by induction with more images there. -/
theorem flatMap_filter {f : String → List String} {x : String} {front : List String}
    (h : f x ⊆ front) (xs : List String) :
    SameFirsts (front ++ (xs.filter (!· == x)).flatMap f) (front ++ xs.flatMap f) := by
  induction xs generalizing front with
  | nil => exact refl _
  | cons y rest ih =>
    rw [List.flatMap_cons, ← List.append_assoc]
    by_cases hy : y = x
    · subst hy
      rw [List.filter_cons_of_neg (by simp)]
      exact (ih h).trans ((absorb h).symm.append (refl _))
    · rw [List.filter_cons_of_pos (by simp [hy]), List.flatMap_cons, ← List.append_assoc]
      exact ih (List.subset_append_of_subset_left _ h)

/-- What comes of first occurrences has the first occurrences of what comes of all. -/
theorem flatMap_eraseDups (f : String → List String) (xs : List String) :
    SameFirsts (xs.eraseDups.flatMap f) (xs.flatMap f) := by
  match xs with
  | [] => exact refl _
  | x :: rest =>
    rw [List.eraseDups_cons, List.flatMap_cons, List.flatMap_cons]
    have hrest := flatMap_eraseDups f (rest.filter (!· == x))
    exact ((refl (f x)).append hrest).trans (flatMap_filter (List.Subset.refl _) rest)
termination_by xs.length
decreasing_by exact Nat.lt_succ_of_le (List.length_filter_le _ _)

/-- Lists with the same first occurrences go on to lists with the same. -/
theorem flatMap (f : String → List String) (h : SameFirsts xs ys) :
    SameFirsts (xs.flatMap f) (ys.flatMap f) := by
  have hsame : xs.eraseDups.flatMap f = ys.eraseDups.flatMap f := by rw [h]
  refine (flatMap_eraseDups f xs).symm.trans ?_
  rw [hsame]
  exact flatMap_eraseDups f ys

/-- Lists with the same first occurrences are renamed to lists with the same. -/
theorem map (f : String → String) (h : SameFirsts xs ys) : SameFirsts (xs.map f) (ys.map f) := by
  rw [← List.flatMap_singleton' (xs.map f), ← List.flatMap_singleton' (ys.map f), List.flatMap_map,
    List.flatMap_map]
  exact h.flatMap fun x => [f x]

/-- What has been listed may be listed again. -/
theorem again (xs ys : List String) : SameFirsts (xs ++ (xs ++ ys)) (xs ++ ys) := by
  rw [← List.append_assoc]
  exact (absorb (List.Subset.refl xs)).append (refl ys)

/-- What is there already may be left out before every image, by induction with more there. -/
theorem flatMap_common {common front : List String} {f : String → List String}
    (h : common ⊆ front) (xs : List String) :
    SameFirsts (front ++ xs.flatMap fun x => common ++ f x) (front ++ xs.flatMap f) := by
  induction xs generalizing front with
  | nil => exact refl _
  | cons x rest ih =>
    rw [List.flatMap_cons, List.flatMap_cons, ← List.append_assoc, ← List.append_assoc,
      ← List.append_assoc]
    have hfirst : SameFirsts (front ++ common ++ f x) (front ++ f x) := (absorb h).append (refl _)
    exact (hfirst.append (refl _)).trans (ih (List.subset_append_of_subset_left _ h))

/-- What comes before every image comes before all of them. -/
theorem flatMap_common_first {common : List String} {f : String → List String} (h : xs ≠ []) :
    SameFirsts (xs.flatMap fun x => common ++ f x) (common ++ xs.flatMap f) := by
  obtain ⟨x, rest, rfl⟩ := List.exists_cons_of_ne_nil h
  have hfront : SameFirsts (common ++ (x :: rest).flatMap fun x => common ++ f x)
      ((x :: rest).flatMap fun x => common ++ f x) := by
    rw [List.flatMap_cons, List.append_assoc]
    exact again _ _
  exact hfront.symm.trans (flatMap_common (List.Subset.refl common) (x :: rest))

end SameFirsts

end Firsts

namespace Gate

open ObjectQuery.Path (dotted)
open Plan (endsAtReference)

variable {g : Gate} {className target : String} {c : Class} {document : Json}

/-! ## The layers of an expansion -/

/-- A path that starts with a field that is no reference, and that expands to itself. -/
structure Own (g : Gate) (className leaf : String) : Prop where
  itself : g.Expands className (Text.split '.' leaf) [leaf]
  starts : ∃ c field rest ty, g.schema.class? className = some c ∧
    Text.split '.' leaf = field :: rest ∧ c.field? field = some ty ∧ ty.target? = none

/--
The leaves of an expansion: paths that a class has of its own, or behind one of its references the
default fields of the class it leads to and after them the leaves of an expansion there.
-/
inductive Layered (g : Gate) : (className : String) → (leaves : List String) → Prop where
  | own {className : String} {leaves : List String} :
    (∀ leaf ∈ leaves, g.Own className leaf) → Layered g className leaves
  | behind {className head target : String} {below : List String} {c : Class} {ty : FieldType} :
    g.schema.class? className = some c → c.field? head = some ty → g.readable c head = true →
      ty.target? = some target → g.MayEnter target → Layered g target below →
      Layered g className ((Field.defaultNames ++ below).map (head ++ "." ++ ·))

/-- What is no reference has no target. -/
theorem target?_of_not_reference {ty : FieldType} (h : ty.isReference = false) :
    ty.target? = none := by
  cases ty <;> first | rfl | cases h

/-- A field that is neither a shape nor a reference is a path of its own. -/
theorem own_field (hs : g.schema.Accepted) (hc : g.schema.class? className = some c) {field : String}
    {ty : FieldType} (hf : c.field? field = some ty) (hreadable : g.readable c field = true)
    (hshape : ty.isShape = false) (htarget : ty.target? = none) : g.Own className field := by
  have hsplit : Text.split '.' field = [field] := Path.split_name (hs.wellTyped hc hf).1
  refine ⟨?_, c, field, [], ty, hc, hsplit, hf, htarget⟩
  rw [hsplit]
  exact .field hc hf hreadable (ne_wildcard hs hc hf) hshape htarget

/-- The leaves of a shape are all of them, or those at a column inside. -/
theorem shapeLeaves_eq_ok {head : String} {ty : FieldType} {rest leaves : List String} :
    g.shapeLeaves className head ty rest = .ok leaves ↔
      rest = [] ∧ (ty.leaves head).map (·.1) = leaves ∨
      rest ≠ [] ∧ ∃ column,
        g.schema.column className (".".intercalate (head :: rest)) = .ok column ∧
        (column.type.leaves (".".intercalate (head :: rest))).map (·.1) = leaves := by
  cases rest with
  | nil => simp [shapeLeaves, Result.pure_eq_ok]
  | cons next rest =>
    rw [shapeLeaves, if_neg (by simp)]
    refine Result.bind_eq_ok.trans ?_
    simp [Result.pure_eq_ok]

/-- A leaf is a path of its own. -/
theorem LeafIn.own (hs : g.schema.Accepted) (hc : g.schema.class? className = some c)
    {field leaf : String} {ty : FieldType} (h : g.LeafIn c field leaf ty) :
    g.Own className leaf := by
  have hcolumn := h.column hs hc
  obtain ⟨rest, fieldType, hsplit, hf, hreadable, hreference, hbelow, hshape⟩ := h
  have htarget := target?_of_not_reference hreference
  cases hinside : fieldType.isShape with
  | false =>
    obtain ⟨rfl, rfl⟩ := FieldType.below?_of_not_shape hinside hbelow
    obtain rfl : leaf = field :=
      Text.split_injective (hsplit.trans (Path.split_name (hs.wellTyped hc hf).1).symm)
    exact own_field hs hc hf hreadable hshape htarget
  | true =>
    refine ⟨?_, c, field, rest, fieldType, hc, hsplit, hf, htarget⟩
    rw [hsplit]
    refine .shape hc hf hreadable (ne_wildcard hs hc hf) hinside ?_
    have hrest : rest ≠ [] := by
      rintro rfl
      rw [FieldType.below?_nil, Option.some.injEq] at hbelow
      rw [hbelow, hshape] at hinside
      cases hinside
    refine shapeLeaves_eq_ok.mpr (.inr ⟨hrest, ?_⟩)
    rw [← hsplit, Text.intercalate_split]
    refine ⟨_, hcolumn, ?_⟩
    rw [FieldType.leaves_of_not_shape hshape]
    rfl

/-- The leaves at a place inside a shape are paths of its class, whatever is found at the place. -/
theorem own_of_shapeLeaves (hs : g.schema.Accepted) (hc : g.schema.class? className = some c)
    {head : String} {ty : FieldType} {rest leaves : List String} (hf : c.field? head = some ty)
    (hreadable : g.readable c head = true) (hshape : ty.isShape = true)
    (hparts : ∀ part ∈ head :: rest, '.' ∉ part.toList)
    (h : g.shapeLeaves className head ty rest = .ok leaves) :
    ∀ leaf ∈ leaves, g.Own className leaf := by
  have hreference : ty.isReference = false := by
    cases ty <;> first | rfl | cases hshape
  have htarget := target?_of_not_reference hreference
  rcases shapeLeaves_eq_ok.mp h with ⟨-, rfl⟩ | ⟨-, column, hcolumn, rfl⟩
  · intro leaf hleaf
    obtain ⟨leafType, hinside⟩ := (mem_leaves_iff_leafIn hs hc hf hreadable hreference).mp hleaf
    exact hinside.own hs hc
  · have hsplit : Text.split '.' (".".intercalate (head :: rest)) = head :: rest :=
      Text.split_intercalate (List.cons_ne_nil _ _) hparts
    generalize ".".intercalate (head :: rest) = full at hsplit hcolumn h
    cases hplace : column.type.isShape with
    | false =>
      -- No shape is found at the place, perhaps no whole column: the path itself is the only leaf.
      rw [FieldType.leaves_of_not_shape hplace, List.map_singleton] at h ⊢
      refine List.forall_mem_singleton.mpr ⟨?_, c, head, rest, ty, hc, hsplit, hf, htarget⟩
      rw [hsplit]
      exact .shape hc hf hreadable (ne_wildcard hs hc hf) hshape h
    | true =>
      -- A shape is found by names only, and its leaves are leaves of the field.
      obtain ⟨segments, -, hbelow⟩ := Result.bind_eq_ok.mp hcolumn
      obtain ⟨_, _, _, _, -, -, -, hbelow⟩ := Schema.columnOf_eq_ok.mp hbelow
      have hwhole := Schema.columnBelow_of_shape hbelow hplace
      obtain ⟨name, shapeType, left⟩ := column
      obtain rfl : left = .column := hwhole
      obtain ⟨hclass, rfl⟩ := (hs.column_eq_column hc).mp hcolumn
      rw [hsplit, Class.below?, hf, Option.bind_some] at hclass
      intro leaf hleaf
      obtain ⟨⟨leaf, leafType⟩, hmem, rfl⟩ := List.mem_map.mp hleaf
      have hfield := (hs.wellTyped hc hf).2
      have hshapeType := (FieldType.wellTyped_below hfield hclass).2
      obtain ⟨names, hnames, hleafShape, rfl⟩ := (FieldType.mem_leaves_iff hshapeType).mp hmem
      have hidentifiers := (FieldType.wellTyped_below hshapeType hnames).1
      have hleafSplit : Text.split '.' (dotted name names) = head :: (rest ++ names) := by
        rw [Path.split_dotted name hidentifiers, hsplit, List.cons_append]
      have hleafBelow : ty.below? (rest ++ names) = some leafType := by
        rw [FieldType.below?_append, hclass, Option.bind_some, hnames]
      have hinside : g.LeafIn c head (dotted name names) leafType :=
        ⟨rest ++ names, ty, hleafSplit, hf, hreadable, hreference, hleafBelow, hleafShape⟩
      exact hinside.own hs hc

/-- Every expansion is layered, by induction on how it comes about. -/
theorem Expands.layered (hs : g.schema.Accepted) {parts leaves : List String}
    (h : g.Expands className parts leaves) (hparts : ∀ part ∈ parts, '.' ∉ part.toList) :
    g.Layered className leaves := by
  induction h with
  | wildcard hc _ =>
    refine .own fun leaf hleaf => ?_
    obtain ⟨field, ty, -, hinside⟩ := (mem_wildcard_iff hs hc).mp hleaf
    exact hinside.own hs hc
  | reference hc hf hreadable _ htarget henter _ ih =>
    exact .behind hc hf hreadable htarget henter (ih (List.forall_mem_cons.mp hparts).2)
  | shape hc hf hreadable _ hshape hleaves =>
    exact .own (own_of_shapeLeaves hs hc hf hreadable hshape hparts hleaves)
  | field hc hf hreadable _ hshape htarget =>
    exact .own (List.forall_mem_singleton.mpr (own_field hs hc hf hreadable hshape htarget))

/-! ## What the caller may ask for -/

/-- The caller may ask for those of some paths that are names only. -/
def MayAsk (g : Gate) (className : String) (paths : List String) : Prop :=
  ∀ path ∈ paths, (∀ name ∈ Text.split '.' path, Schema.isName name = true) →
    g.Permits className ((Text.split '.' path).map .field)

/-- A caller may ask for paths that are authorized one by one. -/
theorem mayAsk_of_authorizePath {paths : List String}
    (h : ∀ path ∈ paths, g.authorizePath className path = .ok ()) : g.MayAsk className paths := by
  intro path hpath hnames
  obtain ⟨segments, hparse, hpermits⟩ := authorizePath_iff.mp (h path hpath)
  obtain rfl := Except.ok.inj (hparse.symm.trans (Path.parse_of_split rfl hnames))
  exact hpermits

/-- A caller that may ask for some paths may ask for fewer. -/
theorem MayAsk.subset {paths more : List String} (h : g.MayAsk className more)
    (hsub : paths ⊆ more) : g.MayAsk className paths :=
  fun path hpath => h path (hsub hpath)

/-- What may be asked for through a reference may be asked for on the class it leads to. -/
theorem MayAsk.behind (hs : g.schema.Accepted) (hc : g.schema.class? className = some c)
    {head : String} {ty : FieldType} (hf : c.field? head = some ty)
    (htarget : ty.target? = some target) {paths : List String}
    (h : g.MayAsk className (paths.map (head ++ "." ++ ·))) : g.MayAsk target paths := by
  intro path hpath hnames
  have hhead : Schema.isName head = true := (hs.wellTyped hc hf).1
  have hsplit : Text.split '.' (head ++ "." ++ path) = head :: Text.split '.' path := by
    rw [Text.split_append, Path.split_name hhead, List.singleton_append]
  have hpermits := h _ (List.mem_map_of_mem hpath)
    (hsplit ▸ List.forall_mem_cons.mpr ⟨hhead, hnames⟩)
  obtain ⟨first, rest, hparts⟩ := List.exists_cons_of_ne_nil (Text.split_ne_nil '.' path)
  rw [hsplit, hparts, List.map_cons, List.map_cons] at hpermits
  rw [hparts, List.map_cons]
  exact ((permits_of_passage (passage?_reference hc hf htarget _ _)).mp hpermits).2.2

/-- Default fields that may be asked for are paths of their class. -/
theorem own_default (h : Schema.ofJson document = .ok g.schema)
    (hask : g.MayAsk className Field.defaultNames) :
    ∀ field ∈ Field.defaultNames, g.Own className field := by
  have hs := Schema.accepted_of_ofJson h
  have hdefaults : ∀ field ∈ Field.defaultNames, Schema.isName field = true ∧
      ∃ ty, (field, ty) ∈ Field.defaults ∧ ty.isShape = false ∧ ty.target? = none := by
    intro field hfield
    have hname : Schema.isName field = true := by
      revert field
      decide
    have hnames : Field.defaultNames = Field.defaults.map (·.1) := rfl
    rw [hnames] at hfield
    obtain ⟨⟨field, ty⟩, hmem, rfl⟩ := List.mem_map.mp hfield
    have hplain : ∀ f ∈ Field.defaults, f.2.isShape = false ∧ f.2.target? = none := by
      simp [Field.defaults, FieldType.isShape, FieldType.target?]
    exact ⟨hname, ty, hmem, hplain _ hmem⟩
  intro field hfield
  obtain ⟨hname, ty, hmem, hshape, htarget⟩ := hdefaults field hfield
  have hsplit := Path.split_name hname
  have hpermits := hask field hfield (hsplit ▸ List.forall_mem_singleton.mpr hname)
  rw [hsplit] at hpermits
  obtain ⟨c, _, _, hc, hsegments, -, hreadable⟩ := hpermits.reads _ _ (.start _ _)
  cases hsegments
  exact own_field hs hc (Schema.field?_default_of_ofJson h hc _ hmem) hreadable hshape htarget

/-! ## Settled lists -/

/-- The leaves a path expands to; none if it is refused. -/
def leavesOf (g : Gate) (className path : String) : List String :=
  (g.expandPath className path).toOption.getD []

/-- The leaves of a path are those it expands to. -/
theorem leavesOf_eq {path : String} {leaves : List String}
    (h : g.Expands className (Text.split '.' path) leaves) : g.leavesOf className path = leaves := by
  rw [leavesOf, expandPath_eq_ok.mpr h]
  rfl

/-- Paths that expand, all together to themselves but for repetitions. -/
structure Settled (g : Gate) (className : String) (paths : List String) : Prop where
  expands : ∀ path ∈ paths,
    g.Expands className (Text.split '.' path) (g.leavesOf className path)
  same : SameFirsts (paths.flatMap (g.leavesOf className)) paths

namespace Settled

variable {paths more : List String}

/-- Leaves of the class itself are settled, for they expand to themselves. -/
theorem of_own (h : ∀ leaf ∈ paths, g.Own className leaf) : g.Settled className paths := by
  have hleaves : ∀ leaf ∈ paths, g.leavesOf className leaf = [leaf] :=
    fun leaf hleaf => leavesOf_eq (h leaf hleaf).itself
  refine ⟨fun leaf hleaf => ?_, ?_⟩
  · rw [hleaves leaf hleaf]
    exact (h leaf hleaf).itself
  · rw [List.flatMap_congr hleaves, List.flatMap_singleton']
    exact .refl paths

/-- Settled leaves behind settled ones are settled together. -/
theorem append (h : g.Settled className paths) (h' : g.Settled className more) :
    g.Settled className (paths ++ more) := by
  refine ⟨List.forall_mem_append.mpr ⟨h.expands, h'.expands⟩, ?_⟩
  rw [List.flatMap_append]
  exact h.same.append h'.same

/-- Lists of leaves that are settled each are settled one behind another. -/
theorem flatten {lists : List (List String)} (h : ∀ paths ∈ lists, g.Settled className paths) :
    g.Settled className lists.flatten := by
  induction lists with
  | nil => exact of_own nofun
  | cons paths rest ih =>
    obtain ⟨hfirst, hrest⟩ := List.forall_mem_cons.mp h
    exact hfirst.append (ih hrest)

/-- Whether leaves are settled depends on their first occurrences alone. -/
theorem congr (h : g.Settled className paths) (hsame : SameFirsts paths more) :
    g.Settled className more where
  expands path hpath := h.expands path (hsame.mem_iff.mpr hpath)
  same := (hsame.symm.flatMap _).trans (h.same.trans hsame)

/--
Behind a reference the default fields come before whatever a path expands to. They are the first of
the paths there, so they come first once and are there already afterwards.
-/
theorem behind (hs : g.schema.Accepted) (hc : g.schema.class? className = some c) {head : String}
    {ty : FieldType} (hf : c.field? head = some ty) (hreadable : g.readable c head = true)
    (htarget : ty.target? = some target) (henter : g.MayEnter target)
    (h : g.Settled target (Field.defaultNames ++ paths)) :
    g.Settled className ((Field.defaultNames ++ paths).map (head ++ "." ++ ·)) := by
  have hexpands : ∀ path ∈ Field.defaultNames ++ paths,
      g.Expands className (Text.split '.' (head ++ "." ++ path))
        ((Field.defaultNames ++ g.leavesOf target path).map (head ++ "." ++ ·)) := by
    intro path hpath
    rw [Text.split_append, Path.split_name (hs.wellTyped hc hf).1, List.singleton_append]
    exact .reference hc hf hreadable (ne_wildcard hs hc hf) htarget henter (h.expands path hpath)
  have hleaves : ∀ path ∈ Field.defaultNames ++ paths, g.leavesOf className (head ++ "." ++ path) =
      (Field.defaultNames ++ g.leavesOf target path).map (head ++ "." ++ ·) :=
    fun path hpath => leavesOf_eq (hexpands path hpath)
  constructor
  · intro path hpath
    obtain ⟨inner, hinner, rfl⟩ := List.mem_map.mp hpath
    rw [hleaves inner hinner]
    exact hexpands inner hinner
  · rw [List.flatMap_map, List.flatMap_congr hleaves, ← List.map_flatMap]
    have hdefaults : SameFirsts
        ((Field.defaultNames ++ paths).flatMap fun path =>
          Field.defaultNames ++ g.leavesOf target path)
        (Field.defaultNames ++ (Field.defaultNames ++ paths).flatMap (g.leavesOf target)) :=
      .flatMap_common_first (List.append_ne_nil_of_left_ne_nil (by decide) _)
    have hinside : SameFirsts
        (Field.defaultNames ++ (Field.defaultNames ++ paths).flatMap (g.leavesOf target))
        (Field.defaultNames ++ (Field.defaultNames ++ paths)) :=
      (SameFirsts.refl Field.defaultNames).append h.same
    exact (hdefaults.trans (hinside.trans (.again _ _))).map _

end Settled

/-- What the caller may ask for in full is settled, layer by layer. -/
theorem Layered.settled (hschema : Schema.ofJson document = .ok g.schema) {leaves : List String}
    (h : g.Layered className leaves) (hask : g.MayAsk className leaves) :
    g.Settled className leaves := by
  have hs := Schema.accepted_of_ofJson hschema
  induction h with
  | own hown => exact .of_own hown
  | behind hc hf hreadable htarget henter _ ih =>
    have hbehind := hask.behind hs hc hf htarget
    have hdefaults := hbehind.subset (List.subset_append_left _ _)
    have hbelow := hbehind.subset (List.subset_append_right _ _)
    exact .behind hs hc hf hreadable htarget henter
      ((Settled.of_own (own_default hschema hdefaults)).append (ih hbelow))

/-! ## Default fields on the way -/

/-- A path of its own class starts with no reference. -/
theorem Own.not_endsAtReference {leaf : String} (h : g.Own className leaf) {names : List String}
    (hnames : names <+: Text.split '.' leaf) : endsAtReference g.schema className names = false := by
  obtain ⟨c, field, rest, ty, hc, hsplit, hf, htarget⟩ := h.starts
  cases names with
  | nil => rfl
  | cons name others =>
    rw [hsplit, List.cons_prefix_cons] at hnames
    obtain ⟨rfl, -⟩ := hnames
    simp [endsAtReference, hc, hf, htarget]

/-- Below every reference on the way to a leaf stand the default fields, layer by layer. -/
theorem Layered.defaults (hschema : Schema.ofJson document = .ok g.schema) {leaves : List String}
    (h : g.Layered className leaves) (hask : g.MayAsk className leaves) :
    ∀ path ∈ leaves, ∀ names, names <+: Text.split '.' path →
      endsAtReference g.schema className names = true →
        ∀ field ∈ Field.defaultNames, lead names ++ field ∈ leaves := by
  have hs := Schema.accepted_of_ofJson hschema
  induction h with
  | own hown =>
    intro path hpath names hnames hends
    rw [(hown path hpath).not_endsAtReference hnames] at hends
    cases hends
  | @behind className head target below c ty hc hf hreadable htarget henter _ ih =>
    have hbehind := hask.behind hs hc hf htarget
    intro path hpath names hnames hends field hfield
    obtain ⟨inner, hinner, rfl⟩ := List.mem_map.mp hpath
    rw [Text.split_append, Path.split_name (hs.wellTyped hc hf).1, List.singleton_append] at hnames
    cases names with
    | nil => cases hends
    | cons name rest =>
      obtain ⟨rfl, hrest⟩ := List.cons_prefix_cons.mp hnames
      suffices hmem : lead rest ++ field ∈ Field.defaultNames ++ below by
        have hlead : lead (name :: rest) ++ field = name ++ "." ++ (lead rest ++ field) := by
          rw [lead, String.append_assoc]
        rw [hlead]
        exact List.mem_map_of_mem hmem
      cases hempty : rest with
      | nil => exact List.mem_append_left _ (by rwa [lead, String.empty_append])
      | cons next others =>
        rw [← hempty]
        have hinside : endsAtReference g.schema target rest = true := by
          simpa [endsAtReference, hc, hf, htarget, hempty] using hends
        rcases List.mem_append.mp hinner with hdefault | hbelow
        · have hown := own_default hschema (hbehind.subset (List.subset_append_left _ _)) _ hdefault
          rw [hown.not_endsAtReference hrest] at hinside
          cases hinside
        · refine List.mem_append_right _ ?_
          exact ih (hbehind.subset (List.subset_append_right _ _)) inner hbelow rest hrest hinside
            field hfield

/-! ## The expansion of an expansion -/

/-- A settled list without repetitions that starts with the default fields expands to itself. -/
theorem Settled.expandIncludes {paths : List String} (h : g.Settled className paths)
    (hnodup : paths.Nodup) (hdefaults : Field.defaultNames <+: paths) :
    g.expandIncludes className paths = .ok paths := by
  obtain ⟨rest, hrest⟩ := hdefaults
  have hnonempty : paths.isEmpty = false := by
    rw [← hrest]
    rfl
  have hleaves : paths.mapM (g.expandPath className) = .ok (paths.map (g.leavesOf className)) := by
    rw [Result.mapM_eq_ok, List.forall₂_map_right_iff, List.forall₂_same]
    exact fun path hpath => expandPath_eq_ok.mpr (h.expands path hpath)
  have hfront : SameFirsts (Field.defaultNames ++ paths) paths := by
    rw [← hrest]
    exact .again _ _
  have hsame : SameFirsts (Field.defaultNames ++ paths.flatMap (g.leavesOf className)) paths :=
    ((SameFirsts.refl _).append h.same).trans hfront
  unfold Gate.expandIncludes
  rw [hnonempty]
  refine Result.bind_eq_ok.mpr ⟨_, hleaves, Result.pure_eq_ok.mpr ?_⟩
  rw [← List.flatMap_def, hsame, eraseDups_eq_self hnodup]

/--
An expansion of which every path may be read has no path twice and starts with the default fields. Where
a path of it leads through references, the default fields of the class behind them stand in it as well.
And it is its own expansion, in the same order.
-/
theorem expandIncludes_closed (hschema : Schema.ofJson document = .ok g.schema)
    {includes out : List String} (h : g.expandIncludes className includes = .ok out)
    (hreads : ∀ path ∈ out, g.authorizePath className path = .ok ()) :
    out.Nodup ∧ Field.defaultNames <+: out ∧
      (∀ path ∈ out, ∀ names, names <+: Text.split '.' path →
        endsAtReference g.schema className names = true →
          ∀ field ∈ Field.defaultNames, lead names ++ field ∈ out) ∧
      g.expandIncludes className out = .ok out := by
  have hs := Schema.accepted_of_ofJson hschema
  obtain ⟨lists, hlists, hout⟩ := Result.bind_eq_ok.mp h
  have hout := Result.pure_eq_ok.mp hout
  have hmem : ∀ {path},
      path ∈ out ↔ path ∈ Field.defaultNames ∨ ∃ leaves ∈ lists, path ∈ leaves := by
    intro path
    rw [← hout, List.mem_eraseDups, List.mem_append, List.mem_flatten]
  have hlayered : ∀ leaves ∈ lists, g.Layered className leaves := by
    intro leaves hleaves
    obtain ⟨path, -, hpath⟩ := Result.exists_of_mapM_eq_ok hlists leaves hleaves
    exact (expandPath_eq_ok.mp hpath).layered hs fun part => Text.not_mem_of_mem_split
  have hask := mayAsk_of_authorizePath hreads
  have hown : ∀ field ∈ Field.defaultNames, g.Own className field :=
    own_default hschema (hask.subset fun field hfield => hmem.mpr (.inl hfield))
  have hbelow : ∀ leaves ∈ lists, g.MayAsk className leaves := fun leaves hleaves =>
    hask.subset fun path hpath => hmem.mpr (.inr ⟨leaves, hleaves, hpath⟩)
  have hsettled : g.Settled className out := by
    have hall : g.Settled className (Field.defaultNames ++ lists.flatten) :=
      (Settled.of_own hown).append (.flatten fun leaves hleaves =>
        (hlayered leaves hleaves).settled hschema (hbelow leaves hleaves))
    rw [← hout]
    exact hall.congr (SameFirsts.eraseDups _).symm
  have hnodup : out.Nodup := hout ▸ nodup_eraseDups _
  have hdefaults : Field.defaultNames <+: out := by
    rw [← hout, List.eraseDups_append, eraseDups_eq_self (by decide)]
    exact List.prefix_append _ _
  refine ⟨hnodup, hdefaults, ?_, hsettled.expandIncludes hnodup hdefaults⟩
  intro path hpath names hnames hends field hfield
  rcases hmem.mp hpath with hdefault | ⟨leaves, hleaves, hleaf⟩
  · rw [(hown path hdefault).not_endsAtReference hnames] at hends
    cases hends
  · refine hmem.mpr (.inr ⟨leaves, hleaves, ?_⟩)
    exact (hlayered leaves hleaves).defaults hschema (hbelow leaves hleaves) path hleaf names hnames
      hends field hfield

/-- What a paper's info and its author expand to. -/
def paperLeaves : List String :=
  Field.defaultNames ++ ["info.city", "info.owner"] ++ Field.defaultNames.map ("author." ++ ·) ++
    ["author.name"]

/-- The leaves of a paper come back as they are. -/
theorem expandIncludes_closed_of_author :
    Schema.ofJson ownedPapers = .ok paperReader.schema ∧
      paperReader.expandIncludes "Paper" ["info", "author"] = .ok paperLeaves ∧
      endsAtReference paperReader.schema "Paper" ["author"] = true ∧
      lead ["author"] ++ "_id" ∈ paperLeaves ∧
      paperReader.expandIncludes "Paper" paperLeaves = .ok paperLeaves := by
  have hschema : Schema.ofJson ownedPapers = .ok paperReader.schema := by rfl
  have hleaves : paperReader.expandIncludes "Paper" ["info", "author"] = .ok paperLeaves := by rfl
  have hreads : ∀ path ∈ paperLeaves, paperReader.authorizePath "Paper" path = .ok () := by
    intro path hpath
    have hread : ∀ path ∈ paperLeaves, (paperReader.authorizePath "Paper" path).toBool = true := by
      decide +kernel
    obtain ⟨_, hok⟩ := Result.exists_of_toBool (hread path hpath)
    exact hok
  obtain ⟨-, -, hbelow, hagain⟩ := expandIncludes_closed hschema hleaves hreads
  have hends : endsAtReference paperReader.schema "Paper" ["author"] = true := by rfl
  have hprefix : ["author"] <+: Text.split '.' "author.name" := by decide
  exact ⟨hschema, hleaves, hends,
    hbelow "author.name" (by decide) ["author"] hprefix hends "_id" (by decide), hagain⟩

end Gate

end ObjectQuery
