import Mathlib.Data.List.Forall2
import ObjectQuery.Proofs.Sql.Alike
import ObjectQuery.Sql.Predicate

/-!
# Fragments and tests without their words

Blanking a fragment empties the strings that its parameters bind and leaves all else as it is: its
words, names and constants, and every parameter of another type. So two fragments with the same blank
differ in nothing but strings that are bound, and these are not written into a statement: what is
written out depends on the blank alone. Blanking goes through everything that fragments are built with.

Blanking a test empties the strings that a client wrote into it: bare strings it compares with, those in
lists and arrays, the ends of texts and the sources of patterns. Whether a constant can stand beside an
operand, and what it is compared as, depends on its kind and not on the string it is. So a test and its
blank compile to fragments with the same blank, or to the same error.
-/

namespace ObjectQuery

/-! ## Values -/

namespace Json

mutual

/-- A value with its strings emptied, also those of arrays in it; objects are left as they are. -/
def blank : Json → Json
  | .str _ => .str ""
  | .arr items => .arr (blankItems items)
  | v => v

def blankItems : List Json → List Json
  | [] => []
  | v :: vs => blank v :: blankItems vs

end

/-- Items are blanked one by one. -/
theorem blankItems_eq_map (items : List Json) : blankItems items = items.map blank := by
  induction items with
  | nil => rfl
  | cons v vs ih => rw [blankItems, ih, List.map_cons]

/-- An array is blanked item by item. -/
@[simp]
theorem blank_arr (items : List Json) : (arr items).blank = .arr (items.map blank) := by
  rw [blank, blankItems_eq_map]

mutual

/-- What has been blanked has no strings left to empty. -/
@[simp]
theorem blank_blank : ∀ v : Json, v.blank.blank = v.blank
  | .str _ => rfl
  | .arr items => congrArg arr (blankItems_blankItems items)
  | .null | .bool _ | .num _ | .obj _ => rfl

theorem blankItems_blankItems : ∀ items : List Json,
    blankItems (blankItems items) = blankItems items
  | [] => rfl
  | v :: vs => by
    rw [blankItems, blankItems, blank_blank v, blankItems_blankItems vs]

end

end Json

/-- A parameter with the strings in it emptied; it has as many of them as before. -/
def Param.blank : Param → Param
  | .text _ => .text ""
  | .textArray items => .textArray (items.map fun _ => "")
  | .json v => .json v.blank
  | p => p

/-- A parameter is cast by its type, which blanking keeps. -/
@[simp]
theorem Param.cast_blank (p : Param) : p.blank.cast = p.cast := by
  cases p <;> rfl

/-- Arrays of strings have the same blank if they are of the same length. -/
theorem Param.blank_textArray {xs ys : List String} (h : xs.length = ys.length) :
    (Param.textArray xs).blank = (Param.textArray ys).blank := by
  simp only [Param.blank, List.map_const', h]

namespace Sql

/-! ## Fragments -/

mutual

/-- A fragment with the strings of its parameters emptied. -/
def blank : Sql → Sql
  | param value => param value.blank
  | seq parts => seq (blankAll parts)
  | join items separator => join (blankAll items) separator
  | block body => block body.blank
  | a => a

def blankAll : List Sql → List Sql
  | [] => []
  | a :: rest => a.blank :: blankAll rest

end

/-- Parts are blanked one by one. -/
theorem blankAll_eq_map (parts : List Sql) : blankAll parts = parts.map blank := by
  induction parts with
  | nil => rfl
  | cons a rest ih => rw [blankAll, ih, List.map_cons]

variable {a b : Sql}

@[simp] theorem blank_raw {text : String} : (raw text).blank = raw text := rfl

@[simp] theorem blank_ident {name : String} : (ident name).blank = ident name := rfl

@[simp] theorem blank_str {text : String} : (str text).blank = str text := rfl

@[simp] theorem blank_param {value : Param} : (param value).blank = param value.blank := rfl

@[simp] theorem blank_column {label name : String} : (column label name).blank = column label name := rfl

@[simp] theorem blank_binder {label : String} : (binder label).blank = binder label := rfl

@[simp] theorem blank_block : (block a).blank = block a.blank := rfl

/-- A sequence is blanked part by part. -/
@[simp]
theorem blank_seq {parts : List Sql} : (seq parts).blank = seq (parts.map blank) := by
  rw [blank, blankAll_eq_map]

/-- What is joined is blanked item by item, and the separator stays. -/
@[simp]
theorem blank_join {items : List Sql} {separator : String} :
    (join items separator).blank = join (items.map blank) separator := by
  rw [blank, blankAll_eq_map]

mutual

/-- A fragment is empty if its blank is, for blanking takes no words away. -/
@[simp]
theorem isEmpty_blank : ∀ a : Sql, a.blank.isEmpty = a.isEmpty
  | seq parts => allEmpty_blank parts
  | join items _ => allEmpty_blank items
  | block body => isEmpty_blank body
  | raw _ | ident _ | str _ | param _ | column .. | star _ | root _ | table .. | source ..
  | binder _ => rfl

theorem allEmpty_blank : ∀ parts : List Sql, allEmpty (blankAll parts) = allEmpty parts
  | [] => rfl
  | a :: rest => by rw [blankAll, allEmpty, allEmpty, isEmpty_blank a, allEmpty_blank rest]

end

/-! ## What is built from fragments -/

@[simp] theorem blank_empty : empty.blank = empty := rfl

/-- Fragments set side by side are blanked each for itself. -/
@[simp]
theorem blank_append : (a ++ b).blank = a.blank ++ b.blank :=
  blank_seq

/-- Parentheses stay around what is blanked inside them. -/
@[simp]
theorem blank_parens : a.parens.blank = a.blank.parens := by
  simp [parens]

/-- A negation stays where it is. -/
@[simp]
theorem blank_not : a.not.blank = a.blank.not := by
  simp [Sql.not]

/-- The items that write something still do. -/
theorem filter_isEmpty_blank (items : List Sql) :
    (items.map blank).filter (fun i => !isEmpty i) =
      (items.filter fun i => !isEmpty i).map blank := by
  rw [List.filter_map]
  exact congrArg _ (List.filter_congr fun i _ => congrArg _ (isEmpty_blank i))

/-- Conditions are blanked one by one, and what connects them stays. -/
theorem blank_connect {items : List Sql} {separator whenEmpty : String} :
    (connect items separator whenEmpty).blank =
      connect (items.map blank) separator whenEmpty := by
  unfold connect
  rw [filter_isEmpty_blank]
  generalize items.filter _ = written
  match written with
  | [] => rfl
  | [_] => rfl
  | i :: j :: rest => simp [Function.comp_def]

/-- A conjunction is blanked condition by condition. -/
@[simp]
theorem blank_and {items : List Sql} : (and items).blank = and (items.map blank) :=
  blank_connect

/-- A disjunction is blanked condition by condition. -/
@[simp]
theorem blank_or {items : List Sql} : (or items).blank = or (items.map blank) :=
  blank_connect

/-- A query is blanked clause by clause. -/
@[simp]
theorem blank_select {list source condition tail : Sql} :
    (select list source condition tail).blank =
      select list.blank source.blank condition.blank tail.blank := by
  simp [select]

/-- A subquery that is asked for rows is blanked with its conditions. -/
@[simp]
theorem blank_existsIn {conditions : List Sql} :
    (existsIn a conditions).blank = existsIn a.blank (conditions.map blank) := by
  simp [existsIn]

/-- A test that is false where it is unknown stays one. -/
@[simp]
theorem blank_orFalse : a.orFalse.blank = a.blank.orFalse := by
  simp [orFalse]

/-- A choice by the kind of a document is blanked in both of its fragments. -/
@[simp]
theorem blank_jsonWhen {kind : String} :
    (a.jsonWhen kind b).blank = a.blank.jsonWhen kind b.blank := by
  simp [jsonWhen, jsonIs]

/-! ## What is written out -/

/-- A leaf with the strings of its parameter emptied. -/
def Leaf.blank : Leaf → Leaf
  | .text t => .text t
  | .slot v => .slot v.blank

/-- A parameter is the same kind of leaf when it is blanked. -/
theorem Leaf.ofParam_blank (value : Param) : ofParam value.blank = (ofParam value).blank := by
  cases value with
  | bool b => cases b <;> rfl
  | _ => rfl

mutual

/-- The leaves of a blank are those of the fragment, blanked. -/
theorem leaves_blank : ∀ a : Sql, a.blank.leaves = a.leaves.map Leaf.blank
  | param value => congrArg (fun leaf => [leaf]) (Leaf.ofParam_blank value)
  | seq parts => seqLeaves_blank parts
  | join items separator => joinLeaves_blank separator items
  | block body => leaves_blank body
  | raw _ | ident _ | str _ | column .. | star _ | root _ | table .. | source .. | binder _ => rfl

theorem seqLeaves_blank : ∀ parts : List Sql,
    seqLeaves (blankAll parts) = (seqLeaves parts).map Leaf.blank
  | [] => rfl
  | a :: rest => by
    rw [blankAll, seqLeaves, seqLeaves, leaves_blank a, seqLeaves_blank rest, List.map_append]

theorem joinLeaves_blank (separator : String) : ∀ items : List Sql,
    joinLeaves separator (blankAll items) = (joinLeaves separator items).map Leaf.blank
  | [] => rfl
  | a :: rest => by
    rw [blankAll, joinLeaves, joinLeaves, leaves_blank a, joinRest_blank separator rest,
      List.map_append]

theorem joinRest_blank (separator : String) : ∀ items : List Sql,
    joinRest separator (blankAll items) = (joinRest separator items).map Leaf.blank
  | [] => rfl
  | a :: rest => by
    rw [blankAll, joinRest, joinRest, leaves_blank a, joinRest_blank separator rest,
      List.map_cons, List.map_append, Leaf.blank]

end

/-- What is written out depends on the types of the parameters alone, which blanking keeps. -/
theorem writeLeaves_blank (n : Nat) (leaves : List Leaf) :
    writeLeaves n (leaves.map Leaf.blank) = writeLeaves n leaves := by
  induction leaves generalizing n with
  | nil => rfl
  | cons leaf rest ih =>
    cases leaf with
    | text text => rw [List.map_cons, Leaf.blank, writeLeaves, writeLeaves, ih]
    | slot value =>
      rw [List.map_cons, Leaf.blank, writeLeaves, writeLeaves, ih, placeholder, placeholder,
        Param.cast_blank]

/-- The parameters that leaves bind are blanked in their places. -/
theorem slots_blank (leaves : List Leaf) :
    slots (leaves.map Leaf.blank) = (slots leaves).map Param.blank := by
  induction leaves with
  | nil => rfl
  | cons leaf rest ih =>
    cases leaf with
    | text text => rw [List.map_cons, Leaf.blank, slots, slots, ih]
    | slot value => rw [List.map_cons, Leaf.blank, slots, slots, ih, List.map_cons]

/-- Blanking a fragment keeps the text it is written as, and blanks its parameters. -/
theorem compile_blank (a : Sql) :
    a.blank.compile = ⟨a.compile.text, a.compile.params.map Param.blank⟩ := by
  simp only [compile, leaves_blank, writeLeaves_blank, slots_blank]

end Sql

/-! ## What differs in its words -/

/-- Parameters that are the same, or of one type that holds strings, and differ in these alone. -/
inductive Param.Reworded : Param → Param → Prop where
  | same (p : Param) : Reworded p p
  | text (s s' : String) : Reworded (.text s) (.text s')
  | textArray {items items' : List String} (h : items.length = items'.length) :
    Reworded (.textArray items) (.textArray items')
  | json {v v' : Json} (h : v.blank = v'.blank) : Reworded (.json v) (.json v')

/-- Parameters of one blank are the same, but for strings that they bind. -/
theorem Param.reworded_of_blank_eq {p p' : Param} (h : p.blank = p'.blank) : p.Reworded p' := by
  cases p with
  | text s =>
    cases p' <;> simp only [blank, reduceCtorEq] at h
    exact .text _ _
  | textArray items =>
    cases p' <;> simp only [blank, reduceCtorEq] at h
    rw [textArray.injEq, List.map_const', List.map_const'] at h
    exact .textArray (by simpa using congrArg List.length h)
  | json v =>
    cases p' <;> simp only [blank, reduceCtorEq] at h
    exact .json (json.inj h)
  | _ =>
    cases p' <;> cases h
    exact .same _

/-- Statements of one text, whose parameters differ one for one in nothing but strings. -/
structure Sql.Compiled.Reworded (c c' : Compiled) : Prop where
  text : c.text = c'.text
  params : List.Forall₂ Param.Reworded c.params c'.params

/-- Fragments that differ in nothing but strings that are bound. -/
def Sql.Reworded (a b : Sql) : Prop := a.blank = b.blank

/-- Fragments that differ in nothing but strings that are bound are written as the same text. -/
theorem Sql.Reworded.compile {a b : Sql} (h : a.Reworded b) : a.compile.Reworded b.compile := by
  have hcompiled := congrArg Sql.compile h
  rw [compile_blank, compile_blank, Compiled.mk.injEq] at hcompiled
  obtain ⟨htext, hparams⟩ := hcompiled
  refine ⟨htext, List.Forall₂.imp (fun _ _ => Param.reworded_of_blank_eq) ?_⟩
  rw [← List.forall₂_eq_eq_eq, List.forall₂_map_left_iff, List.forall₂_map_right_iff] at hparams
  exact hparams

/-! ## Filters -/

mutual

/-- A test with the strings of its operands emptied. -/
def FieldTest.blank : FieldTest → FieldTest
  | .compare op operand => .compare op operand.blank
  | .oneOf list => .oneOf (list.map Json.blank)
  | .noneOf list => .noneOf (list.map Json.blank)
  | .subset list => .subset (list.map Json.blank)
  | .superset list => .superset (list.map Json.blank)
  | .intersect list => .intersect (list.map Json.blank)
  | .not t => .not t.blank
  | .pattern _ ignoreCase => .pattern "" ignoreCase
  | .startsWith _ => .startsWith ""
  | .endsWith _ => .endsWith ""
  | .size count => .size count
  | .empty expected => .empty expected
  | .every f => .every f.blank
  | .any f => .any f.blank

/-- A filter with the strings of its tests emptied; keys and expressions are left as they are. -/
def Filter.blank : Filter → Filter
  | .connective op items => .connective op (Filter.blankItems items)
  | .field path test => .field path test.blank
  | .expr e => .expr e

def Filter.blankItems : List Filter → List Filter
  | [] => []
  | f :: fs => f.blank :: Filter.blankItems fs

end

/-! ## Constants -/

namespace Value

variable (v : Json)

/-- A value is an envelope of the same text when it is blanked, for objects are left as they are. -/
@[simp]
theorem envelope?_blank (tag : String) : envelope? tag v.blank = envelope? tag v := by
  cases v with
  | arr items => rw [Json.blank_arr]; rfl
  | _ => rfl

/-- A value stands for the same instant when it is blanked. -/
@[simp]
theorem asDate?_blank : asDate? v.blank = asDate? v := by
  rw [asDate?, envelope?_blank, asDate?]

/-- A value stands for the same decimal when it is blanked. -/
@[simp]
theorem asDecimal?_blank : asDecimal? v.blank = asDecimal? v := by
  cases v with
  | arr items => rw [Json.blank_arr]; rfl
  | _ => rfl

/-- A value stands for the same double when it is blanked. -/
@[simp]
theorem asDouble?_blank : asDouble? v.blank = asDouble? v := by
  cases v with
  | arr items => rw [Json.blank_arr]; rfl
  | _ => rfl

end Value

variable {v : Json} {list : List Json}

/-- A value is a string if its blank is. -/
theorem isSome_asStr?_blank : v.blank.asStr?.isSome = v.asStr?.isSome := by
  cases v with
  | arr items => rw [Json.blank_arr]; rfl
  | _ => rfl

/-- A value stands for some token if its blank does, though not for the same. -/
theorem isSome_tokenOf?_blank {target : String} :
    (tokenOf? target v.blank).isSome = (tokenOf? target v).isSome := by
  cases v with
  | arr items => rw [Json.blank_arr]; rfl
  | _ => rfl

/-- The parameter of a constant is blank where that of its blank is. -/
theorem PrimitiveKind.constant?_blank (kind : PrimitiveKind) (v : Json) :
    (kind.constant? v.blank).map Param.blank = (kind.constant? v).map Param.blank := by
  cases kind with
  | boolean | string =>
    cases v with
    | arr items => rw [Json.blank_arr]; rfl
    | _ => rfl
  | number => rw [constant?, Value.asDouble?_blank, constant?]
  | decimal => rw [constant?, Value.asDecimal?_blank, constant?]
  | date => rw [constant?, Value.asDate?_blank, constant?]
  | stringArray | object | array => rfl

/-- Of as many items something is taken as before if it is taken of the blanks of the same items. -/
theorem length_filterMap_blank {f : Json → Option String}
    (hf : ∀ v : Json, (f v.blank).isSome = (f v).isSome) (list : List Json) :
    ((list.map Json.blank).filterMap f).length = (list.filterMap f).length := by
  simp only [List.length_filterMap_eq_countP, List.countP_map, Function.comp_def, hf]

/-- The tokens for a list are bound as one array, whose texts are emptied with those of the list. -/
theorem tokensParam_blank {target : String} (list : List Json) :
    (tokensParam target (list.map Json.blank)).blank = (tokensParam target list).blank :=
  Param.blank_textArray (length_filterMap_blank (fun _ => isSome_tokenOf?_blank) list)

namespace ArrayElement

/-- An array of constants is blanked with the list that it is made of. -/
theorem param_blank (element : ArrayElement) (list : List Json) :
    (element.param (list.map Json.blank)).blank = (element.param list).blank := by
  cases element with
  | text => exact Param.blank_textArray (length_filterMap_blank (fun _ => isSome_asStr?_blank) list)
  | double => simp only [param, List.filterMap_map, Function.comp_def, Value.asDouble?_blank]

/-- A constant fits an element by its kind. -/
theorem fits_blank (element : ArrayElement) (v : Json) : element.fits v.blank = element.fits v := by
  cases element with
  | text => exact isSome_asStr?_blank
  | double => rw [fits, Value.asDouble?_blank, fits]

end ArrayElement

/-! ## Comparisons -/

namespace Operand

/-- Sides of a comparison with the strings of their parameters emptied. -/
def Sides.blank (s : Sides) : Sides := { s with left := s.left.blank, constant := s.constant.blank }

/-- An operator is set between sides that are blanked each for itself. -/
theorem Sides.apply_blank (s : Sides) (operator : String) :
    (s.apply operator).blank = s.blank.apply operator := by
  simp [apply, blank]

/-- Sides of a comparison with what may be a constant blank as the constants do. -/
theorem Sides.map_blank {sql : Sql} {ordered : Bool} {found found' : Option Param}
    (h : found.map Param.blank = found'.map Param.blank) :
    (found.map fun p => Sides.mk sql p ordered).map blank =
      (found'.map fun p => Sides.mk sql p ordered).map blank := by
  have hsides (found : Option Param) : (found.map fun p => Sides.mk sql p ordered).map blank =
      (found.map Param.blank).map fun p => Sides.mk sql.blank p ordered := by
    rw [Option.map_map, Option.map_map]
    rfl
  rw [hsides, hsides, h]

/-- A document is compared with the blank of a constant as with the constant. -/
theorem jsonSides?_blank (sql : Sql) (v : Json) :
    (jsonSides? sql v.blank).map Sides.blank = (jsonSides? sql v).map Sides.blank := by
  cases v with
  | arr items =>
    have hsides (items : List Json) :
        jsonSides? sql (.arr items) = some ⟨sql, .json (.arr items), false⟩ := rfl
    have hblank := Json.blank_blank (.arr items)
    rw [Json.blank_arr] at hblank ⊢
    simp [hsides, Sides.blank, Param.blank, hblank]
  | _ => rfl

/-- What a constant is compared as with an operand is blank where it is for the blank. -/
theorem sides?_blank (o : Operand) (v : Json) :
    (o.sides? v.blank).map Sides.blank = (o.sides? v).map Sides.blank := by
  obtain ⟨sql, type⟩ := o
  cases type with
  | scalar kind => exact Sides.map_blank (PrimitiveKind.constant?_blank kind v)
  | json => exact jsonSides?_blank sql v
  | array element =>
    cases v with
    | arr items =>
      have hfits : (items.map Json.blank).all element.fits = items.all element.fits := by
        simp only [List.all_map, Function.comp_def, element.fits_blank]
      rw [Json.blank_arr]
      simp only [sides?, hfits]
      split
      next => exact congrArg (fun p => some (Sides.mk sql.blank p false)) (element.param_blank items)
      next => rfl
    | _ => rfl
  | token target =>
    have hsome : (tokenOf? target v.blank).isSome = (tokenOf? target v).isSome :=
      isSome_tokenOf?_blank
    simp only [sides?]
    generalize tokenOf? target v = token at hsome
    generalize tokenOf? target v.blank = token' at hsome
    cases token <;> cases token' <;> first | rfl | cases hsome
  | tokens target =>
    cases v with
    | arr items =>
      have hfits : (items.map Json.blank).all (fun i => (tokenOf? target i).isSome) =
          items.all fun i => (tokenOf? target i).isSome := by
        simp only [List.all_map, Function.comp_def, isSome_tokenOf?_blank]
      rw [Json.blank_arr]
      simp only [sides?, hfits]
      split
      next => exact congrArg (fun p => some (Sides.mk sql.blank p false)) (tokensParam_blank items)
      next => rfl
    | _ => rfl

/-- A comparison with a constant binds the constant's string in one place, and is the same beside it. -/
theorem compareConstant_blank (o : Operand) (op : Comparison) (v : Json) :
    (o.compareConstant op v.blank).blank = (o.compareConstant op v).blank := by
  have hnull : v.blank.isNull = v.isNull := by
    cases v <;> rfl
  have hsides := sides?_blank o v
  unfold compareConstant
  rw [hnull]
  split
  next => rfl
  next =>
    generalize o.sides? v = sides at hsides
    generalize o.sides? v.blank = sides' at hsides
    cases sides <;> cases sides' <;> simp at hsides
    next => rfl
    next s s' =>
      have hordered : s'.ordered = s.ordered := (Sides.mk.inj hsides).2.2
      have happly (operator : String) : (s'.apply operator).blank = (s.apply operator).blank := by
        rw [Sides.apply_blank, Sides.apply_blank, hsides]
      cases op <;> simp only [happly, hordered, Sql.blank_not]
      all_goals split <;> simp only [happly]

/-- A comparison with several constants is blanked with their list. -/
theorem equalsOne_blank (o : Operand) (list : List Json) :
    (o.equalsOne (list.map Json.blank)).blank = (o.equalsOne list).blank := by
  simp [equalsOne, Function.comp_def, compareConstant_blank]

/-! ## Other tests -/

/-- A test of a string binds it, so any two are blanked to the same test. -/
theorem testString_blank (o : Operand) (operator param param' : String) :
    (o.testString operator param).blank = (o.testString operator param').blank := by
  unfold testString
  split <;> simp [Param.blank]

/-- A test of an array binds a list of constants, and is the same but for that list. -/
theorem testArray_blank (sql : Sql) (relation : SetRelation) (complete : Bool) {list list' : Param}
    (h : list.blank = list'.blank) :
    (testArray sql relation complete list).blank = (testArray sql relation complete list').blank := by
  unfold testArray
  split <;> simp [h]

/-- A test of an array in a document binds a list of constants, and is the same but for that list. -/
theorem testJsonArray_blank (sql : Sql) (relation : SetRelation) {list list' : Param}
    (h : list.blank = list'.blank) :
    (testJsonArray sql relation list).blank = (testJsonArray sql relation list').blank := by
  cases relation <;> simp [testJsonArray, h]

/-- A test against a set is blanked with the list that it names. -/
theorem testSet_blank (o : Operand) (relation : SetRelation) (list : List Json) :
    (o.testSet relation (list.map Json.blank)).blank = (o.testSet relation list).blank := by
  obtain ⟨sql, type⟩ := o
  cases type with
  | array element =>
    have hfits : (list.map Json.blank).all element.fits = list.all element.fits := by
      simp only [List.all_map, Function.comp_def, element.fits_blank]
    simp only [testSet, hfits]
    exact testArray_blank sql relation _ (element.param_blank list)
  | tokens target =>
    have hfits : (list.map Json.blank).all (fun v => (tokenOf? target v).isSome) =
        list.all fun v => (tokenOf? target v).isSome := by
      simp only [List.all_map, Function.comp_def, isSome_tokenOf?_blank]
    simp only [testSet, hfits]
    exact testArray_blank sql relation _ (tokensParam_blank list)
  | json =>
    refine testJsonArray_blank sql relation ?_
    rw [← Json.blank_arr, Param.blank, Json.blank_blank, Param.blank]
  | scalar _ | token _ => rfl

/-- A test and its blank give fragments with the same blank, or are refused alike. -/
theorem test_blank (o : Operand) : ∀ t : FieldTest,
    Result.Agree (fun sql sql' : Sql => sql.blank = sql'.blank) (o.test t.blank) (o.test t)
  | .compare op v => .ok (compareConstant_blank o op v)
  | .oneOf list => .ok (equalsOne_blank o list)
  | .noneOf list => .ok (by rw [Sql.blank_not, Sql.blank_not, equalsOne_blank])
  | .subset list => .ok (testSet_blank o .subset list)
  | .superset list => .ok (testSet_blank o .superset list)
  | .intersect list => .ok (testSet_blank o .intersect list)
  | .not t => by
    have h := test_blank o t
    rw [FieldTest.blank, test, test]
    generalize o.test t.blank = result at h
    generalize o.test t = result' at h
    cases h with
    | ok h => exact .ok (by rw [Sql.blank_not, Sql.blank_not, h])
    | error e => exact .error e
  | .pattern source ignoreCase => .ok (testString_blank o _ _ _)
  | .startsWith text => .ok (testString_blank o _ _ _)
  | .endsWith text => .ok (testString_blank o _ _ _)
  | .size _ | .empty _ => .ok rfl
  | .every _ | .any _ => .error _

end Operand

end ObjectQuery
