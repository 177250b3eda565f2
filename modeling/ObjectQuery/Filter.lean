import ObjectQuery.Expr
import ObjectQuery.Pattern.Source

/-!
# Filters

A filter accepts or rejects objects. It joins other filters by a connective, tests the value at a
path, or asks an expression for a truth value. A field's test may in turn hold a filter for the
elements of an array; there the key `$` stands for the element itself.

In a request a filter is an object whose members are joined by a conjunction, as are the filters of
a list.
-/

namespace ObjectQuery

mutual

/-- A test of one value. -/
inductive FieldTest where
  | compare (op : Comparison) (operand : Json)
  | oneOf (list : List Json)
  | noneOf (list : List Json)
  | subset (list : List Json)
  | superset (list : List Json)
  | intersect (list : List Json)
  | not (test : FieldTest)
  | pattern (source : String) (ignoreCase : Bool)
  | startsWith (opening : String)
  | endsWith (ending : String)
  | size (count : Nat)
  | empty (expected : Bool)
  /-- Every element of an array is accepted, and null has none. -/
  | every (filter : Filter)
  /-- Some element of an array is accepted. -/
  | any (filter : Filter)

/-- A condition on objects. -/
inductive Filter where
  | connective (op : Connective) (items : List Filter)
  | field (path : String) (test : FieldTest)
  | expr (e : Expr)

end

deriving instance Inhabited for FieldTest
deriving instance Inhabited for Filter
deriving instance BEq for FieldTest, Filter

namespace Filter

/-- The key of the element itself, inside a filter for elements. -/
def selfKey : String := "$"

/-- The filter that accepts every object. -/
def truth : Filter := .connective .and []

/-- Whether a filter is the one that accepts every object by its form. -/
def isTruth : Filter → Bool
  | .connective .and [] => true
  | _ => false

end Filter

/-! ## Reading -/

/-- Whether a value is written with an operator: an object with such a key that is no envelope. -/
def FieldTest.isOperator (raw : Json) : Bool :=
  match raw with
  | .obj members => !Value.isTagged raw && members.any (fun m => Text.opensWith m.1 "$")
  | _ => false

/-- The source and case of a pattern's operand. -/
def FieldTest.patternOperand (name : String) : Json → Result (String × Bool)
  | .str source => .ok (source, false)
  | .obj members =>
    match (Json.member? members "source").bind Json.asStr? with
    | none => .error (Expr.complaint name .missingSource)
    | some source =>
      let flags := ((Json.member? members "flags").bind Json.asStr?).getD ""
      if flags.toList.any (· != 'i') then .error (Expr.complaint name .flags)
      else .ok (source, !flags.isEmpty)
  | _ => .error (Expr.complaint name .pattern)

/-- Reads a pattern; its source has to be well formed. -/
def FieldTest.decodePattern (name : String) (operand : Json) : Result FieldTest :=
  match patternOperand name operand with
  | .error e => .error e
  | .ok (source, ignoreCase) =>
    if (Pattern.ofText? source ignoreCase).isSome then .ok (.pattern source ignoreCase)
    else .error (Expr.complaint name .badPattern)

/-- Reads a list operand. -/
def FieldTest.decodeList (name : String) (build : List Json → FieldTest) : Json → Result FieldTest
  | .arr items => .ok (build items)
  | _ => .error (Expr.complaint name .array)

/-- Reads a string operand. -/
def FieldTest.decodeString (name : String) (build : String → FieldTest) : Json → Result FieldTest
  | .str text => .ok (build text)
  | _ => .error (Expr.complaint name .string)

mutual

/-- Reads the test of a field; what is written without operator is a value to equal. -/
def FieldTest.decode : Json → Result FieldTest
  | .obj [member] =>
    if FieldTest.isOperator (.obj [member]) then FieldTest.decodeOperator member
    else .ok (.compare .eq (.obj [member]))
  | .obj members =>
    if FieldTest.isOperator (.obj members) then
      .error (.expression (.operatorCount "field expression" members.length))
    else .ok (.compare .eq (.obj members))
  | raw => .ok (.compare .eq raw)

/-- Reads a test from its operator and operand. -/
def FieldTest.decodeOperator : String × Json → Result FieldTest
  | (name, operand) =>
    if let some op := Comparison.ofKey? name then .ok (.compare op operand)
    else if name = "$in" then FieldTest.decodeList name .oneOf operand
    else if name = "$nin" then FieldTest.decodeList name .noneOf operand
    else if name = "$subset" then FieldTest.decodeList name .subset operand
    else if name = "$superset" then FieldTest.decodeList name .superset operand
    else if name = "$intersect" then FieldTest.decodeList name .intersect operand
    else if name = "$not" then (FieldTest.decode operand).map .not
    else if name = "$pattern" then FieldTest.decodePattern name operand
    else if name = "$starts" then FieldTest.decodeString name .startsWith operand
    else if name = "$ends" then FieldTest.decodeString name .endsWith operand
    else if name = "$size" then
      match operand.asNat64? with
      | some n => .ok (.size n)
      | none => .error (Expr.complaint name .count)
    else if name = "$empty" then
      match operand.asBool? with
      | some b => .ok (.empty b)
      | none => .error (Expr.complaint name .boolean)
    else if name = "$every" then (Filter.decode true operand).map .every
    else if name = "$some" then (Filter.decode true operand).map .any
    else .error (Expr.complaint name .unknown)

/-- Reads a filter; `allowSelf` admits the key of the element itself. -/
def Filter.decode (allowSelf : Bool) : Json → Result Filter
  | .arr items => (Filter.decodeItems allowSelf items).map (.connective .and)
  | .obj members =>
    match Filter.decodeMembers allowSelf members with
    | .error e => .error e
    | .ok [part] => .ok part
    | .ok parts => .ok (.connective .and parts)
  | _ => .error (.expression .filterShape)

def Filter.decodeItems (allowSelf : Bool) : List Json → Result (List Filter)
  | [] => .ok []
  | x :: xs =>
    match Filter.decode allowSelf x with
    | .ok f => (Filter.decodeItems allowSelf xs).map (f :: ·)
    | .error e => .error e

def Filter.decodeMembers (allowSelf : Bool) : List (String × Json) → Result (List Filter)
  | [] => .ok []
  | member :: rest =>
    match Filter.decodeMember allowSelf member with
    | .ok f => (Filter.decodeMembers allowSelf rest).map (f :: ·)
    | .error e => .error e

/-- Reads the items of a connective; only a conjunction may have none. -/
def Filter.decodeConnective (allowSelf : Bool) (name : String) (op : Connective) :
    Json → Result Filter
  | .arr items =>
    if items.isEmpty && op != .and then .error (Expr.complaint name .nonEmptyArray)
    else (Filter.decodeItems allowSelf items).map (.connective op)
  | _ => .error (Expr.complaint name .array)

/-- Reads one member of a filter. -/
def Filter.decodeMember (allowSelf : Bool) : String × Json → Result Filter
  | (name, operand) =>
    if let some op := Connective.ofKey? name then Filter.decodeConnective allowSelf name op operand
    else if name = "$expr" then
      match Expr.decode operand with
      | .error e => .error e
      | .ok e => if e.isBoolean then .ok (.expr e) else .error (Expr.complaint name .booleanExpression)
    else if name = Filter.selfKey && allowSelf then (FieldTest.decode operand).map (.field name)
    else if name.isEmpty || Text.opensWith name "$" then .error (Expr.complaint name .unknown)
    else (FieldTest.decode operand).map (.field name)

end

/-! ## Simplification -/

namespace Filter

/-- Puts the items of absorbed connectives in place of them. -/
def splice (op : Connective) (items : List Filter) : List Filter :=
  items.flatMap fun
    | .connective child nested => if op.absorbs child then nested else [.connective child nested]
    | f => [f]

/-- A connective over simplified items: of none it accepts everything, of one it is that item. -/
def connect (op : Connective) (items : List Filter) : Filter :=
  if op == .or && items.any isTruth then truth
  else
    match op, splice op items with
    | _, [] => truth
    | .and, [f] => f
    | .or, [f] => f
    | op, items => .connective op items

end Filter

/-- A negated test; two negations cancel. -/
def FieldTest.negate : FieldTest → FieldTest
  | .not t => t
  | t => .not t

mutual

/-- Cancels double negations and simplifies filters for elements. -/
def FieldTest.simplify : FieldTest → FieldTest
  | .not t => FieldTest.negate t.simplify
  | .every f => .every f.simplify
  | .any f => .any f.simplify
  | .compare op operand => .compare op operand
  | .oneOf list => .oneOf list
  | .noneOf list => .noneOf list
  | .subset list => .subset list
  | .superset list => .superset list
  | .intersect list => .intersect list
  | .pattern source ignoreCase => .pattern source ignoreCase
  | .startsWith opening => .startsWith opening
  | .endsWith ending => .endsWith ending
  | .size count => .size count
  | .empty expected => .empty expected

/-- Flattens connectives and cancels double negations, throughout. -/
def Filter.simplify : Filter → Filter
  | .connective op items => Filter.connect op (Filter.simplifyItems items)
  | .field path test => .field path test.simplify
  | .expr e => .expr e.simplify

def Filter.simplifyItems : List Filter → List Filter
  | [] => []
  | f :: fs => f.simplify :: Filter.simplifyItems fs

end

namespace Filter

/-- The simplified conjunction of filters. -/
def all (items : List Filter) : Filter := simplify (.connective .and items)

end Filter

/-! ## Keys -/

/-- The filter for elements in a test, looked for through negations. -/
def FieldTest.elementFilter? : FieldTest → Option Filter
  | .every f => some f
  | .any f => some f
  | .not t => t.elementFilter?
  | _ => none

/-- A key of a filter for elements, seen from the object that owns them. -/
def Filter.fromOwner (owner key : String) : String :=
  if key = Filter.selfKey then owner
  else if Text.opensWith key "$." then owner ++ "." ++ String.ofList (key.toList.drop 2)
  else owner ++ "." ++ key

mutual

/-- Every key with a rewriting of the keys of this scope, in the order written. -/
def Filter.keysBy (f : String → String) : Filter → List String
  | .connective _ items => Filter.itemKeysBy f items
  | .field path test => f path :: FieldTest.keysBy (f path) test
  | .expr e => e.keys.map f

def Filter.itemKeysBy (f : String → String) : List Filter → List String
  | [] => []
  | x :: xs => Filter.keysBy f x ++ Filter.itemKeysBy f xs

/-- The keys of the filter for elements, prefixed with the field that owns them. -/
def FieldTest.keysBy (owner : String) : FieldTest → List String
  | .every f => Filter.keysBy (Filter.fromOwner owner) f
  | .any f => Filter.keysBy (Filter.fromOwner owner) f
  | .not t => FieldTest.keysBy owner t
  | _ => []

end

namespace Filter

/--
The paths a filter reads, each once, in the order of their first occurrence. The paths of a filter
for elements follow the field that owns them; the key of the element itself is no path.
-/
def keyPaths (filter : Filter) : List String :=
  ((filter.keysBy id).filter (· ≠ selfKey)).eraseDups

mutual

/-- Rewrites every key of this scope; filters for elements keep theirs. -/
def mapKey (f : String → String) : Filter → Filter
  | .connective op items => .connective op (mapItemKeys f items)
  | .field path test => .field (f path) test
  | .expr e => .expr (e.mapKey f)

def mapItemKeys (f : String → String) : List Filter → List Filter
  | [] => []
  | x :: xs => mapKey f x :: mapItemKeys f xs

end

end Filter

/-! ## Evaluation -/

/-- The number of characters or items a value counts. -/
def FieldTest.sizeOf? : Json → Option Nat
  | .str s => some s.length
  | .arr items => some items.length
  | _ => none

/-- Null and every container or string without content. -/
def FieldTest.isEmptyValue : Json → Bool
  | .null => true
  | .str s => s.isEmpty
  | .arr items => items.isEmpty
  | .obj members => members.isEmpty
  | _ => false

mutual

/-- Whether a value passes a test. -/
def FieldTest.eval : FieldTest → Json → Bool
  | .compare op operand, v => Value.compares op v operand
  | .oneOf list, v => Value.holds list v
  | .noneOf list, v => !Value.holds list v
  | .subset list, v => (v.asItems?).any fun items => items.all (Value.holds list)
  | .superset list, v =>
    (v.asItems?).any fun items => list.all fun x => items.any fun i => Value.equals i x
  | .intersect list, v => (v.asItems?).any fun items => items.any (Value.holds list)
  | .not t, v => !t.eval v
  | .pattern source ignoreCase, v =>
    (v.asStr?).any (Pattern.sourceMatches source ignoreCase)
  | .startsWith opening, v => (v.asStr?).any (Text.opensWith · opening)
  | .endsWith ending, v => (v.asStr?).any (Text.closesWith · ending)
  | .size count, v => FieldTest.sizeOf? v == some count
  | .empty expected, v => FieldTest.isEmptyValue v == expected
  | .every f, v =>
    match v with
    | .null => true
    | .arr items => items.all (fun i => f.eval i)
    | _ => false
  | .any f, v =>
    match v with
    | .arr items => items.any (fun i => f.eval i)
    | _ => false

/-- Whether a filter accepts an object. -/
def Filter.eval : Filter → Json → Bool
  | .connective op items, object => op.join (Filter.evalItems items object)
  | .field path test, object =>
    test.eval (if path = Filter.selfKey then object else Value.getPath object path)
  | .expr e, object => Value.truthy (e.eval object)

def Filter.evalItems : List Filter → Json → List Bool
  | [], _ => []
  | f :: fs, object => f.eval object :: Filter.evalItems fs object

end

/-! ## Filters that target one object -/

/-- The one id a test of `_id` admits. -/
def FieldTest.idLiteral? : FieldTest → Option String
  | .compare .eq (.str id) => some id
  | .oneOf (.str id :: rest) => if rest.all (fun v => v.asStr? == some id) then some id else none
  | _ => none

mutual

/-- The id a filter targets, when it is nothing but an equality of `_id`. -/
def Filter.targetId? : Filter → Option String
  | .field path test => if path = "_id" then test.idLiteral? else none
  | .connective .and items => Filter.commonTarget? items
  | _ => none

/-- The id that all of some filters target. -/
def Filter.commonTarget? : List Filter → Option String
  | [] => none
  | [f] => f.targetId?
  | f :: rest =>
    match f.targetId?, Filter.commonTarget? rest with
    | some a, some b => if a = b then some a else none
    | _, _ => none

end

end ObjectQuery
