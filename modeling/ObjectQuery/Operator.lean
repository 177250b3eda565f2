/-!
# Operators

The operators a request can name. Each kind has the key it is written with, and the kind of a key is
found among them.
-/

namespace ObjectQuery

/-- Connectives of filters and expressions. -/
inductive Connective where
  | and
  | or
  | nor
deriving DecidableEq, Inhabited

namespace Connective

def key : Connective → String
  | and => "$and"
  | or => "$or"
  | nor => "$nor"

def ofKey? (key : String) : Option Connective :=
  [and, or, nor].find? (fun c => c.key = key)

/-- The connective whose items may stand directly among this one's. -/
def absorbs : Connective → Connective → Bool
  | and, and => true
  | or, or => true
  | nor, or => true
  | _, _ => false

/-- Joins the truth values of the items. -/
def join : Connective → List Bool → Bool
  | and, bs => bs.all id
  | or, bs => bs.any id
  | nor, bs => !bs.any id

end Connective

/-- Comparisons of two values. -/
inductive Comparison where
  | eq
  | ne
  | gt
  | gte
  | lt
  | lte
deriving DecidableEq, Inhabited

namespace Comparison

def key : Comparison → String
  | eq => "$eq"
  | ne => "$ne"
  | gt => "$gt"
  | gte => "$gte"
  | lt => "$lt"
  | lte => "$lte"

def all : List Comparison := [eq, ne, gt, gte, lt, lte]

def ofKey? (key : String) : Option Comparison :=
  all.find? (fun c => c.key = key)

/-- The operator in SQL. -/
def sql : Comparison → String
  | eq => "="
  | ne => "<>"
  | gt => ">"
  | gte => ">="
  | lt => "<"
  | lte => "<="

/-- The comparison that holds of the swapped operands. -/
def flip : Comparison → Comparison
  | gt => lt
  | gte => lte
  | lt => gt
  | lte => gte
  | c => c

/-- Whether an order comparison holds of an ordering; equality is not decided here. -/
def admits : Comparison → Ordering → Bool
  | gt, o => o == .gt
  | gte, o => o != .lt
  | lt, o => o == .lt
  | lte, o => o != .gt
  | _, _ => false

end Comparison

/-- Distances and products of two vectors. -/
inductive Measure where
  | distance
  | innerProduct
  | negInnerProduct
  | cosineDistance
  | rectilinearDistance
deriving DecidableEq, Inhabited

namespace Measure

def key : Measure → String
  | distance => "$distance"
  | innerProduct => "$innerProduct"
  | negInnerProduct => "$negInnerProduct"
  | cosineDistance => "$cosineDistance"
  | rectilinearDistance => "$rectilinearDistance"

def all : List Measure :=
  [distance, innerProduct, negInnerProduct, cosineDistance, rectilinearDistance]

def ofKey? (key : String) : Option Measure :=
  all.find? (fun m => m.key = key)

end Measure

/-- Aggregates of one input. -/
inductive Aggregate where
  | max
  | min
  | sum
  | avg
  | stdDevPop
  | stdDevSamp
  | varPop
  | varSamp
  | most
deriving DecidableEq, Inhabited

namespace Aggregate

def key : Aggregate → String
  | max => "$max"
  | min => "$min"
  | sum => "$sum"
  | avg => "$avg"
  | stdDevPop => "$stdDevPop"
  | stdDevSamp => "$stdDevSamp"
  | varPop => "$varPop"
  | varSamp => "$varSamp"
  | most => "$most"

def all : List Aggregate :=
  [max, min, sum, avg, stdDevPop, stdDevSamp, varPop, varSamp, most]

def ofKey? (key : String) : Option Aggregate :=
  all.find? (fun a => a.key = key)

/-- The aggregate function in SQL; the most frequent value is an ordered-set aggregate. -/
def sql : Aggregate → String
  | max => "MAX"
  | min => "MIN"
  | sum => "SUM"
  | avg => "AVG"
  | stdDevPop => "STDDEV_POP"
  | stdDevSamp => "STDDEV_SAMP"
  | varPop => "VAR_POP"
  | varSamp => "VAR_SAMP"
  | most => "MODE"

/-- Aggregates that make sense over numbers only. -/
def isNumeric : Aggregate → Bool
  | max | min | most => false
  | _ => true

end Aggregate

/-- Directions of a sort key. -/
inductive Direction where
  | asc
  | desc
deriving DecidableEq, Inhabited

def Direction.sql : Direction → String
  | .asc => "ASC"
  | .desc => "DESC"

/-- Operators of an update document. -/
inductive UpdateOperator where
  | set
  | inc
  | dec
  | mul
  | div
  | max
  | min
  | push
  | addToSet
  | removeAll
  | popFirst
  | popLast
deriving DecidableEq, Inhabited

namespace UpdateOperator

def key : UpdateOperator → String
  | set => "$set"
  | inc => "$inc"
  | dec => "$dec"
  | mul => "$mul"
  | div => "$div"
  | max => "$max"
  | min => "$min"
  | push => "$push"
  | addToSet => "$addToSet"
  | removeAll => "$removeAll"
  | popFirst => "$popFirst"
  | popLast => "$popLast"

def all : List UpdateOperator :=
  [set, inc, dec, mul, div, max, min, push, addToSet, removeAll, popFirst, popLast]

def ofKey? (key : String) : Option UpdateOperator :=
  all.find? (fun o => o.key = key)

/-- The name of an operator in inspection text. -/
def inspect : UpdateOperator → String
  | set => "Set"
  | inc => "Inc"
  | dec => "Dec"
  | mul => "Mul"
  | div => "Div"
  | max => "Max"
  | min => "Min"
  | push => "Push"
  | addToSet => "AddToSet"
  | removeAll => "RemoveAll"
  | popFirst => "PopFirst"
  | popLast => "PopLast"

end UpdateOperator

/-- Actions on a class, each with a permission of its own. -/
inductive ClassAction where
  | get
  | find
  | count
  | create
  | update
  | delete
deriving DecidableEq, Inhabited

def ClassAction.inspect : ClassAction → String
  | .get => "Get"
  | .find => "Find"
  | .count => "Count"
  | .create => "Create"
  | .update => "Update"
  | .delete => "Delete"

/-- Actions on a field. -/
inductive FieldAction where
  | read
  | create
  | update
deriving DecidableEq, Inhabited

def FieldAction.inspect : FieldAction → String
  | .read => "Read"
  | .create => "Create"
  | .update => "Update"

end ObjectQuery
