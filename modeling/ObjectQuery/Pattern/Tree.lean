import ObjectQuery.Pattern.Property

/-!
# The tree of a pattern

A pattern is read into a tree that keeps what was written: which flags stand where, how literals
are spelled, what the classes are made of. `Tree.height` says how deep it nests.
-/

namespace ObjectQuery.Pattern

/-- What a pattern switches on and off. -/
inductive Flag where
  | ignoreCase
  | multiLine
  | dotAll
  | swapGreed
  | unicode
  | crlf
  | verbose
deriving DecidableEq

/-- The flags that a directive or a group sets, each on or off. -/
abbrev FlagChange := List (Flag × Bool)

/-- A character that stands for itself. -/
structure Literal where
  char : Char
  /-- Whether it is written as a byte, in two hexadecimal digits after `\x`. -/
  isByte : Bool
deriving Inhabited

/-- The classes of one letter. -/
inductive Shorthand where
  | digit
  | space
  | word

/-- The operations between the sets of a class. -/
inductive SetOperation where
  | inter
  | diff
  | symmDiff

/-- What is asserted of the place between two characters. -/
inductive Anchor where
  | lineStart
  | lineEnd
  | textStart
  | textEnd
  | boundary
  | notBoundary
  | wordStart
  | wordEnd
  | wordStartHalf
  | wordEndHalf

/-- A class of characters, and what stands between its brackets. -/
inductive ClassTree where
  | literal (l : Literal)
  | range (first last : Literal)
  | ascii (s : CharSet) (negated : Bool)
  | shorthand (s : Shorthand) (negated : Bool)
  | property (p : Property) (negated : Bool)
  | bracketed (body : ClassTree) (negated : Bool)
  | union (items : List ClassTree)
  | operation (op : SetOperation) (left right : ClassTree)
deriving Inhabited

/-- A pattern as it is written. -/
inductive Tree where
  | empty
  | directive (change : FlagChange)
  | literal (l : Literal)
  | dot
  | anchor (a : Anchor)
  /-- One character of a class. -/
  | set (c : ClassTree)
  /-- At least `least` and at most `most` repetitions. -/
  | loop (body : Tree) (least : Nat) (most : Option Nat) (lazy : Bool)
  | group (change : FlagChange) (captures : Bool) (body : Tree)
  | seq (parts : List Tree)
  | alt (branches : List Tree)
deriving Inhabited

namespace ClassTree

/-- The items of a class; one alone is no union. -/
def ofItems : List ClassTree → ClassTree
  | [item] => item
  | items => union items

mutual

/-- How deep brackets, unions and operations nest. -/
def height : ClassTree → Nat
  | bracketed body _ => body.height + 1
  | union [] => 0
  | union (item :: items) => heights item.height items + 1
  | operation _ left right => max left.height right.height + 1
  | _ => 0

/-- The greatest height of some trees and a height found before. -/
def heights (found : Nat) : List ClassTree → Nat
  | [] => found
  | t :: ts => heights (max found t.height) ts

end

end ClassTree

namespace Tree

/-- The items of a sequence; one alone is no sequence. -/
def ofParts : List Tree → Tree
  | [] => empty
  | [part] => part
  | parts => seq parts

/-- Alternatives; one alone is none. -/
def ofBranches : List Tree → Tree
  | [branch] => branch
  | branches => alt branches

mutual

/-- How deep groups, repetitions, classes, sequences and alternatives nest. -/
def height : Tree → Nat
  | set c => c.height
  | loop body _ _ _ => body.height + 1
  | group _ _ body => body.height + 1
  | seq parts => heights 0 parts + 1
  | alt branches => heights 0 branches + 1
  | _ => 0

/-- The greatest height of some trees and a height found before. -/
def heights (found : Nat) : List Tree → Nat
  | [] => found
  | t :: ts => heights (max found t.height) ts

end

/-- The greatest height of a pattern. -/
def maxHeight : Nat := 250

end Tree

end ObjectQuery.Pattern
