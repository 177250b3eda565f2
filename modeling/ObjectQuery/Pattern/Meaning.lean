import ObjectQuery.Pattern.Simple
import ObjectQuery.Pattern.Tree

/-!
# The meaning of a tree

A tree means a pattern under flags. A directive changes the flags for what follows it to the end of
its group, a group for what stands in it. Where case is ignored, a set takes in the other cases of
its characters before it is negated. Where Unicode is off, classes hold ASCII characters alone, and
what could match a part of another character is refused.
-/

namespace ObjectQuery.Pattern

/-- The flags in force. -/
structure Flags where
  ignoreCase : Bool
  multiLine : Bool
  dotAll : Bool
  swapGreed : Bool
  unicode : Bool
  crlf : Bool
deriving DecidableEq, Inhabited

namespace Flags

/-- The flags that a pattern begins with. -/
def initial (ignoreCase : Bool) : Flags := ⟨ignoreCase, false, false, false, true, false⟩

/-- Sets one flag; verbose mode matters to the reader alone. -/
def set (flags : Flags) : Flag × Bool → Flags
  | (.ignoreCase, on) => { flags with ignoreCase := on }
  | (.multiLine, on) => { flags with multiLine := on }
  | (.dotAll, on) => { flags with dotAll := on }
  | (.swapGreed, on) => { flags with swapGreed := on }
  | (.unicode, on) => { flags with unicode := on }
  | (.crlf, on) => { flags with crlf := on }
  | (.verbose, _) => flags

/-- Sets all flags of a change. -/
def apply (flags : Flags) (change : FlagChange) : Flags := change.foldl set flags

def alphabet (flags : Flags) : Alphabet := if flags.unicode then .unicode else .ascii

/-- Widens a set to other cases where case is ignored. -/
def fold (flags : Flags) (s : CharSet) : CharSet :=
  if flags.ignoreCase then (if flags.unicode then s.foldCase else s.foldCaseAscii) else s

/-- Negates a set; outside Unicode its complement would hold parts of characters. -/
def negate? (flags : Flags) (negated : Bool) (s : CharSet) : Option CharSet :=
  if negated then (if flags.unicode then some s.compl else none) else some s

/-- Whether a literal may stand where it is: outside Unicode a byte has to be a character. -/
def allows (flags : Flags) (l : Literal) : Bool :=
  flags.unicode || !l.isByte || l.char.toNat < 128

/-- The code point of a literal of a class, which outside Unicode is one of ASCII. -/
def codePoint? (flags : Flags) (l : Literal) : Option Nat :=
  if flags.unicode || l.char.toNat < 128 then some l.char.toNat else none

end Flags

/-! ## Classes -/

/-- The characters of a class of one letter. -/
def Shorthand.set (s : Shorthand) : Alphabet → CharSet
  | .unicode =>
    match s with
    | digit => Character.Category.nd
    | space => Character.Trait.whiteSpace
    | word => Alphabet.unicode.word
  | .ascii =>
    match s with
    | digit => .ofText "30-39"
    | space => .ofText "9-d 20"
    | word => Alphabet.ascii.word

/-- What an operation makes of two sets. -/
def SetOperation.apply (op : SetOperation) (s t : CharSet) : CharSet :=
  match op with
  | inter => s ∩ t
  | diff => s \ t
  | symmDiff => s.symmDiff t

namespace ClassTree

mutual

/-- The characters of a class, if its properties exist. -/
def set? (flags : Flags) : ClassTree → Option CharSet
  | literal l => (flags.codePoint? l).map fun n => .range n n
  | range first last =>
    match flags.codePoint? first, flags.codePoint? last with
    | some m, some n => some (.range m n)
    | _, _ => none
  | ascii s negated => flags.negate? negated (flags.fold s)
  | shorthand s negated => flags.negate? negated (s.set flags.alphabet)
  | property p negated =>
    if flags.unicode then p.set?.bind fun s => flags.negate? negated (flags.fold s) else none
  | bracketed body negated =>
    match ranges? flags [] body with
    | some s => flags.negate? negated (flags.fold (.ofRanges s))
    | none => none
  | union items => (unions? flags [] items).map .ofRanges
  | operation op left right =>
    match ranges? flags [] left, ranges? flags [] right with
    | some s, some t => some (op.apply (flags.fold (.ofRanges s)) (flags.fold (.ofRanges t)))
    | _, _ => none

/-- Ranges found before and those of a class. -/
def ranges? (flags : Flags) (found : Text.CodeRanges) (c : ClassTree) : Option Text.CodeRanges :=
  match c.set? flags with
  | some s => some (s.ranges ++ found)
  | none => none

/-- Ranges found before and those of some classes. -/
def unions? (flags : Flags) (found : Text.CodeRanges) : List ClassTree → Option Text.CodeRanges
  | [] => some found
  | c :: cs =>
    match c.set? flags with
    | some s => unions? flags (s.ranges ++ found) cs
    | none => none

end

end ClassTree

/-! ## Patterns -/

/-- A literal, with its other cases where case is ignored. -/
def Literal.pattern? (l : Literal) (flags : Flags) : Option Pattern :=
  if flags.allows l then some (.ofSet flags.alphabet (flags.fold (.single l.char))) else none

/-- Any character but the end of a line, unless the flags say any at all. -/
def anyChar? (flags : Flags) : Option Pattern :=
  if !flags.unicode then none
  else if flags.dotAll then some (.ofSet .unicode .any)
  else if flags.crlf then some (.ofSet .unicode (CharSet.ofText "a d").compl)
  else some (.ofSet .unicode (CharSet.single '\n').compl)

/-- What an anchor asserts under the flags. -/
def Anchor.assertion (flags : Flags) : Anchor → Assertion
  | lineStart => if flags.multiLine then .lineStart flags.crlf else .textStart
  | lineEnd => if flags.multiLine then .lineEnd flags.crlf else .textEnd
  | textStart => .textStart
  | textEnd => .textEnd
  | boundary => .boundary flags.alphabet
  | notBoundary => .notBoundary flags.alphabet
  | wordStart => .wordStart flags.alphabet
  | wordEnd => .wordEnd flags.alphabet
  | wordStartHalf => .wordStartHalf flags.alphabet
  | wordEndHalf => .wordEndHalf flags.alphabet

namespace Tree

mutual

/-- The pattern that a tree means, and the flags in force after it. -/
def meaning? : Tree → Flags → Option (Pattern × Flags)
  | empty, flags => some (.empty, flags)
  | directive change, flags => some (.empty, flags.apply change)
  | literal l, flags => (l.pattern? flags).map (·, flags)
  | dot, flags => (anyChar? flags).map (·, flags)
  | anchor a, flags => some (.assertion (a.assertion flags), flags)
  | set c, flags => (c.set? flags).map fun s => (.ofSet flags.alphabet s, flags)
  | loop body least most lazy, flags =>
    match body.meaning? flags with
    | some (p, flags) => some (p.repeated least most (lazy == flags.swapGreed), flags)
    | none => none
  | group change captures body, flags =>
    match body.meaning? (flags.apply change) with
    | some (p, _) => some (if captures then .group p else p, flags)
    | none => none
  | seq parts, flags =>
    match meanings? [] parts flags with
    | some (ps, flags) => some (.ofParts ps.reverse, flags)
    | none => none
  | alt branches, flags =>
    match meanings? [] branches flags with
    | some (ps, flags) => some (.ofBranches ps.reverse, flags)
    | none => none

/-- The patterns that trees mean in turn, the last one first, before those found already. -/
def meanings? (found : List Pattern) : List Tree → Flags → Option (List Pattern × Flags)
  | [], flags => some (found, flags)
  | t :: ts, flags =>
    match t.meaning? flags with
    | some (p, flags) => meanings? (p :: found) ts flags
    | none => none

end

end Tree

end ObjectQuery.Pattern
