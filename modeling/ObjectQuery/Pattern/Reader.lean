import ObjectQuery.Numeral.Unsigned
import ObjectQuery.Pattern.Tree

/-!
# Reading patterns

A pattern has literals, `.`, classes with ranges, nesting and set operations, the classes `\d`,
`\s`, `\w` and `\p`, groups with names and flags, greedy and lazy repetitions, and assertions. There
is neither look-around nor back-reference. In verbose mode blanks and comments count for nothing
almost everywhere.

Every reader returns what it read and the characters that are left. The fuel is the length of the
pattern, which bounds all loops since each round consumes a character.
-/

namespace ObjectQuery.Pattern

open Text

/-! ## Filler and characters -/

/-- Drops blanks and comments; a comment ends with its line. -/
def dropFiller (inComment : Bool) : List Char → List Char
  | [] => []
  | c :: rest =>
    if inComment then dropFiller (c != '\n') rest
    else if isBlank c then dropFiller false rest
    else if c = '#' then dropFiller true rest
    else c :: rest

/-- Drops in verbose mode what counts for nothing. -/
def skip (verbose : Bool) (cs : List Char) : List Char :=
  if verbose then dropFiller false cs else cs

/-- The first character that is neither blank nor the first sign of a comment. -/
def firstBeyond (seen : Bool) : List Char → Option Char
  | [] => none
  | c :: rest =>
    if isBlank c then firstBeyond seen rest
    else if !seen && c == '#' then firstBeyond true rest
    else some c

/-- The character that decides whether a hyphen before it opens a range. -/
def decisive? (verbose : Bool) (cs : List Char) : Option Char :=
  if verbose then (firstBeyond false cs).or cs.head? else cs.head?

/-- The characters up to a closing one, without filler. -/
def upTo (verbose : Bool) (closing : Char) : Nat → List Char → Option (List Char × List Char)
  | 0, _ => none
  | fuel + 1, cs =>
    match skip verbose cs with
    | [] => none
    | c :: rest =>
      if c = closing then some ([], rest)
      else (upTo verbose closing fuel rest).map fun (name, rest) => (c :: name, rest)

/-- Characters with a meaning of their own, which an escape takes away. -/
def isMeta (c : Char) : Bool := "\\.+*?()|[]\x7b\x7d^$#&-~".toList.contains c

/-- Characters that may be escaped, with need or without. -/
def isEscapable (c : Char) : Bool :=
  isMeta c || (c.toNat < 128 && !c.isAlphanum && c != '<' && c != '>')

def hexValue? (c : Char) : Option Nat :=
  if c.isDigit then some (c.toNat - '0'.toNat)
  else if 'a' ≤ c ∧ c ≤ 'f' then some (c.toNat - 'a'.toNat + 10)
  else if 'A' ≤ c ∧ c ≤ 'F' then some (c.toNat - 'A'.toNat + 10)
  else none

/-- The character with a code point, if there is one. -/
def charOf? (n : Nat) : Option Char :=
  if h : n.isValidChar then some (Char.ofNatAux n h) else none

/-- The character whose code point hexadecimal digits write. -/
def charOfHex? (ds : List Char) : Option Char :=
  if ds.isEmpty then none
  else (ds.foldl (fun n c => n.bind fun n => (hexValue? c).map (n * 16 + ·)) (some 0)).bind charOf?

/-- A fixed number of hexadecimal digits. -/
def readHexDigits (verbose : Bool) : Nat → List Char → Option (List Char × List Char)
  | 0, cs => some ([], cs)
  | n + 1, cs =>
    match skip verbose cs with
    | c :: rest => (readHexDigits verbose n rest).map fun (ds, rest) => (c :: ds, rest)
    | [] => none

/-- A code point in hexadecimal: in braces, or with a fixed number of digits. -/
def readHex (verbose : Bool) (digits : Nat) (cs : List Char) : Option (Literal × List Char) :=
  match skip verbose cs with
  | '\x7b' :: rest => do
    let (ds, rest) ← upTo verbose '\x7d' (rest.length + 1) rest
    let c ← charOfHex? ds
    some (⟨c, false⟩, rest)
  | cs => do
    let (ds, rest) ← readHexDigits verbose digits cs
    let c ← charOfHex? ds
    some (⟨c, digits == 2⟩, rest)

/-! ## Escapes -/

/-- What an escape or a plain character stands for. -/
inductive Primitive where
  | literal (l : Literal)
  | set (c : ClassTree)
  | anchor (a : Anchor)

/-- What stands before and after the first place where a text holds two characters in a row. -/
def cutAt? (first second : Char) : List Char → Option (List Char × List Char)
  | c :: d :: rest =>
    if c = first ∧ d = second then some ([], rest)
    else (cutAt? first second (d :: rest)).map fun (before, after) => (c :: before, after)
  | _ => none

/-- What stands before and after the first occurrence of a character. -/
def cutBy? (sep : Char) : List Char → Option (List Char × List Char)
  | [] => none
  | c :: rest =>
    if c = sep then some ([], rest)
    else (cutBy? sep rest).map fun (before, after) => (c :: before, after)

/-- The property that a name in braces denotes, and whether `!=` negates it. -/
def propertyOf (name : List Char) : Property × Bool :=
  match cutAt? '!' '=' name with
  | some (property, value) => (.valued property value, true)
  | none =>
    match (cutBy? ':' name).or (cutBy? '=' name) with
    | some (property, value) => (.valued property value, false)
    | none => (.plain name, false)

/-- A property after its letter: one letter more, or a name in braces. -/
def readProperty (verbose negated : Bool) (cs : List Char) : Option (Primitive × List Char) :=
  match skip verbose cs with
  | '\x7b' :: rest =>
    (upTo verbose '\x7d' (rest.length + 1) rest).map fun (name, rest) =>
      let (property, unequal) := propertyOf name
      (.set (.property property (negated != unequal)), rest)
  | c :: rest => if c = '\\' then none else some (.set (.property (.plain [c]) negated), rest)
  | [] => none

/-- The word boundaries that have names. -/
def boundaryNamed? (name : List Char) : Option Anchor :=
  match String.ofList name with
  | "start" => some .wordStart
  | "end" => some .wordEnd
  | "start-half" => some .wordStartHalf
  | "end-half" => some .wordEndHalf
  | _ => none

/-- A word boundary that names its side in braces, or a plain one where braces count. -/
def readBoundary (verbose : Bool) (cs : List Char) : Option (Primitive × List Char) :=
  match cs with
  | '\x7b' :: rest =>
    match skip verbose rest with
    | [] => none
    | c :: _ =>
      if c.isAlpha || c == '-' then do
        let (name, rest) ← upTo verbose '\x7d' (rest.length + 1) rest
        let a ← boundaryNamed? name
        some (.anchor a, rest)
      else some (.anchor .boundary, cs)
  | cs => some (.anchor .boundary, cs)

/-- Reads what follows a backslash. -/
def readEscape (verbose : Bool) (cs : List Char) : Option (Primitive × List Char) :=
  match cs with
  | [] => none
  | c :: rest =>
    let literal (c : Char) : Option (Primitive × List Char) := some (.literal ⟨c, false⟩, rest)
    let hex (digits : Nat) : Option (Primitive × List Char) :=
      (readHex verbose digits rest).map fun (l, rest) => (.literal l, rest)
    match c with
    | 'x' => hex 2
    | 'u' => hex 4
    | 'U' => hex 8
    | 'p' => readProperty verbose false rest
    | 'P' => readProperty verbose true rest
    | 'd' => some (.set (.shorthand .digit false), rest)
    | 'D' => some (.set (.shorthand .digit true), rest)
    | 's' => some (.set (.shorthand .space false), rest)
    | 'S' => some (.set (.shorthand .space true), rest)
    | 'w' => some (.set (.shorthand .word false), rest)
    | 'W' => some (.set (.shorthand .word true), rest)
    | 'a' => literal '\x07'
    | 'f' => literal '\x0c'
    | 't' => literal '\t'
    | 'n' => literal '\n'
    | 'r' => literal '\r'
    | 'v' => literal '\x0b'
    | 'A' => some (.anchor .textStart, rest)
    | 'z' => some (.anchor .textEnd, rest)
    | 'b' => readBoundary verbose rest
    | 'B' => some (.anchor .notBoundary, rest)
    | '<' => some (.anchor .wordStart, rest)
    | '>' => some (.anchor .wordEnd, rest)
    | c => if isEscapable c then literal c else none

/-! ## Classes in brackets -/

/-- The classes of ASCII characters by their names. -/
def asciiClasses : List (String × CharSet) := [
  ("alnum", .ofText "30-39 41-5a 61-7a"), ("alpha", .ofText "41-5a 61-7a"), ("ascii", .ascii),
  ("blank", .ofText "9 20"), ("cntrl", .ofText "0-1f 7f"), ("digit", .ofText "30-39"),
  ("graph", .ofText "21-7e"), ("lower", .ofText "61-7a"), ("print", .ofText "20-7e"),
  ("punct", .ofText "21-2f 3a-40 5b-60 7b-7e"), ("space", .ofText "9-d 20"),
  ("upper", .ofText "41-5a"), ("word", .ofText "30-39 41-5a 5f 61-7a"),
  ("xdigit", .ofText "30-39 41-46 61-66")]

/-- Reads a named class after its bracket and colon; what is no such class is a nested one. -/
def readAsciiClass (cs : List Char) : Option (ClassTree × List Char) :=
  let (negated, cs) := match cs with
    | '^' :: rest => (true, rest)
    | cs => (false, cs)
  let name := cs.takeWhile (· ≠ ':')
  match cs.drop name.length with
  | ':' :: ']' :: rest =>
    (asciiClasses.lookup (String.ofList name)).map fun s => (.ascii s negated, rest)
  | _ => none

/-- The left operand of an operation that waits for its right one. -/
abbrev Pending := Option (SetOperation × ClassTree)

/-- Completes a waiting operation, unless the class nests too deep with it. -/
def Pending.apply (pending : Pending) (right : ClassTree) : Option ClassTree :=
  match pending with
  | none => some right
  | some (op, left) =>
    let t := ClassTree.operation op left right
    if t.height ≤ Tree.maxHeight then some t else none

/-- Reads one character or escape of a class. -/
def readClassItem (verbose : Bool) (cs : List Char) : Option (Primitive × List Char) :=
  match cs with
  | '\\' :: rest => readEscape verbose rest
  | c :: rest => some (.literal ⟨c, false⟩, rest)
  | [] => none

/-- The tree of one item; assertions have no place in a class. -/
def Primitive.classTree? : Primitive → Option ClassTree
  | literal l => some (.literal l)
  | set c => some c
  | anchor _ => none

/-- Reads a range, or a single item. -/
def readClassRange (verbose : Bool) (cs : List Char) : Option (ClassTree × List Char) :=
  match readClassItem verbose cs with
  | none => none
  | some (first, rest) =>
    let rest := skip verbose rest
    let alone : Option (ClassTree × List Char) := first.classTree?.map (·, rest)
    match rest with
    | [] => none
    | '-' :: after =>
      if decisive? verbose after = some ']' ∨ decisive? verbose after = some '-' then alone
      else
        match first, readClassItem verbose (skip verbose after) with
        | .literal a, some (.literal b, rest) =>
          if a.char ≤ b.char then some (.range a b, rest) else none
        | _, _ => none
    | _ => alone

/-- Literal hyphens, and a bracket that closes nothing, at the opening of a class. -/
def readClassOpening (verbose : Bool) : Nat → List ClassTree → List Char →
    Option (List ClassTree × List Char)
  | 0, _, _ => none
  | fuel + 1, items, cs =>
    match skip verbose cs with
    | [] => none
    | '-' :: rest => readClassOpening verbose fuel (.literal ⟨'-', false⟩ :: items) rest
    | ']' :: rest =>
      if items.isEmpty then some ([.literal ⟨']', false⟩], rest) else some (items, ']' :: rest)
    | cs => some (items, cs)

mutual

/-- Reads a class after its bracket, at a depth of open brackets. -/
def readClass (verbose : Bool) (depth : Nat) : Nat → List Char → Option (ClassTree × List Char)
  | 0, _ => none
  | fuel + 1, cs =>
    if Tree.maxHeight < depth then none
    else
      let (negated, cs) := match skip verbose cs with
        | '^' :: rest => (true, rest)
        | cs => (false, cs)
      match readClassOpening verbose (fuel + 1) [] cs with
      | none => none
      | some (items, cs) =>
        match readClassBody verbose depth fuel none items cs with
        | none => none
        | some (body, rest) => some (.bracketed body negated, rest)

/-- Reads the items of a class up to its bracket; they are kept with the last one first. -/
def readClassBody (verbose : Bool) (depth : Nat) : Nat → Pending → List ClassTree → List Char →
    Option (ClassTree × List Char)
  | 0, _, _, _ => none
  | fuel + 1, pending, items, cs =>
    let operate (op : SetOperation) (rest : List Char) :=
      match pending.apply (.ofItems items.reverse) with
      | some left => readClassBody verbose depth fuel (some (op, left)) [] rest
      | none => none
    let nested (rest : List Char) :=
      match readClass verbose (depth + 1) fuel rest with
      | some (item, rest) => readClassBody verbose depth fuel pending (item :: items) rest
      | none => none
    match skip verbose cs with
    | [] => none
    | '[' :: ':' :: rest =>
      match readAsciiClass rest with
      | some (item, rest) => readClassBody verbose depth fuel pending (item :: items) rest
      | none => nested (':' :: rest)
    | '[' :: rest => nested rest
    | ']' :: rest => (pending.apply (.ofItems items.reverse)).map (·, rest)
    | '&' :: '&' :: rest => operate .inter rest
    | '-' :: '-' :: rest => operate .diff rest
    | '~' :: '~' :: rest => operate .symmDiff rest
    | cs =>
      match readClassRange verbose cs with
      | some (item, rest) => readClassBody verbose depth fuel pending (item :: items) rest
      | none => none

end

/-! ## Repetitions -/

/-- Reads decimal digits, between which filler may stand. -/
def readDigits (verbose : Bool) : Nat → List Char → List Char × List Char
  | 0, cs => ([], cs)
  | fuel + 1, cs =>
    match cs with
    | c :: rest =>
      if c.isDigit then
        let (ds, rest) := readDigits verbose fuel (skip verbose rest)
        (c :: ds, rest)
      else ([], cs)
    | [] => ([], [])

/-- Reads a count, around which blanks may stand. -/
def readCount (verbose : Bool) (cs : List Char) : Option (Nat × List Char) :=
  let cs := (skip verbose cs).dropWhile isBlank
  let (ds, rest) := readDigits verbose cs.length cs
  (Numeral.readDigits? ds Numeral.bound32).map (·, rest.dropWhile isBlank)

/-- Reads the mark of laziness. -/
def readLazy : List Char → Bool × List Char
  | '?' :: rest => (true, rest)
  | cs => (false, cs)

/-- How often a repetition repeats, and whether as rarely as possible. -/
structure Counts where
  least : Nat
  most : Option Nat
  lazy : Bool

/-- Reads a counted repetition after its brace. -/
def readCounts (verbose : Bool) (cs : List Char) : Option (Counts × List Char) := do
  let (least, rest) ← readCount verbose cs
  let done (most : Option Nat) (rest : List Char) : Option (Counts × List Char) :=
    let (lazy, rest) := readLazy (skip verbose rest)
    some (⟨least, most, lazy⟩, rest)
  match rest with
  | '\x7d' :: rest => done (some least) rest
  | ',' :: rest =>
    match skip verbose rest with
    | '\x7d' :: rest => done none rest
    | rest => do
      let (most, rest) ← readCount verbose rest
      match rest with
      | '\x7d' :: rest => if least ≤ most then done (some most) rest else none
      | _ => none
  | _ => none

/-- Repeats the last item; flags alone cannot be repeated, nor can what would nest too deep. -/
def repeatLast (items : List Tree) (counts : Counts) : Option (List Tree) :=
  match items with
  | [] => none
  | .directive _ :: _ => none
  | item :: rest =>
    let t := Tree.loop item counts.least counts.most counts.lazy
    if t.height ≤ Tree.maxHeight then some (t :: rest) else none

/-! ## Groups -/

/-- The letters of flags. -/
def flagOf? : Char → Option Flag
  | 'i' => some .ignoreCase
  | 'm' => some .multiLine
  | 's' => some .dotAll
  | 'U' => some .swapGreed
  | 'u' => some .unicode
  | 'R' => some .crlf
  | 'x' => some .verbose
  | _ => none

/--
Reads flags up to their colon or parenthesis. Each letter may stand once; a hyphen switches off what
follows it, and something has to.
-/
def readFlags (change : FlagChange) (on dangling : Bool) : List Char →
    Option (FlagChange × Char × List Char)
  | [] => none
  | c :: rest =>
    if c = ':' ∨ c = ')' then if dangling then none else some (change, c, rest)
    else if c = '-' then if on then readFlags change false true rest else none
    else
      match flagOf? c with
      | none => none
      | some flag =>
        if (change.lookup flag).isSome then none
        else readFlags ((flag, on) :: change) on false rest

/-- Alphabetic characters that the standard has assigned since; names may hold them. -/
def newAlphabetic : CharSet := .ofLines [
  "88f c5c cdc a7ce-a7cf a7d2 a7d4 a7f1 10940-10959 10ec5-10ec7 10efa-10efb 11b60-11b67",
  "11db0-11ddb 16ea0-16eb8 16ebb-16ed3 16ff2-16ff6 187f8-187ff 18d09-18d1e 18d80-18df2",
  "1e6c0-1e6de 1e6e0-1e6f5 1e6fe-1e6ff 2b73a-2b73f 2cea2-2cead 323b0-33479"]

/-- Numbers that the standard has assigned since. -/
def newNumber : CharSet := .ofText "11de0-11de9 16ff4-16ff6"

/-- Whether a character may begin the name of a group. -/
def isNameStart (c : Char) : Bool :=
  c == '_' || Character.Trait.alphabetic.contains c || newAlphabetic.contains c

/-- Whether a character may stand in the name of a group. -/
def isNamePart (c : Char) : Bool :=
  isNameStart c || Character.Category.number.contains c || newNumber.contains c ||
    c == '.' || c == '[' || c == ']'

/-- Reads the name of a group up to its angle bracket. -/
def readName (cs : List Char) : Option (List Char × List Char) :=
  let name := cs.takeWhile (· ≠ '>')
  match name, cs.drop name.length with
  | first :: more, _ :: rest =>
    if isNameStart first && more.all isNamePart then some (name, rest) else none
  | _, _ => none

/-- What a parenthesis opens. -/
inductive Opening where
  | group (change : FlagChange) (captures : Bool) (name : Option (List Char))
  | directive (change : FlagChange)

/-- Reads the opening of a group after its parenthesis; look-around is refused. -/
def readOpening (verbose : Bool) (cs : List Char) : Option (Opening × List Char) :=
  match skip verbose cs with
  | '?' :: 'P' :: '<' :: rest => (readName rest).map fun (n, r) => (.group [] true (some n), r)
  | '?' :: '<' :: '=' :: _ => none
  | '?' :: '<' :: '!' :: _ => none
  | '?' :: '<' :: rest => (readName rest).map fun (n, r) => (.group [] true (some n), r)
  | '?' :: rest =>
    match readFlags [] true false rest with
    | some (change, ':', rest) => some (.group change false none, rest)
    | some (change, _, rest) => if change.isEmpty then none else some (.directive change, rest)
    | none => none
  | cs => some (.group [] true none, cs)

/-- The tree of a primitive. -/
def Primitive.tree : Primitive → Tree
  | literal l => .literal l
  | set c => .set c
  | anchor a => .anchor a

/-- The tree of alternatives and of the sequence after them, both with the last one first. -/
def alternatives (branches items : List Tree) : Tree :=
  .ofBranches ((Tree.ofParts items.reverse :: branches).reverse)

/-- Whether verbose mode is on after flags are set. -/
def verboseAfter (verbose : Bool) (change : FlagChange) : Bool :=
  (change.lookup .verbose).getD verbose

/--
Reads the alternatives of a group up to its parenthesis, or of the whole pattern up to its end.
`depth` counts the open groups, `names` holds the names given so far.
-/
def readGroup (depth : Nat) : Nat → Bool → List (List Char) → List Tree → List Tree → List Char →
    Option (Tree × List (List Char) × List Char)
  | 0, _, _, _, _, _ => none
  | fuel + 1, verbose, names, branches, items, cs =>
    let go (items : List Tree) (rest : List Char) :=
      readGroup depth fuel verbose names branches items rest
    let loop (counts : Counts) (rest : List Char) :=
      match repeatLast items counts with
      | some items => go items rest
      | none => none
    let mark (least : Nat) (most : Option Nat) (rest : List Char) :=
      let (lazy, rest) := readLazy rest
      loop ⟨least, most, lazy⟩ rest
    match skip verbose cs with
    | [] => if depth = 0 then some (alternatives branches items, names, []) else none
    | ')' :: rest =>
      if depth = 0 then none else some (alternatives branches items, names, rest)
    | '|' :: rest =>
      readGroup depth fuel verbose names (.ofParts items.reverse :: branches) [] rest
    | '(' :: rest =>
      match readOpening verbose rest with
      | none => none
      | some (.directive change, rest) =>
        readGroup depth fuel (verboseAfter verbose change) names branches
          (.directive change :: items) rest
      | some (.group change captures name, rest) =>
        if depth = Tree.maxHeight ∨ name.any names.contains then none
        else
          match readGroup (depth + 1) fuel (verboseAfter verbose change) (name.toList ++ names)
            [] [] rest with
          | none => none
          | some (body, names, rest) =>
            readGroup depth fuel verbose names branches (.group change captures body :: items) rest
    | '[' :: rest =>
      match readClass verbose 1 fuel rest with
      | some (c, rest) => go (.set c :: items) rest
      | none => none
    | '*' :: rest => mark 0 none rest
    | '+' :: rest => mark 1 none rest
    | '?' :: rest => mark 0 (some 1) rest
    | '\x7b' :: rest =>
      match readCounts verbose rest with
      | some (counts, rest) => loop counts rest
      | none => none
    | '\\' :: rest =>
      match readEscape verbose rest with
      | some (p, rest) => go (p.tree :: items) rest
      | none => none
    | '.' :: rest => go (.dot :: items) rest
    | '^' :: rest => go (.anchor .lineStart :: items) rest
    | '$' :: rest => go (.anchor .lineEnd :: items) rest
    | c :: rest => go (.literal ⟨c, false⟩ :: items) rest

/-- Reads a pattern, if it is well formed and does not nest too deep. -/
def Tree.ofText? (source : String) : Option Tree :=
  let cs := source.toList
  match readGroup 0 (cs.length + 1) false [] [] [] cs with
  | some (t, _, _) => if t.height ≤ Tree.maxHeight then some t else none
  | none => none

end ObjectQuery.Pattern
