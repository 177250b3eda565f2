import ObjectQuery.Character.ByteSequence
import ObjectQuery.Pattern.Simple
import Std.Data.HashMap

/-!
# The size of a pattern's automaton

A pattern is matched by an automaton over bytes, and refused when one is too large: `Pattern.fits`.
There are two, one that reads forward and remembers what groups match, and one that reads backward.
Neither is built. A blueprint lists what would be built, in order, and `Blueprint.grow` adds up how
many states there are and what their transitions take, since a state that is shared counts once.

A state with several successors is a fork; each of its successors takes room of its own.
-/

namespace ObjectQuery.Pattern

open Character

/-! ## Sizes -/

/-- The size of an automaton that is being built. -/
structure Size where
  states : Nat
  /-- The bytes that transitions take beyond the states themselves. -/
  extra : Nat
  /-- Whether what was built last ends in a fork. -/
  atFork : Bool
deriving Inhabited

namespace Size

/-- Adds states, the last of which is no fork. -/
def add (s : Size) (states extra : Nat) : Size := ⟨s.states + states, s.extra + extra, false⟩

/-- Adds the transition that leaves what was built last. -/
def leave (s : Size) : Size := s.add 0 (if s.atFork then 4 else 0)

/-- Adds a fork to end with, one successor of which is known. -/
def fork (s : Size) : Size := { s.add 1 4 with atFork := true }

/-- The bytes of an automaton. -/
def bytes (s : Size) : Nat := 32 * s.states + s.extra

/-- The bytes that an automaton may have. -/
def limit : Nat := 10 * Nat.pow 2 20

def isOver (s : Size) : Bool := limit < s.bytes

/-- Applies a step so many times, but no longer than the limit allows. -/
def iterate (step : Size → Size) : Nat → Size → Size
  | 0, s => s
  | n + 1, s => if s.isOver then s else iterate step n (step s)

/-- Copies in a row; none at all take one state. -/
def copies (step : Size → Size) (n : Nat) (s : Size) : Size :=
  if n = 0 then s.leave.add 1 0 else iterate step n s

/-- Copies in a row any of which may be the last, and so may what is before them. -/
def optionalCopies (step : Size → Size) (n : Nat) (s : Size) : Size :=
  (iterate (fun s => step (s.leave.add 1 8)) n { s with states := s.states + 1 }).leave

end Size

/-! ## Shared states -/

/--
An automaton that is being built and some of its states, each with a key that says what it does. A
key has a slot, which a later one may take over: its state is then forgotten and may be built again.
-/
structure Sharing where
  size : Size
  slots : Nat
  known : Std.HashMap Nat (List Nat × Nat)

namespace Sharing

/-- Begins with no state known. -/
def ofSize (size : Size) (slots : Nat) : Sharing := ⟨size, slots, ∅⟩

/-- The slot of a key, by its FNV-1a hash. -/
def slot (s : Sharing) (key : List Nat) : Nat :=
  let start : UInt64 := 14695981039346656037
  (key.foldl (fun h n => (h ^^^ n.toUInt64) * 1099511628211) start).toNat % s.slots

/-- The state with a key, which is built if it is not known. -/
def state (s : Sharing) (key : List Nat) (extra : Nat) : Nat × Sharing :=
  let i := s.slot key
  match s.known[i]?.filter (·.1 == key) with
  | some (_, id) => (id, s)
  | none =>
    let id := s.size.states
    (id, { s with size := s.size.add 1 extra, known := s.known.insert i (key, id) })

end Sharing

/-! ## Sets -/

/-- Byte sequences that share what they begin with. -/
inductive ByteTree where
  /-- The end of a sequence, or of the ranges that may stand in one place. -/
  | stop
  | branch (bytes : ByteRange) (below next : ByteTree)
deriving Inhabited

namespace ByteTree

/-- Adds a sequence in front of those of a tree. -/
def prepend : List ByteRange → ByteTree → ByteTree
  | [], t => t
  | b :: bs, stop => branch b (prepend bs stop) stop
  | b :: bs, branch c below next =>
    if b = c then branch c (prepend bs below) next
    else branch b (prepend bs stop) (branch c below next)

/-- The tree of sequences in increasing order. -/
def ofSequences (sequences : List (List ByteRange)) : ByteTree := sequences.foldr prepend stop

def isStop : ByteTree → Bool
  | stop => true
  | branch _ _ _ => false

/-- The state of transitions, each a range of bytes and the state after them. -/
def state (transitions : List (ByteRange × Nat)) (s : Sharing) : Nat × Sharing :=
  s.state (transitions.flatMap fun t => [t.1.first, t.1.last, t.2]) (8 * transitions.length)

/-- Builds what is below the ranges of one place; `final` is the state after a whole sequence. -/
def transitions (final : Nat) : ByteTree → Sharing → List (ByteRange × Nat) × Sharing
  | stop, s => ([], s)
  | branch bytes below next, s =>
    let (id, s) :=
      if below.isStop then (final, s)
      else
        let (ts, s) := transitions final below s
        state ts s
    let (ts, s) := transitions final next s
    ((bytes, id) :: ts, s)

/-- Adds the states that read one character of a set forward, those for its last byte first. -/
def grow (t : ByteTree) (size : Size) : Size :=
  let (ts, s) := t.transitions size.states (.ofSize (size.add 1 0) 10000)
  (state ts s).2.size

end ByteTree

/-- Adds the states that read a sequence backward, from its first byte to its last. -/
def growSequence (s : Sharing) (final : Nat) (sequence : List ByteRange) : Sharing :=
  (sequence.foldl (fun (id, s) b => s.state [id, b.first, b.last] 0) (final, s)).2

/-- Adds the states that read one character of a set backward; a fork leads to each sequence. -/
def growSequences (sequences : List (List ByteRange)) (size : Size) : Size :=
  let final := size.states + 1
  let start := Sharing.ofSize (size.add 2 (4 * sequences.length)) 1000
  (sequences.foldl (growSequence · final) start).size

/-! ## Literals -/

/-- What is left of some literals in one place, in order, cut where one of them ends. -/
structure Remainders where
  /-- The runs between literals that end here. -/
  runs : List (List (List Nat))
  /-- The last run, which is still open. -/
  last : List (List Nat)

namespace Remainders

/-- Adds a literal. Those that end in front of all others count once. -/
def add (r : Remainders) (bytes : List Nat) : Remainders :=
  if bytes.isEmpty then
    if r.last.isEmpty && !r.runs.isEmpty && r.runs.all List.isEmpty then r
    else ⟨r.last :: r.runs, []⟩
  else ⟨r.runs, bytes :: r.last⟩

/-- The literals of a run by their first bytes, without these. -/
def groups (run : List (List Nat)) : List (List (List Nat)) :=
  let sorted := run.reverse.mergeSort fun a b => a.headD 0 ≤ b.headD 0
  (sorted.splitBy fun a b => a.head? == b.head?).map (·.map List.tail)

end Remainders

/--
Adds the states that read one of some literals, which share what they begin with. Every place has a
fork that leads to its runs and, for each literal that ends there, to the state after it.
-/
def growLiterals : Nat → List (List Nat) → Size → Size
  | 0, _, size => size
  | _ + 1, [bytes], size => size.add (2 * bytes.length) (4 * bytes.length)
  | depth + 1, literals, size =>
    let r := literals.foldl Remainders.add ⟨[], []⟩
    let runs := (r.last :: r.runs).filter (!·.isEmpty)
    if runs.isEmpty then size
    else
      let grown := runs.foldl (fun size run =>
        let groups := Remainders.groups run
        let below := groups.foldl (fun size literals => growLiterals depth literals size) size
        below.add 1 (if groups.length = 1 then 0 else 8 * groups.length)) size
      grown.add 1 (4 * (runs.length + r.runs.length))

/-! ## Blueprints -/

/-- The direction in which an automaton reads. -/
inductive Direction where
  | forward
  | backward
deriving DecidableEq

/-- What an automaton is built from, in the order in which it is built. -/
inductive Blueprint where
  /-- States of which none is a fork to end with. -/
  | states (count extra : Nat)
  /-- One character of a set that is not ASCII alone, read forward. -/
  | forwardSet (t : ByteTree)
  /-- One character of a set that is not ASCII alone, read backward. -/
  | backwardSet (sequences : List (List ByteRange))
  /-- Repetitions; `advances` says that each takes at least one character. -/
  | loop (body : Blueprint) (least : Nat) (most : Option Nat) (advances : Bool)
  | seq (parts : List Blueprint)
  | alt (branches : List Blueprint)
deriving Inhabited

/-- The UTF-8 bytes of a literal. -/
def literalBytes? : Pattern → Option (List Nat)
  | literal cs => some (cs.flatMap fun c => bytesOf c.toNat)
  | _ => none

namespace Blueprint

/-- One character of a set. -/
def ofSet (d : Direction) (s : CharSet) : Blueprint :=
  if s.isAscii then states 2 (8 * s.ranges.length)
  else
    match d with
    | .forward => forwardSet (.ofSequences s.byteSequences)
    | .backward => backwardSet s.byteSequences

/-- One of some literals. -/
def ofLiterals (d : Direction) (literals : List (List Nat)) : Blueprint :=
  let literals := match d with
    | .forward => literals
    | .backward => literals.map List.reverse
  let depth := literals.foldl (fun n bytes => max n bytes.length) 0 + 1
  let size := growLiterals depth literals ⟨1, 0, false⟩
  states size.states size.extra

/-- A group; what it matches is remembered forward only. -/
def ofGroup (d : Direction) (body : Blueprint) : Blueprint :=
  match d with
  | .forward => seq [states 1 0, body, states 1 0]
  | .backward => body

mutual

/-- The blueprint of a pattern's automaton. -/
def ofPattern (d : Direction) : Pattern → Blueprint
  | .empty | .assertion _ => states 1 0
  | .literal cs => states (byteLength cs) 0
  | .set _ s => ofSet d s
  | .loop body least most _ =>
    loop (ofPattern d body) least most (body.shortest?.any (fun n => 0 < n))
  | .group body => ofGroup d (ofPattern d body)
  | .seq parts =>
    match d with
    | .forward => seq (ofPatterns d parts)
    | .backward => seq (ofPatterns d parts).reverse
  | .alt branches =>
    match branches.mapM literalBytes? with
    | some literals => ofLiterals d literals
    | none => alt (ofPatterns d branches)

/-- The blueprints of some patterns. -/
def ofPatterns (d : Direction) : List Pattern → List Blueprint
  | [] => []
  | p :: ps => ofPattern d p :: ofPatterns d ps

end

mutual

/-- Adds what a blueprint says to the end of an automaton. -/
def grow : Blueprint → Size → Size
  | states count extra, s => s.leave.add count extra
  | forwardSet t, s => t.grow s.leave
  | backwardSet sequences, s => growSequences sequences s.leave
  | loop body least most advances, s =>
    match least, most with
    | 0, none =>
      if advances then { (body.grow (s.leave.add 1 4)).leave with atFork := true }
      else (body.grow s).leave.add 3 16
    | least, none => ((Size.copies body.grow least s).leave).fork
    | 0, some 1 => (body.grow (s.leave.add 1 8)).leave.add 1 0
    | least, some most =>
      let s := Size.copies body.grow least s
      if least = most then s else Size.optionalCopies body.grow (most - least) s
  | seq parts, s => growAll parts s
  | alt branches, s => growBranches 1 branches s.leave

/-- Adds blueprints one after the other. -/
def growAll : List Blueprint → Size → Size
  | [], s => s
  | b :: bs, s => growAll bs (b.grow s)

/-- Adds branches from the `n`-th on; the fork to them and the state after them come third. -/
def growBranches (n : Nat) : List Blueprint → Size → Size
  | [], s => s
  | b :: bs, s => growBranches (n + 1) bs ((b.grow s).leave.add (if n = 2 then 2 else 0) 4)

end

end Blueprint

/-! ## Whole automata -/

mutual

/-- Whether a match of a pattern can only begin where its text begins, or end where it ends. -/
def isAnchored (d : Direction) : Pattern → Bool
  | assertion a => a = match d with
    | .forward => .textStart
    | .backward => .textEnd
  | loop body least _ _ => 0 < least && body.isAnchored d
  | group body => body.isAnchored d
  | seq parts => areAnchored d parts
  | alt branches => allAnchored d branches
  | _ => false

/-- Whether a sequence is anchored by a part that only narrow parts keep from its end. -/
def areAnchored (d : Direction) : List Pattern → Bool
  | [] => false
  | p :: ps =>
    match d with
    | .forward => p.isAnchored d || (p.isNarrow && areAnchored d ps)
    | .backward => areAnchored d ps || (areNarrow ps && p.isAnchored d)

/-- Whether all alternatives are anchored. -/
def allAnchored (d : Direction) : List Pattern → Bool
  | [] => true
  | p :: ps => p.isAnchored d && allAnchored d ps

end

/-- The size of a pattern's automaton. One that is not anchored skips bytes before the match. -/
def size (p : Pattern) (d : Direction) : Size :=
  let start : Size := if p.isAnchored d then ⟨1, 0, false⟩ else ⟨3, 16, false⟩
  let body := Blueprint.ofPattern d p
  match d with
  | .forward => (body.grow (start.add 1 0)).leave.add 2 0
  | .backward => (body.grow start).leave.add 1 0

/-- Whether a pattern is a choice of so many literals that they are found without automata. -/
def isDictionary : Pattern → Bool
  | alt branches => 3000 ≤ branches.length && branches.all (·.literalBytes?.isSome)
  | _ => false

/-- Whether a pattern's automata, if it needs any, have no more bytes than they may. -/
def fits (p : Pattern) : Bool :=
  p.isDictionary || !((p.size .forward).isOver || (p.size .backward).isOver)

end ObjectQuery.Pattern
