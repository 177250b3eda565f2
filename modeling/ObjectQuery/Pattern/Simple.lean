import ObjectQuery.Pattern.Basic

/-!
# Building patterns

Patterns are built by functions that keep them simple without changing what they match: sequences
and alternatives are flat, neighbouring literals are one, a set of one character is a literal,
alternatives that are all sets are one set, what all alternatives begin with stands once, and what
matches the empty text alone is never repeated.
-/

namespace ObjectQuery.Pattern

/-! ## Lengths -/

/-- The length in bytes of a text. -/
def byteLength (cs : List Char) : Nat := cs.foldl (fun n c => n + c.utf8Size) 0

mutual

/-- The length in bytes of the shortest text that a pattern may match; a set without characters has
none. -/
def shortest? : Pattern → Option Nat
  | empty | assertion _ => some 0
  | literal cs => some (byteLength cs)
  | set _ s => s.ranges.head?.map (fun r => (Char.ofNat r.1).utf8Size)
  | loop body least _ _ => body.shortest?.map (· * least)
  | group body => body.shortest?
  | seq parts => shortestSum? 0 parts
  | alt [] => none
  | alt (branch :: branches) =>
    match branch.shortest? with
    | some n => shortestMin? n branches
    | none => none

/-- The sum of the shortest lengths and of a length before them. -/
def shortestSum? (n : Nat) : List Pattern → Option Nat
  | [] => some n
  | p :: ps =>
    match p.shortest? with
    | some m => shortestSum? (n + m) ps
    | none => none

/-- The least of the shortest lengths and of a length before them, unless one is missing. -/
def shortestMin? (n : Nat) : List Pattern → Option Nat
  | [] => some n
  | p :: ps =>
    match p.shortest? with
    | some m => shortestMin? (min n m) ps
    | none => none

end

mutual

/-- Whether a pattern matches between two characters and never any of them. -/
def isNarrow : Pattern → Bool
  | empty | assertion _ => true
  | literal _ | set _ _ => false
  | loop body _ most _ => most.isSome && body.isNarrow
  | group body => body.isNarrow
  | seq parts => areNarrow parts
  | alt branches => areNarrow branches

/-- Whether all patterns of a list are narrow. -/
def areNarrow : List Pattern → Bool
  | [] => true
  | p :: ps => p.isNarrow && areNarrow ps

end

/-! ## Sets and repetitions -/

/-- The pattern that matches nothing. -/
def nothing : Pattern := .set .ascii .empty

/-- One character of a set. -/
def ofSet (a : Alphabet) (s : CharSet) : Pattern :=
  if s.isEmpty then nothing
  else
    match s.single? with
    | some c => literal [c]
    | none => set a s

/-- Repetitions of a pattern; what is narrow is matched once or not at all. -/
def repeated (body : Pattern) (least : Nat) (most : Option Nat) (greedy : Bool) : Pattern :=
  let least := if body.isNarrow then min least 1 else least
  let most := if body.isNarrow then some (min (most.getD 1) 1) else most
  if least = 0 ∧ most = some 0 then empty
  else if least = 1 ∧ most = some 1 then body
  else loop body least most greedy

/-! ## Sequences -/

/-- The parts of a sequence; anything else is its own only part. -/
def parts : Pattern → List Pattern
  | seq ps => ps
  | p => [p]

/-- Puts a part before others: the empty text vanishes, and literals join. -/
def prepend (p : Pattern) (rest : List Pattern) : List Pattern :=
  match p, rest with
  | empty, rest => rest
  | literal cs, literal ds :: rest => literal (cs ++ ds) :: rest
  | p, rest => p :: rest

/-- Patterns one after the other. -/
def ofParts (ps : List Pattern) : Pattern :=
  match (ps.flatMap parts).foldr prepend [] with
  | [] => empty
  | [p] => p
  | ps => seq ps

/-! ## Alternatives -/

/-- The branches of alternatives; anything else is its own only branch. -/
def branches : Pattern → List Pattern
  | alt bs => bs
  | p => [p]

/-- The only character that a literal matches. -/
def onlyChar? : Pattern → Option Char
  | literal [c] => some c
  | _ => none

/-- The set of which a pattern matches one character. -/
def onlySet? : Pattern → Option CharSet
  | set _ s => some s
  | _ => none

/-- The set that alternatives amount to when all are single characters, or all are sets. -/
def union? (bs : List Pattern) : Option CharSet :=
  match bs.mapM onlyChar?, bs.mapM onlySet? with
  | some cs, _ => some (.ofPoints (cs.map Char.toNat))
  | none, some sets => some (.ofRanges (sets.flatMap CharSet.ranges))
  | none, none => none

mutual

/-- Whether two patterns are the same; no two groups are. -/
def isSame : Pattern → Pattern → Bool
  | empty, empty => true
  | literal cs, literal ds => cs == ds
  | set a s, set b t => a == b && s == t
  | assertion a, assertion b => a == b
  | loop p m n g, loop q m' n' g' => m == m' && n == n' && g == g' && p.isSame q
  | seq ps, seq qs => areSame ps qs
  | alt ps, alt qs => areSame ps qs
  | _, _ => false

/-- Whether the patterns of two lists are the same in turn. -/
def areSame : List Pattern → List Pattern → Bool
  | [], [] => true
  | p :: ps, q :: qs => p.isSame q && areSame ps qs
  | _, _ => false

end

/-- The parts that two sequences begin with. -/
def commonParts : List Pattern → List Pattern → List Pattern
  | p :: ps, q :: qs => if p.isSame q then p :: commonParts ps qs else []
  | _, _ => []

/-- The parts of a sequence. -/
def sequence? : Pattern → Option (List Pattern)
  | seq ps => some ps
  | _ => none

/-- What alternatives begin with, and what is left of each, when all are sequences. -/
def lifted? (bs : List Pattern) : Option (List Pattern × List Pattern) :=
  match bs.mapM sequence? with
  | some (first :: more) =>
    let common := more.foldl commonParts first
    if common.isEmpty then none
    else some (common, (first :: more).map (fun ps => ofParts (ps.drop common.length)))
  | _ => none

/-- Alternatives that are already flat and begin with nothing in common. -/
def ofFlat (bs : List Pattern) : Pattern :=
  match union? bs with
  | some s => ofSet .unicode s
  | none => alt bs

/-- One of several patterns. -/
def ofBranches (ps : List Pattern) : Pattern :=
  match ps.flatMap branches with
  | [] => nothing
  | [p] => p
  | bs =>
    match union? bs, lifted? bs with
    | none, some (common, rests) => ofParts (common ++ [ofFlat (rests.flatMap branches)])
    | _, _ => ofFlat bs

end ObjectQuery.Pattern
