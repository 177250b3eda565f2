import ObjectQuery.Proofs.Path.Rendering

/-!
# Paths read by positions

`Path.parse` goes from character to character. Here a path is read as one reads a text by positions:
look for the next bracket, and cut the text where it was found. Positions count bytes, so a cut may
lie behind the end of the text, or inside a character; such a cut is a fault of its own and no refusal
of the path. The two readers agree on every text, so no cut is ever out of bounds, and every round of
the loop over brackets leaves less of the text.

With that, what is read from a path is read again from what is left of it and written out, which is
how a path is handed on to another class.
-/

namespace ObjectQuery

/-! ## Positions in a text -/

namespace Text

/-- How many bytes characters take. -/
def bytes : List Char → Nat
  | [] => 0
  | c :: cs => c.utf8Size + bytes cs

/-- How many bytes stand before the first occurrence of a character. -/
def offset? (c : Char) : List Char → Option Nat
  | [] => none
  | d :: ds => if d = c then some 0 else (offset? c ds).map (d.utf8Size + ·)

/-- A text cut behind a number of bytes; a cut outside of the text or inside a character fails. -/
def cutAt? : List Char → Nat → Option (List Char × List Char)
  | cs, 0 => some ([], cs)
  | [], _ + 1 => none
  | c :: cs, n + 1 =>
    if c.utf8Size ≤ n + 1 then
      (cutAt? cs (n + 1 - c.utf8Size)).map fun cut => (c :: cut.1, cut.2)
    else none

variable {c : Char} {cs front back : List Char} {n : Nat}

theorem offset?_eq_none : offset? c cs = none ↔ c ∉ cs := by
  induction cs with
  | nil => simp [offset?]
  | cons d ds ih =>
    rw [offset?]
    split
    · next heq => simp [heq]
    · next hne => simp [ih, Ne.symm hne]

theorem bytes_append (front back : List Char) : bytes (front ++ back) = bytes front + bytes back := by
  induction front with
  | nil => rw [List.nil_append, bytes, Nat.zero_add]
  | cons c cs ih => rw [List.cons_append, bytes, bytes, ih, Nat.add_assoc]

/-- A character is found behind what it does not occur in. -/
theorem offset?_eq_some :
    offset? c cs = some n ↔ ∃ front back, cs = front ++ c :: back ∧ c ∉ front ∧ n = bytes front := by
  constructor
  · intro h
    induction cs generalizing n with
    | nil => cases h
    | cons d ds ih =>
      rw [offset?] at h
      split at h
      · next heq =>
        cases h
        exact ⟨[], ds, by rw [heq]; rfl, List.not_mem_nil, rfl⟩
      · next hne =>
        obtain ⟨m, hm, rfl⟩ := Option.map_eq_some_iff.mp h
        obtain ⟨front, back, rfl, hfront, rfl⟩ := ih hm
        exact ⟨d :: front, back, rfl, by simp [Ne.symm hne, hfront], rfl⟩
  · rintro ⟨front, back, rfl, hfront, rfl⟩
    induction front with
    | nil => simp [offset?, bytes]
    | cons d ds ih =>
      obtain ⟨hd, hds⟩ := not_or.mp (mt List.mem_cons.mpr hfront)
      rw [List.cons_append, offset?, if_neg (Ne.symm hd), ih hds]
      rfl

/-- Behind some of its characters a text can be cut. -/
theorem cutAt?_append (front back : List Char) :
    cutAt? (front ++ back) (bytes front) = some (front, back) := by
  induction front with
  | nil => rw [List.nil_append, bytes, cutAt?]
  | cons c cs ih =>
    obtain ⟨n, hn⟩ := Nat.exists_eq_add_one_of_ne_zero
      (Nat.ne_of_gt (Nat.add_pos_left c.utf8Size_pos (bytes cs)))
    have hrest : n + 1 - c.utf8Size = bytes cs := by omega
    rw [List.cons_append, bytes, hn, cutAt?, if_pos (by omega), hrest, ih]
    rfl

/-- The two sides of a cut are the text, and bytes have been taken off if there were any to take. -/
theorem append_of_cutAt? (h : cutAt? cs n = some (front, back)) :
    cs = front ++ back ∧ (front = [] → n = 0) := by
  induction cs generalizing n front with
  | nil =>
    cases n with
    | zero => cases h; exact ⟨rfl, fun _ => rfl⟩
    | succ n => cases h
  | cons c cs ih =>
    cases n with
    | zero => cases h; exact ⟨rfl, fun _ => rfl⟩
    | succ n =>
      rw [cutAt?] at h
      split at h
      · obtain ⟨⟨cut, rest⟩, hcut, heq⟩ := Option.map_eq_some_iff.mp h
        cases heq
        exact ⟨congrArg (c :: ·) (ih hcut).1, nofun⟩
      · cases h

/-- What is left behind a cut that took something off is shorter. -/
theorem length_of_cutAt? (h : cutAt? cs (n + 1) = some (front, back)) :
    back.length < cs.length := by
  obtain ⟨rfl, hfront⟩ := append_of_cutAt? h
  have hpos : 0 < front.length := List.length_pos_iff.mpr fun hnil => absurd (hfront hnil) (by simp)
  rw [List.length_append]
  omega

/-- What stands between two positions, of which the first must not lie behind the second. -/
def slice? (cs : List Char) (start stop : Nat) : Option (List Char) :=
  (cutAt? cs stop).bind fun outer => (cutAt? outer.1 start).map Prod.snd

theorem slice?_append (front inside back : List Char) :
    slice? (front ++ inside ++ back) (bytes front) (bytes (front ++ inside)) = some inside := by
  rw [slice?, cutAt?_append, Option.bind_some, cutAt?_append]
  rfl

end Text

/-! ## Reading by positions -/

namespace Path

/-- Why reading by positions stops. -/
inductive Halt where
  | outOfBounds
  | malformed
deriving DecidableEq

/-- Reads the index in the brackets that open a text, and returns what is left behind them. -/
def bracketAt (cs : List Char) : Except Halt (Nat × List Char) :=
  match Text.offset? ']' cs with
  | none => .error .malformed
  | some close =>
    match Text.slice? cs 1 close with
    | none => .error .outOfBounds
    | some inside =>
      match readIndex? inside with
      | none => .error .malformed
      | some i =>
        match Text.cutAt? cs (close + 1) with
        | none => .error .outOfBounds
        | some (_, rest) =>
          if rest.isEmpty || rest.head? == some '[' then .ok (i, rest) else .error .malformed

theorem length_of_bracketAt {cs rest : List Char} {i : Nat} (h : bracketAt cs = .ok (i, rest)) :
    rest.length < cs.length := by
  unfold bracketAt at h
  split at h
  · cases h
  split at h
  · cases h
  split at h
  · cases h
  split at h
  · cases h
  · next hcut =>
    split at h
    · cases h
      exact Text.length_of_cutAt? hcut
    · cases h

/-- Reads brackets until nothing is left. -/
def bracketsAt (cs : List Char) : Except Halt (List Segment) :=
  if cs.isEmpty then .ok []
  else
    match _round : bracketAt cs with
    | .error halt => .error halt
    | .ok (i, rest) => (bracketsAt rest).map (.index i :: ·)
termination_by cs.length
decreasing_by exact length_of_bracketAt _round

/-- The name and the brackets of a part. -/
def nameAt (part : List Char) : Except Halt (List Char × List Char) :=
  match Text.offset? '[' part with
  | none => .ok (part, [])
  | some position =>
    match Text.slice? part 0 position, Text.cutAt? part position with
    | some name, some (_, brackets) => .ok (name, brackets)
    | _, _ => .error .outOfBounds

/-- Reads one part between dots behind the segments that have been read. -/
def partAt (done : List Segment) (part : List Char) : Except Halt (List Segment) := do
  let (name, brackets) ← nameAt part
  if name.isEmpty then
    if brackets.isEmpty || done.isEmpty then throw .malformed
    return done ++ (← bracketsAt brackets)
  match readName name with
  | none => throw .malformed
  | some segment => return done ++ segment :: (← bracketsAt brackets)

/-- The segments of a path, read by positions. -/
def segmentsAt (path : String) : Except Halt (List Segment) := do
  let segments ← (Text.splitChars '.' path.toList).foldlM partAt []
  if segments.isEmpty then throw .malformed
  return segments

/-! ## Both readers agree -/

/-- What the reader of characters answers, as one of positions does. -/
def orMalformed {α : Type} : Option α → Except Halt α
  | some a => .ok a
  | none => .error .malformed

variable {cs digits part : List Char}

theorem readBrackets_open {inside : List Char} (h : ']' ∉ cs) :
    readBrackets cs (some inside) = none := by
  induction cs generalizing inside with
  | nil => rfl
  | cons c cs ih =>
    obtain ⟨hc, hcs⟩ := not_or.mp (mt List.mem_cons.mpr h)
    rw [readBrackets, if_neg (Ne.symm hc), ih hcs]

/-- An open bracket is closed by the next closing one. -/
theorem readBrackets_close {inside : List Char} (h : ']' ∉ digits) (rest : List Char) :
    readBrackets (digits ++ ']' :: rest) (some inside) =
      (readIndex? (inside.reverse ++ digits)).bind fun i =>
        (readBrackets rest none).map (Segment.index i :: ·) := by
  induction digits generalizing inside with
  | nil =>
    rw [List.nil_append, readBrackets, if_pos rfl, List.append_nil]
    cases readIndex? inside.reverse <;> rfl
  | cons c cs ih =>
    obtain ⟨hc, hcs⟩ := not_or.mp (mt List.mem_cons.mpr h)
    rw [List.cons_append, readBrackets, if_neg (Ne.symm hc), ih hcs, List.reverse_cons,
      List.append_assoc, List.singleton_append]

theorem readBrackets_of_head (hne : cs ≠ []) (h : cs.head? ≠ some '[') :
    readBrackets cs none = none := by
  cases cs with
  | nil => exact absurd rfl hne
  | cons c cs => rw [readBrackets, if_neg fun heq => h (by rw [heq]; rfl)]

/-- Nothing is closed where no bracket is. -/
theorem bracketAt_open (h : ']' ∉ cs) : bracketAt ('[' :: cs) = .error .malformed := by
  have hnone : Text.offset? ']' ('[' :: cs) = none := Text.offset?_eq_none.mpr (by simpa using h)
  rw [bracketAt, hnone]

/-- One round reads what stands between the first brackets. -/
theorem bracketAt_close (h : ']' ∉ digits) (rest : List Char) :
    bracketAt ('[' :: (digits ++ ']' :: rest)) =
      orMalformed ((readIndex? digits).bind fun i =>
        if rest.isEmpty || rest.head? == some '[' then some (i, rest) else none) := by
  have hclose : Text.offset? ']' ('[' :: (digits ++ ']' :: rest)) =
      some (Text.bytes ('[' :: digits)) :=
    Text.offset?_eq_some.mpr ⟨'[' :: digits, rest, rfl, by simpa using h, rfl⟩
  have hslice : Text.slice? ('[' :: (digits ++ ']' :: rest)) 1 (Text.bytes ('[' :: digits)) =
      some digits := Text.slice?_append ['['] digits (']' :: rest)
  have hbytes : Text.bytes ('[' :: digits ++ [']']) = Text.bytes ('[' :: digits) + 1 := by
    rw [Text.bytes_append]
    rfl
  have hcut : Text.cutAt? ('[' :: (digits ++ ']' :: rest)) (Text.bytes ('[' :: digits) + 1) =
      some ('[' :: digits ++ [']'], rest) := by
    rw [← hbytes, ← Text.cutAt?_append, List.append_assoc]
    rfl
  rw [bracketAt, hclose]
  simp only [hslice, hcut]
  cases readIndex? digits with
  | none => rfl
  | some i =>
    dsimp only [Option.bind_some]
    split <;> rfl

/-- Where brackets open, both readers take the same index off and go on with the same rest. -/
theorem exists_round (h : cs.head? = some '[') :
    ∃ round : Option (Nat × List Char), bracketAt cs = orMalformed round ∧
      readBrackets cs none =
        round.bind (fun r => (readBrackets r.2 none).map (Segment.index r.1 :: ·)) ∧
      ∀ r, round = some r → r.2 = [] ∨ r.2.head? = some '[' := by
  cases cs with
  | nil => cases h
  | cons c tail =>
    obtain rfl : c = '[' := Option.some.inj h
    rw [readBrackets, if_pos rfl]
    by_cases hclose : ']' ∈ tail
    · obtain ⟨digits, rest, rfl, hdigits⟩ := List.eq_append_cons_of_mem hclose
      refine ⟨_, bracketAt_close hdigits rest, ?_, ?_⟩
      · rw [readBrackets_close hdigits, List.reverse_nil, List.nil_append, Option.bind_assoc]
        congr 1
        funext i
        split
        · rfl
        · next hrest =>
          simp only [Bool.or_eq_true, List.isEmpty_iff, beq_iff_eq, not_or] at hrest
          rw [readBrackets_of_head hrest.1 hrest.2]
          rfl
      · intro r hr
        obtain ⟨i, -, hr⟩ := Option.bind_eq_some_iff.mp hr
        obtain ⟨hrest, hr⟩ := Option.ite_none_right_eq_some.mp hr
        cases hr
        simpa using hrest
    · exact ⟨none, bracketAt_open hclose, readBrackets_open hclose, nofun⟩

/-- The loop reads what the reader of characters reads. -/
theorem bracketsAt_eq (h : cs = [] ∨ cs.head? = some '[') :
    bracketsAt cs = orMalformed (readBrackets cs none) := by
  fun_induction bracketsAt cs with
  | case1 cs hempty =>
    rw [List.isEmpty_iff.mp hempty]
    rfl
  | case2 cs hempty halt hround =>
    obtain ⟨round, hsame, hread, -⟩ := exists_round (h.resolve_left (by simpa using hempty))
    rw [hround] at hsame
    cases round with
    | none =>
      obtain rfl : halt = .malformed := Except.error.inj hsame
      rw [hread, Option.bind_none]
      rfl
    | some r => cases hsame
  | case3 cs hempty i rest hround ih =>
    obtain ⟨round, hsame, hread, hnext⟩ := exists_round (h.resolve_left (by simpa using hempty))
    rw [hround] at hsame
    cases round with
    | none => cases hsame
    | some r =>
      cases hsame
      rw [ih (hnext _ rfl), hread, Option.bind_some]
      cases readBrackets rest none <;> rfl

/-- A name stands before its first bracket, and brackets are what is left. -/
theorem nameAt_eq (part : List Char) :
    nameAt part = .ok (part.takeWhile (· ≠ '['), part.dropWhile (· ≠ '[')) := by
  rw [nameAt]
  by_cases hopen : '[' ∈ part
  · obtain ⟨name, brackets, rfl, hname⟩ := List.eq_append_cons_of_mem hopen
    have hall : ∀ c ∈ name, decide (c ≠ '[') = true :=
      fun c hc => decide_eq_true fun heq => hname (heq ▸ hc)
    rw [Text.offset?_eq_some.mpr ⟨name, brackets, rfl, hname, rfl⟩]
    have hslice : Text.slice? (name ++ '[' :: brackets) 0 (Text.bytes name) = some name :=
      Text.slice?_append [] name ('[' :: brackets)
    simp only [hslice, Text.cutAt?_append]
    rw [List.takeWhile_append_of_pos hall, List.dropWhile_append_of_pos hall]
    simp
  · have hall : ∀ c ∈ part, decide (c ≠ '[') = true :=
      fun c hc => decide_eq_true fun heq => hopen (heq ▸ hc)
    rw [Text.offset?_eq_none.mpr hopen, List.takeWhile_eq_self_iff.mpr hall,
      List.dropWhile_eq_nil_iff.mpr hall]

/-- What is left behind a name is nothing, or starts with a bracket. -/
theorem head_dropWhile (part : List Char) :
    part.dropWhile (· ≠ '[') = [] ∨ (part.dropWhile (· ≠ '[')).head? = some '[' := by
  cases hrest : part.dropWhile (· ≠ '[') with
  | nil => exact .inl rfl
  | cons c cs =>
    have hc := List.head?_dropWhile_not (· ≠ '[') part
    rw [hrest] at hc
    exact .inr (by simpa using hc)

/-- A part is read by positions as it is read character by character. -/
theorem partAt_eq (done : List Segment) (part : List Char) :
    partAt done part = orMalformed ((readPart done.isEmpty part).map (done ++ ·)) := by
  have hbrackets := bracketsAt_eq (head_dropWhile part)
  rw [partAt, nameAt_eq, readPart]
  dsimp only [bind, Except.bind]
  rw [hbrackets]
  split
  · split
    · rfl
    · cases readBrackets (part.dropWhile (· ≠ '[')) none <;> rfl
  · cases readName (part.takeWhile (· ≠ '[')) with
    | none => rfl
    | some segment => cases readBrackets (part.dropWhile (· ≠ '[')) none <;> rfl

theorem foldlM_partAt (parts : List (List Char)) (done : List Segment) :
    parts.foldlM partAt done = orMalformed ((readParts done.isEmpty parts).map (done ++ ·)) := by
  induction parts generalizing done with
  | nil =>
    rw [readParts, Option.map_some, List.append_nil]
    rfl
  | cons part rest ih =>
    rw [List.foldlM_cons, partAt_eq, readParts]
    cases hpart : readPart done.isEmpty part with
    | none => rfl
    | some segments =>
      -- a part that has been read leaves a segment, so what follows does not come first
      have hdone : (done ++ segments).isEmpty = false := by
        simp [readPart_ne_nil hpart]
      rw [Option.map_some, orMalformed]
      dsimp only [bind, Except.bind]
      rw [ih, hdone, Option.map_map]
      cases readParts false rest <;> simp

/-- No cut is out of bounds: what stops the reading is the path, where `parse` refuses it. -/
theorem segmentsAt_eq (path : String) :
    segmentsAt path = (parse path).mapError fun _ => Halt.malformed := by
  rw [segmentsAt, foldlM_partAt, parse]
  cases hread : readParts true (Text.splitChars '.' path.toList) with
  | none =>
    rw [List.isEmpty_nil, hread]
    rfl
  | some segments =>
    have hne : segments.isEmpty = false :=
      List.isEmpty_eq_false_iff.mpr (readParts_ne_nil (Text.splitChars_ne_nil '.' _) hread)
    rw [List.isEmpty_nil, hread, Option.map_some, orMalformed, List.nil_append]
    dsimp only [bind, Except.bind]
    rw [hne]
    rfl

/-! ## Paths that are handed on -/

/--
Every text is read or refused by name, and reading it by positions never cuts outside of it. What has
been read is read again from the path it is written out to, and so is whatever it ends with: a path
that goes on at another class leads to the same place there.
-/
theorem parse_rereads (path : String) :
    segmentsAt path = ((parse path).mapError fun _ => Halt.malformed) ∧
      ((∃ segments, parse path = .ok segments) ∨ parse path = .error (.path (.malformed path))) ∧
      ∀ segments, parse path = .ok segments →
        parse (render segments) = .ok segments ∧
          ∀ front back, segments = front ++ back → back ≠ [] → parse (render back) = .ok back := by
  refine ⟨segmentsAt_eq path, ?_, ?_⟩
  · unfold parse
    split
    · next segments _ => exact .inl ⟨segments, rfl⟩
    · exact .inr rfl
  · intro segments h
    refine ⟨parse_render (parse_ne_nil h) (readable_of_parse h), ?_⟩
    rintro front back rfl hne
    exact parse_render_of_suffix h hne

/-- Brackets, a missing name before them and needless zeros are gone once a path is written out. -/
theorem parse_rereads_of_brackets :
    parse "tags[+1].[07].ü].0" =
        .ok [.field "tags", .index 1, .index 7, .field "ü]", .index 0] ∧
      render [.field "ü]", .index 0] = "ü].0" ∧
      parse "ü].0" = .ok [.field "ü]", .index 0] := by
  have hparse : parse "tags[+1].[07].ü].0" =
      .ok [.field "tags", .index 1, .index 7, .field "ü]", .index 0] := by rfl
  have hrest := ((parse_rereads "tags[+1].[07].ü].0").2.2 _ hparse).2
    [.field "tags", .index 1, .index 7] [.field "ü]", .index 0] rfl (by simp)
  have hrender : render [.field "ü]", .index 0] = "ü].0" := by rfl
  exact ⟨hparse, hrender, hrender ▸ hrest⟩

end Path

end ObjectQuery
