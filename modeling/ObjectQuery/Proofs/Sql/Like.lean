import ObjectQuery.Filter
import ObjectQuery.Sql.Quoted

/-!
# Texts that match a like pattern

The store reads a pattern character by character: a percent sign for any part of the text, an
underscore for one character, a backslash for the character behind it. An escaped text leaves nothing
to choose, so it matches itself alone, and with a percent sign at one end the texts that open or end
with it: those that pass the test in memory.
-/

namespace ObjectQuery.Sql.Like

/-- Characters that do not stand for themselves. -/
def isSpecial (c : Char) : Bool := c = '\\' ∨ c = '%' ∨ c = '_'

/-- What texts a pattern stands for; none if it ends with a backslash that escapes nothing. -/
inductive Matches : List Char → List Char → Prop where
  | nil : Matches [] []
  | percent {pattern rest : List Char} (skipped : List Char) (h : Matches pattern rest) :
    Matches ('%' :: pattern) (skipped ++ rest)
  | underscore {pattern rest : List Char} (c : Char) (h : Matches pattern rest) :
    Matches ('_' :: pattern) (c :: rest)
  | escaped {pattern rest : List Char} (c : Char) (h : Matches pattern rest) :
    Matches ('\\' :: c :: pattern) (c :: rest)
  | plain {pattern rest : List Char} {c : Char} (hc : isSpecial c = false)
      (h : Matches pattern rest) :
    Matches (c :: pattern) (c :: rest)

variable {pattern text : List Char} {c : Char}

theorem matches_nil : Matches [] text ↔ text = [] := by
  constructor
  · intro h
    cases h
    rfl
  · rintro rfl
    exact .nil

theorem matches_percent :
    Matches ('%' :: pattern) text ↔
      ∃ skipped rest, text = skipped ++ rest ∧ Matches pattern rest := by
  constructor
  · intro h
    cases h with
    | percent skipped h => exact ⟨skipped, _, rfl, h⟩
    | plain hc => cases hc
  · rintro ⟨skipped, rest, rfl, h⟩
    exact .percent skipped h

/-! ## Escaped texts -/

/-- An escaped character matches itself, special or not. -/
theorem matches_escapeChar :
    Matches (escapeChar c ++ pattern) text ↔ ∃ rest, text = c :: rest ∧ Matches pattern rest := by
  rw [escapeChar]
  split
  next =>
    constructor
    · intro h
      cases h with
      | escaped _ h => exact ⟨_, rfl, h⟩
      | plain hc => cases hc
    · rintro ⟨rest, rfl, h⟩
      exact .escaped c h
  next hplain =>
    obtain ⟨hescape, hpercent, hunderscore⟩ : c ≠ '\\' ∧ c ≠ '%' ∧ c ≠ '_' := by
      simpa only [not_or] using hplain
    constructor
    · intro h
      cases h with
      | percent => exact (hpercent rfl).elim
      | underscore => exact (hunderscore rfl).elim
      | escaped => exact (hescape rfl).elim
      | plain _ h => exact ⟨_, rfl, h⟩
    · rintro ⟨rest, rfl, h⟩
      exact .plain (by simpa [isSpecial] using hplain) h

/-- An escaped text matches itself, whatever stands behind it. -/
theorem matches_escaped {cs : List Char} :
    Matches (cs.flatMap escapeChar ++ pattern) text ↔
      ∃ rest, text = cs ++ rest ∧ Matches pattern rest := by
  induction cs generalizing text with
  | nil => simp
  | cons c cs ih =>
    rw [List.flatMap_cons, List.append_assoc, matches_escapeChar]
    constructor
    · rintro ⟨behind, rfl, h⟩
      obtain ⟨rest, rfl, hrest⟩ := ih.mp h
      exact ⟨rest, rfl, hrest⟩
    · rintro ⟨rest, rfl, h⟩
      exact ⟨cs ++ rest, rfl, ih.mpr ⟨rest, rfl, h⟩⟩

theorem toList_escape (text : String) : (escape text).toList = text.toList.flatMap escapeChar :=
  String.toList_ofList

theorem matches_escape {text : String} {cs : List Char} :
    Matches (escape text).toList cs ↔ cs = text.toList := by
  rw [toList_escape, ← List.append_nil (text.toList.flatMap escapeChar), matches_escaped]
  simp [matches_nil]

/-- Writes a backslash before each occurrence of a character. -/
def escapeAll (mark : Char) (cs : List Char) : List Char :=
  cs.flatMap fun c => if c = mark then ['\\', c] else [c]

/-- The special characters may be escaped one after another, if the backslash is the first. -/
theorem escape_eq_passes (text : String) :
    (escape text).toList = escapeAll '_' (escapeAll '%' (escapeAll '\\' text.toList)) := by
  rw [toList_escape, escapeAll, escapeAll, escapeAll, List.flatMap_assoc, List.flatMap_assoc]
  congr 1
  funext c
  rw [escapeChar]
  by_cases hescape : c = '\\'
  · subst hescape
    rfl
  by_cases hpercent : c = '%'
  · subst hpercent
    rfl
  by_cases hunderscore : c = '_'
  · subst hunderscore
    rfl
  simp [hescape, hpercent, hunderscore]

/-! ## Openings and endings -/

theorem matches_opening {text subject : String} :
    Matches (opening text).toList subject.toList ↔ text.toList <+: subject.toList := by
  rw [opening, String.toList_append, toList_escape, matches_escaped]
  constructor
  · rintro ⟨rest, hsubject, -⟩
    exact ⟨rest, hsubject.symm⟩
  · rintro ⟨rest, hsubject⟩
    have hrest : Matches "%".toList rest :=
      matches_percent.mpr ⟨rest, [], (List.append_nil rest).symm, .nil⟩
    exact ⟨rest, hsubject.symm, hrest⟩

theorem matches_ending {text subject : String} :
    Matches (ending text).toList subject.toList ↔ text.toList <:+ subject.toList := by
  rw [ending, String.toList_append]
  constructor
  · intro h
    obtain ⟨skipped, rest, hsubject, hrest⟩ := matches_percent.mp h
    exact ⟨skipped, by rw [hsubject, matches_escape.mp hrest]⟩
  · rintro ⟨skipped, hsubject⟩
    exact matches_percent.mpr ⟨skipped, _, hsubject.symm, matches_escape.mpr rfl⟩

/--
The special characters of a text are escaped in three passes, the backslash first; and the store
matches the pattern of an opening or an ending exactly where the test in memory holds.
-/
theorem matches_iff_eval (text subject : String) :
    (escape text).toList = escapeAll '_' (escapeAll '%' (escapeAll '\\' text.toList)) ∧
      (Matches (escape text ++ "%").toList subject.toList ↔
        (FieldTest.startsWith text).eval (.str subject) = true) ∧
      (Matches ("%" ++ escape text).toList subject.toList ↔
        (FieldTest.endsWith text).eval (.str subject) = true) := by
  refine ⟨escape_eq_passes text, ?_, ?_⟩
  · rw [← opening, matches_opening, ← List.isPrefixOf_iff_prefix]
    rfl
  · rw [← ending, matches_ending, ← List.isSuffixOf_iff_suffix]
    rfl

end ObjectQuery.Sql.Like
