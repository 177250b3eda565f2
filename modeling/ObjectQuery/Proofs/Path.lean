import Mathlib.Data.List.TakeWhile
import ObjectQuery.Path
import ObjectQuery.Proofs.Numeral.Digits
import ObjectQuery.Schema.Basic

/-!
# Paths of identifiers

A segment that a path can hold is read back from its own text. An identifier is such a segment: it is
read as the field of that name, and put before a path with a dot between it becomes the first field of
the longer path.
-/

namespace ObjectQuery

/-! ## Splitting -/

namespace Text

variable {sep : Char} {part : List Char}

/-- What does not hold the separator is one part. -/
theorem splitChars_of_not_mem (h : sep ∉ part) : splitChars sep part = [part] := by
  induction part with
  | nil => rfl
  | cons c cs ih =>
    obtain ⟨hc, hcs⟩ := not_or.mp (mt List.mem_cons.mpr h)
    rw [splitChars, if_neg (Ne.symm hc), ih hcs]

/-- A text is split behind its first separator. -/
theorem splitChars_append (h : sep ∉ part) (rest : List Char) :
    splitChars sep (part ++ sep :: rest) = part :: splitChars sep rest := by
  induction part with
  | nil => rw [List.nil_append, splitChars, if_pos rfl]
  | cons c cs ih =>
    obtain ⟨hc, hcs⟩ := not_or.mp (mt List.mem_cons.mpr h)
    rw [List.cons_append, splitChars, if_neg (Ne.symm hc), ih hcs]

/-- Splitting always gives a part, be it empty. -/
theorem splitChars_ne_nil (sep : Char) (cs : List Char) : splitChars sep cs ≠ [] := by
  fun_cases splitChars sep cs <;> simp_all

/-- A text splits at a separator into the parts before it and those after it. -/
theorem splitChars_join (front rest : List Char) :
    splitChars sep (front ++ sep :: rest) = splitChars sep front ++ splitChars sep rest := by
  induction front with
  | nil => rw [List.nil_append, splitChars, splitChars, if_pos rfl, List.singleton_append]
  | cons c cs ih =>
    rw [List.cons_append, splitChars, splitChars, ih]
    split
    · rfl
    · obtain ⟨first, parts, hparts⟩ := List.exists_cons_of_ne_nil (splitChars_ne_nil sep cs)
      rw [hparts]
      rfl

/-- The parts with the separators between them are the text. -/
theorem intercalate_splitChars (sep : Char) (cs : List Char) :
    [sep].intercalate (splitChars sep cs) = cs := by
  induction cs with
  | nil => rfl
  | cons c cs ih =>
    obtain ⟨first, parts, hparts⟩ := List.exists_cons_of_ne_nil (splitChars_ne_nil sep cs)
    rw [hparts] at ih
    rw [splitChars, hparts]
    split
    · next heq =>
      subst heq
      rw [List.intercalate_cons_cons, ih]
      rfl
    · cases parts with
      | nil => simp_all
      | cons second parts =>
        rw [List.intercalate_cons_cons] at ih ⊢
        rw [← ih]
        rfl

/-- A text is what its parts come to, with the dots between them again. -/
theorem intercalate_split (text : String) : ".".intercalate (split '.' text) = text := by
  apply String.toList_injective
  rw [String.toList_intercalate, split, List.map_map]
  simpa [Function.comp_def] using intercalate_splitChars '.' text.toList

/-- A text has a part, be it empty. -/
theorem split_ne_nil (sep : Char) (text : String) : split sep text ≠ [] := by
  simpa [split] using splitChars_ne_nil sep text.toList

/-- A text is known by its parts. -/
theorem split_injective {a b : String} (h : split sep a = split sep b) : a = b := by
  have hchars : splitChars sep a.toList = splitChars sep b.toList :=
    List.map_inj_right (fun _ _ => String.ofList_inj.mp) |>.mp h
  apply String.toList_injective
  rw [← intercalate_splitChars sep a.toList, hchars, intercalate_splitChars]

/-- A text without the separator is one part. -/
theorem split_of_not_mem {text : String} (h : sep ∉ text.toList) : split sep text = [text] := by
  rw [split, splitChars_of_not_mem h]
  simp

/-- Two texts with a separator between them split into the parts of the one and those of the other. -/
theorem split_join (sep : Char) (a b : String) :
    split sep (a ++ String.singleton sep ++ b) = split sep a ++ split sep b := by
  have hchars : (a ++ String.singleton sep ++ b).toList = a.toList ++ sep :: b.toList := by
    simp [String.toList_append]
  rw [split, hchars, splitChars_join, List.map_append]
  rfl

/-- Texts with a dot between them are split each for itself. -/
theorem split_append (a b : String) : split '.' (a ++ "." ++ b) = split '.' a ++ split '.' b :=
  split_join '.' a b

/-- What is put before a text, but is no separator, is put before its first part. -/
theorem split_push {c : Char} (hc : c ≠ '.') (text : String) :
    ∃ first rest, split '.' text = first :: rest ∧
      split '.' (String.singleton c ++ text) = (String.singleton c ++ first) :: rest := by
  obtain ⟨part, parts, hparts⟩ :=
    List.exists_cons_of_ne_nil (splitChars_ne_nil '.' text.toList)
  refine ⟨String.ofList part, parts.map String.ofList, by rw [split, hparts]; rfl, ?_⟩
  have hchars : (String.singleton c ++ text).toList = c :: text.toList := by
    simp [String.toList_append]
  have hfirst : String.singleton c ++ String.ofList part = String.ofList (c :: part) := by
    apply String.toList_injective
    simp [String.toList_append]
  rw [split, hchars, splitChars, if_neg hc, hparts, hfirst]
  rfl

end Text

/-! ## Identifiers -/

namespace Schema

variable {name : String}

/-- What a name starts with is no digit, and may be inside of a name too. -/
theorem isNameStart_spec {c : Char} (h : isNameStart c = true) :
    c.isDigit = false ∧ isNamePart c = true := by
  rcases Bool.or_eq_true_iff.mp h with halpha | hline
  · refine ⟨?_, by simp [isNamePart, Char.isAlphanum, halpha]⟩
    delta Char.isAlpha Char.isUpper Char.isLower at halpha
    simp only [Bool.or_eq_true, Bool.and_eq_true, decide_eq_true_eq, UInt32.le_iff_toNat_le,
      ge_iff_le] at halpha
    simp only [Char.isDigit, Bool.and_eq_false_iff, decide_eq_false_iff_not,
      UInt32.le_iff_toNat_le, ge_iff_le]
    change (65 ≤ c.toNat ∧ c.toNat ≤ 90) ∨ (97 ≤ c.toNat ∧ c.toNat ≤ 122) at halpha
    change ¬48 ≤ c.toNat ∨ ¬c.toNat ≤ 57
    omega
  · obtain rfl := beq_iff_eq.mp hline
    decide

/-- An identifier starts with no digit and is made of letters, digits and underscores. -/
theorem isName_parts (h : isName name = true) :
    ∃ c cs, name.toList = c :: cs ∧ c.isDigit = false ∧ ∀ d ∈ name.toList, isNamePart d = true := by
  unfold isName at h
  split at h
  · cases h
  · next first rest hlist =>
    obtain ⟨hfirst, hrest⟩ := Bool.and_eq_true_iff.mp h
    obtain ⟨hdigit, hfirst⟩ := isNameStart_spec hfirst
    rw [hlist]
    exact ⟨first, rest, rfl, hdigit, List.forall_mem_cons.mpr ⟨hfirst, List.all_eq_true.mp hrest⟩⟩

/-- A character that is no part of a name does not occur in an identifier. -/
theorem not_mem_of_isName (h : isName name = true) {c : Char} (hc : isNamePart c = false) :
    c ∉ name.toList := by
  intro hmem
  obtain ⟨_, _, -, -, hparts⟩ := isName_parts h
  exact Bool.false_ne_true (hc.symm.trans (hparts c hmem))

/-- An identifier is not empty, does not start with a digit, and has neither dot nor bracket. -/
theorem isName_chars (h : isName name = true) :
    name.toList ≠ [] ∧ name.toList.all Char.isDigit = false ∧
      ∀ c ∈ name.toList, c ≠ '.' ∧ c ≠ '[' := by
  have hdot := not_mem_of_isName h (c := '.') (by decide)
  have hbracket := not_mem_of_isName h (c := '[') (by decide)
  obtain ⟨first, rest, hlist, hdigit, -⟩ := isName_parts h
  refine ⟨hlist ▸ List.cons_ne_nil _ _, ?_, fun c hc => ⟨?_, ?_⟩⟩
  · rw [hlist, List.all_cons, hdigit, Bool.false_and]
  · rintro rfl
    exact hdot hc
  · rintro rfl
    exact hbracket hc

end Schema

/-! ## Segments as they are written -/

namespace Segment

/-- A segment that a path can hold: an index of sixty-four bits, or a name that is neither a number
nor breaks the path where it stands. -/
def Readable : Segment → Prop
  | .field name => name.toList.all Char.isDigit = false ∧ '.' ∉ name.toList ∧ '[' ∉ name.toList
  | .index position => position < Numeral.bound64

/-- An identifier is a name that a path can hold. -/
theorem readable_of_isName {name : String} (h : Schema.isName name = true) :
    (field name).Readable := by
  obtain ⟨-, hdigits, hchars⟩ := Schema.isName_chars h
  exact ⟨hdigits, fun hdot => (hchars _ hdot).1 rfl, fun hbracket => (hchars _ hbracket).2 rfl⟩

/-- A position is written with its decimal digits. -/
theorem text_index (position : Nat) :
    (index position).text.toList = Nat.toDigits 10 position := by
  simp [text, Nat.repr]

/-- A position is written with digits alone. -/
theorem isDigit_of_mem_text {position : Nat} {c : Char} (hc : c ∈ (index position).text.toList) :
    c.isDigit = true :=
  Nat.isDigit_of_mem_toDigits (by decide) (by decide) (text_index position ▸ hc)

/-- The text of a segment fits between two dots and before a bracket. -/
theorem text_chars {segment : Segment} (h : segment.Readable) :
    segment.text.toList ≠ [] ∧ '.' ∉ segment.text.toList ∧ '[' ∉ segment.text.toList := by
  cases segment with
  | field name =>
    obtain ⟨hdigits, hdot, hbracket⟩ := h
    refine ⟨fun hnil => ?_, hdot, hbracket⟩
    rw [show name.toList = [] from hnil] at hdigits
    cases hdigits
  | index position =>
    refine ⟨text_index position ▸ Nat.toDigits_ne_nil, fun hdot => ?_, fun hbracket => ?_⟩
    · exact absurd (isDigit_of_mem_text hdot) (by decide)
    · exact absurd (isDigit_of_mem_text hbracket) (by decide)

end Segment

namespace Path

variable {name path : String} {segment : Segment} {segments : List Segment}

/-- The text of a segment that a path can hold is read as that segment. -/
theorem readName_text (h : segment.Readable) : readName segment.text.toList = some segment := by
  cases segment with
  | field name =>
    rw [readName, show (Segment.field name).text = name from rfl, h.1]
    simp
  | index position =>
    have hdigits : ∀ c ∈ Nat.toDigits 10 position, c.isDigit = true :=
      fun c hc => Segment.isDigit_of_mem_text (Segment.text_index position ▸ hc)
    have hvalue : Numeral.ofDigits (Nat.toDigits 10 position) = position := by
      rw [Numeral.ofDigits_eq, Nat.ofDigitChars_ten_toDigits]
    have hread : Numeral.readDigits? (Nat.toDigits 10 position) Numeral.bound64 =
        some position := by
      have hnone : (Nat.toDigits 10 position).any (fun c => !c.isDigit) = false := by
        simpa using hdigits
      rw [Numeral.readDigits?, List.isEmpty_eq_false_iff.mpr Nat.toDigits_ne_nil, hnone, hvalue]
      exact if_pos h
    rw [Segment.text_index, readName, if_pos (List.all_eq_true.mpr hdigits), hread]
    rfl

/-- A segment between dots is read as itself. -/
theorem readPart_text (h : segment.Readable) (first : Bool) :
    readPart first segment.text.toList = some [segment] := by
  obtain ⟨hne, -, hbracket⟩ := Segment.text_chars h
  have hall : ∀ c ∈ segment.text.toList, decide (c ≠ '[') = true :=
    fun c hc => decide_eq_true fun heq => hbracket (heq ▸ hc)
  have htake : segment.text.toList.takeWhile (· ≠ '[') = segment.text.toList :=
    List.takeWhile_eq_self_iff.mpr hall
  have hdrop : segment.text.toList.dropWhile (· ≠ '[') = [] := List.dropWhile_eq_nil_iff.mpr hall
  have hnonempty : segment.text.toList.isEmpty = false := List.isEmpty_eq_false_iff.mpr hne
  unfold readPart
  simp only [htake, hdrop, hnonempty, readName_text h]
  rfl

/-- The texts of segments that a path can hold are read as those segments, part by part. -/
theorem readParts_text (h : ∀ segment ∈ segments, segment.Readable) (first : Bool) :
    readParts first (segments.map (·.text.toList)) = some segments := by
  induction segments generalizing first with
  | nil => rfl
  | cons segment rest ih =>
    obtain ⟨hsegment, hrest⟩ := List.forall_mem_cons.mp h
    rw [List.map_cons, readParts, readPart_text hsegment, ih hrest]
    rfl

/-- An identifier is a part of a path, and one segment. -/
theorem readPart_name (h : Schema.isName name = true) (first : Bool) :
    readPart first name.toList = some [.field name] :=
  readPart_text (Segment.readable_of_isName h) first

/-- What may stand first may stand later. -/
theorem readPart_of_first {part : List Char} (h : readPart true part = some segments) :
    readPart false part = some segments := by
  unfold readPart at h ⊢
  dsimp only at h ⊢
  split at h
  · simp at h
  · next hname => rw [if_neg hname, h]

/-- Parts that can start a path can go on with one too. -/
theorem readParts_of_first {parts : List (List Char)} (h : readParts true parts = some segments) :
    readParts false parts = some segments := by
  cases parts with
  | nil => exact h
  | cons part rest =>
    rw [readParts] at h ⊢
    split at h
    · next first hfirst =>
      rw [readPart_of_first hfirst]
      exact h
    · cases h

/-- A path is read by its parts, the first of which may not be missing. -/
theorem parse_eq_ok :
    parse path = .ok segments ↔
      readParts true (Text.splitChars '.' path.toList) = some segments := by
  unfold parse
  split <;> simp_all

/-- An identifier is a path of one field. -/
theorem parse_name (h : Schema.isName name = true) : parse name = .ok [.field name] := by
  have hdot : '.' ∉ name.toList := fun hmem => ((Schema.isName_chars h).2.2 _ hmem).1 rfl
  rw [parse_eq_ok, Text.splitChars_of_not_mem hdot, readParts, readPart_name h]
  rfl

/-- An identifier and a dot before a path make it one field longer. -/
theorem parse_cons (h : Schema.isName name = true) (hpath : parse path = .ok segments) :
    parse (name ++ "." ++ path) = .ok (.field name :: segments) := by
  have hdot : '.' ∉ name.toList := fun hmem => ((Schema.isName_chars h).2.2 _ hmem).1 rfl
  have hsplit : Text.splitChars '.' (name ++ "." ++ path).toList =
      name.toList :: Text.splitChars '.' path.toList := by
    rw [String.toList_append, String.toList_append, List.append_assoc]
    exact Text.splitChars_append hdot path.toList
  rw [parse_eq_ok, hsplit, readParts, readPart_name h, readParts_of_first (parse_eq_ok.mp hpath)]
  rfl

/-! ## Names with dots between them -/

/-- An identifier has no dot, so it is not split. -/
theorem split_name (h : Schema.isName name = true) : Text.split '.' name = [name] :=
  Text.split_of_not_mem fun hmem => ((Schema.isName_chars h).2.2 _ hmem).1 rfl

/-- Names one below the other as a path. -/
def dotted (first : String) (names : List String) : String :=
  names.foldl (fun path name => path ++ "." ++ name) first

/-- A name may be taken as a part of what stands before it. -/
theorem dotted_cons (first name : String) (names : List String) :
    dotted first (name :: names) = dotted (first ++ "." ++ name) names := rfl

/-- Names are set behind one another in turns. -/
theorem dotted_append (first : String) (front back : List String) :
    dotted first (front ++ back) = dotted (dotted first front) back := List.foldl_append

/-- A text with identifiers behind it is split at the dots between them. -/
theorem split_dotted (first : String) {names : List String}
    (h : ∀ name ∈ names, Schema.isName name = true) :
    Text.split '.' (dotted first names) = Text.split '.' first ++ names := by
  induction names generalizing first with
  | nil => exact (List.append_nil _).symm
  | cons name rest ih =>
    obtain ⟨hname, hrest⟩ := List.forall_mem_cons.mp h
    rw [dotted_cons, ih _ hrest, Text.split_append, split_name hname, List.append_assoc]
    rfl

/-- Identifiers are read as fields, one by one. -/
theorem readParts_names {names : List String} (h : ∀ name ∈ names, Schema.isName name = true)
    (first : Bool) : readParts first (names.map String.toList) = some (names.map .field) := by
  have hreadable : ∀ segment ∈ names.map Segment.field, segment.Readable := by
    intro segment hmem
    obtain ⟨name, hname, rfl⟩ := List.mem_map.mp hmem
    exact Segment.readable_of_isName (h name hname)
  have hread := readParts_text hreadable first
  rwa [List.map_map] at hread

/-- A path that is split into identifiers is read as their fields. -/
theorem parse_of_split {names : List String} (hsplit : Text.split '.' path = names)
    (h : ∀ name ∈ names, Schema.isName name = true) : parse path = .ok (names.map .field) := by
  have hparts : Text.splitChars '.' path.toList = names.map String.toList := by
    rw [← hsplit, Text.split, List.map_map]
    simp [Function.comp_def]
  rw [parse_eq_ok, hparts, readParts_names h]

/-! ## Paths of fields only -/

/-- What stands in brackets is read as indices. -/
theorem readBrackets_index {cs : List Char} {inside : Option (List Char)}
    (h : readBrackets cs inside = some segments) : ∀ name, .field name ∉ segments := by
  fun_induction readBrackets cs inside generalizing segments with
  | case1 => cases h; simp
  | case2 | case4 | case6 => cases h
  | case3 cs ih => exact ih h
  | case5 cs inside i _ ih =>
    obtain ⟨rest, hrest, rfl⟩ := Option.map_eq_some_iff.mp h
    simpa using ih hrest
  | case7 c cs inside _ ih => exact ih h

/-- Brackets without a position in them are not read, unless there is no text left. -/
theorem readBrackets_nil {cs : List Char} {inside : Option (List Char)}
    (h : readBrackets cs inside = some []) : cs = [] := by
  fun_induction readBrackets cs inside with
  | case1 => rfl
  | case2 | case4 | case6 => cases h
  | case3 cs ih =>
    obtain rfl := ih h
    cases h
  | case5 cs inside i _ ih =>
    obtain ⟨rest, -, hrest⟩ := Option.map_eq_some_iff.mp h
    cases hrest
  | case7 c cs inside _ ih =>
    obtain rfl := ih h
    cases h

/-- A part that is read as fields only is one name. -/
theorem readPart_fields {first : Bool} {part : List Char} {names : List String}
    (h : readPart first part = some (names.map .field)) : names = [String.ofList part] := by
  have hno : ∀ {cs : List Char} {segments : List Segment} (front : List Segment),
      readBrackets cs none = some segments → front ++ segments = names.map .field →
        segments = [] := by
    intro cs segments front hread heq
    refine List.eq_nil_iff_forall_not_mem.mpr fun segment hmem => ?_
    have hfield : segment ∈ names.map Segment.field := heq ▸ List.mem_append_right front hmem
    obtain ⟨name, -, rfl⟩ := List.mem_map.mp hfield
    exact readBrackets_index hread name hmem
  unfold readPart at h
  dsimp only at h
  split at h
  · split at h
    · cases h
    · next hbrackets =>
      rw [hno [] h rfl] at h
      rw [readBrackets_nil h] at hbrackets
      cases hbrackets rfl
  · split at h
    · next segment hname =>
      obtain ⟨segments, hsegments, heq⟩ := Option.map_eq_some_iff.mp h
      obtain rfl := hno [segment] hsegments heq
      have hall : part.takeWhile (· ≠ '[') = part := by
        have htake := List.takeWhile_append_dropWhile (p := (· ≠ '[')) (l := part)
        rwa [readBrackets_nil hsegments, List.append_nil] at htake
      rw [hall, readName] at hname
      split at hname
      · obtain ⟨i, -, rfl⟩ := Option.map_eq_some_iff.mp hname
        cases names <;> cases heq
      · cases hname
        match names, heq with
        | [name], heq =>
          cases heq
          rfl
    · cases h

/-- Where only fields are read, the parts are their names. -/
theorem readParts_fields {first : Bool} {parts : List (List Char)} {names : List String}
    (h : readParts first parts = some (names.map .field)) : names = parts.map String.ofList := by
  induction parts generalizing first names with
  | nil => cases names <;> cases h; rfl
  | cons part rest ih =>
    rw [readParts] at h
    split at h
    · next segments hpart =>
      obtain ⟨more, hmore, heq⟩ := Option.map_eq_some_iff.mp h
      obtain ⟨front, back, rfl, rfl, rfl⟩ := List.append_eq_map_iff.mp heq
      rw [readPart_fields hpart, ih hmore]
      rfl
    · cases h

/-- A path that is read as fields only is their names with dots between them. -/
theorem split_of_parse {names : List String} (h : parse path = .ok (names.map .field)) :
    Text.split '.' path = names :=
  (readParts_fields (parse_eq_ok.mp h)).symm

/-! ## Parts one after another -/

/-- A part that is read gives a segment. -/
theorem readPart_ne_nil {first : Bool} {part : List Char}
    (h : readPart first part = some segments) : segments ≠ [] := by
  rintro rfl
  unfold readPart at h
  dsimp only at h
  split at h
  · split at h
    · cases h
    · next hbrackets =>
      rw [readBrackets_nil h] at hbrackets
      exact hbrackets (by simp)
  · split at h
    · obtain ⟨_, -, hcons⟩ := Option.map_eq_some_iff.mp h
      cases hcons
    · cases h

/-- Parts that are read give a segment, if there are any. -/
theorem readParts_ne_nil {first : Bool} {parts : List (List Char)} (hne : parts ≠ [])
    (h : readParts first parts = some segments) : segments ≠ [] := by
  obtain ⟨part, rest, rfl⟩ := List.exists_cons_of_ne_nil hne
  rw [readParts] at h
  split at h
  · next front hfront =>
    obtain ⟨back, -, rfl⟩ := Option.map_eq_some_iff.mp h
    exact List.append_ne_nil_of_left_ne_nil (readPart_ne_nil hfront) _
  · cases h

/-- A path has a segment. -/
theorem parse_ne_nil (h : parse path = .ok segments) : segments ≠ [] :=
  readParts_ne_nil (Text.splitChars_ne_nil '.' path.toList) (parse_eq_ok.mp h)

/-- Parts are read from left to right, so what is read of the first ones stands first. -/
theorem readParts_append {first : Bool} {front back : List (List Char)} (hne : front ≠ [])
    (h : readParts first (front ++ back) = some segments) :
    ∃ before behind, readParts first front = some before ∧ readParts false back = some behind ∧
      segments = before ++ behind := by
  induction front generalizing first segments with
  | nil => exact absurd rfl hne
  | cons part rest ih =>
    rw [List.cons_append, readParts] at h
    split at h
    · next own hown =>
      obtain ⟨more, hmore, rfl⟩ := Option.map_eq_some_iff.mp h
      cases rest with
      | nil =>
        refine ⟨own, more, ?_, hmore, rfl⟩
        rw [readParts, hown]
        simp [readParts]
      | cons next rest =>
        obtain ⟨before, behind, hbefore, hbehind, rfl⟩ := ih (List.cons_ne_nil _ _) hmore
        refine ⟨own ++ before, behind, ?_, hbehind, by rw [List.append_assoc]⟩
        rw [readParts, hown, hbefore]
        rfl
    · cases h

/-- A path that goes on after another has more segments. -/
theorem parse_append {longer : String} {names : List String} {before all : List Segment}
    (hsplit : Text.split '.' longer = Text.split '.' path ++ names) (hne : names ≠ [])
    (h : parse path = .ok before) (hlonger : parse longer = .ok all) :
    ∃ behind, behind ≠ [] ∧ all = before ++ behind := by
  have hparts : Text.splitChars '.' longer.toList =
      Text.splitChars '.' path.toList ++ names.map String.toList := by
    have hmap := congrArg (List.map String.toList) hsplit
    simpa [Text.split, Function.comp_def] using hmap
  rw [parse_eq_ok] at h hlonger
  rw [hparts] at hlonger
  obtain ⟨first, behind, hfirst, hbehind, rfl⟩ :=
    readParts_append (Text.splitChars_ne_nil '.' path.toList) hlonger
  obtain rfl := Option.some.inj (h.symm.trans hfirst)
  exact ⟨behind, readParts_ne_nil (by simpa using hne) hbehind, rfl⟩

end Path

end ObjectQuery
