import ObjectQuery.Proofs.Path

/-!
# Paths written out and read again

What is left of a path on another class is written out and read there anew. Nothing is lost on the
way: a segment that was read from a path is read back from its own text, and brackets come back as
segments between dots.
-/

namespace ObjectQuery

namespace Text

variable {sep : Char} {part cs : List Char}

theorem splitChars_intercalate {parts : List (List Char)} (hne : parts ≠ [])
    (h : ∀ part ∈ parts, sep ∉ part) : splitChars sep ([sep].intercalate parts) = parts := by
  induction parts with
  | nil => exact absurd rfl hne
  | cons part rest ih =>
    obtain ⟨hpart, hrest⟩ := List.forall_mem_cons.mp h
    cases rest with
    | nil => rw [List.intercalate_singleton, splitChars_of_not_mem hpart]
    | cons next rest =>
      rw [List.intercalate_cons_cons, List.append_assoc, List.singleton_append,
        splitChars_append hpart, ih (List.cons_ne_nil _ _) hrest]

theorem splitChars_toList_intercalate {parts : List String} (hne : parts ≠ [])
    (h : ∀ part ∈ parts, '.' ∉ part.toList) :
    splitChars '.' (".".intercalate parts).toList = parts.map String.toList := by
  have htext : (".".intercalate parts).toList = ['.'].intercalate (parts.map String.toList) := by
    rw [String.toList_intercalate]
    rfl
  rw [htext]
  refine splitChars_intercalate (by simpa using hne) fun part hpart => ?_
  obtain ⟨text, hmem, rfl⟩ := List.mem_map.mp hpart
  exact h text hmem

/-- Parts without dots are the parts of the text they are written to. -/
theorem split_intercalate {parts : List String} (hne : parts ≠ [])
    (h : ∀ part ∈ parts, '.' ∉ part.toList) : split '.' (".".intercalate parts) = parts := by
  rw [split, splitChars_toList_intercalate hne h, List.map_map]
  simp [Function.comp_def]

/-- A separator stands between the parts and in none of them. -/
theorem not_mem_of_mem_splitChars (h : part ∈ splitChars sep cs) : sep ∉ part := by
  induction cs generalizing part with
  | nil =>
    obtain rfl := List.mem_singleton.mp h
    exact List.not_mem_nil
  | cons c cs ih =>
    obtain ⟨first, parts, hparts⟩ := List.exists_cons_of_ne_nil (splitChars_ne_nil sep cs)
    rw [hparts] at ih
    rw [splitChars, hparts] at h
    split at h
    · rcases List.mem_cons.mp h with rfl | hmem
      · exact List.not_mem_nil
      · exact ih hmem
    · next hc =>
      rcases List.mem_cons.mp h with rfl | hmem
      · have hfirst : sep ∉ first := ih List.mem_cons_self
        simpa [Ne.symm hc] using hfirst
      · exact ih (List.mem_cons_of_mem _ hmem)

theorem not_mem_of_mem_split {text part : String} (h : part ∈ split sep text) :
    sep ∉ part.toList := by
  obtain ⟨chars, hchars, rfl⟩ := List.mem_map.mp h
  rw [String.toList_ofList]
  exact not_mem_of_mem_splitChars hchars

end Text

namespace Path

variable {path : String} {segment : Segment} {segments : List Segment}

/-- No text of a segment breaks the path it is written to. -/
theorem not_mem_of_mem_texts (h : ∀ segment ∈ segments, segment.Readable) :
    ∀ part ∈ segments.map Segment.text, '.' ∉ part.toList := by
  intro part hpart
  obtain ⟨segment, hmem, rfl⟩ := List.mem_map.mp hpart
  exact (Segment.text_chars (h segment hmem)).2.1

/-- The parts of a rendered path are the texts of its segments. -/
theorem split_render (hne : segments ≠ []) (h : ∀ segment ∈ segments, segment.Readable) :
    Text.split '.' (render segments) = segments.map Segment.text :=
  Text.split_intercalate (by simpa using hne) (not_mem_of_mem_texts h)

/-- Segments that are written out are read back. -/
theorem parse_render (hne : segments ≠ []) (h : ∀ segment ∈ segments, segment.Readable) :
    parse (render segments) = .ok segments := by
  have hparts : Text.splitChars '.' (render segments).toList = segments.map (·.text.toList) := by
    rw [render, Text.splitChars_toList_intercalate (by simpa using hne) (not_mem_of_mem_texts h),
      List.map_map]
    rfl
  rw [parse_eq_ok, hparts, readParts_text h]

/-! ## The segments of a path -/

theorem readable_of_readDigits {cs : List Char} {position : Nat}
    (h : Numeral.readDigits? cs Numeral.bound64 = some position) :
    (Segment.index position).Readable := by
  unfold Numeral.readDigits? at h
  dsimp only at h
  split at h
  · cases h
  · split at h
    · next hbound =>
      cases h
      exact hbound
    · cases h

theorem readable_of_readIndex {cs : List Char} {position : Nat} (h : readIndex? cs = some position) :
    (Segment.index position).Readable := by
  unfold readIndex? Numeral.readUnsigned? at h
  split at h <;> exact readable_of_readDigits h

theorem readable_of_readBrackets {cs : List Char} {inside : Option (List Char)}
    (h : readBrackets cs inside = some segments) : ∀ segment ∈ segments, segment.Readable := by
  fun_induction readBrackets cs inside generalizing segments with
  | case1 => cases h; simp
  | case2 | case4 | case6 => cases h
  | case3 cs ih => exact ih h
  | case5 cs inside i hindex ih =>
    obtain ⟨rest, hrest, rfl⟩ := Option.map_eq_some_iff.mp h
    exact List.forall_mem_cons.mpr ⟨readable_of_readIndex hindex, ih hrest⟩
  | case7 c cs inside _ ih => exact ih h

theorem readable_of_readName {name : List Char} (hdot : '.' ∉ name) (hbracket : '[' ∉ name)
    (h : readName name = some segment) : segment.Readable := by
  unfold readName at h
  split at h
  · obtain ⟨position, hposition, rfl⟩ := Option.map_eq_some_iff.mp h
    exact readable_of_readDigits hposition
  · next hdigits =>
    cases h
    simpa [Segment.Readable, hdot, hbracket] using hdigits

theorem readable_of_readPart {first : Bool} {part : List Char} (hdot : '.' ∉ part)
    (h : readPart first part = some segments) : ∀ segment ∈ segments, segment.Readable := by
  unfold readPart at h
  dsimp only at h
  split at h
  · split at h
    · cases h
    · exact readable_of_readBrackets h
  · split at h
    · next segment hname =>
      obtain ⟨rest, hrest, rfl⟩ := Option.map_eq_some_iff.mp h
      refine List.forall_mem_cons.mpr ⟨readable_of_readName ?_ ?_ hname,
        readable_of_readBrackets hrest⟩
      · exact fun hmem => hdot (List.takeWhile_subset _ hmem)
      · exact fun hmem => absurd (List.mem_takeWhile_imp hmem) (by decide)
    · cases h

theorem readable_of_readParts {first : Bool} {parts : List (List Char)}
    (hdot : ∀ part ∈ parts, '.' ∉ part) (h : readParts first parts = some segments) :
    ∀ segment ∈ segments, segment.Readable := by
  induction parts generalizing first segments with
  | nil =>
    cases h
    simp
  | cons part rest ih =>
    obtain ⟨hpart, hrest⟩ := List.forall_mem_cons.mp hdot
    rw [readParts] at h
    split at h
    · next front hfront =>
      obtain ⟨back, hback, rfl⟩ := Option.map_eq_some_iff.mp h
      exact List.forall_mem_append.mpr ⟨readable_of_readPart hpart hfront, ih hrest hback⟩
    · cases h

theorem readable_of_parse (h : parse path = .ok segments) :
    ∀ segment ∈ segments, segment.Readable :=
  readable_of_readParts (fun _ hpart => Text.not_mem_of_mem_splitChars hpart) (parse_eq_ok.mp h)

/-- What a path ends with, written out, is a path of its own. -/
theorem parse_render_of_suffix {front back : List Segment} (h : parse path = .ok (front ++ back))
    (hne : back ≠ []) : parse (render back) = .ok back :=
  parse_render hne fun segment hmem => readable_of_parse h segment (List.mem_append_right front hmem)

end Path

end ObjectQuery
