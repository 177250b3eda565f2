import ObjectQuery.Proofs.Json
import ObjectQuery.Proofs.Path.Rendering
import ObjectQuery.Proofs.Schema.Leaves

/-!
# The spellings of a path, in memory and in the store

A path may write an index in brackets or between dots, and with needless zeros. The schema reads all
spellings as the same segments, and so does whatever is compiled from it. A value in memory is walked
by the parts between dots as they stand: there the rendered spelling leads along the segments, and no
other spelling leads to the same place in every value.
-/

namespace ObjectQuery

/-- What is no separator stands in a text exactly if it stands in one of its parts. -/
theorem Text.exists_mem_splitChars {sep c : Char} (hc : c ≠ sep) (cs : List Char) :
    (∃ part ∈ splitChars sep cs, c ∈ part) ↔ c ∈ cs := by
  induction cs with
  | nil => simp [splitChars]
  | cons d cs ih =>
    rw [splitChars]
    split
    · next hd => simp [ih, hd, hc]
    · obtain ⟨part, parts, hparts⟩ := List.exists_cons_of_ne_nil (splitChars_ne_nil sep cs)
      rw [hparts] at ih ⊢
      rw [List.mem_cons, ← ih]
      simp [or_assoc]

theorem Text.exists_mem_split {sep c : Char} (hc : c ≠ sep) (text : String) :
    (∃ part ∈ split sep text, c ∈ part.toList) ↔ c ∈ text.toList := by
  rw [← Text.exists_mem_splitChars hc, split]
  simp

/-! ## Parts as they are written -/

namespace Path

variable {path : String} {part : List Char} {segment : Segment} {segments : List Segment}

/-- An index between dots with a needless zero in front. -/
def ZeroPadded (part : String) : Prop :=
  part.toList.all Char.isDigit = true ∧ ∃ c rest, part.toList = '0' :: c :: rest

/-- No bracket stands in a rendered path. -/
theorem bracket_not_mem_render (hne : segments ≠ []) (h : ∀ segment ∈ segments, segment.Readable) :
    '[' ∉ (render segments).toList := by
  intro hmem
  obtain ⟨part, hpart, hbracket⟩ := (Text.exists_mem_split (show '[' ≠ '.' by decide) _).mpr hmem
  rw [split_render hne h] at hpart
  obtain ⟨segment, hsegment, rfl⟩ := List.mem_map.mp hpart
  exact (Segment.text_chars (h segment hsegment)).2.2 hbracket

/-- A number is written without needless zeros. -/
theorem not_zeroPadded_text (h : segment.Readable) : ¬ ZeroPadded segment.text := by
  rintro ⟨hdigits, c, rest, htext⟩
  cases segment with
  | field name =>
    have hname : name.toList.all Char.isDigit = true := hdigits
    rw [h.1] at hname
    cases hname
  | index position =>
    rw [Segment.text_index] at htext
    rcases Nat.eq_zero_or_pos position with rfl | hpos
    · cases htext
    · exact Numeral.head?_toDigits_ne hpos (by rw [htext]; rfl)

/-- Without brackets a part is one segment. -/
theorem readPart_of_not_mem {first : Bool} (hbracket : '[' ∉ part)
    (h : readPart first part = some segments) :
    ∃ segment, segments = [segment] ∧ readName part = some segment := by
  have hall : ∀ c ∈ part, decide (c ≠ '[') = true :=
    fun c hc => decide_eq_true fun heq => hbracket (heq ▸ hc)
  have htake : part.takeWhile (· ≠ '[') = part := List.takeWhile_eq_self_iff.mpr hall
  have hdrop : part.dropWhile (· ≠ '[') = [] := List.dropWhile_eq_nil_iff.mpr hall
  unfold readPart at h
  simp only [htake, hdrop] at h
  split at h
  · simp at h
  · split at h
    · next segment hname =>
      rw [readBrackets, Option.map_some, Option.some.injEq] at h
      exact ⟨segment, h.symm, hname⟩
    · cases h

theorem readParts_of_not_mem {first : Bool} {parts : List (List Char)}
    (hbracket : ∀ part ∈ parts, '[' ∉ part) (h : readParts first parts = some segments) :
    List.Forall₂ (fun part segment => readName part = some segment) parts segments := by
  induction parts generalizing first segments with
  | nil =>
    cases h
    exact .nil
  | cons part rest ih =>
    obtain ⟨hpart, hrest⟩ := List.forall_mem_cons.mp hbracket
    rw [readParts] at h
    split at h
    · next own hown =>
      obtain ⟨more, hmore, rfl⟩ := Option.map_eq_some_iff.mp h
      obtain ⟨segment, rfl, hname⟩ := readPart_of_not_mem hpart hown
      exact .cons hname (ih hrest hmore)
    · cases h

theorem readDigits?_eq_some {bound value : Nat} (h : Numeral.readDigits? part bound = some value) :
    part ≠ [] ∧ value = Numeral.ofDigits part := by
  unfold Numeral.readDigits? at h
  dsimp only at h
  split at h
  · cases h
  · next hread =>
    obtain ⟨-, heq⟩ := Option.ite_none_right_eq_some.mp h
    refine ⟨?_, (Option.some.inj heq).symm⟩
    rintro rfl
    simp at hread

/-- A part of digits is read as an index. -/
theorem index_of_readName (hdigits : part.all Char.isDigit = true)
    (h : readName part = some segment) :
    ∃ position, segment = .index position ∧
      Numeral.readDigits? part Numeral.bound64 = some position := by
  rw [readName, if_pos hdigits] at h
  obtain ⟨position, hposition, rfl⟩ := Option.map_eq_some_iff.mp h
  exact ⟨position, rfl, hposition⟩

/-- An index without needless zeros is written as it is rendered, and so is a name. -/
theorem text_of_readName (h : readName part = some segment)
    (hpadded : ¬ ZeroPadded (String.ofList part)) : segment.text = String.ofList part := by
  by_cases hdigits : part.all Char.isDigit = true
  · obtain ⟨position, rfl, hposition⟩ := index_of_readName hdigits h
    obtain ⟨hne, rfl⟩ := readDigits?_eq_some hposition
    apply String.toList_injective
    rw [Segment.text_index, String.toList_ofList, Numeral.ofDigits_eq]
    by_cases hzero : part.head? = some '0'
    · obtain ⟨rest, rfl⟩ := List.head?_eq_some_iff.mp hzero
      cases rest with
      | nil => rfl
      | cons c rest =>
        refine absurd ⟨?_, c, rest, String.toList_ofList⟩ hpadded
        rwa [String.toList_ofList]
    · exact (Numeral.toDigits_ofDigitChars (List.all_eq_true.mp hdigits) hne hzero).2
  · rw [readName, if_neg hdigits] at h
    cases h
    rfl

end Path

/-! ## Walks in a value -/

namespace Value

open ObjectQuery.Path (ZeroPadded)

variable {path : String} {part : List Char} {segment : Segment} {segments : List Segment}

/-- An object of one member in another, down to `true`. -/
def nest : List String → Json
  | [] => .bool true
  | name :: rest => .obj [(name, nest rest)]

/-- Only the names it was nested by lead to the bottom. -/
theorem foldl_step_nest {names parts : List String} :
    parts.foldl step (nest names) = .bool true ↔ parts = names := by
  induction names generalizing parts with
  | nil =>
    cases parts with
    | nil => simp [nest]
    | cons part rest =>
      have hnull : step (nest []) part = .null := rfl
      rw [List.foldl_cons, hnull, foldl_step_null]
      simp
  | cons name names ih =>
    cases parts with
    | nil => simp [nest]
    | cons part rest =>
      rw [List.foldl_cons]
      by_cases hpart : part = name
      · subst hpart
        have hdown : step (nest (part :: names)) part = nest names := by
          simp [step, nest, Json.member?]
        rw [hdown, ih]
        simp
      · have hnull : step (nest (name :: names)) part = .null := by
          simp [step, nest, Json.member?, List.lookup_cons, beq_eq_false_iff_ne.mpr hpart]
        rw [hnull, foldl_step_null]
        simp [hpart]

/-- Paths that lead to the same place in every value are the same text. -/
theorem eq_of_getPath_eq {a b : String} (h : ∀ v, getPath v a = getPath v b) : a = b := by
  have hbottom := h (nest (Text.split '.' b))
  unfold getPath at hbottom
  rw [foldl_step_nest.mpr rfl] at hbottom
  exact Text.split_injective (foldl_step_nest.mp hbottom)

/-- Digits lead to the item at their value. -/
theorem step_arr_of_readDigits {position : Nat} (hdigits : part.all Char.isDigit = true)
    (h : Numeral.readDigits? part Numeral.bound64 = some position) (items : List Json) :
    step (.arr items) (String.ofList part) = items.getD position .null := by
  have hread : Numeral.readUnsigned? (String.ofList part) Numeral.bound64 = some position := by
    unfold Numeral.readUnsigned?
    rw [String.toList_ofList]
    split
    · simp at hdigits
    · exact h
  simp only [step, hread]

/-- Outside of objects an index leads to the same place however it is written. -/
theorem step_text (h : Path.readName part = some segment) {v : Json}
    (hv : ZeroPadded (String.ofList part) → ∀ members, v ≠ .obj members) :
    step v (String.ofList part) = step v segment.text := by
  by_cases hpadded : ZeroPadded (String.ofList part)
  · have hdigits : part.all Char.isDigit = true := by
      have hall := hpadded.1
      rwa [String.toList_ofList] at hall
    obtain ⟨position, rfl, hposition⟩ := Path.index_of_readName hdigits h
    have hrendered := Path.readName_text (Path.readable_of_readDigits hposition)
    cases v with
    | obj members => exact absurd rfl (hv hpadded members)
    | arr items =>
      have htext : (Segment.index position).text.toList.all Char.isDigit = true :=
        List.all_eq_true.mpr fun c hc => Segment.isDigit_of_mem_text hc
      obtain ⟨_, heq, hsame⟩ := Path.index_of_readName htext hrendered
      cases heq
      rw [step_arr_of_readDigits hdigits hposition,
        ← String.ofList_toList (s := (Segment.index position).text),
        step_arr_of_readDigits htext hsame]
    | null | bool | num | str => rfl
  · rw [Path.text_of_readName h hpadded]

/-- A path leads to the same place as the texts of its segments, by induction on the parts: what an
object binds is looked up by the part as it stands. -/
theorem foldl_step_text {parts : List (List Char)}
    (h : List.Forall₂ (fun part segment => Path.readName part = some segment) parts segments)
    (v : Json)
    (hv : ∀ front part back, parts.map String.ofList = front ++ part :: back → ZeroPadded part →
      ∀ members, front.foldl step v ≠ .obj members) :
    (parts.map String.ofList).foldl step v = (segments.map Segment.text).foldl step v := by
  induction h generalizing v with
  | nil => rfl
  | @cons part segment parts segments hname _ ih =>
    have hstep : step v (String.ofList part) = step v segment.text :=
      step_text hname (hv [] _ _ rfl)
    rw [List.map_cons, List.map_cons, List.foldl_cons, List.foldl_cons, ← hstep]
    refine ih _ fun front other back hsplit => ?_
    exact hv (String.ofList part :: front) other back (by rw [List.map_cons, hsplit]; rfl)

/-- A path without brackets leads along its segments where no object meets a needless zero. -/
theorem getPath_of_no_bracket (h : Path.parse path = .ok segments) (hbracket : '[' ∉ path.toList)
    {v : Json}
    (hv : ∀ front part back, Text.split '.' path = front ++ part :: back → ZeroPadded part →
      ∀ members, front.foldl step v ≠ .obj members) :
    getPath v path = (segments.map Segment.text).foldl step v := by
  have hnone : ∀ part ∈ Text.splitChars '.' path.toList, '[' ∉ part := by
    intro part hpart hmem
    exact hbracket ((Text.exists_mem_splitChars (by decide) _).mp ⟨part, hpart, hmem⟩)
  exact foldl_step_text (Path.readParts_of_not_mem hnone (Path.parse_eq_ok.mp h)) v hv

end Value

/-! ## The spelling in the schema -/

namespace Schema

variable {s : Schema}

/-- A refusal is worded by the path as it is written; what is found is not. -/
theorem toOption_columnBelow (refuse refuse' : PathReason → Error) (name : String) (ty : FieldType)
    (segments : List Segment) :
    (s.columnBelow refuse name ty segments).toOption =
      (s.columnBelow refuse' name ty segments).toOption := by
  fun_induction columnBelow s refuse name ty segments with
  | case5 name rest dimension default? i hrange hlast =>
    rw [columnBelow, if_neg hrange, if_pos hlast]
    rfl
  | case6 name rest dimension default? i hrange hlast =>
    rw [columnBelow, if_neg hrange, if_neg hlast]
  | _ => simp_all [columnBelow, Except.toOption]

theorem toOption_columnOf (className path path' : String) (segments : List Segment) :
    (s.columnOf className path segments).toOption =
      (s.columnOf className path' segments).toOption := by
  unfold columnOf
  split
  · rfl
  · split
    · exact toOption_columnBelow ..
    · rfl
  · rfl

end Schema

/-! ## Both spellings -/

namespace Value

open ObjectQuery.Path (ZeroPadded)

/--
The rendered spelling of a path leads along its segments. A path as it is written leads to the same
place in every value exactly if it has no bracket and no index with needless zeros; without brackets
it does so in each value that has no object where such an index stands. The schema finds the same type
and the same column by both spellings, whatever the path is written with.
-/
theorem getPath_render {path : String} {segments : List Segment}
    (h : Path.parse path = .ok segments) :
    (∀ v, getPath v (Path.render segments) = (segments.map Segment.text).foldl step v) ∧
    ((∀ v, getPath v path = getPath v (Path.render segments)) ↔
      '[' ∉ path.toList ∧ ∀ part ∈ Text.split '.' path, ¬ ZeroPadded part) ∧
    ('[' ∉ path.toList → ∀ v,
      (∀ front part back, Text.split '.' path = front ++ part :: back → ZeroPadded part →
        ∀ members, front.foldl step v ≠ .obj members) →
          getPath v path = getPath v (Path.render segments)) ∧
    ∀ (s : Schema) (className : String),
      s.typeAt className path = s.typeAt className (Path.render segments) ∧
        (s.column className path).toOption =
          (s.column className (Path.render segments)).toOption := by
  have hne := Path.parse_ne_nil h
  have hreadable := Path.readable_of_parse h
  have hrender := Path.parse_render hne hreadable
  have hwalk : ∀ v, getPath v (Path.render segments) =
      (segments.map Segment.text).foldl step v := by
    intro v
    rw [getPath, Path.split_render hne hreadable]
  have hbracketless : '[' ∉ path.toList → ∀ v,
      (∀ front part back, Text.split '.' path = front ++ part :: back → ZeroPadded part →
        ∀ members, front.foldl step v ≠ .obj members) →
          getPath v path = getPath v (Path.render segments) := by
    intro hbracket v hv
    rw [hwalk]
    exact getPath_of_no_bracket h hbracket hv
  refine ⟨hwalk, ⟨fun heq => ?_, fun ⟨hbracket, hparts⟩ v => ?_⟩, hbracketless,
    fun s className => ⟨?_, ?_⟩⟩
  · obtain rfl := eq_of_getPath_eq heq
    refine ⟨Path.bracket_not_mem_render hne hreadable, fun part hpart => ?_⟩
    rw [Path.split_render hne hreadable] at hpart
    obtain ⟨segment, hmem, rfl⟩ := List.mem_map.mp hpart
    exact Path.not_zeroPadded_text (hreadable segment hmem)
  · refine hbracketless hbracket v fun front part back hsplit hpadded => ?_
    exact absurd hpadded (hparts part (by rw [hsplit]; simp))
  · rw [Schema.typeAt, Schema.typeAt, h, hrender]
  · rw [Schema.column, Schema.column, h, hrender]
    exact Schema.toOption_columnOf ..

/-- Three rows in a list. -/
def listedRows : Json :=
  .obj [("a", .arr [.obj [("b", .num (.int 1))], .obj [("b", .num (.int 2))],
    .obj [("b", .num (.int 3))]])]

/-- A needless zero does no harm where there is a list. -/
theorem getPath_render_of_listedRows :
    Path.parse "a.02.b" = .ok [.field "a", .index 2, .field "b"] ∧
      getPath listedRows "a.02.b" = getPath listedRows "a.2.b" := by
  have hparse : Path.parse "a.02.b" = .ok [.field "a", .index 2, .field "b"] := by rfl
  refine ⟨hparse, (getPath_render hparse).2.2.1 (by decide) listedRows ?_⟩
  intro front part back hsplit hpadded members
  have hparts : Text.split '.' "a.02.b" = ["a", "02", "b"] := by decide
  rw [hparts, List.cons_eq_append_iff] at hsplit
  rcases hsplit with ⟨rfl, heq⟩ | ⟨front, rfl, hrest⟩
  · cases heq
    exact absurd hpadded.1 (by decide)
  · rcases List.cons_eq_append_iff.mp hrest with ⟨rfl, -⟩ | ⟨front, rfl, hlast⟩
    · exact nofun
    · rcases List.cons_eq_append_iff.mp hlast with ⟨rfl, heq⟩ | ⟨front, rfl, hnone⟩
      · cases heq
        exact absurd hpadded.1 (by decide)
      · simp at hnone

/-- The third row is found by its index between dots, and not by its index in brackets. -/
theorem getPath_bracket :
    Path.parse "a[2].b" = .ok [.field "a", .index 2, .field "b"] ∧
      Path.render [.field "a", .index 2, .field "b"] = "a.2.b" ∧
      getPath listedRows "a.2.b" = .num (.int 3) ∧ getPath listedRows "a[2].b" = .null := by
  exact ⟨by rfl, by rfl, by rfl, by rfl⟩

end Value

end ObjectQuery
