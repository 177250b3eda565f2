import ObjectQuery.Numeral.Decimal
import ObjectQuery.Proofs.Numeral.Digits

/-!
# Decimals read back

Every decimal that is read, from a text or from a double, is in range: its coefficient fits ninety-six
bits and its scale does not pass twenty-eight. The text of a decimal in range reads as that decimal,
trailing zeros and all, since the reader drops digits only where the range ends.
-/

namespace ObjectQuery.Numeral.Decimal

attribute [ext] Decimal

/-- A coefficient below its bound, over a power of ten of at most the greatest scale. -/
structure InRange (d : Decimal) : Prop where
  coefficient : d.coefficient.natAbs < bound
  scale : d.scale ≤ maxScale

variable {m scale : Nat}

theorem bound_eq : bound = 79228162514264337593543950336 := rfl

theorem maxScale_eq : maxScale = 28 := rfl

/-- A magnitude below the bound makes a decimal in range, whatever its sign. -/
theorem inRange_ofMagnitude (negative : Bool) (hm : m < bound) (hs : scale ≤ maxScale) :
    (ofMagnitude negative m scale).InRange := by
  refine ⟨?_, hs⟩
  cases negative
  · exact hm
  · exact (Int.natAbs_neg m).symm ▸ hm

/-! ## What is read from a text -/

/-- Digits that are cut off leave the magnitude and the scale in range. -/
theorem cutOff_inRange {c : Char} {p : Nat × Nat} (hm : m < bound) (hs : scale ≤ maxScale)
    (h : cutOff m scale c = some p) : p.1 < bound ∧ p.2 ≤ maxScale := by
  unfold cutOff at h
  rw [bound_eq] at *
  split at h
  · split at h
    · split at h
      · cases h
        exact ⟨‹_›, hs⟩
      · split at h
        · cases h
        · cases h
          exact ⟨by omega, by omega⟩
    · cases h
      exact ⟨hm, hs⟩
  · split at h
    · cases h
      exact ⟨hm, hs⟩
    · cases h

/-- Before the first digit the scale is zero; from then on a digit is only taken below the bounds. -/
theorem readMagnitude_inRange {cs : List Char} {point started : Bool} {p : Nat × Nat}
    (hm : m < bound) (hs : scale ≤ maxScale) (hstart : started = false → scale = 0)
    (h : readMagnitude cs point started m scale = some p) : p.1 < bound ∧ p.2 ≤ maxScale := by
  fun_induction readMagnitude cs point started m scale with
  | case1 => cases h; exact ⟨hm, hs⟩
  | case2 => cases h
  | case3 => exact cutOff_inRange hm hs h
  | case4 point started m scale c rest hfull hdigit next hnext ih =>
    refine ih hnext ?_ nofun h
    split
    next hpoint =>
      cases started with
      | false =>
        rw [hstart rfl, maxScale_eq]
        decide
      | true =>
        have hroom : ¬ maxScale ≤ scale := fun hle => hfull (by simp [hpoint, hle])
        omega
    next => exact Nat.zero_le _
  | case5 => exact cutOff_inRange hm hs h
  | case6 => cases h
  | case7 point started m scale c rest _ _ _ ih => exact ih hm hs hstart h
  | case8 point started m scale c rest _ _ _ _ ih => exact ih hm hs nofun h
  | case9 => cases h

/-- What is read of plain digits is in range. -/
theorem readPlain?_inRange {cs : List Char} {d : Decimal} (h : readPlain? cs = some d) :
    d.InRange := by
  have hread : ∀ {cs : List Char} {negative : Bool},
      (readMagnitude cs false false 0 0).map (fun p => ofMagnitude negative p.1 p.2) = some d →
        d.InRange := by
    intro cs negative hmap
    obtain ⟨p, hp, rfl⟩ := Option.map_eq_some_iff.mp hmap
    obtain ⟨hm, hs⟩ := readMagnitude_inRange (by decide) (by decide) (fun _ => rfl) hp
    exact inRange_ofMagnitude negative hm hs
  unfold readPlain? at h
  split at h
  · exact hread h
  · exact hread h
  · exact hread h

/-- Rounding down stays below the bound. -/
theorem roundedDown_lt (places : Nat) (hm : m < bound) : roundedDown m places < bound := by
  rw [bound_eq] at *
  unfold roundedDown
  split
  · exact hm
  · next hplaces =>
    have hdiv : m / Nat.pow 10 places ≤ m / 10 := by
      refine Nat.div_le_div_left ?_ (by decide)
      exact Nat.le_self_pow hplaces 10
    split <;> omega

/-- A decimal shifted down stays in range, its scale included. -/
theorem shiftDown?_inRange {d r : Decimal} {n : Nat} (hd : d.InRange)
    (h : d.shiftDown? n = some r) : r.InRange := by
  unfold shiftDown? at h
  split at h
  · cases h
  · split at h
    · cases h
      exact inRange_ofMagnitude _ (roundedDown_lt _ hd.coefficient) (Nat.le_refl _)
    · cases h
      exact ⟨hd.coefficient, Nat.not_lt.mp ‹_›⟩

/-- A decimal shifted up stays in range, or there is none. -/
theorem shiftUp?_inRange {d r : Decimal} {n : Nat} (hd : d.InRange)
    (h : d.shiftUp? n = some r) : r.InRange := by
  unfold shiftUp? at h
  split at h
  · cases h
    exact ⟨hd.coefficient, Nat.le_trans (Nat.sub_le _ _) hd.scale⟩
  · split at h
    · cases h
    · dsimp only at h
      split at h
      · next hbound =>
        cases h
        exact ⟨hbound, Nat.zero_le _⟩
      · cases h

/-- What is read in scientific notation is in range: a plain decimal, shifted. -/
theorem readScientific?_inRange {cs : List Char} {d : Decimal} (h : readScientific? cs = some d) :
    d.InRange := by
  unfold readScientific? at h
  dsimp only at h
  split at h
  · cases h
  · obtain ⟨base, hbase, hshift⟩ := Option.bind_eq_some_iff.mp h
    have hbase := readPlain?_inRange hbase
    split at hshift
    · obtain ⟨n, -, hn⟩ := Option.bind_eq_some_iff.mp hshift
      exact shiftDown?_inRange hbase hn
    · obtain ⟨n, -, hn⟩ := Option.bind_eq_some_iff.mp hshift
      exact shiftUp?_inRange hbase hn

/-- Every decimal read from a text is in range. -/
theorem ofText?_inRange {text : String} {d : Decimal} (h : ofText? text = some d) : d.InRange := by
  rcases Option.or_eq_some_iff.mp h with h | ⟨-, h⟩
  · exact readPlain?_inRange h
  · exact readScientific?_inRange h

/-! ## What is read from a double -/

/--
A magnitude below the bound over no negative power of ten, of which at most `fuel` are too many.
-/
def Settles (fuel m : Nat) (e10 : Int) : Prop :=
  m < bound ∧ e10 ≤ 0 ∧ -(maxScale + fuel : Int) ≤ e10

/-- What it is to settle, with its numbers for arithmetic. -/
theorem settles_iff {fuel : Nat} {e10 : Int} :
    Settles fuel m e10 ↔
      m < 79228162514264337593543950336 ∧ e10 ≤ 0 ∧ -(28 + fuel : Int) ≤ e10 := Iff.rfl

/-- Once the tens are absorbed, no power of ten is too many. -/
theorem absorbTens_settles {fuel : Nat} {e10 : Int} (h : Settles fuel m e10) :
    Settles 0 (absorbTens fuel m e10).1 (absorbTens fuel m e10).2 := by
  fun_induction absorbTens fuel m e10 with
  | case1 => exact h
  | case2 => exact ⟨by decide, by decide, by decide⟩
  | case3 fuel m e10 hlow q hq ih =>
    rw [settles_iff] at h
    refine ih (settles_iff.mpr ?_)
    split <;> omega
  | case4 fuel m e10 hlow =>
    rw [maxScale_eq] at hlow
    rw [settles_iff] at h ⊢
    omega

/-- Cutting the excess leaves a magnitude that has settled. -/
theorem cutExcess_settles (fuel : Nat) {e10 : Int} (h : Settles 0 m e10) :
    Settles 0 (cutExcess fuel m e10).1 (cutExcess fuel m e10).2 := by
  fun_induction cutExcess fuel m e10 with
  | case1 => exact h
  | case2 fuel m e10 hcut ih =>
    have hm := roundedDown_lt 1 h.1
    rw [settles_iff] at h
    exact ih (settles_iff.mpr ⟨hm, by omega⟩)
  | case3 => exact h

/-- Dropping zeros leaves a magnitude that has settled. -/
theorem dropZeros_settles (fuel : Nat) {e10 : Int} (h : Settles 0 m e10) :
    Settles 0 (dropZeros fuel m e10).1 (dropZeros fuel m e10).2 := by
  fun_induction dropZeros fuel m e10 with
  | case1 => exact h
  | case2 fuel m e10 hcut ih =>
    rw [settles_iff] at h
    exact ih (settles_iff.mpr (by omega))
  | case3 => exact h

/-- Every decimal read from a double is in range. -/
theorem ofFloat?_inRange {x : Float} {d : Decimal} (h : ofFloat? x = some d) : d.InRange := by
  unfold ofFloat? at h
  dsimp only at h
  split at h
  · cases h
  · split at h
    · cases h
      exact ⟨by decide, by decide⟩
    · -- Whatever the exchange of powers leaves, what follows settles it.
      generalize (if (Dyadic.ofFloat x).exponent < 0 then _ else _ : Nat × Int) = exchanged at h
      split at h
      · cases h
      · next hbound =>
        rw [Option.some.injEq] at h
        subst h
        have hwhole : Settles exchanged.2.natAbs (exchanged.1 * Nat.pow 10 exchanged.2.toNat)
            (min exchanged.2 0) := ⟨Nat.not_le.mp hbound, by omega, by omega⟩
        obtain ⟨hm, hzero, hlow⟩ :=
          dropZeros_settles 30 (cutExcess_settles 30 (absorbTens_settles hwhole))
        refine inRange_ofMagnitude _ hm ?_
        rw [maxScale_eq] at *
        omega

/-! ## Reading back -/

/-- Digits are taken one by one while their value stays below the bound and the scale has room. -/
theorem readMagnitude_digits {ds rest : List Char} {point started : Bool}
    (hdigits : ∀ c ∈ ds, c.isDigit = true) (hstart : started = true ∨ ds ≠ [])
    (hbound : Nat.ofDigitChars 10 ds m < bound)
    (hscale : if point then scale + ds.length ≤ maxScale else scale = 0) :
    readMagnitude (ds ++ rest) point started m scale =
      readMagnitude rest point true (Nat.ofDigitChars 10 ds m)
        (if point then scale + ds.length else 0) := by
  induction ds generalizing started m scale with
  | nil =>
    obtain rfl : started = true := hstart.resolve_right fun h => h rfl
    cases point
    · obtain rfl : scale = 0 := hscale
      rfl
    · rfl
  | cons c ds ih =>
    obtain ⟨hc, hds⟩ := List.forall_mem_cons.mp hdigits
    rw [Nat.ofDigitChars_cons, Nat.mul_comm] at hbound
    have hnext := Nat.lt_of_le_of_lt (le_ofDigitChars ds _) hbound
    have hroom : (started && point && decide (maxScale ≤ scale)) = false := by
      cases point
      · simp
      · have hroom : ¬ maxScale ≤ scale := by
          simp only [↓reduceIte, List.length_cons] at hscale
          omega
        simp [hroom]
    rw [List.cons_append, readMagnitude, hroom, if_neg Bool.false_ne_true, if_pos hc]
    dsimp only
    rw [if_pos hnext, ih hds (.inl rfl) hbound ?_, Nat.ofDigitChars_cons, Nat.mul_comm 10]
    · cases point
      · rfl
      · simp only [↓reduceIte, List.length_cons, Nat.add_assoc, Nat.add_comm 1]
    · cases point
      · rfl
      · simp only [↓reduceIte, List.length_cons] at hscale ⊢
        omega

/-- Digits in front of the point are read as the natural number they spell. -/
theorem readMagnitude_whole {ds rest : List Char} (hdigits : ∀ c ∈ ds, c.isDigit = true)
    (hne : ds ≠ []) (hbound : Nat.ofDigitChars 10 ds 0 < bound) :
    readMagnitude (ds ++ rest) false false 0 0 =
      readMagnitude rest false true (Nat.ofDigitChars 10 ds 0) 0 :=
  readMagnitude_digits hdigits (.inr hne) hbound rfl

/-- Digits behind the point go on with the magnitude, and each raises the scale. -/
theorem readMagnitude_fraction {ds : List Char} (hdigits : ∀ c ∈ ds, c.isDigit = true)
    (hbound : Nat.ofDigitChars 10 ds m < bound) (hscale : ds.length ≤ maxScale) :
    readMagnitude ds true true m 0 = some (Nat.ofDigitChars 10 ds m, ds.length) := by
  have hread : readMagnitude (ds ++ []) true true m 0 =
      readMagnitude [] true true (Nat.ofDigitChars 10 ds m) (0 + ds.length) :=
    readMagnitude_digits hdigits (.inl rfl) hbound (by simpa using hscale)
  rw [List.append_nil, Nat.zero_add] at hread
  rw [hread]
  rfl

/-- Digits with a point before the last `scale` of them are read as their value and that scale. -/
theorem readMagnitude_point {ds : List Char} (hdigits : ∀ c ∈ ds, c.isDigit = true)
    (hlength : scale < ds.length) (hbound : Nat.ofDigitChars 10 ds 0 < bound)
    (hscale : scale ≤ maxScale) :
    readMagnitude
        (if scale = 0 then ds.take (ds.length - scale)
          else ds.take (ds.length - scale) ++ '.' :: ds.drop (ds.length - scale))
        false false 0 0 =
      some (Nat.ofDigitChars 10 ds 0, scale) := by
  split
  · next hzero =>
    subst hzero
    rw [Nat.sub_zero, List.take_length, ← List.append_nil ds,
      readMagnitude_whole hdigits (List.length_pos_iff.mp hlength) hbound, List.append_nil]
    rfl
  · next hzero =>
    have hsplit := List.take_append_drop (ds.length - scale) ds
    generalize hwhole : ds.take (ds.length - scale) = whole at *
    generalize hfraction : ds.drop (ds.length - scale) = fraction at *
    have hne : whole ≠ [] := by
      rw [← hwhole]
      exact List.length_pos_iff.mp (by rw [List.length_take]; omega)
    have hfractionLength : fraction.length = scale := by
      rw [← hfraction, List.length_drop]
      omega
    subst hsplit hfractionLength
    obtain ⟨hwholeDigits, hfractionDigits⟩ := List.forall_mem_append.mp hdigits
    rw [Nat.ofDigitChars_append] at hbound ⊢
    have hbelow := Nat.lt_of_le_of_lt (le_ofDigitChars fraction _) hbound
    rw [readMagnitude_whole hwholeDigits hne hbelow, readMagnitude]
    simp only [Bool.and_false, Bool.false_and, Bool.false_eq_true, ↓reduceIte,
      show '.'.isDigit = false by decide, Bool.not_false, and_self]
    exact readMagnitude_fraction hfractionDigits hbound hscale

/-- What reads as a magnitude opens with no sign. -/
theorem readPlain?_of_magnitude {cs : List Char} {p : Nat × Nat}
    (h : readMagnitude cs false false 0 0 = some p) :
    readPlain? cs = some (ofMagnitude false p.1 p.2) := by
  unfold readPlain?
  split
  · cases h
  · cases h
  · rw [h]
    rfl

/-- The text of a decimal in range reads as that decimal. -/
theorem ofText?_render {d : Decimal} (h : d.InRange) : ofText? d.render = some d := by
  obtain ⟨hdigits, hvalue⟩ := zeros_toDigits
    (d.scale + 1 - (Nat.toDigits 10 d.coefficient.natAbs).length) d.coefficient.natAbs
  have hlength : d.scale < (List.replicate
      (d.scale + 1 - (Nat.toDigits 10 d.coefficient.natAbs).length) '0' ++
        Nat.toDigits 10 d.coefficient.natAbs).length := by
    rw [List.length_append, List.length_replicate]
    omega
  have hread := readMagnitude_point hdigits hlength (hvalue.symm ▸ h.coefficient) h.scale
  rw [hvalue] at hread
  unfold ofText? render
  dsimp only
  rw [String.toList_ofList]
  refine Option.or_eq_some_iff.mpr (.inl ?_)
  split
  · next hneg =>
    rw [readPlain?, hread, Option.map_some]
    refine congrArg some (Decimal.ext ?_ rfl)
    simp only [ofMagnitude, ↓reduceIte]
    omega
  · next hpos =>
    rw [readPlain?_of_magnitude hread]
    refine congrArg some (Decimal.ext ?_ rfl)
    simp only [ofMagnitude, Bool.false_eq_true, ↓reduceIte]
    omega

end ObjectQuery.Numeral.Decimal
