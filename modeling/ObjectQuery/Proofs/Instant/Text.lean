import ObjectQuery.Proofs.Instant.Calendar
import ObjectQuery.Proofs.Numeral.Digits

/-!
# Instants read back

The text of an instant in the years that have four digits reads as that instant, and the text of any
other instant is not read, for the sign of its year. An offset moves what is read by less than a day, so
an instant that is read may be written so that it is not, if its year in universal time is the one
before or the one after those of four digits.
-/

namespace ObjectQuery.Instant

attribute [ext] Instant

/-! ## Digits -/

/-- The digits of a number that fits a width: as many, and of its value. -/
theorem padded_digits {width n : Nat} (hw : 0 < width) (h : n < 10 ^ width) :
    (padded width n).toList.length = width ∧ (∀ c ∈ (padded width n).toList, c.isDigit = true) ∧
      Numeral.ofDigits (padded width n).toList = n := by
  have hlength : (Nat.toDigits 10 n).length ≤ width :=
    (Nat.length_toDigits_le_iff (by decide) hw).mpr h
  have htext : (padded width n).toList =
      List.replicate (width - (Nat.toDigits 10 n).length) '0' ++ Nat.toDigits 10 n := by
    simp [padded]
  obtain ⟨hdigits, hvalue⟩ :=
    Numeral.zeros_toDigits (width - (Nat.toDigits 10 n).length) n
  rw [htext]
  refine ⟨?_, hdigits, (Numeral.ofDigits_eq _).trans hvalue⟩
  rw [List.length_append, List.length_replicate]
  omega

/-- Digits padded with zeros are read back. -/
theorem takeDigits_padded {width n : Nat} (hw : 0 < width) (h : n < 10 ^ width) (rest : List Char) :
    takeDigits width ((padded width n).toList ++ rest) = some (n, rest) := by
  obtain ⟨hlength, hdigits, hvalue⟩ := padded_digits hw h
  have htake : ((padded width n).toList ++ rest).take width = (padded width n).toList :=
    List.take_left' hlength
  have hdrop : ((padded width n).toList ++ rest).drop width = rest := List.drop_left' hlength
  have hall : (padded width n).toList.all Char.isDigit = true := List.all_eq_true.mpr hdigits
  simp only [takeDigits, htake, hdrop, hlength, hall, hvalue, and_self, ↓reduceIte]

/-! ## Fractions -/

/-- A fraction padded with zeros is read back in nanoseconds. -/
theorem takeFraction_padded {width n : Nat} (hw : 0 < width) (hnine : width ≤ 9)
    (h : n < 10 ^ width) {c : Char} (hc : c.isDigit = false) (rest : List Char) :
    takeFraction ('.' :: ((padded width n).toList ++ c :: rest)) =
      some (n * 10 ^ (9 - width), c :: rest) := by
  obtain ⟨hlength, hdigits, hvalue⟩ := padded_digits hw h
  have hwhile : ((padded width n).toList ++ c :: rest).takeWhile Char.isDigit =
      (padded width n).toList := by
    rw [List.takeWhile_append_of_pos hdigits]
    simp [hc]
  have hne : (padded width n).toList.isEmpty = false := by
    rw [List.isEmpty_eq_false_iff, ← List.length_pos_iff, hlength]
    exact hw
  have htake : (padded width n).toList.take 9 = (padded width n).toList :=
    List.take_of_length_le (Nat.le_trans (Nat.le_of_eq hlength) hnine)
  have hdrop : ((padded width n).toList ++ c :: rest).drop width = c :: rest :=
    List.drop_left' hlength
  simp only [takeFraction, hwhile, hne, htake, hdrop, hlength, hvalue, Bool.false_eq_true,
    ↓reduceIte]
  rfl

/-- The fraction of an instant is read back, whether it is written or left out. -/
theorem takeFraction_renderFraction {nanos : Nat} (h : nanos < 10 ^ 9) {c : Char}
    (hc : c.isDigit = false) (hdot : c ≠ '.') (rest : List Char) :
    takeFraction ((renderFraction nanos).toList ++ c :: rest) = some (nanos, c :: rest) := by
  have hcons : ∀ text : String, ("." ++ text).toList ++ c :: rest =
      '.' :: (text.toList ++ c :: rest) := fun text => by simp
  unfold renderFraction
  split
  · next hzero =>
    subst hzero
    simp [takeFraction, hdot]
  · split
    · next hmilli =>
      rw [hcons, takeFraction_padded (by decide) (by decide) (by omega) hc]
      congr 2
      omega
    · split
      · next hmicro =>
        rw [hcons, takeFraction_padded (by decide) (by decide) (by omega) hc]
        congr 2
        omega
      · rw [hcons, takeFraction_padded (by decide) (by decide) (by omega) hc, Nat.sub_self,
          Nat.pow_zero, Nat.mul_one]

/-! ## Texts -/

/-- The year of an instant in universal time. -/
def year (t : Instant) : Int := (Date.ofDays (Int.fdiv t.seconds 86400)).year

/--
An instant of a year with four digits, with less than a second beside its seconds; a leap second
ends its minute.
-/
structure Readable (t : Instant) : Prop where
  year_nonneg : 0 ≤ t.year
  year_le : t.year ≤ 9999
  nanos_lt : t.nanos < 2 * 10 ^ 9
  leap : 10 ^ 9 ≤ t.nanos → t.seconds % 60 = 59

/-- What is read from the parts of a text in universal time. -/
theorem ofText?_parts {year month day hour minute second nanos : Nat} (hyear : year < 10 ^ 4)
    (hmonth : month < 10 ^ 2) (hday : day < 10 ^ 2) (hhour : hour < 10 ^ 2)
    (hminute : minute < 10 ^ 2) (hsecond : second < 10 ^ 2) (hnanos : nanos < 10 ^ 9)
    (hvalid : (Date.mk year month day).valid = true)
    (hclock : hour ≤ 23 ∧ minute ≤ 59 ∧ second ≤ 60) :
    ofText? (padded 4 year ++ "-" ++ padded 2 month ++ "-" ++ padded 2 day ++ "T" ++
        padded 2 hour ++ ":" ++ padded 2 minute ++ ":" ++ padded 2 second ++
        renderFraction nanos ++ "+00:00") =
      some {
        seconds := (Date.mk year month day).toDays * 86400 +
          (hour * 3600 + minute * 60 + (if second = 60 then 59 else second) : Nat)
        nanos := if second = 60 then nanos + 1000000000 else nanos } := by
  have hoffset : readOffset ['+', '0', '0', ':', '0', '0'] = some 0 := by decide
  have htext : (padded 4 year ++ "-" ++ padded 2 month ++ "-" ++ padded 2 day ++ "T" ++
      padded 2 hour ++ ":" ++ padded 2 minute ++ ":" ++ padded 2 second ++ renderFraction nanos ++
      "+00:00").toList =
      (padded 4 year).toList ++ '-' :: ((padded 2 month).toList ++ '-' :: ((padded 2 day).toList ++
        'T' :: ((padded 2 hour).toList ++ ':' :: ((padded 2 minute).toList ++ ':' ::
          ((padded 2 second).toList ++ ((renderFraction nanos).toList ++
            ['+', '0', '0', ':', '0', '0'])))))) := by
    have hdash : "-".toList = ['-'] := rfl
    have hday : "T".toList = ['T'] := rfl
    have hcolon : ":".toList = [':'] := rfl
    have hend : "+00:00".toList = ['+', '0', '0', ':', '0', '0'] := rfl
    simp only [String.toList_append, hdash, hday, hcolon, hend, List.append_assoc,
      List.cons_append, List.nil_append]
  have hchar : ∀ (c : Char) (rest : List Char), takeChar c (c :: rest) = some rest :=
    fun c rest => if_pos rfl
  have hfraction := takeFraction_renderFraction hnanos (show '+'.isDigit = false by decide)
    (by decide) ['0', '0', ':', '0', '0']
  unfold ofText?
  rw [htext]
  refine Option.bind_eq_some_iff.mpr ⟨_, takeDigits_padded (by decide) hyear _, ?_⟩
  refine Option.bind_eq_some_iff.mpr ⟨_, hchar '-' _, ?_⟩
  refine Option.bind_eq_some_iff.mpr ⟨_, takeDigits_padded (by decide) hmonth _, ?_⟩
  refine Option.bind_eq_some_iff.mpr ⟨_, hchar '-' _, ?_⟩
  refine Option.bind_eq_some_iff.mpr ⟨_, takeDigits_padded (by decide) hday _, ?_⟩
  dsimp only
  rw [if_pos (Or.inl rfl : 'T' = 'T' ∨ 'T' = 't' ∨ 'T' = ' ')]
  refine Option.bind_eq_some_iff.mpr ⟨_, rfl, ?_⟩
  refine Option.bind_eq_some_iff.mpr ⟨_, takeDigits_padded (by decide) hhour _, ?_⟩
  refine Option.bind_eq_some_iff.mpr ⟨_, hchar ':' _, ?_⟩
  refine Option.bind_eq_some_iff.mpr ⟨_, takeDigits_padded (by decide) hminute _, ?_⟩
  refine Option.bind_eq_some_iff.mpr ⟨_, hchar ':' _, ?_⟩
  refine Option.bind_eq_some_iff.mpr ⟨_, takeDigits_padded (by decide) hsecond _, ?_⟩
  refine Option.bind_eq_some_iff.mpr ⟨_, hfraction, ?_⟩
  refine Option.bind_eq_some_iff.mpr ⟨_, hoffset, ?_⟩
  exact (if_pos ⟨hvalid, hclock⟩).trans (by rw [Int.sub_zero])

/-- A year of four digits is written as such. -/
theorem renderYear_eq {year : Int} (h : 0 ≤ year) (hle : year ≤ 9999) :
    renderYear year = padded 4 year.toNat := if_pos ⟨h, hle⟩

/-- An instant is its day and its second of the day. -/
theorem seconds_eq (t : Instant) :
    t.seconds = Int.fdiv t.seconds 86400 * 86400 + (Int.fmod t.seconds 86400).toNat ∧
      (Int.fmod t.seconds 86400).toNat < 86400 := by
  rw [Int.fdiv_eq_ediv_of_nonneg _ (by decide), Int.fmod_eq_emod_of_nonneg _ (by decide)]
  omega

/-- The month and the day of a valid date have two digits. -/
theorem Date.valid_bounds {d : Date} (h : d.valid = true) : d.month < 10 ^ 2 ∧ d.day < 10 ^ 2 := by
  have hlength := daysInMonth_le d.year d.month
  simp only [valid, Bool.and_eq_true, decide_eq_true_eq] at h
  omega

/-- A readable instant is read back from its own text. -/
theorem ofText?_render {t : Instant} (h : t.Readable) : ofText? t.render = some t := by
  obtain ⟨hyear, hyearLe, hnanos, hleap⟩ := h
  unfold year at hyear hyearLe
  have hdays := Date.toDays_ofDays (Int.fdiv t.seconds 86400)
  have hvalid := Date.ofDays_valid (Int.fdiv t.seconds 86400)
  obtain ⟨hsplit, hday⟩ := seconds_eq t
  unfold render renderLocal
  generalize Date.ofDays (Int.fdiv t.seconds 86400) = date at *
  generalize Int.fdiv t.seconds 86400 = days at *
  generalize (Int.fmod t.seconds 86400).toNat = ofDay at *
  have hdate : Date.mk (date.year.toNat : Nat) date.month date.day = date := by
    rw [Int.toNat_of_nonneg hyear]
  obtain ⟨hmonthBound, hdayBound⟩ := Date.valid_bounds hvalid
  by_cases hlong : 1000000000 ≤ t.nanos
  · -- A leap second is written as the sixty-first second of its minute.
    have hlast := hleap hlong
    have hminute : ofDay % 60 + 1 = 60 := by omega
    simp only [renderYear_eq hyear hyearLe, hlong, hminute, ↓reduceIte]
    rw [ofText?_parts (by omega) hmonthBound hdayBound (by omega) (by omega) (by omega) (by omega)
      (hdate ▸ hvalid) (by omega), hdate, hdays]
    refine congrArg some (Instant.ext ?_ ?_)
    · simp only [↓reduceIte]
      omega
    · simp only [↓reduceIte]
      omega
  · have hsecond : ofDay % 60 ≠ 60 := by omega
    simp only [renderYear_eq hyear hyearLe, hlong, ↓reduceIte, Nat.add_zero]
    rw [ofText?_parts (by omega) hmonthBound hdayBound (by omega) (by omega) (by omega) (by omega)
      (hdate ▸ hvalid) (by omega), hdate, hdays]
    refine congrArg some (Instant.ext ?_ ?_)
    · simp only [hsecond, ↓reduceIte]
      omega
    · simp only [hsecond, ↓reduceIte]

/-! ## What is read -/

/-- A fraction is less than a second. -/
theorem takeFraction_lt {cs rest : List Char} {nanos : Nat}
    (h : takeFraction cs = some (nanos, rest)) : nanos < 10 ^ 9 := by
  unfold takeFraction at h
  split at h
  · next after =>
    dsimp only at h
    split at h
    · cases h
    · obtain ⟨rfl, -⟩ := Prod.mk.inj (Option.some.inj h)
      have hdigits : ∀ c ∈ (after.takeWhile Char.isDigit).take 9, c.isDigit = true :=
        fun c hc => List.all_eq_true.mp List.all_takeWhile _ (List.mem_of_mem_take hc)
      have hlength : ((after.takeWhile Char.isDigit).take 9).length ≤ 9 := by
        rw [List.length_take]
        omega
      generalize (after.takeWhile Char.isDigit).take 9 = kept at *
      calc Numeral.ofDigits kept * 10 ^ (9 - kept.length)
          < 10 ^ kept.length * 10 ^ (9 - kept.length) :=
            Nat.mul_lt_mul_of_pos_right (Numeral.ofDigits_lt hdigits) (Nat.pow_pos (by decide))
        _ = 10 ^ 9 := by rw [← Nat.pow_add, Nat.add_sub_cancel' hlength]
  · obtain ⟨rfl, -⟩ := Prod.mk.inj (Option.some.inj h)
    decide

/-- As many digits as are taken bound the number they spell. -/
theorem takeDigits_lt {width n : Nat} {cs rest : List Char} (h : takeDigits width cs = some (n, rest)) :
    n < 10 ^ width := by
  unfold takeDigits at h
  dsimp only at h
  split at h
  · next hdigits =>
    obtain ⟨rfl, -⟩ := Prod.mk.inj (Option.some.inj h)
    exact Nat.lt_of_lt_of_eq (Numeral.ofDigits_lt (List.all_eq_true.mp hdigits.2))
      (congrArg (10 ^ ·) hdigits.1)
  · cases h

/-- An offset is a number of whole minutes, and less than a day. -/
theorem readOffset_bounds {cs : List Char} {offset : Int} (h : readOffset cs = some offset) :
    offset % 60 = 0 ∧ -86400 < offset ∧ offset < 86400 := by
  unfold readOffset at h
  split at h
  · cases h
    decide
  · cases h
    decide
  · next sign rest _ _ =>
    obtain ⟨factor, hfactor, htail⟩ : ∃ factor : Int, (factor = 1 ∨ factor = -1) ∧
        ((takeDigits 2 rest).bind fun hours =>
          (takeChar ':' hours.2).bind fun rest => (takeDigits 2 rest).bind fun minutes =>
            if hours.1 ≤ 23 ∧ minutes.1 ≤ 59 ∧ minutes.2.isEmpty then
              some (factor * (hours.1 * 3600 + minutes.1 * 60 : Nat))
            else none) = some offset := by
      dsimp only at h
      split at h
      · exact ⟨1, .inl rfl, h⟩
      · split at h
        · exact ⟨-1, .inr rfl, h⟩
        · cases h
    obtain ⟨⟨hours, rest⟩, -, h⟩ := Option.bind_eq_some_iff.mp htail
    obtain ⟨rest, -, h⟩ := Option.bind_eq_some_iff.mp h
    obtain ⟨⟨minutes, rest⟩, -, h⟩ := Option.bind_eq_some_iff.mp h
    dsimp only at h
    split at h
    · next hclock =>
      cases h
      rcases hfactor with rfl | rfl <;> omega
    · cases h
  · cases h

/-- What is read is a second of a day of a year with four digits, less an offset below a day. -/
structure ReadAs (t : Instant) (date : Date) (ofDay : Nat) (offset : Int) : Prop where
  valid : date.valid = true
  year : 0 ≤ date.year ∧ date.year ≤ 9999
  ofDay_lt : ofDay < 86400
  shift : offset % 60 = 0 ∧ -86400 < offset ∧ offset < 86400
  seconds : t.seconds = date.toDays * 86400 + ofDay - offset
  nanos_lt : t.nanos < 2 * 10 ^ 9
  leap : 10 ^ 9 ≤ t.nanos → ofDay % 60 = 59

/-- An instant that is read has a date, a time of day and an offset. -/
theorem readAs_of_ofText? {text : String} {t : Instant} (h : ofText? text = some t) :
    ∃ date ofDay offset, ReadAs t date ofDay offset := by
  obtain ⟨⟨year, cs⟩, hyear, h⟩ := Option.bind_eq_some_iff.mp h
  obtain ⟨cs, -, h⟩ := Option.bind_eq_some_iff.mp h
  obtain ⟨⟨month, cs⟩, -, h⟩ := Option.bind_eq_some_iff.mp h
  obtain ⟨cs, -, h⟩ := Option.bind_eq_some_iff.mp h
  obtain ⟨⟨day, cs⟩, -, h⟩ := Option.bind_eq_some_iff.mp h
  cases cs with
  | nil => cases h
  | cons separator cs =>
    dsimp only at h
    split at h
    · obtain ⟨cs, -, h⟩ := Option.bind_eq_some_iff.mp h
      obtain ⟨⟨hour, cs⟩, -, h⟩ := Option.bind_eq_some_iff.mp h
      obtain ⟨cs, -, h⟩ := Option.bind_eq_some_iff.mp h
      obtain ⟨⟨minute, cs⟩, -, h⟩ := Option.bind_eq_some_iff.mp h
      obtain ⟨cs, -, h⟩ := Option.bind_eq_some_iff.mp h
      obtain ⟨⟨second, cs⟩, -, h⟩ := Option.bind_eq_some_iff.mp h
      obtain ⟨⟨nanos, cs⟩, hfraction, h⟩ := Option.bind_eq_some_iff.mp h
      obtain ⟨offset, hoffset, h⟩ := Option.bind_eq_some_iff.mp h
      have hyearLt := takeDigits_lt hyear
      have hnanos := takeFraction_lt hfraction
      dsimp only at h
      split at h
      · next hclock =>
        cases h
        refine ⟨⟨year, month, day⟩, hour * 3600 + minute * 60 + (if second = 60 then 59 else second),
          offset, hclock.1, ?_, ?_, readOffset_bounds hoffset, rfl, ?_, ?_⟩
        · dsimp only
          omega
        · split <;> omega
        · dsimp only
          split <;> omega
        · dsimp only
          split <;> omega
      · cases h
    · cases h

/-- An instant that is read is readable again, if its year in universal time has four digits. -/
theorem readable_of_ofText? {text : String} {t : Instant} (h : ofText? text = some t)
    (hyear : 0 ≤ t.year ∧ t.year ≤ 9999) : t.Readable := by
  obtain ⟨date, ofDay, offset, hread⟩ := readAs_of_ofText? h
  refine ⟨hyear.1, hyear.2, hread.nanos_lt, fun hleap => ?_⟩
  have hseconds := hread.seconds
  have hlast := hread.leap hleap
  have hoffset := hread.shift.1
  omega

/-- The year in universal time of an instant that is read has four digits, or is next to them. -/
theorem year_of_ofText? {text : String} {t : Instant} (h : ofText? text = some t) :
    -1 ≤ t.year ∧ t.year ≤ 10000 := by
  obtain ⟨date, ofDay, offset, hread⟩ := readAs_of_ofText? h
  obtain ⟨hlow, hhigh⟩ := Date.toDays_bounds hread.valid hread.year
  have hday := hread.ofDay_lt
  have hoffset := hread.shift
  unfold year
  rw [Int.fdiv_eq_ediv_of_nonneg _ (by decide), hread.seconds]
  exact Date.year_ofDays_bounds (by omega) (by omega)

/-! ## Years with a sign -/

/-- A year outside of four digits is written behind a sign. -/
theorem renderYear_signed {year : Int} (h : ¬(0 ≤ year ∧ year ≤ 9999)) :
    ∃ sign rest, sign.isDigit = false ∧ (renderYear year).toList = sign :: rest := by
  unfold renderYear
  rw [if_neg h, String.toList_append]
  split
  · exact ⟨'-', _, rfl, rfl⟩
  · exact ⟨'+', _, rfl, rfl⟩

/-- The text of an instant in a year that is written with its sign is not read. -/
theorem ofText?_render_eq_none {t : Instant} (h : ¬(0 ≤ t.year ∧ t.year ≤ 9999)) :
    ofText? t.render = none := by
  obtain ⟨sign, year, hsign, hyear⟩ := renderYear_signed h
  obtain ⟨rest, htext⟩ : ∃ rest, t.render.toList = sign :: (year ++ rest) := by
    unfold render renderLocal
    simp only [String.toList_append, List.append_assoc]
    exact ⟨_, congrArg (· ++ _) hyear⟩
  have hdigits : takeDigits 4 t.render.toList = none := by
    simp [takeDigits, htext, hsign]
  unfold ofText?
  rw [hdigits]
  rfl

/-- An instant that is read is read again from its text exactly if its year has four digits. -/
theorem ofText?_render_iff {text : String} {t : Instant} (h : ofText? text = some t) :
    ofText? t.render = some t ↔ 0 ≤ t.year ∧ t.year ≤ 9999 := by
  by_cases hyear : 0 ≤ t.year ∧ t.year ≤ 9999
  · exact iff_of_true (ofText?_render (readable_of_ofText? h hyear)) hyear
  · refine iff_of_false ?_ hyear
    simp [ofText?_render_eq_none hyear]

end ObjectQuery.Instant
