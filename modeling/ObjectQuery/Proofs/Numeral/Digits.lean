import Mathlib.Algebra.Group.Nat.Defs
import ObjectQuery.Numeral.Unsigned

/-!
# Decimal digits

The value of a list of digits, as the readers of numerals and instants compute it, against the digits a
number is written with.
-/

namespace ObjectQuery.Numeral

theorem ofDigits_eq (ds : List Char) : ofDigits ds = Nat.ofDigitChars 10 ds 0 := by
  rw [ofDigits, Nat.ofDigitChars_eq_foldl]
  congr 1
  funext n c
  rw [Nat.mul_comm]

/-- The digits of a number behind zeros are digits of its value. -/
theorem zeros_toDigits (zeros n : Nat) :
    (∀ c ∈ List.replicate zeros '0' ++ Nat.toDigits 10 n, c.isDigit = true) ∧
      Nat.ofDigitChars 10 (List.replicate zeros '0' ++ Nat.toDigits 10 n) 0 = n := by
  refine ⟨fun c hc => ?_, ?_⟩
  · rcases List.mem_append.mp hc with hzero | hdigit
    · rw [(List.mem_replicate.mp hzero).2]
      decide
    · exact Nat.isDigit_of_mem_toDigits (by decide) (by decide) hdigit
  · rw [Nat.ofDigitChars_append, Nat.ofDigitChars_replicate_zero, Nat.mul_zero,
      Nat.ofDigitChars_ten_toDigits]

theorem le_ofDigitChars (ds : List Char) (m : Nat) : m ≤ Nat.ofDigitChars 10 ds m := by
  induction ds generalizing m with
  | nil => exact Nat.le_refl _
  | cons c ds ih =>
    rw [Nat.ofDigitChars_cons]
    exact Nat.le_trans (by omega) (ih _)

theorem digit_toNat_lt {c : Char} (h : c.isDigit = true) : c.toNat - '0'.toNat < 10 := by
  simp only [Char.isDigit, Bool.and_eq_true, decide_eq_true_eq, UInt32.le_iff_toNat_le,
    ge_iff_le] at h
  change 48 ≤ c.toNat ∧ c.toNat ≤ 57 at h
  change c.toNat - 48 < 10
  omega

/-- The value of some digits stays below the power of ten of their number. -/
theorem ofDigits_lt {ds : List Char} (h : ∀ c ∈ ds, c.isDigit = true) :
    ofDigits ds < 10 ^ ds.length := by
  have hfold : ∀ m, Nat.ofDigitChars 10 ds m < (m + 1) * 10 ^ ds.length := by
    induction ds with
    | nil => exact fun m => by simp
    | cons c ds ih =>
      intro m
      obtain ⟨hc, hds⟩ := List.forall_mem_cons.mp h
      have hlt := digit_toNat_lt hc
      rw [Nat.ofDigitChars_cons, List.length_cons, Nat.pow_succ']
      calc Nat.ofDigitChars 10 ds (10 * m + (c.toNat - '0'.toNat))
          < (10 * m + (c.toNat - '0'.toNat) + 1) * 10 ^ ds.length := ih hds _
        _ ≤ (m + 1) * 10 * 10 ^ ds.length := Nat.mul_le_mul_right _ (by omega)
        _ = (m + 1) * (10 * 10 ^ ds.length) := Nat.mul_assoc _ _ _
  rw [ofDigits_eq]
  simpa using hfold 0

/-! ## Numerals without needless zeros -/

/-- A number other than zero is written with another digit first. -/
theorem head?_toDigits_ne {n : Nat} (h : 0 < n) : (Nat.toDigits 10 n).head? ≠ some '0' := by
  induction n using Nat.strongRecOn with
  | ind n ih =>
    rw [Nat.toDigits_eq_if (by decide)]
    split
    · simpa using Nat.ne_of_gt h
    · next hge =>
      have hfront := ih (n / 10) (by omega) (by omega)
      rw [List.head?_append]
      cases hhead : (Nat.toDigits 10 (n / 10)).head? with
      | none => exact absurd (List.head?_eq_none_iff.mp hhead) Nat.toDigits_ne_nil
      | some c => rwa [hhead] at hfront

theorem toDigits_digit {c : Char} (h : c.isDigit = true) :
    Nat.toDigits 10 (c.toNat - '0'.toNat) = [c] := by
  have hc : c = Char.ofNat c.toNat := (Char.ofNat_toNat c).symm
  simp only [Char.isDigit, Bool.and_eq_true, decide_eq_true_eq, UInt32.le_iff_toNat_le,
    ge_iff_le] at h
  change 48 ≤ c.toNat ∧ c.toNat ≤ 57 at h
  obtain ⟨d, hd⟩ : ∃ d, c.toNat = 48 + d := ⟨c.toNat - 48, by omega⟩
  rw [hc, hd]
  have hlt : d < 10 := by omega
  clear hc hd h
  revert d
  decide

/-- Digits that do not start with zero are those their value is written with. -/
theorem toDigits_ofDigitChars {ds : List Char} (hdigits : ∀ c ∈ ds, c.isDigit = true)
    (hne : ds ≠ []) (hzero : ds.head? ≠ some '0') :
    0 < Nat.ofDigitChars 10 ds 0 ∧ Nat.toDigits 10 (Nat.ofDigitChars 10 ds 0) = ds := by
  induction hlength : ds.length generalizing ds with
  | zero => exact absurd (List.length_eq_zero_iff.mp hlength) hne
  | succ n ih =>
    -- The value is read from the left, so the last digit is the one to take away.
    obtain ⟨front, c, rfl⟩ : ∃ front c, ds = front ++ [c] :=
      ⟨ds.dropLast, ds.getLast hne, (List.dropLast_concat_getLast hne).symm⟩
    obtain ⟨hfront, hc⟩ := List.forall_mem_append.mp hdigits
    have hdigit := toDigits_digit (hc c (List.mem_singleton_self c))
    rw [Nat.ofDigitChars_append, Nat.ofDigitChars_cons, Nat.ofDigitChars_nil]
    cases front with
    | nil =>
      rw [Nat.ofDigitChars_nil, Nat.mul_zero, Nat.zero_add]
      refine ⟨Nat.pos_of_ne_zero fun hvalue => hzero ?_, hdigit⟩
      rw [hvalue, Nat.toDigits_zero] at hdigit
      rw [← hdigit]
      rfl
    | cons first rest =>
      have hrest : (first :: rest).length = n := by simpa using hlength
      obtain ⟨hpos, hsame⟩ := ih hfront (List.cons_ne_nil _ _) hzero hrest
      refine ⟨by omega, ?_⟩
      rw [← Nat.toDigits_append_toDigits (by decide) hpos
        (digit_toNat_lt (hc c (List.mem_singleton_self c))), hsame, hdigit]

end ObjectQuery.Numeral
