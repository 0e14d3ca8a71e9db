import Mathlib.Algebra.Order.Field.Rat
import Mathlib.Data.List.DropRight
import Mathlib.Tactic.FieldSimp
import Mathlib.Tactic.Ring
import Keystone3.Bytes.Numeral

/-!
# Decimal fractions in texts

`Decimal` is a number with digits behind the point, the last of which is not a
zero. A text is the exact decimal of a rational number (`IsDecimal`) if it is
printed from a `Decimal` of that value. Digits that are cut off a number at a
place make one, once the zeros at their end are gone (`isDecimal_of_places`).
-/

namespace Keystone3.Bytes

/-- A number with digits behind the point, without zeros at their end. -/
structure Decimal where
  whole : Nat
  places : List Char
  isDigit : ∀ c ∈ places, c.isDigit = true
  trimmed : ∀ h : places ≠ [], places.getLast h ≠ '0'

namespace Decimal

def text (x : Decimal) : List Char :=
  Nat.toDigits 10 x.whole ++ if x.places = [] then [] else '.' :: x.places

def value (x : Decimal) : ℚ := x.whole + (Nat.ofDigitChars 10 x.places 0 : ℚ) / 10 ^ x.places.length

end Decimal

/-- A text is a number, exactly, and has no zero too many. -/
def IsDecimal (s : List Char) (q : ℚ) : Prop := ∃ x : Decimal, x.text = s ∧ x.value = q

theorem Decimal.takeWhile_text (x : Decimal) :
    x.text.takeWhile Char.isDigit = Nat.toDigits 10 x.whole := by
  have hdigits : ∀ c ∈ Nat.toDigits 10 x.whole, c.isDigit = true := fun c hc =>
    Nat.isDigit_of_mem_toDigits (by decide) (by decide) hc
  rw [text, List.takeWhile_append_of_pos hdigits]
  by_cases hnil : x.places = []
  · rw [if_pos hnil, List.takeWhile_nil, List.append_nil]
  · rw [if_neg hnil, List.takeWhile_cons_of_neg (by decide), List.append_nil]

variable {s : List Char}

theorem IsDecimal.unique {q r : ℚ} (hq : IsDecimal s q) (hr : IsDecimal s r) :
    q = r := by
  obtain ⟨x, hx, rfl⟩ := hq
  obtain ⟨y, hy, rfl⟩ := hr
  have hdigits : Nat.toDigits 10 x.whole = Nat.toDigits 10 y.whole := by
    rw [← x.takeWhile_text, ← y.takeWhile_text, hx, hy]
  have hwhole : x.whole = y.whole := by
    rw [← Nat.ofDigitChars_ten_toDigits (n := x.whole), hdigits, Nat.ofDigitChars_ten_toDigits]
  have hplaces : x.places = y.places := by
    have hrest := hx.trans hy.symm
    rw [Decimal.text, Decimal.text, hdigits, List.append_cancel_left_eq] at hrest
    split_ifs at hrest with hnil hnil' hnil'
    · rw [hnil, hnil']
    · exact (List.cons.inj hrest).2
  rw [Decimal.value, Decimal.value, hwhole, hplaces]

/-- `while s.ends_with('0') { s.pop(); }` -/
def trimZeros (s : List Char) : List Char := s.rdropWhile fun c => c = '0'

theorem trimZeros_append (s : List Char) :
    ∃ k, s = trimZeros s ++ List.replicate k '0' := by
  have hzeros : s.rtakeWhile (fun c => c = '0')
      = List.replicate (s.rtakeWhile fun c => c = '0').length '0' :=
    List.eq_replicate_of_mem fun c hc =>
      of_decide_eq_true (@List.mem_rtakeWhile_imp _ (fun c => decide (c = '0')) _ _ hc)
  refine ⟨(s.rtakeWhile fun c => c = '0').length, ?_⟩
  rw [← hzeros, trimZeros, List.rdropWhile_append_rtakeWhile]

theorem mem_of_mem_trimZeros {c : Char} (h : c ∈ trimZeros s) : c ∈ s :=
  (List.rdropWhile_prefix _ s).subset h

theorem getLast_trimZeros (h : trimZeros s ≠ []) :
    (trimZeros s).getLast h ≠ '0' :=
  of_decide_eq_false (Bool.not_eq_true _ ▸ List.rdropWhile_last_not _ _ h)

theorem trimZeros_ne_nil (h : Nat.ofDigitChars 10 s 0 ≠ 0) : trimZeros s ≠ [] := by
  intro hnil
  obtain ⟨k, hk⟩ := trimZeros_append s
  rw [hnil, List.nil_append] at hk
  rw [hk, Nat.ofDigitChars_replicate_zero] at h
  exact h (Nat.mul_zero _)

theorem trimZeros_append_left (s : List Char) {t : List Char} (h : trimZeros t ≠ []) :
    trimZeros (s ++ t) = s ++ trimZeros t := by
  obtain ⟨k, hk⟩ := trimZeros_append t
  have hlast := getLast_trimZeros h
  have hstop : trimZeros (s ++ trimZeros t) = s ++ trimZeros t := by
    refine (List.rdropWhile_eq_self_iff).mpr fun hne => ?_
    rw [List.getLast_append_of_ne_nil _ h]
    simpa using hlast
  have hzeros : ∀ l : List Char, trimZeros (l ++ List.replicate k '0') = trimZeros l := by
    intro l
    rw [trimZeros, List.rdropWhile, List.reverse_append, List.dropWhile_append_of_pos]
    · rfl
    · intro c hc
      exact decide_eq_true (List.eq_of_mem_replicate (List.mem_reverse.mp hc))
  calc trimZeros (s ++ t) = trimZeros (s ++ trimZeros t ++ List.replicate k '0') := by
        rw [List.append_assoc, ← hk]
    _ = s ++ trimZeros t := by rw [hzeros, hstop]

def Decimal.ofPlaces (whole : Nat) (places : List Char)
    (h : ∀ c ∈ places, c.isDigit = true) : Decimal where
  whole
  places := trimZeros places
  isDigit := fun c hc => h c (mem_of_mem_trimZeros hc)
  trimmed := getLast_trimZeros

theorem Decimal.value_ofPlaces (whole : Nat) (places : List Char)
    (h : ∀ c ∈ places, c.isDigit = true) : (Decimal.ofPlaces whole places h).value
      = whole + (Nat.ofDigitChars 10 places 0 : ℚ) / 10 ^ places.length := by
  obtain ⟨k, hk⟩ := trimZeros_append places
  have hvalue : Nat.ofDigitChars 10 places 0
      = 10 ^ k * Nat.ofDigitChars 10 (trimZeros places) 0 := by
    conv_lhs => rw [hk, Nat.ofDigitChars_append, Nat.ofDigitChars_replicate_zero]
  have hlength : places.length = (trimZeros places).length + k := by
    conv_lhs => rw [hk, List.length_append, List.length_replicate]
  have hpow : (10 : ℚ) ^ k ≠ 0 := pow_ne_zero k (by norm_num)
  show (whole : ℚ) + (Nat.ofDigitChars 10 (trimZeros places) 0 : ℚ)
    / 10 ^ (trimZeros places).length = _
  rw [hvalue, hlength, Nat.cast_mul, Nat.cast_pow, pow_add, Nat.cast_ofNat]
  field_simp

theorem isDecimal_of_places {n d : Nat} {places : List Char}
    (hdigit : ∀ c ∈ places, c.isDigit = true) (hlength : places.length = d)
    (hvalue : Nat.ofDigitChars 10 places 0 = n % 10 ^ d) :
    IsDecimal (Nat.toDigits 10 (n / 10 ^ d)
      ++ if trimZeros places = [] then [] else '.' :: trimZeros places) (n / 10 ^ d) := by
  refine ⟨Decimal.ofPlaces (n / 10 ^ d) places hdigit, rfl, ?_⟩
  have hpow : (10 : ℚ) ^ d ≠ 0 := pow_ne_zero d (by norm_num)
  have hn : (n : ℚ) = (10 ^ d * (n / 10 ^ d) + n % 10 ^ d : Nat) := by rw [Nat.div_add_mod]
  rw [Decimal.value_ofPlaces, hlength, hvalue, eq_div_iff hpow, add_mul, div_mul_cancel₀ _ hpow, hn,
    Nat.cast_add, Nat.cast_mul, Nat.cast_pow, Nat.cast_ofNat, mul_comm]

theorem isDecimal_of_dvd {n d : Nat} (h : n % 10 ^ d = 0) :
    IsDecimal (Nat.toDigits 10 (n / 10 ^ d)) (n / 10 ^ d) := by
  have hzeros : ∀ c ∈ List.replicate d '0', c.isDigit = true := by
    intro c hc
    rw [List.eq_of_mem_replicate hc]
    rfl
  have hvalue : Nat.ofDigitChars 10 (List.replicate d '0') 0 = n % 10 ^ d := by
    rw [Nat.ofDigitChars_replicate_zero, h, Nat.mul_zero]
  have hnil : trimZeros (List.replicate d '0') = [] :=
    List.rdropWhile_eq_nil_iff.mpr fun c hc => decide_eq_true (List.eq_of_mem_replicate hc)
  have hdecimal := isDecimal_of_places hzeros List.length_replicate hvalue
  rwa [if_pos hnil, List.append_nil] at hdecimal

def padTo (width : Nat) (s : List Char) : List Char := List.replicate (width - s.length) '0' ++ s

theorem length_padTo {width : Nat} (h : s.length ≤ width) :
    (padTo width s).length = width := by
  rw [padTo, List.length_append, List.length_replicate]
  omega

theorem padTo_of_le {width : Nat} (h : width ≤ s.length) : padTo width s = s := by
  rw [padTo, Nat.sub_eq_zero_of_le h]
  rfl

theorem isDigit_padTo {width n : Nat} : ∀ c ∈ padTo width (Nat.toDigits 10 n), c.isDigit = true := by
  intro c hc
  rcases List.mem_append.mp hc with hc | hc
  · rw [List.eq_of_mem_replicate hc]
    rfl
  · exact isDigit_toDigits c hc

theorem ofDigitChars_padTo (width n : Nat) :
    Nat.ofDigitChars 10 (padTo width (Nat.toDigits 10 n)) 0 = n := by
  rw [padTo, Nat.ofDigitChars_append, Nat.ofDigitChars_replicate_zero, Nat.mul_zero,
    Nat.ofDigitChars_ten_toDigits]

theorem length_padTo_toDigits {width n : Nat} (hwidth : 0 < width) (h : n < 10 ^ width) :
    (padTo width (Nat.toDigits 10 n)).length = width :=
  length_padTo ((Nat.length_toDigits_le_iff (by omega) hwidth).mpr h)

theorem exists_toDigits_append {n : Nat} (d : Nat) (h : 10 ^ d ≤ n) :
    ∃ places : List Char, Nat.toDigits 10 n = Nat.toDigits 10 (n / 10 ^ d) ++ places
      ∧ places.length = d ∧ (∀ c ∈ places, c.isDigit = true)
      ∧ Nat.ofDigitChars 10 places 0 = n % 10 ^ d := by
  induction d generalizing n with
  | zero =>
    refine ⟨[], ?_, rfl, List.forall_mem_nil _, ?_⟩
    · rw [Nat.pow_zero, Nat.div_one, List.append_nil]
    · rw [Nat.pow_zero, Nat.mod_one, Nat.ofDigitChars_nil]
  | succ d ih =>
    rw [Nat.pow_succ] at h
    have hpos : 0 < 10 ^ d := Nat.pow_pos (by omega)
    -- the last digit is cut off first
    obtain ⟨places, hdigits, hlength, hdigit, hvalue⟩ :=
      @ih (n / 10) ((Nat.le_div_iff_mul_le (by omega)).mpr h)
    have hlast : n % 10 < 10 := Nat.mod_lt n (by omega)
    refine ⟨places ++ [Nat.digitChar (n % 10)], ?_, ?_, ?_, ?_⟩
    · rw [Nat.toDigits_of_base_le (by omega) (by omega : 10 ≤ n), hdigits, List.append_assoc,
        Nat.pow_succ, Nat.mul_comm, Nat.div_div_eq_div_mul]
    · rw [List.length_append, hlength]
      rfl
    · intro c hc
      rcases List.mem_append.mp hc with hc | hc
      · exact hdigit c hc
      · rw [← Nat.toDigits_of_lt_base hlast] at hc
        exact isDigit_toDigits c hc
    · rw [Nat.ofDigitChars_append, hvalue, Nat.ofDigitChars_cons_digitChar_of_lt_ten hlast,
        Nat.ofDigitChars_nil, Nat.pow_succ, Nat.mul_comm (10 ^ d), Nat.mod_mul]
      omega

end Keystone3.Bytes
