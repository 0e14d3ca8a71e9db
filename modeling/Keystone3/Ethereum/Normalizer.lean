import Keystone3.Bytes.Decimal

/-!
# Wei in ether

`normalize_value` prints a number of wei as ether: padded to 18 digits, cut in
front of the last 18 and without the zeros at the end. `isDecimal_normalizeValue`
says that this is the exact decimal.
-/

namespace Keystone3.Ethereum

open Bytes (trimZeros padTo IsDecimal)

/-- `if res.ends_with('.') { res.pop(); }` -/
def popPoint (res : List Char) : List Char := if res.getLast? = some '.' then res.dropLast else res

def normalizeValue (value : Nat) : List Char :=
  let valueStr := Nat.toDigits 10 value
  if valueStr = ['0'] then ['0']
  else
    let paddedValue := padTo 18 valueStr
    let len := paddedValue.length
    let res :=
      if len ≤ 18 then ['0', '.'] ++ trimZeros paddedValue
      else
        let intPart := paddedValue.take (len - 18)
        let decimal := trimZeros (paddedValue.drop (len - 18))
        intPart ++ ['.'] ++ decimal
    popPoint res

theorem popPoint_append (s : List Char) {t : List Char} (h : ∀ c ∈ t, c.isDigit = true) :
    popPoint (s ++ ['.'] ++ t) = s ++ if t = [] then [] else '.' :: t := by
  by_cases ht : t = []
  · rw [ht, if_pos rfl, List.append_nil, List.append_nil, popPoint, List.getLast?_concat, if_pos rfl,
      List.dropLast_concat]
  · rw [if_neg ht, popPoint, List.append_assoc, if_neg]
    · rfl
    · -- the last character is one of the digits
      intro hlast
      rw [List.getLast?_append_of_ne_nil _ (by simp), List.getLast?_append_of_ne_nil _ ht] at hlast
      have hdigit := h '.' (List.mem_of_getLast? hlast)
      cases hdigit

theorem toDigits_eq_zero {n : Nat} : Nat.toDigits 10 n = ['0'] ↔ n = 0 := by
  constructor
  · intro h
    have hvalue := congrArg (fun s => Nat.ofDigitChars 10 s 0) h
    exact Nat.ofDigitChars_ten_toDigits.symm.trans hvalue
  · intro h
    rw [h, Nat.toDigits_zero]

/-- **Wei are printed exactly in ether**, without a zero too many. -/
theorem isDecimal_normalizeValue (value : Nat) :
    IsDecimal (normalizeValue value) (value / 10 ^ 18) := by
  rw [normalizeValue]
  by_cases hzero : value = 0
  · rw [if_pos (toDigits_eq_zero.mpr hzero), hzero]
    have hdecimal := @Bytes.isDecimal_of_dvd 0 18 (Nat.zero_mod _)
    rwa [Nat.zero_div, Nat.toDigits_zero] at hdecimal
  rw [if_neg (mt toDigits_eq_zero.mp hzero)]
  dsimp only
  rcases Nat.lt_or_ge value (10 ^ 18) with hsmall | hbig
  · -- no digit is in front of the point
    have hlength := Bytes.length_padTo_toDigits (by omega) hsmall
    rw [if_pos hlength.le, show ['0', '.'] = ['0'] ++ ['.'] from rfl,
      popPoint_append _ fun c hc => Bytes.isDigit_padTo c (Bytes.mem_of_mem_trimZeros hc)]
    have hvalue : Nat.ofDigitChars 10 (padTo 18 (Nat.toDigits 10 value)) 0 = value % 10 ^ 18 := by
      rw [Bytes.ofDigitChars_padTo, Nat.mod_eq_of_lt hsmall]
    have hdecimal := Bytes.isDecimal_of_places Bytes.isDigit_padTo hlength hvalue
    rwa [Nat.div_eq_of_lt hsmall, Nat.toDigits_zero] at hdecimal
  · obtain ⟨places, hdigits, hlength, hdigit, hvalue⟩ := Bytes.exists_toDigits_append 18 hbig
    have hwhole := List.length_pos_of_ne_nil (@Nat.toDigits_ne_nil (value / 10 ^ 18) 10)
    have hlen : (Nat.toDigits 10 value).length
        = (Nat.toDigits 10 (value / 10 ^ 18)).length + 18 := by
      rw [hdigits, List.length_append, hlength]
    rw [Bytes.padTo_of_le (by omega), if_neg (by omega), hlen, Nat.add_sub_cancel, hdigits,
      List.take_left, List.drop_left,
      popPoint_append _ fun c hc => hdigit c (Bytes.mem_of_mem_trimZeros hc)]
    exact Bytes.isDecimal_of_places hdigit hlength hvalue

end Keystone3.Ethereum
