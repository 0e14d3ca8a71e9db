import Mathlib.Data.Char
import Mathlib.Data.UInt

/-!
# Numbers in texts

Decimal numbers as they are printed and read, with a bound that depends on the
type, and bytes in hexadecimal digits. What is printed is read again
(`parseUnsigned_toDigits`, `hexDecode_hexText`).
-/

namespace Keystone3.Bytes

def parseDigits (bound : Nat) (s : List Char) : Option Nat :=
  if s ≠ [] ∧ s.all Char.isDigit = true ∧ Nat.ofDigitChars 10 s 0 < bound then
    some (Nat.ofDigitChars 10 s 0)
  else none

/-- `str::parse` of an unsigned type, which takes a plus sign. -/
def parseUnsigned (bound : Nat) : List Char → Option Nat
  | '+' :: s => parseDigits bound s
  | s => parseDigits bound s

def intText : Int → List Char
  | .ofNat n => Nat.toDigits 10 n
  | .negSucc n => '-' :: Nat.toDigits 10 (n + 1)

theorem parseUnsigned_of_digits {bound : Nat} {s : List Char} (h : ∀ c ∈ s, c.isDigit = true) :
    parseUnsigned bound s = parseDigits bound s := by
  unfold parseUnsigned
  split
  · rename_i s
    cases h '+' List.mem_cons_self
  · rfl

theorem isDigit_toDigits {n : Nat} : ∀ c ∈ Nat.toDigits 10 n, c.isDigit = true :=
  fun _ hc => Nat.isDigit_of_mem_toDigits (by omega) (by omega) hc

theorem isDigit_toNat {c : Char} (h : c.isDigit = true) : 48 ≤ c.toNat ∧ c.toNat ≤ 57 := by
  simpa [Char.isDigit, UInt32.le_iff_toNat_le] using h

theorem parseUnsigned_toDigits_eq (bound n : Nat) :
    parseUnsigned bound (Nat.toDigits 10 n) = if n < bound then some n else none := by
  have hiff : (Nat.toDigits 10 n ≠ [] ∧ (Nat.toDigits 10 n).all Char.isDigit = true ∧ n < bound)
      ↔ n < bound :=
    ⟨fun h => h.2.2, fun h => ⟨Nat.toDigits_ne_nil, List.all_eq_true.mpr isDigit_toDigits, h⟩⟩
  rw [parseUnsigned_of_digits isDigit_toDigits, parseDigits, Nat.ofDigitChars_ten_toDigits]
  exact if_congr hiff rfl rfl

theorem parseUnsigned_toDigits {bound n : Nat} (h : n < bound) :
    parseUnsigned bound (Nat.toDigits 10 n) = some n := by
  rw [parseUnsigned_toDigits_eq, if_pos h]

theorem lt_of_parseUnsigned {bound n : Nat} {s : List Char} (h : parseUnsigned bound s = some n) :
    n < bound := by
  have hdigits : ∀ s, parseDigits bound s = some n → n < bound := by
    intro s h
    unfold parseDigits at h
    split at h
    · rename_i hs
      cases h
      exact hs.2.2
    · cases h
  unfold parseUnsigned at h
  split at h
  · exact hdigits _ h
  · exact hdigits _ h

theorem parseUnsigned_negative {bound : Nat} (s : List Char) :
    parseUnsigned bound ('-' :: s) = none := by
  show parseDigits bound ('-' :: s) = none
  rw [parseDigits, if_neg]
  intro h
  have hall := List.all_eq_true.mp h.2.1 '-' (.head _)
  cases hall

def hexText (bytes : List UInt8) : List Char :=
  bytes.flatMap fun b => [Nat.digitChar (b.toNat / 16), Nat.digitChar (b.toNat % 16)]

def hexValue (c : Char) : Option Nat :=
  if '0' ≤ c ∧ c ≤ '9' then some (c.toNat - 48)
  else if 'a' ≤ c ∧ c ≤ 'f' then some (c.toNat - 87)
  else if 'A' ≤ c ∧ c ≤ 'F' then some (c.toNat - 55)
  else none

def hexDecode : List Char → Option (List UInt8)
  | [] => some []
  | [_] => none
  | a :: b :: rest =>
    match hexValue a, hexValue b with
    | some x, some y => (hexDecode rest).map fun bytes => UInt8.ofNat (16 * x + y) :: bytes
    | _, _ => none

theorem hexValue_digitChar : ∀ d < 16, hexValue (Nat.digitChar d) = some d := by
  decide

theorem hexText_cons (b : UInt8) (bytes : List UInt8) : hexText (b :: bytes)
    = Nat.digitChar (b.toNat / 16) :: Nat.digitChar (b.toNat % 16) :: hexText bytes := rfl

theorem hexDecode_hexText (bytes : List UInt8) : hexDecode (hexText bytes) = some bytes := by
  induction bytes with
  | nil => rfl
  | cons b bytes ih =>
    have hb := b.toNat_lt
    rw [hexText_cons, hexDecode, hexValue_digitChar _ (by omega), hexValue_digitChar _ (by omega)]
    dsimp only
    rw [ih, Option.map_some, Nat.div_add_mod, UInt8.ofNat_toNat]

theorem length_of_hexDecode {s : List Char} {bytes : List UInt8} (h : hexDecode s = some bytes) :
    s.length = 2 * bytes.length := by
  induction s using hexDecode.induct generalizing bytes with
  | case1 =>
    cases h
    rfl
  | case2 c => cases h
  | case3 a b rest x y hx hy ih =>
    rw [hexDecode, hx, hy] at h
    obtain ⟨bytes', hbytes, rfl⟩ := Option.map_eq_some_iff.mp h
    rw [List.length_cons, List.length_cons, List.length_cons, ih hbytes]
    omega
  | case4 a b rest hnone =>
    unfold hexDecode at h
    split at h
    · rename_i x y hx hy
      exact absurd hy (hnone x y hx)
    · cases h

theorem hexValue_toUpper_digitChar : ∀ d < 16, hexValue (Nat.digitChar d).toUpper = some d := by
  decide

theorem hexDecode_map_toUpper (bytes : List UInt8) :
    hexDecode ((hexText bytes).map Char.toUpper) = some bytes := by
  induction bytes with
  | nil => rfl
  | cons b bytes ih =>
    have hb := b.toNat_lt
    rw [hexText_cons, List.map_cons, List.map_cons, hexDecode,
      hexValue_toUpper_digitChar _ (by omega), hexValue_toUpper_digitChar _ (by omega)]
    dsimp only
    rw [ih, Option.map_some, Nat.div_add_mod, UInt8.ofNat_toNat]

theorem hexText_injective {a b : List UInt8} (h : hexText a = hexText b) : a = b := by
  have hdecode := congrArg hexDecode h
  rwa [hexDecode_hexText, hexDecode_hexText, Option.some.injEq] at hdecode

theorem length_hexText (bytes : List UInt8) : (hexText bytes).length = 2 * bytes.length :=
  length_of_hexDecode (hexDecode_hexText bytes)

theorem exists_digit_of_mem_hexText {bytes : List UInt8} {c : Char} (h : c ∈ hexText bytes) :
    ∃ d < 16, c = Nat.digitChar d := by
  obtain ⟨b, -, hc⟩ := List.mem_flatMap.mp h
  have hb := b.toNat_lt
  rcases List.mem_cons.mp hc with rfl | hc
  · exact ⟨b.toNat / 16, by omega, rfl⟩
  · exact ⟨b.toNat % 16, by omega, List.mem_singleton.mp hc⟩

theorem toNat_lt_of_mem_hexText {bytes : List UInt8} {c : Char} (h : c ∈ hexText bytes) :
    c.toNat < 128 := by
  have hdigit : ∀ d < 16, (Nat.digitChar d).toNat < 128 := by decide
  obtain ⟨d, hd, rfl⟩ := exists_digit_of_mem_hexText h
  exact hdigit d hd

end Keystone3.Bytes
