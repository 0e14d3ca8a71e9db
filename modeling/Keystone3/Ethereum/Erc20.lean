import Keystone3.Bytes.Slice
import Keystone3.Ethereum.JsonValue
import Keystone3.Ethereum.Normalizer

/-!
# Calls of a token

A call is a method of four bytes and two words, an address and an amount, all in
hexadecimal digits. What the encoder writes is a transfer: it is shown with its
recipient and its amount as a transfer, and refused as an approval (`calldata_shown`).
-/

namespace Keystone3.Ethereum

open Bytes (Block hexText hexDecode hexValue trimZeros padTo slice IsDecimal)
open Logic (Outcome)

/-- `BigUint::parse_bytes`, to the base sixteen. -/
structure BigUintLib where
  parseBytes : Text → Option Nat

structure BigUintLib.Lawful (lib : BigUintLib) : Prop where
  parseBytes_digits : ∀ s : Text, s ≠ [] → (∀ c ∈ s, (hexValue c).isSome = true) →
    lib.parseBytes s = some (hexNumber s)

abbrev CallResult (α : Type) : Type := Outcome Text α

structure ParsedErc20Transaction where
  recipient : Text
  value : Text

structure ParsedErc20Approval where
  spender : Text
  value : Text

section

variable (lib : BigUintLib)

/-- An amount in units of the token. The power of ten is one of 64 bits, and nothing is divided by
zero. -/
def unitsText (value : Nat) (decimal : UInt32) : CallResult Text :=
  let divider := 10 ^ decimal.toNat % 2 ^ 64
  if divider = 0 then .halted
  else
    let valueDecimal := value / divider
    let remainder := value % divider
    if remainder ≠ 0 then
      let paddedRemainder := padTo decimal.toNat (Nat.toDigits 10 remainder)
      .ok (trimZeros (Nat.toDigits 10 valueDecimal ++ ['.'] ++ paddedRemainder))
    else .ok (Nat.toDigits 10 valueDecimal)

def callArguments (addressError input : Text) (decimal : UInt32) : CallResult (Text × Text) := do
  let addressHex ← Outcome.unwrap (slice input 32 72)
  let bytes ← Outcome.okOr addressError (hexDecode addressHex)
  let valueHex ← Outcome.unwrap (slice input 72 (asBytes input).length)
  let value ← Outcome.okOr "Failed to parse 'value' as a big uint".toList (lib.parseBytes valueHex)
  let text ← unitsText value decimal
  pure (['0', 'x'] ++ hexText bytes, text)

def parseErc20 (input : Text) (decimal : UInt32) : CallResult ParsedErc20Transaction :=
  if (asBytes input).length ≠ 136 then .error "Input must be 136 characters long".toList
  else do
    let (recipient, value) ←
      callArguments lib "Failed to decode 'to' address".toList input decimal
    pure ⟨recipient, value⟩

def parseErc20Approval (input : Text) (decimal : UInt32) : CallResult ParsedErc20Approval :=
  if (asBytes input).length ≠ 136 then .error "Input must be 136 characters long".toList
  else do
    let methodId ← Outcome.unwrap (slice input 0 8)
    if methodId ≠ "095ea7b3".toList then .error "Invalid method id".toList
    else do
      let (spender, value) ←
        callArguments lib "Failed to decode 'spender' address".toList input decimal
      pure ⟨spender, value⟩

end

theorem hexNumber_append (s t : Text) :
    hexNumber (s ++ t) = 16 ^ t.length * hexNumber s + hexNumber t := by
  have hfold : ∀ (t : Text) (n : Nat), t.foldl (fun n c => 16 * n + (hexValue c).getD 0) n
      = 16 ^ t.length * n + hexNumber t := by
    intro t
    induction t with
    | nil => intro n; simp [hexNumber]
    | cons c t ih =>
      intro n
      have hcons : hexNumber (c :: t) = 16 ^ t.length * (16 * 0 + (hexValue c).getD 0) + hexNumber t :=
        ih _
      rw [List.foldl_cons, ih, hcons, List.length_cons, Nat.pow_succ]
      ring
  rw [hexNumber, List.foldl_append, hfold]
  rfl

theorem hexNumber_replicate_zero (k : Nat) : hexNumber (List.replicate k '0') = 0 := by
  induction k with
  | zero => rfl
  | succ k ih =>
    rw [List.replicate_succ']
    exact (hexNumber_append _ _).trans (by rw [ih]; rfl)

theorem hexNumber_singleton {d : Nat} (h : d < 16) : hexNumber [Nat.digitChar d] = d := by
  rw [hexNumber, List.foldl_cons, List.foldl_nil, Bytes.hexValue_digitChar d h, Option.getD_some,
    Nat.mul_zero, Nat.zero_add]

theorem hexNumber_toDigits (n : Nat) : hexNumber (Nat.toDigits 16 n) = n := by
  induction n using Nat.strong_induction_on with
  | _ n ih =>
    rcases Nat.lt_or_ge n 16 with hsmall | hbig
    · rw [Nat.toDigits_of_lt_base hsmall, hexNumber_singleton hsmall]
    · rw [Nat.toDigits_of_base_le (by omega) hbig, hexNumber_append, ih (n / 16) (by omega),
        hexNumber_singleton (by omega)]
      exact Nat.div_add_mod n 16

def IsHexDigit (c : Char) : Prop := ∃ d < 16, c = Nat.digitChar d

theorem isHexDigit_of_mem {c : Char} (h : c ∈ "0123456789abcdef".toList) : IsHexDigit c := by
  have hdigits : "0123456789abcdef".toList = (List.range 16).map Nat.digitChar := by decide
  rw [hdigits] at h
  obtain ⟨d, hd, rfl⟩ := List.mem_map.mp h
  exact ⟨d, List.mem_range.mp hd, rfl⟩

theorem IsHexDigit.isSome {c : Char} (h : IsHexDigit c) : (hexValue c).isSome = true := by
  obtain ⟨d, hd, rfl⟩ := h
  rw [Bytes.hexValue_digitChar d hd]
  rfl

theorem IsHexDigit.utf8Size {c : Char} (h : IsHexDigit c) : c.utf8Size = 1 := by
  have hdigit : ∀ d < 16, (Nat.digitChar d).utf8Size = 1 := by decide
  obtain ⟨d, hd, rfl⟩ := h
  exact hdigit d hd

theorem isHexDigit_toDigits {n : Nat} : ∀ c ∈ Nat.toDigits 16 n, IsHexDigit c := by
  induction n using Nat.strong_induction_on with
  | _ n ih =>
    intro c hc
    rcases Nat.lt_or_ge n 16 with hsmall | hbig
    · rw [Nat.toDigits_of_lt_base hsmall] at hc
      exact ⟨n, hsmall, List.mem_singleton.mp hc⟩
    · rw [Nat.toDigits_of_base_le (by omega) hbig] at hc
      rcases List.mem_append.mp hc with hc | hc
      · exact ih (n / 16) (by omega) c hc
      · exact ⟨n % 16, by omega, List.mem_singleton.mp hc⟩

theorem isHexDigit_padded {s : Text} (h : ∀ c ∈ s, IsHexDigit c) : ∀ c ∈ padded s, IsHexDigit c := by
  intro c hc
  rcases List.mem_append.mp hc with hc | hc
  · exact ⟨0, by omega, List.eq_of_mem_replicate hc⟩
  · exact h c hc

theorem length_padded {s : Text} (h : s.length ≤ 64) : (padded s).length = 64 :=
  Bytes.length_padTo h

/-- **An amount is shown exactly**, where the power of ten has 64 bits. -/
theorem unitsText_spec (value : Nat) {decimal : UInt32} (h : 10 ^ decimal.toNat < 2 ^ 64) :
    ∃ text, unitsText value decimal = .ok text
      ∧ IsDecimal text ((value : ℚ) / 10 ^ decimal.toNat) := by
  have hpos : 0 < 10 ^ decimal.toNat := Nat.pow_pos (by omega)
  rw [unitsText, Nat.mod_eq_of_lt h]
  dsimp only
  rw [if_neg (by omega)]
  by_cases hzero : value % 10 ^ decimal.toNat = 0
  · exact ⟨_, if_neg (not_not_intro hzero), Bytes.isDecimal_of_dvd hzero⟩
  · have hlt := Nat.mod_lt value hpos
    have hwidth : 0 < decimal.toNat := by
      by_contra hnot
      rw [Nat.le_zero.mp (Nat.not_lt.mp hnot), Nat.pow_zero, Nat.mod_one] at hzero
      exact hzero rfl
    have hvalue := Bytes.ofDigitChars_padTo decimal.toNat (value % 10 ^ decimal.toNat)
    have hne := Bytes.trimZeros_ne_nil (hvalue ▸ hzero)
    have hdecimal := Bytes.isDecimal_of_places Bytes.isDigit_padTo
      (Bytes.length_padTo_toDigits hwidth hlt) hvalue
    refine ⟨_, if_pos hzero, ?_⟩
    rw [if_neg hne] at hdecimal
    rwa [Bytes.trimZeros_append_left _ hne, List.append_assoc]

def callText (methodId : Text) (address : Block 20) (amount : Nat) : Text :=
  methodId ++ padded (hexText address.bytes) ++ padded (Nat.toDigits 16 amount)

theorem encodeErc20TransferCalldata_eq (recipient : Block 20) (amount : Nat) :
    encodeErc20TransferCalldata recipient amount = callText "a9059cbb".toList recipient amount := rfl

section

variable {methodId : Text} (address : Block 20) (amount : BitVec 256)

theorem isHexDigit_callText (hmethod : ∀ c ∈ methodId, IsHexDigit c) :
    ∀ c ∈ callText methodId address amount.toNat, IsHexDigit c := by
  intro c hc
  rcases List.mem_append.mp hc with hc | hc
  · rcases List.mem_append.mp hc with hc | hc
    · exact hmethod c hc
    · exact isHexDigit_padded (fun c hc => Bytes.exists_digit_of_mem_hexText hc) c hc
  · exact isHexDigit_padded isHexDigit_toDigits c hc

theorem length_padded_amount : (padded (Nat.toDigits 16 amount.toNat)).length = 64 := by
  have hlt := amount.isLt
  exact length_padded ((Nat.length_toDigits_le_iff (by omega) (by omega)).mpr (by omega))

theorem padded_address :
    padded (hexText address.bytes) = List.replicate 24 '0' ++ hexText address.bytes := by
  rw [padded, Bytes.length_hexText, address.size_eq]

theorem length_callText (hlength : methodId.length = 8) :
    (callText methodId address amount.toNat).length = 136 := by
  have haddress := Bytes.length_hexText address.bytes
  rw [callText, List.length_append, List.length_append, length_padded_amount, padded_address,
    List.length_append, List.length_replicate, haddress, address.size_eq, hlength]

theorem length_asBytes {s : Text} (h : ∀ c ∈ s, c.utf8Size = 1) : (asBytes s).length = s.length := by
  induction s with
  | nil => rfl
  | cons c s ih =>
    obtain ⟨hc, hs⟩ := List.forall_mem_cons.mp h
    rw [asBytes, List.flatMap_cons, List.length_append, String.length_utf8EncodeChar, hc,
      List.length_cons]
    have hrest : (s.flatMap String.utf8EncodeChar).length = s.length := ih hs
    omega

variable (hmethod : ∀ c ∈ methodId, IsHexDigit c) (hlength : methodId.length = 8)

include hmethod hlength

theorem length_asBytes_callText :
    (asBytes (callText methodId address amount.toNat)).length = 136 := by
  rw [length_asBytes fun c hc => (isHexDigit_callText address amount hmethod c hc).utf8Size,
    length_callText address amount hlength]

theorem slice_callText {start stop : Nat} (hstart : start ≤ stop) (hstop : stop ≤ 136) :
    slice (callText methodId address amount.toNat) start stop
      = some (((callText methodId address amount.toNat).drop start).take (stop - start)) :=
  Bytes.slice_eq (fun c hc => (isHexDigit_callText address amount hmethod c hc).utf8Size) hstart
    (by rwa [length_callText address amount hlength])

theorem slice_methodId : slice (callText methodId address amount.toNat) 0 8 = some methodId := by
  rw [slice_callText address amount hmethod hlength (by omega) (by omega), List.drop_zero, callText,
    List.append_assoc, List.take_left' hlength]

theorem slice_address :
    slice (callText methodId address amount.toNat) 32 72 = some (hexText address.bytes) := by
  have hbytes : (hexText address.bytes).length = 72 - 32 := by
    rw [Bytes.length_hexText, address.size_eq]
  have hfront : (methodId ++ List.replicate 24 '0').length = 32 := by
    rw [List.length_append, hlength, List.length_replicate]
  rw [slice_callText address amount hmethod hlength (by omega) (by omega), callText, padded_address,
    ← List.append_assoc, List.append_assoc, List.drop_left' hfront, List.take_left' hbytes]

theorem slice_amount : slice (callText methodId address amount.toNat) 72 136
    = some (padded (Nat.toDigits 16 amount.toNat)) := by
  have hfront : (methodId ++ padded (hexText address.bytes)).length = 72 := by
    rw [List.length_append, padded_address, List.length_append, List.length_replicate,
      Bytes.length_hexText, address.size_eq, hlength]
  rw [slice_callText address amount hmethod hlength (by omega) (by omega), callText,
    List.drop_left' hfront, List.take_of_length_le (length_padded_amount amount).le]

/-- **A call is read as it is written**: its address, and its amount in units of the token. -/
theorem callArguments_callText {lib : BigUintLib} (hlib : lib.Lawful) (addressError : Text)
    {decimal : UInt32} (h : 10 ^ decimal.toNat < 2 ^ 64) :
    ∃ text, callArguments lib addressError (callText methodId address amount.toNat) decimal
        = .ok (['0', 'x'] ++ hexText address.bytes, text)
      ∧ IsDecimal text ((amount.toNat : ℚ) / 10 ^ decimal.toNat) := by
  obtain ⟨text, htext, hdecimal⟩ := unitsText_spec amount.toNat h
  have hdigits : ∀ c ∈ padded (Nat.toDigits 16 amount.toNat), IsHexDigit c :=
    isHexDigit_padded isHexDigit_toDigits
  have hne : padded (Nat.toDigits 16 amount.toNat) ≠ [] :=
    List.ne_nil_of_length_pos (by rw [length_padded_amount]; omega)
  have hnumber : hexNumber (padded (Nat.toDigits 16 amount.toNat)) = amount.toNat := by
    rw [padded, hexNumber_append, hexNumber_replicate_zero, hexNumber_toDigits, Nat.mul_zero,
      Nat.zero_add]
  have hread := hlib.parseBytes_digits _ hne fun c hc => (hdigits c hc).isSome
  refine ⟨text, ?_, hdecimal⟩
  rw [callArguments, slice_address address amount hmethod hlength,
    length_asBytes_callText address amount hmethod hlength,
    slice_amount address amount hmethod hlength]
  dsimp only [Outcome.unwrap, Outcome.ok_bind]
  rw [Bytes.hexDecode_hexText, hread, hnumber]
  dsimp only [Outcome.okOr, Outcome.ok_bind]
  rw [htext]
  rfl

end

def approveCalldata (spender : Block 20) (amount : Nat) : Text :=
  callText "095ea7b3".toList spender amount

theorem isHexDigit_transfer : ∀ c ∈ "a9059cbb".toList, IsHexDigit c := by
  have hmem : "a9059cbb".toList ⊆ "0123456789abcdef".toList := by decide
  exact fun c hc => isHexDigit_of_mem (hmem hc)

theorem isHexDigit_approve : ∀ c ∈ "095ea7b3".toList, IsHexDigit c := by
  have hmem : "095ea7b3".toList ⊆ "0123456789abcdef".toList := by decide
  exact fun c hc => isHexDigit_of_mem (hmem hc)

section

variable {lib : BigUintLib} (recipient : Block 20) (amount : BitVec 256) {decimal : UInt32}

theorem parseErc20_calldata (hlib : lib.Lawful) (h : 10 ^ decimal.toNat < 2 ^ 64) :
    ∃ tx, parseErc20 lib (encodeErc20TransferCalldata recipient amount.toNat) decimal = .ok tx
      ∧ tx.recipient = ['0', 'x'] ++ hexText recipient.bytes
      ∧ IsDecimal tx.value ((amount.toNat : ℚ) / 10 ^ decimal.toNat) := by
  have hmethod := isHexDigit_transfer
  obtain ⟨text, htext, hdecimal⟩ := callArguments_callText recipient amount hmethod rfl hlib
    "Failed to decode 'to' address".toList h
  refine ⟨⟨_, text⟩, ?_, rfl, hdecimal⟩
  rw [parseErc20, encodeErc20TransferCalldata_eq, length_asBytes_callText _ _ hmethod rfl,
    if_neg (not_not_intro rfl), htext]
  rfl

theorem parseErc20Approval_calldata :
    parseErc20Approval lib (encodeErc20TransferCalldata recipient amount.toNat) decimal
      = .error "Invalid method id".toList := by
  have hmethod := isHexDigit_transfer
  have hother : "a9059cbb".toList ≠ "095ea7b3".toList := by decide
  rw [parseErc20Approval, encodeErc20TransferCalldata_eq, length_asBytes_callText _ _ hmethod rfl,
    if_neg (not_not_intro rfl), slice_methodId _ _ hmethod rfl]
  exact if_pos hother

theorem parseErc20Approval_approve (hlib : lib.Lawful) (h : 10 ^ decimal.toNat < 2 ^ 64) :
    ∃ tx, parseErc20Approval lib (approveCalldata recipient amount.toNat) decimal = .ok tx
      ∧ tx.spender = ['0', 'x'] ++ hexText recipient.bytes
      ∧ IsDecimal tx.value ((amount.toNat : ℚ) / 10 ^ decimal.toNat) := by
  have hmethod := isHexDigit_approve
  obtain ⟨text, htext, hdecimal⟩ := callArguments_callText recipient amount hmethod rfl hlib
    "Failed to decode 'spender' address".toList h
  refine ⟨⟨_, text⟩, ?_, rfl, hdecimal⟩
  rw [parseErc20Approval, approveCalldata, length_asBytes_callText _ _ hmethod rfl,
    if_neg (not_not_intro rfl), slice_methodId _ _ hmethod rfl]
  refine (if_neg (not_not_intro rfl)).trans ?_
  rw [htext]
  rfl

end

/-- **Amounts are shown exactly.** Wei are printed in ether, and what the encoder writes is shown as
a transfer, with its recipient and its amount in units of the token. As an approval it is refused;
the same words with the method of an approval are shown as one. -/
theorem calldata_shown {lib : BigUintLib} (hlib : lib.Lawful) :
    (∀ value : BitVec 256, IsDecimal (normalizeValue value.toNat) ((value.toNat : ℚ) / 10 ^ 18))
    ∧ ∀ (recipient : Block 20) (amount : BitVec 256) (decimal : UInt32),
      10 ^ decimal.toNat < 2 ^ 64 →
      (∃ tx, parseErc20 lib (encodeErc20TransferCalldata recipient amount.toNat) decimal = .ok tx
        ∧ tx.recipient = ['0', 'x'] ++ hexText recipient.bytes
        ∧ IsDecimal tx.value ((amount.toNat : ℚ) / 10 ^ decimal.toNat))
      ∧ parseErc20Approval lib (encodeErc20TransferCalldata recipient amount.toNat) decimal
        = .error "Invalid method id".toList
      ∧ ∃ tx, parseErc20Approval lib (approveCalldata recipient amount.toNat) decimal = .ok tx
        ∧ tx.spender = ['0', 'x'] ++ hexText recipient.bytes
        ∧ IsDecimal tx.value ((amount.toNat : ℚ) / 10 ^ decimal.toNat) :=
  ⟨fun value => isDecimal_normalizeValue value.toNat, fun recipient amount _ h =>
    ⟨parseErc20_calldata recipient amount hlib h, parseErc20Approval_calldata recipient amount,
      parseErc20Approval_approve recipient amount hlib h⟩⟩

def digitsOnly : BigUintLib where
  parseBytes s :=
    if s ≠ [] ∧ s.all (fun c => (hexValue c).isSome) = true then some (hexNumber s) else none

theorem lawful_digitsOnly : digitsOnly.Lawful where
  parseBytes_digits := by
    intro s hne hdigits
    exact if_pos ⟨hne, List.all_eq_true.mpr hdigits⟩

/-- Ten million units of a token with six decimals, for one recipient. -/
theorem calldata_shown_sample :
    ∃ tx, parseErc20 digitsOnly
        (encodeErc20TransferCalldata (Block.ofBytes 20 (List.replicate 20 17)) 10000000) 6 = .ok tx
      ∧ tx.recipient = ['0', 'x'] ++ hexText (Block.ofBytes 20 (List.replicate 20 17)).bytes
      ∧ IsDecimal tx.value (((10000000 : BitVec 256).toNat : ℚ) / 10 ^ (6 : UInt32).toNat) :=
  ((calldata_shown lawful_digitsOnly).2 (Block.ofBytes 20 (List.replicate 20 17)) 10000000 6
    (by decide)).1

/-- **A transfer is refused as an approval.** -/
theorem not_shown_as_approval : ¬∀ lib : BigUintLib, lib.Lawful →
    ∀ (recipient : Block 20) (amount : BitVec 256) (decimal : UInt32),
      10 ^ decimal.toNat < 2 ^ 64 →
      ∃ tx, parseErc20Approval lib (encodeErc20TransferCalldata recipient amount.toNat) decimal
          = .ok tx
        ∧ tx.spender = ['0', 'x'] ++ hexText recipient.bytes
        ∧ IsDecimal tx.value ((amount.toNat : ℚ) / 10 ^ decimal.toNat) := by
  intro hall
  obtain ⟨tx, htx, -⟩ := hall digitsOnly lawful_digitsOnly
    (Block.ofBytes 20 (List.replicate 20 17)) 10000000 6 (by decide)
  rw [parseErc20Approval_calldata] at htx
  cases htx

end Keystone3.Ethereum
