import Keystone3.Bitcoin.Address
import Keystone3.Bytes.Register

/-!
# Addresses of Bitcoin Cash

A CashAddr text is a sequence of 5-bit symbols: the version byte and the hash,
regrouped, and a checksum of eight symbols. It is written without its prefix, which goes
into the checksum all the same.
-/

namespace Keystone3.Bitcoin

open Bytes (Register value value_append value_lt value_inj)
open Logic (Outcome)

def dashPrefix : Text := "bitcoincash".toList

def charset : List Char :=
  ['q', 'p', 'z', 'r', 'y', '9', 'x', '8', 'g', 'f', '2', 't', 'v', 'd', 'w', '0', 's', '3', 'j',
    'n', '5', '4', 'k', 'h', 'c', 'e', '6', 'm', 'u', 'a', '7', 'l']

def base58Digits : List (Option UInt8) := [
  none, none, none, none, none, none, none, none, none, none, none, none, none, none, none, none,
  none, none, none, none, none, none, none, none, none, none, none, none, none, none, none, none,
  none, none, none, none, none, none, none, none, none, none, none, none, none, none, none, none,
  none, some 0, some 1, some 2, some 3, some 4, some 5, some 6, some 7, some 8, none, none, none,
  none, none, none, none, some 9, some 10, some 11, some 12, some 13, some 14, some 15, some 16,
  none, some 17, some 18, some 19, some 20, some 21, none, some 22, some 23, some 24, some 25,
  some 26, some 27, some 28, some 29, some 30, some 31, some 32, none, none, none, none, none,
  none, some 33, some 34, some 35, some 36, some 37, some 38, some 39, some 40, some 41, some 42,
  some 43, none, some 44, some 45, some 46, some 47, some 48, some 49, some 50, some 51, some 52,
  some 53, some 54, some 55, some 56, some 57, none, none, none, none, none]

def charsetRev : List (Option UInt8) := [
  none, none, none, none, none, none, none, none, none, none, none, none, none, none, none, none,
  none, none, none, none, none, none, none, none, none, none, none, none, none, none, none, none,
  none, none, none, none, none, none, none, none, none, none, none, none, none, none, none, none,
  some 15, none, some 10, some 17, some 21, some 20, some 26, some 30, some 7, some 5, none, none,
  none, none, none, none, none, some 29, none, some 24, some 13, some 25, some 9, some 8, some 23,
  none, some 18, some 22, some 31, some 27, some 19, none, some 1, some 0, some 3, some 16,
  some 11, some 28, some 12, some 14, some 6, some 4, some 2, none, none, none, none, none, none,
  some 29, none, some 24, some 13, some 25, some 9, some 8, some 23, none, some 18, some 22,
  some 31, some 27, some 19, none, some 1, some 0, some 3, some 16, some 11, some 28, some 12,
  some 14, some 6, some 4, some 2, none, none, none, none, none]

/-- Which characters have a case. The text of an address is any text. -/
structure CharCase where
  isLowercase : Char → Bool
  isUppercase : Char → Bool
  isLowercase_ascii : ∀ c, c.toNat < 128 → isLowercase c = c.isLower
  isUppercase_ascii : ∀ c, c.toNat < 128 → isUppercase c = c.isUpper

/-- `if c0 & bit != 0 { c ^= generator }`. -/
def mixIf (c0 bit generator c : Nat) : Nat := if c0 &&& bit ≠ 0 then c ^^^ generator else c

/-- One symbol in `polymod`. -/
def polymodStep (c : Nat) (d : UInt8) : Nat :=
  let c0 := (c >>> 35) % 256
  let c := ((c &&& 0x0007ffffffff) <<< 5) ^^^ d.toNat
  let c := mixIf c0 0x01 0x0098f2bc8e61 c
  let c := mixIf c0 0x02 0x0079b76d99e2 c
  let c := mixIf c0 0x04 0x00f33e5fb3c4 c
  let c := mixIf c0 0x08 0x00ae2eabe2a8 c
  mixIf c0 0x10 0x001e4f43e470 c

/-- `polymod`, in 64 bits, of which it never needs more than 40. -/
def polymod (v : List UInt8) : Nat := v.foldl polymodStep 1 ^^^ 1

def expandPrefix (text : Text) : List UInt8 :=
  text.map (fun c => UInt8.ofNat c.toNat &&& 0x1f) ++ [0]

/-- The accumulator of bits and what has been taken out of it. -/
structure BitGroups where
  acc : Nat
  num : Nat
  ret : List UInt8

/-- The loop `while num > outbits`, with a bound on its rounds. -/
def BitGroups.extract (outbits : Nat) : Nat → BitGroups → BitGroups
  | 0, g => g
  | rounds + 1, g =>
    if g.num > outbits then
      BitGroups.extract outbits rounds
        { acc := g.acc &&& (0xFFFF - (((1 <<< outbits) - 1) <<< (g.num - outbits)) % 2 ^ 16)
          num := g.num - outbits
          ret := g.ret ++ [UInt8.ofNat (g.acc >>> (g.num - outbits))] }
    else g

def BitGroups.take (inbits outbits : Nat) (g : BitGroups) (d : UInt8) : BitGroups :=
  BitGroups.extract outbits 16
    { acc := (g.acc <<< inbits) % 2 ^ 16 ||| d.toNat
      num := g.num + inbits
      ret := g.ret }

/-- `convert_bits`, for up to eight bits on both sides. -/
def convertBits (data : List UInt8) (inbits outbits : Nat) (pad : Bool) : List UInt8 :=
  let g := data.foldl (BitGroups.take inbits outbits) ⟨0, 0, []⟩
  if pad then
    if g.num > 0 then g.ret ++ [UInt8.ofNat ((g.acc <<< (outbits - g.num)) % 2 ^ 16)] else g.ret
  else
    let padding := (data.length * inbits) % outbits
    if g.num > padding then g.ret ++ [UInt8.ofNat (g.acc >>> padding)] else g.ret

def base58Carry : List UInt8 → Nat → List UInt8 × Nat
  | [], carry => ([], carry)
  | d256 :: scratch, carry =>
    let r := base58Carry scratch carry
    let carry := r.2 + d256.toNat * 58
    (UInt8.ofNat carry :: r.1, carry / 256)

def base58Scratch : Text → List UInt8 → Result (List UInt8)
  | [], scratch => .ok scratch
  | c :: data, scratch =>
    match base58Digits[c.toNat]? with
    | some (some d58) =>
      let r := base58Carry scratch d58.toNat
      if r.2 = 0 then base58Scratch data r.1 else .halted
    | _ => .error (.addressError "invalid char")

def fromBase58Str (data : Text) : Result (List UInt8) := do
  let scratch ← base58Scratch data (List.replicate (1 + data.length * 11 / 15) 0)
  pure ((data.takeWhile (· = '1')).map (fun _ => 0) ++ scratch.dropWhile (· = 0))

def Base58Codec.decode (lib : BitcoinLib) (addrStr : Text) : Result (List UInt8) := do
  let raw ← fromBase58Str addrStr
  if raw.length ≠ 25 then
    .error (.addressError ("BCH addresses decode error: invalid length " ++ toString raw.length))
  else if raw.headD 0 ≠ 0 then
    .error (.addressError ("invalid version " ++ toString (raw.headD 0)))
  else
    let payload := raw.take 21
    if (lib.sha256 (lib.sha256 payload).bytes).bytes.take 4 ≠ raw.drop 21 then
      .error (.addressError "checksum failed")
    else .ok (payload.drop 1)

namespace CashAddrCodec

def versionByte : Nat → Option UInt8
  | 20 => some 0x00
  | 24 => some 0x01
  | 28 => some 0x02
  | 32 => some 0x03
  | 40 => some 0x04
  | 48 => some 0x05
  | 56 => some 0x06
  | 64 => some 0x07
  | _ => none

def sizeOfVersion (version : UInt8) : Nat :=
  match (version &&& 0x07).toNat with
  | 0 => 20
  | 1 => 24
  | 2 => 28
  | 3 => 32
  | 4 => 40
  | 5 => 48
  | 6 => 56
  | _ => 64

def text (symbols : List UInt8) : Text := symbols.map fun b => charset.getD b.toNat 'q'

def encode (raw : List UInt8) : Result Text := do
  let version ← Outcome.okOr (.addressError "invalid version bytes") (versionByte raw.length)
  let payload5Bits := convertBits (version :: raw) 8 5 true
  let checksum := polymod (expandPrefix dashPrefix ++ payload5Bits ++ List.replicate 8 0)
  let checksumSymbols := (List.range 8).reverse.map fun i =>
    UInt8.ofNat ((checksum >>> (i * 5)) &&& 31)
  pure (text payload5Bits ++ text checksumSymbols)

def symbolOf (c : Char) : Result UInt8 :=
  match charsetRev[c.toNat]? with
  | some (some d) => .ok d
  | _ => .error (.addressError "invalid char")

def mixedCase (chars : CharCase) (first : Char) (rest : Text) : Bool :=
  if chars.isLowercase first then rest.any chars.isUppercase else rest.any chars.isLowercase

/-- `decode`, from the bytes: the version byte and the hash. -/
def decodePayload (payload : List UInt8) : Result Address := do
  let version ← Outcome.index payload 0
  let body := payload.drop 1
  if body.length ≠ sizeOfVersion version then
    .error (.addressError ("invalid length " ++ toString body.length))
  else if version &&& 0x78 ≠ 0 then
    .error (.addressError ("invalid version " ++ toString (version &&& 0x78)))
  else if body.length ≠ 20 then .error (.addressError "invalid public key hash")
  else .ok ⟨.p2pkh body, .bitcoinCash⟩

/-- `decode`, from the symbols. -/
def decodeSymbols (payload5Bits : List UInt8) : Result Address :=
  if polymod (expandPrefix dashPrefix ++ payload5Bits) ≠ 0 then
    .error (.addressError "invalid checksum")
  -- a slice that ends before it starts
  else if payload5Bits.length < 8 then .halted
  else decodePayload (convertBits (payload5Bits.take (payload5Bits.length - 8)) 5 8 false)

def decode (chars : CharCase) (addrStr : Text) : Result Address :=
  match addrStr with
  | [] => .error (.addressError "invalid length")
  | first :: rest =>
    if mixedCase chars first rest then .error (.addressError "mixed case")
    else do
      let payload5Bits ← Outcome.collect symbolOf (first :: rest)
      decodeSymbols payload5Bits

end CashAddrCodec

theorem mixIf_two_pow (a k g x : Nat) :
    mixIf a (2 ^ k) g x = if a.testBit k then x ^^^ g else x := by
  rw [mixIf, Nat.and_two_pow]
  cases a.testBit k with
  | true => rw [if_pos rfl, Bool.toNat_true, Nat.one_mul, if_pos (Nat.two_pow_pos k).ne']
  | false =>
    rw [Bool.toNat_false, Nat.zero_mul, if_neg (not_not.mpr rfl), if_neg Bool.false_ne_true]

theorem mixIf_xor (bit k : Nat) (hbit : bit = 2 ^ k) (a b g x y : Nat) :
    mixIf (a ^^^ b) bit g (x ^^^ y) = mixIf a bit g x ^^^ mixIf b bit g y := by
  rw [hbit, mixIf_two_pow, mixIf_two_pow, mixIf_two_pow, Nat.testBit_xor]
  cases a.testBit k with
  | true =>
    cases b.testBit k with
    | true =>
      show x ^^^ y = (x ^^^ g) ^^^ (y ^^^ g)
      rw [Nat.xor_comm y g, Nat.xor_assoc, ← Nat.xor_assoc g, Nat.xor_self, Nat.zero_xor]
    | false =>
      show (x ^^^ y) ^^^ g = (x ^^^ g) ^^^ y
      ac_rfl
  | false =>
    cases b.testBit k with
    | true =>
      show (x ^^^ y) ^^^ g = x ^^^ (y ^^^ g)
      ac_rfl
    | false => rfl

def feedback (a : Nat) : Nat :=
  mixIf (a % 256) 0x10 0x001e4f43e470 (mixIf (a % 256) 0x08 0x00ae2eabe2a8
    (mixIf (a % 256) 0x04 0x00f33e5fb3c4 (mixIf (a % 256) 0x02 0x0079b76d99e2
      (mixIf (a % 256) 0x01 0x0098f2bc8e61 0))))

theorem feedback_xor (a b : Nat) : feedback (a ^^^ b) = feedback a ^^^ feedback b := by
  rw [feedback, feedback, feedback, show 256 = 2 ^ 8 from rfl, Nat.xor_mod_two_pow,
    ← mixIf_xor 0x10 4 rfl, ← mixIf_xor 0x08 3 rfl, ← mixIf_xor 0x04 2 rfl, ← mixIf_xor 0x02 1 rfl,
    ← mixIf_xor 0x01 0 rfl, Nat.xor_self]

theorem mixIf_lt {a bit g x : Nat} (hg : g < 2 ^ 40) (hx : x < 2 ^ 40) :
    mixIf a bit g x < 2 ^ 40 := by
  unfold mixIf
  split
  · exact Nat.xor_lt_two_pow hx hg
  · exact hx

/-- `polymod` as a register of eight symbols. -/
def cashAddrRegister : Register where
  bits := 5
  count := 8
  feedback := feedback
  bits_pos := by decide
  count_pos := by decide
  feedback_xor := feedback_xor
  feedback_lt _ := mixIf_lt (by decide) (mixIf_lt (by decide) (mixIf_lt (by decide)
    (mixIf_lt (by decide) (mixIf_lt (by decide) (by decide)))))

theorem mixIf_above (a bit g c x : Nat) : mixIf a bit g (c ^^^ x) = c ^^^ mixIf a bit g x := by
  unfold mixIf
  split
  · rw [Nat.xor_assoc]
  · rfl

theorem polymodStep_eq (c : Nat) (d : UInt8) :
    polymodStep c d = cashAddrRegister.step c d.toNat := by
  show mixIf _ _ _ (mixIf _ _ _ (mixIf _ _ _ (mixIf _ _ _ (mixIf _ _ _ _)))) = _ ^^^ feedback _
  rw [show 0x0007ffffffff = 2 ^ 35 - 1 from rfl, Nat.and_two_pow_sub_one_eq_mod]
  have h := Nat.xor_zero (((c % 2 ^ 35) <<< 5) ^^^ d.toNat)
  rw [← h, mixIf_above, mixIf_above, mixIf_above, mixIf_above, mixIf_above]
  rfl

theorem polymod_eq (v : List UInt8) :
    polymod v = cashAddrRegister.run 1 (v.map UInt8.toNat) ^^^ 1 := by
  rw [polymod, Register.run, List.foldl_map]
  exact congrArg (fun f => List.foldl f 1 v ^^^ 1) (funext₂ polymodStep_eq)

def valueOf (bits : Nat) (bytes : List UInt8) : Nat := value (2 ^ bits) (bytes.map UInt8.toNat)

theorem valueOf_append (bits : Nat) (a b : List UInt8) :
    valueOf bits (a ++ b) = valueOf bits a * 2 ^ (bits * b.length) + valueOf bits b := by
  rw [valueOf, List.map_append, value_append, List.length_map, ← Nat.pow_mul]
  rfl

theorem valueOf_single (bits : Nat) (d : UInt8) : valueOf bits [d] = d.toNat :=
  Nat.ofDigits_singleton

theorem clear_top {acc k out : Nat} (hacc : acc < 2 ^ (k + out)) (h16 : k + out ≤ 16) :
    acc &&& (0xFFFF - (((1 <<< out) - 1) <<< k) % 2 ^ 16) = acc % 2 ^ k := by
  have hmask : ((1 <<< out) - 1) <<< k < 2 ^ (k + out) := by
    rw [Nat.one_shiftLeft, Nat.shiftLeft_eq, Nat.pow_add, Nat.mul_comm]
    exact Nat.mul_lt_mul_of_pos_left (Nat.sub_lt (Nat.two_pow_pos out) Nat.one_pos)
      (Nat.two_pow_pos k)
  have hmask16 : ((1 <<< out) - 1) <<< k < 2 ^ 16 :=
    lt_of_lt_of_le hmask (Nat.pow_le_pow_right (by decide) h16)
  rw [Nat.mod_eq_of_lt hmask16]
  refine Nat.eq_of_testBit_eq fun i => ?_
  rw [Nat.testBit_and, show 0xFFFF - ((1 <<< out) - 1) <<< k
    = 2 ^ 16 - (((1 <<< out) - 1) <<< k + 1) by omega, Nat.testBit_two_pow_sub_succ hmask16,
    Nat.testBit_mod_two_pow, Nat.testBit_shiftLeft, Nat.one_shiftLeft,
    Nat.testBit_two_pow_sub_one]
  by_cases hk : i < k
  · simp [hk, Nat.not_le_of_lt hk, show i < 16 by omega]
  · by_cases hout : i < k + out
    · simp [hk, show k ≤ i by omega, show i - k < out by omega]
    · have hzero : acc.testBit i = false := Nat.testBit_lt_two_pow
        (lt_of_lt_of_le hacc (Nat.pow_le_pow_right (by decide) (Nat.le_of_not_lt hout)))
      simp [hk, hzero]

/-- What the groups and the accumulator have in common with the input: `total`
bits, and the number they are. -/
structure Grouped (outbits total number : Nat) (g : BitGroups) : Prop where
  num_le : g.num ≤ 16
  bits : g.ret.length * outbits + g.num = total
  value : valueOf outbits g.ret * 2 ^ g.num + g.acc = number
  acc_lt : g.acc < 2 ^ g.num
  ret_lt : ∀ b ∈ g.ret, b.toNat < 2 ^ outbits

section

variable {outbits total number : Nat} {g : BitGroups}

theorem toNat_ofNat_of_lt {n bits : Nat} (hbits : bits ≤ 8) (h : n < 2 ^ bits) :
    (UInt8.ofNat n).toNat = n :=
  UInt8.toNat_ofNat_of_lt' (lt_of_lt_of_le h (Nat.pow_le_pow_right (by decide) hbits))

theorem Grouped.step (hout : outbits ≤ 8) (h : Grouped outbits total number g)
    (hmore : outbits < g.num) :
    Grouped outbits total number
      { acc := g.acc &&& (0xFFFF - (((1 <<< outbits) - 1) <<< (g.num - outbits)) % 2 ^ 16)
        num := g.num - outbits
        ret := g.ret ++ [UInt8.ofNat (g.acc >>> (g.num - outbits))] } := by
  have hnum : g.num - outbits + outbits = g.num := Nat.sub_add_cancel (Nat.le_of_lt hmore)
  have hacc : g.acc < 2 ^ (g.num - outbits + outbits) := hnum.symm ▸ h.acc_lt
  have hclear := clear_top hacc (hnum.symm ▸ h.num_le)
  have htop : g.acc >>> (g.num - outbits) < 2 ^ outbits := by
    rw [Nat.shiftRight_eq_div_pow]
    exact Nat.div_lt_of_lt_mul (by rwa [← Nat.pow_add])
  have hbyte : (UInt8.ofNat (g.acc >>> (g.num - outbits))).toNat = g.acc >>> (g.num - outbits) :=
    toNat_ofNat_of_lt hout htop
  have hbits := h.bits
  refine ⟨?_, ?_, ?_, ?_, ?_⟩
  · exact (Nat.sub_le _ _).trans h.num_le
  · show (g.ret ++ [_]).length * outbits + (g.num - outbits) = total
    rw [List.length_append, List.length_singleton, Nat.add_mul]
    omega
  · show valueOf outbits (g.ret ++ [_]) * 2 ^ (g.num - outbits) + _ = number
    rw [valueOf_append, valueOf_single, hbyte, hclear, List.length_singleton, Nat.mul_one, Nat.add_mul,
      Nat.mul_assoc, ← Nat.pow_add, Nat.add_comm outbits, hnum, Nat.shiftRight_eq_div_pow, Nat.add_assoc,
      Nat.mul_comm (g.acc / _), Nat.div_add_mod, h.value]
  · show _ < 2 ^ (g.num - outbits)
    rw [hclear]
    exact Nat.mod_lt _ (Nat.two_pow_pos _)
  · intro b hb
    rcases List.mem_append.mp hb with hb | hb
    · exact h.ret_lt b hb
    · rw [List.mem_singleton.mp hb, hbyte]
      exact htop

theorem Grouped.extract (hpos : 0 < outbits) (hout : outbits ≤ 8) {rounds : Nat}
    (h : Grouped outbits total number g) (hrounds : g.num ≤ rounds) :
    Grouped outbits total number (g.extract outbits rounds)
      ∧ (g.extract outbits rounds).num ≤ outbits
      ∧ (0 < g.num → 0 < (g.extract outbits rounds).num) := by
  induction rounds generalizing g with
  | zero => exact ⟨h, by show g.num ≤ outbits; omega, fun hnum => hnum⟩
  | succ rounds ih =>
    unfold BitGroups.extract
    by_cases hmore : g.num > outbits
    · rw [if_pos hmore]
      obtain ⟨h1, h2, h3⟩ := ih (h.step hout hmore) (by show g.num - outbits ≤ rounds; omega)
      exact ⟨h1, h2, fun _ => h3 (by show 0 < g.num - outbits; omega)⟩
    · rw [if_neg hmore]
      exact ⟨h, Nat.le_of_not_lt hmore, fun hnum => hnum⟩

theorem Grouped.take {inbits : Nat} (hin : 0 < inbits ∧ inbits ≤ 8) (hpos : 0 < outbits)
    (hout : outbits ≤ 8) (h : Grouped outbits total number g) (hnum : g.num ≤ outbits) {d : UInt8}
    (hd : d.toNat < 2 ^ inbits) :
    Grouped outbits (total + inbits) (number * 2 ^ inbits + d.toNat) (g.take inbits outbits d)
      ∧ (g.take inbits outbits d).num ≤ outbits ∧ 0 < (g.take inbits outbits d).num := by
  have hacc : g.acc * 2 ^ inbits + d.toNat < 2 ^ (g.num + inbits) := by
    have hle : (g.acc + 1) * 2 ^ inbits ≤ 2 ^ g.num * 2 ^ inbits := Nat.mul_le_mul_right _ h.acc_lt
    rw [Nat.pow_add]
    rw [Nat.add_mul, Nat.one_mul] at hle
    omega
  have h16 : 2 ^ (g.num + inbits) ≤ 2 ^ 16 := Nat.pow_le_pow_right (by decide) (by omega)
  have hjoin : (g.acc <<< inbits) % 2 ^ 16 ||| d.toNat = g.acc * 2 ^ inbits + d.toNat := by
    rw [Nat.mod_eq_of_lt (by rw [Nat.shiftLeft_eq]; omega), ← Nat.shiftLeft_add_eq_or_of_lt hd,
      Nat.shiftLeft_eq]
  have hbits := h.bits
  have hstart : Grouped outbits (total + inbits) (number * 2 ^ inbits + d.toNat)
      { acc := (g.acc <<< inbits) % 2 ^ 16 ||| d.toNat, num := g.num + inbits, ret := g.ret } := by
    refine ⟨?_, ?_, ?_, ?_, h.ret_lt⟩
    · show g.num + inbits ≤ 16
      omega
    · show g.ret.length * outbits + (g.num + inbits) = total + inbits
      omega
    · show valueOf outbits g.ret * 2 ^ (g.num + inbits) + _ = _
      rw [hjoin, ← h.value, Nat.pow_add, Nat.add_mul, Nat.mul_assoc, Nat.add_assoc]
    · show _ < 2 ^ (g.num + inbits)
      rw [hjoin]
      exact hacc
  obtain ⟨h1, h2, h3⟩ := hstart.extract hpos hout (by show g.num + inbits ≤ 16; omega)
  exact ⟨h1, h2, h3 (by show 0 < g.num + inbits; omega)⟩

theorem grouped_foldl {inbits : Nat} (hin : 0 < inbits ∧ inbits ≤ 8) (hpos : 0 < outbits)
    (hout : outbits ≤ 8) {data : List UInt8} (hdata : ∀ d ∈ data, d.toNat < 2 ^ inbits) :
    Grouped outbits (data.length * inbits) (valueOf inbits data)
        (data.foldl (BitGroups.take inbits outbits) ⟨0, 0, []⟩)
      ∧ (data.foldl (BitGroups.take inbits outbits) ⟨0, 0, []⟩).num ≤ outbits
      ∧ (data ≠ [] → 0 < (data.foldl (BitGroups.take inbits outbits) ⟨0, 0, []⟩).num) := by
  induction data using List.reverseRecOn with
  | nil =>
    refine ⟨⟨Nat.zero_le _, ?_, rfl, Nat.one_pos, fun b hb => absurd hb List.not_mem_nil⟩,
      Nat.zero_le _, fun h => absurd rfl h⟩
    show 0 * outbits + 0 = 0 * inbits
    rw [Nat.zero_mul, Nat.zero_mul]
  | append_singleton data d ih =>
    obtain ⟨h, hnum, -⟩ := ih fun b hb => hdata b (List.mem_append_left _ hb)
    have htake := h.take hin hpos hout hnum (hdata d (List.mem_append_right _ (.head _)))
    rw [List.foldl_append, List.length_append, List.length_singleton, Nat.add_mul, Nat.one_mul,
      valueOf_append, valueOf_single, List.length_singleton, Nat.mul_one]
    exact ⟨htake.1, htake.2.1, fun _ => htake.2.2⟩

/-- **Regrouped with padding**: zeros are put behind the number, up to a whole group. -/
theorem convertBits_pad {inbits : Nat} (hin : 0 < inbits ∧ inbits ≤ 8) (hpos : 0 < outbits)
    (hout : outbits ≤ 8) {data : List UInt8} (hdata : ∀ d ∈ data, d.toNat < 2 ^ inbits)
    (hne : data ≠ []) :
    ∃ padding < outbits,
      (convertBits data inbits outbits true).length * outbits = data.length * inbits + padding
        ∧ valueOf outbits (convertBits data inbits outbits true) = valueOf inbits data * 2 ^ padding
        ∧ ∀ b ∈ convertBits data inbits outbits true, b.toNat < 2 ^ outbits := by
  obtain ⟨h, hnum, hsome⟩ := grouped_foldl hin hpos hout hdata
  unfold convertBits
  generalize data.foldl (BitGroups.take inbits outbits) ⟨0, 0, []⟩ = g at h hnum hsome
  have hsome := hsome hne
  have hsplit : g.num + (outbits - g.num) = outbits := Nat.add_sub_of_le hnum
  have hlast : g.acc * 2 ^ (outbits - g.num) < 2 ^ outbits := by
    have hlt := Nat.mul_lt_mul_of_pos_right h.acc_lt (Nat.two_pow_pos (outbits - g.num))
    rwa [← Nat.pow_add, hsplit] at hlt
  have hsmall : 2 ^ outbits ≤ 2 ^ 16 := Nat.pow_le_pow_right (by decide) (by omega)
  have hbyte : (UInt8.ofNat ((g.acc <<< (outbits - g.num)) % 2 ^ 16)).toNat
      = g.acc * 2 ^ (outbits - g.num) := by
    rw [Nat.shiftLeft_eq, Nat.mod_eq_of_lt (lt_of_lt_of_le hlast hsmall)]
    exact toNat_ofNat_of_lt hout hlast
  have hbits := h.bits
  refine ⟨outbits - g.num, by omega, ?_⟩
  rw [if_pos rfl, if_pos hsome]
  refine ⟨?_, ?_, ?_⟩
  · rw [List.length_append, List.length_singleton, Nat.add_mul, Nat.one_mul]
    omega
  · rw [valueOf_append, valueOf_single, hbyte, List.length_singleton, Nat.mul_one, ← h.value,
      Nat.add_mul, Nat.mul_assoc, ← Nat.pow_add, hsplit]
  · intro b hb
    rcases List.mem_append.mp hb with hb | hb
    · exact h.ret_lt b hb
    · rw [List.mem_singleton.mp hb, hbyte]
      exact hlast

/-- **Regrouped without padding**: the bits behind the last whole group are left
out, whatever they are. -/
theorem convertBits_cut {inbits : Nat} (hin : 0 < inbits ∧ inbits ≤ 8) (hpos : 0 < outbits)
    (hout : outbits ≤ 8) {data : List UInt8} (hdata : ∀ d ∈ data, d.toNat < 2 ^ inbits) :
    (convertBits data inbits outbits false).length = data.length * inbits / outbits
      ∧ valueOf outbits (convertBits data inbits outbits false)
        = valueOf inbits data / 2 ^ (data.length * inbits % outbits)
      ∧ ∀ b ∈ convertBits data inbits outbits false, b.toNat < 2 ^ outbits := by
  obtain ⟨h, hnum, -⟩ := grouped_foldl hin hpos hout hdata
  unfold convertBits
  generalize data.foldl (BitGroups.take inbits outbits) ⟨0, 0, []⟩ = g at h hnum
  have hbits := h.bits
  rw [if_neg Bool.false_ne_true]
  by_cases hfull : g.num = outbits
  · have htotal : data.length * inbits = (g.ret.length + 1) * outbits := by
      rw [Nat.add_mul, Nat.one_mul]
      omega
    have hmod : data.length * inbits % outbits = 0 := by
      rw [htotal, Nat.mul_mod_left]
    have hbyte : (UInt8.ofNat (g.acc >>> 0)).toNat = g.acc := by
      rw [Nat.shiftRight_zero]
      exact toNat_ofNat_of_lt hout (hfull ▸ h.acc_lt)
    rw [hmod, if_pos (by omega), Nat.pow_zero, Nat.div_one]
    refine ⟨?_, ?_, ?_⟩
    · rw [List.length_append, List.length_singleton, htotal, Nat.mul_div_cancel _ hpos]
    · rw [valueOf_append, valueOf_single, hbyte, List.length_singleton, Nat.mul_one, ← h.value, hfull]
    · intro b hb
      rcases List.mem_append.mp hb with hb | hb
      · exact h.ret_lt b hb
      · rw [List.mem_singleton.mp hb, hbyte, ← hfull]
        exact h.acc_lt
  · have hlt : g.num < outbits := Nat.lt_of_le_of_ne hnum hfull
    have hmod : data.length * inbits % outbits = g.num := by
      rw [← hbits, Nat.add_comm, Nat.add_mul_mod_self_right, Nat.mod_eq_of_lt hlt]
    have hdiv : data.length * inbits / outbits = g.ret.length := by
      rw [← hbits, Nat.add_comm, Nat.add_mul_div_right _ _ hpos, Nat.div_eq_of_lt hlt, Nat.zero_add]
    rw [hmod, if_neg (Nat.lt_irrefl g.num), hdiv]
    refine ⟨rfl, ?_, h.ret_lt⟩
    rw [← h.value, Nat.add_comm, Nat.add_mul_div_right _ _ (Nat.two_pow_pos _),
      Nat.div_eq_of_lt h.acc_lt, Nat.zero_add]

theorem valueOf_inj {bits : Nat} (hbits : 0 < bits) {a b : List UInt8}
    (hlength : a.length = b.length) (ha : ∀ d ∈ a, d.toNat < 2 ^ bits)
    (hb : ∀ d ∈ b, d.toNat < 2 ^ bits) (h : valueOf bits a = valueOf bits b) : a = b := by
  have hone : 1 < 2 ^ bits := Nat.one_lt_two_pow (Nat.pos_iff_ne_zero.mp hbits)
  have hmap : ∀ {l : List UInt8}, (∀ d ∈ l, d.toNat < 2 ^ bits) → ∀ n ∈ l.map UInt8.toNat,
      n < 2 ^ bits := by
    intro l hl n hn
    obtain ⟨d, hd, rfl⟩ := List.mem_map.mp hn
    exact hl d hd
  have hnat := value_inj hone (by rw [List.length_map, List.length_map, hlength]) (hmap ha) (hmap hb) h
  exact List.map_injective_iff.mpr (fun _ _ => UInt8.toNat_inj.mp) hnat

end

namespace CashAddrCodec

abbrev IsSymbol (d : UInt8) : Prop := d.toNat < 32

theorem symbolOf_charset {d : UInt8} (hd : IsSymbol d) :
    symbolOf (charset.getD d.toNat 'q') = .ok d := by
  have hall : ∀ n < 32, symbolOf (charset.getD n 'q') = .ok (UInt8.ofNat n) := by decide
  have h := hall d.toNat hd
  rwa [UInt8.ofNat_toNat] at h

set_option maxRecDepth 16384 in
theorem charset_symbolOf {c : Char} {d : UInt8} (h : symbolOf c = .ok d) :
    IsSymbol d ∧ c.toNat < 128 ∧ charset.getD d.toNat 'q' = c.toLower := by
  have hall : ∀ n < 128, (charsetRev.getD n none).all (fun d => decide (d.toNat < 32)
      && charset.getD d.toNat 'q' == (Char.ofNat n).toLower) = true := by decide
  have hlength : charsetRev.length = 128 := by decide
  unfold symbolOf at h
  split at h
  · rename_i d' hd
    cases h
    obtain ⟨hlt, hget⟩ := List.getElem?_eq_some_iff.mp hd
    have hn := hall c.toNat (hlength ▸ hlt)
    rw [List.getD_eq_getElem?_getD, hd, Option.getD_some, Option.all_some, Bool.and_eq_true,
      decide_eq_true_eq, beq_iff_eq, Char.ofNat_toNat] at hn
    exact ⟨hn.1, hlength ▸ hlt, hn.2⟩
  · cases h

theorem collect_symbolOf {s : Text} {symbols : List UInt8}
    (h : Outcome.collect symbolOf s = .ok symbols) :
    (∀ d ∈ symbols, IsSymbol d) ∧ (∀ c ∈ s, c.toNat < 128) ∧ text symbols = s.map Char.toLower := by
  have hall := Outcome.collect_eq_ok.mp h
  clear h
  induction hall with
  | nil => exact ⟨fun d hd => absurd hd List.not_mem_nil, fun c hc => absurd hc List.not_mem_nil, rfl⟩
  | @cons c d s symbols hc _ ih =>
    obtain ⟨hsymbol, hascii, hchar⟩ := charset_symbolOf hc
    refine ⟨List.forall_mem_cons.mpr ⟨hsymbol, ih.1⟩, List.forall_mem_cons.mpr ⟨hascii, ih.2.1⟩, ?_⟩
    rw [text, List.map_cons, List.map_cons, hchar, ← ih.2.2]
    rfl

theorem collect_text {symbols : List UInt8} (h : ∀ d ∈ symbols, IsSymbol d) :
    Outcome.collect symbolOf (text symbols) = .ok symbols := by
  refine Outcome.collect_eq_ok.mpr ?_
  rw [text, List.forall₂_map_left_iff, List.forall₂_same]
  exact fun d hd => symbolOf_charset (h d hd)

theorem text_append (a b : List UInt8) : text (a ++ b) = text a ++ text b := List.map_append

theorem text_inj {a b : List UInt8} (ha : ∀ d ∈ a, IsSymbol d) (hb : ∀ d ∈ b, IsSymbol d)
    (h : text a = text b) : a = b := by
  have hread := collect_text ha
  rw [h, collect_text hb] at hread
  exact (Outcome.ok.inj hread).symm

def checksumSymbols (us : List UInt8) : List UInt8 :=
  let checksum := polymod (expandPrefix dashPrefix ++ us ++ List.replicate 8 0)
  (List.range 8).reverse.map fun i => UInt8.ofNat ((checksum >>> (i * 5)) &&& 31)

theorem length_checksumSymbols (us : List UInt8) : (checksumSymbols us).length = 8 := by
  rw [checksumSymbols, List.length_map, List.length_reverse, List.length_range]

theorem isSymbol_expandPrefix : ∀ d ∈ expandPrefix dashPrefix, IsSymbol d := by
  have hall : (expandPrefix dashPrefix).all (fun d => decide (IsSymbol d)) = true := by
    decide
  simpa using hall

theorem map_toNat_lt {symbols : List UInt8} (h : ∀ d ∈ symbols, IsSymbol d) :
    ∀ n ∈ symbols.map UInt8.toNat, n < 2 ^ 5 := by
  intro n hn
  obtain ⟨d, hd, rfl⟩ := List.mem_map.mp hn
  exact h d hd

theorem map_checksumSymbols (us : List UInt8) :
    (checksumSymbols us).map UInt8.toNat
      = cashAddrRegister.checksum 1 1 ((expandPrefix dashPrefix ++ us).map UInt8.toNat) := by
  rw [Register.checksum, Bytes.digits_eq_map, checksumSymbols, List.map_map, polymod_eq,
    List.map_append, List.map_replicate]
  refine List.map_congr_left fun i _ => ?_
  rw [Function.comp_apply, show 31 = 2 ^ 5 - 1 from rfl, Nat.and_two_pow_sub_one_eq_mod,
    Nat.shiftRight_eq_div_pow, Nat.mul_comm i 5, Nat.pow_mul]
  exact toNat_ofNat_of_lt (by decide : 5 ≤ 8) (Nat.mod_lt _ (by decide))

theorem isSymbol_checksumSymbols (us : List UInt8) : ∀ d ∈ checksumSymbols us, IsSymbol d := by
  intro d hd
  have hmem : d.toNat ∈ (checksumSymbols us).map UInt8.toNat := List.mem_map_of_mem hd
  rw [map_checksumSymbols] at hmem
  exact cashAddrRegister.checksum_lt _ _ _ _ hmem

theorem isSymbol_append_checksumSymbols {us : List UInt8} (hus : ∀ d ∈ us, IsSymbol d) :
    ∀ d ∈ us ++ checksumSymbols us, IsSymbol d := by
  intro d hd
  rcases List.mem_append.mp hd with hd | hd
  · exact hus d hd
  · exact isSymbol_checksumSymbols us d hd

/-- **The checksum is right** for these symbols and no others. -/
theorem polymod_eq_zero_iff {us ws : List UInt8} (hus : ∀ d ∈ us, IsSymbol d)
    (hws : ∀ d ∈ ws, IsSymbol d) (hlength : ws.length = 8) :
    polymod (expandPrefix dashPrefix ++ (us ++ ws)) = 0 ↔ ws = checksumSymbols us := by
  have hone : ∀ n, n ^^^ 1 = 0 ↔ n = 1 := fun n => Nat.xor_eq_zero_iff
  have hall : ∀ d ∈ expandPrefix dashPrefix ++ us, IsSymbol d := by
    intro d hd
    rcases List.mem_append.mp hd with hd | hd
    · exact isSymbol_expandPrefix d hd
    · exact hus d hd
  rw [polymod_eq, hone, ← List.append_assoc, List.map_append,
    cashAddrRegister.run_eq_iff_checksum (by decide) (by decide) (map_toNat_lt hall)
      (map_toNat_lt hws) (by rw [List.length_map, hlength]; rfl), ← map_checksumSymbols]
  exact ⟨fun h => List.map_injective_iff.mpr (fun _ _ => UInt8.toNat_inj.mp) h, fun h => by rw [h]⟩

def payloadOf (hash : List UInt8) : List UInt8 := convertBits (0 :: hash) 8 5 true

def symbolsOf (hash : List UInt8) : List UInt8 := payloadOf hash ++ checksumSymbols (payloadOf hash)

variable {hash : List UInt8}

theorem encode_eq (hlength : hash.length = 20) :
    encode hash = .ok (text (symbolsOf hash)) := by
  rw [encode, hlength, symbolsOf, text_append]
  rfl

theorem payloadOf_spec (hlength : hash.length = 20) :
    (payloadOf hash).length = 34 ∧ valueOf 5 (payloadOf hash) = valueOf 8 (0 :: hash) * 4
      ∧ ∀ d ∈ payloadOf hash, IsSymbol d := by
  obtain ⟨padding, hpadding, hbits, hvalue, hsymbols⟩ :=
    @convertBits_pad 5 8 (by decide) (by decide) (by decide) (0 :: hash)
      (fun d _ => d.toNat_lt) (List.cons_ne_nil 0 hash)
  rw [List.length_cons, hlength] at hbits
  obtain rfl : padding = 2 := by omega
  refine ⟨?_, hvalue, hsymbols⟩
  show (convertBits (0 :: hash) 8 5 true).length = 34
  omega

theorem isSymbol_symbolsOf (hlength : hash.length = 20) :
    ∀ d ∈ symbolsOf hash, IsSymbol d :=
  isSymbol_append_checksumSymbols (payloadOf_spec hlength).2.2

theorem head_eq_div {bits : Nat} (hbits : 0 < bits) {d : UInt8} {ds : List UInt8}
    (hds : ∀ d' ∈ ds, d'.toNat < 2 ^ bits) :
    d.toNat = valueOf bits (d :: ds) / 2 ^ (bits * ds.length) := by
  have hone : 1 < 2 ^ bits := Nat.one_lt_two_pow (Nat.pos_iff_ne_zero.mp hbits)
  have hlt : valueOf bits ds < 2 ^ (bits * ds.length) := by
    have hdigits : ∀ n ∈ ds.map UInt8.toNat, n < 2 ^ bits := by
      intro n hn
      obtain ⟨d', hd', rfl⟩ := List.mem_map.mp hn
      exact hds d' hd'
    have h := value_lt hone hdigits
    rwa [List.length_map, ← Nat.pow_mul] at h
  rw [← List.singleton_append, valueOf_append, valueOf_single, Nat.add_comm,
    Nat.add_mul_div_right _ _ (Nat.two_pow_pos _), Nat.div_eq_of_lt hlt, Nat.zero_add]

set_option maxRecDepth 16384 in
theorem version_cases {version : UInt8} (hsize : sizeOfVersion version = 20)
    (htype : version &&& 0x78 = 0) : version = 0 ∨ version = 0x80 := by
  have hall : ∀ n < 256, sizeOfVersion (UInt8.ofNat n) = 20 → UInt8.ofNat n &&& 0x78 = 0 →
      UInt8.ofNat n = 0 ∨ UInt8.ofNat n = 0x80 := by decide
  have h := hall version.toNat version.toNat_lt
  rw [UInt8.ofNat_toNat] at h
  exact h hsize htype

theorem decodePayload_cons (version : UInt8) (hash : List UInt8) (address : Address) :
    decodePayload (version :: hash) = .ok address
      ↔ hash.length = 20 ∧ (version = 0 ∨ version = 0x80)
        ∧ address = ⟨.p2pkh hash, .bitcoinCash⟩ := by
  show (if hash.length ≠ sizeOfVersion version then _ else if version &&& 0x78 ≠ 0 then _
    else if hash.length ≠ 20 then _ else _) = _ ↔ _
  constructor
  · intro h
    split at h
    · cases h
    · rename_i hsize
      split at h
      · cases h
      · rename_i htype
        split at h
        · cases h
        · rename_i h20
          rw [not_not] at hsize htype h20
          exact ⟨h20, version_cases (by rw [← hsize, h20]) htype, (Outcome.ok.inj h).symm⟩
  · intro h
    obtain ⟨h20, hversion, rfl⟩ := h
    have hsize : ¬hash.length ≠ 20 := not_not.mpr h20
    rcases hversion with rfl | rfl
    · rw [show sizeOfVersion 0 = 20 from rfl, if_neg hsize, if_neg (by decide), if_neg hsize]
      rfl
    · rw [show sizeOfVersion 0x80 = 20 from rfl, if_neg hsize, if_neg (by decide), if_neg hsize]
      rfl

/-- **A text that is read** as a hash: its symbols, with a checksum that is right. -/
theorem decode_eq_ok {chars : CharCase} {s : Text} {address : Address}
    (h : decode chars s = .ok address) :
    ∃ us ws version hash, Outcome.collect symbolOf s = .ok (us ++ ws) ∧ ws.length = 8
      ∧ polymod (expandPrefix dashPrefix ++ (us ++ ws)) = 0
      ∧ convertBits us 5 8 false = version :: hash ∧ hash.length = 20
      ∧ (version = 0 ∨ version = 0x80) ∧ address = ⟨.p2pkh hash, .bitcoinCash⟩ := by
  unfold decode at h
  split at h
  · cases h
  · split at h
    · cases h
    · obtain ⟨symbols, hsymbols, h⟩ := Outcome.bind_eq_ok.mp h
      unfold decodeSymbols at h
      split at h
      · cases h
      · rename_i hchecksum
        rw [not_not] at hchecksum
        split at h
        · cases h
        · rename_i hlong
          have hsplit := List.take_append_drop (symbols.length - 8) symbols
          rcases hpayload : convertBits (symbols.take (symbols.length - 8)) 5 8 false with
            _ | ⟨version, hash⟩
          · rw [hpayload] at h
            cases h
          · rw [hpayload, decodePayload_cons] at h
            refine ⟨_, symbols.drop (symbols.length - 8), version, hash, by rw [hsplit, hsymbols], ?_,
              by rw [hsplit, hchecksum], hpayload, h⟩
            rw [List.length_drop]
            omega

theorem decode_encode (chars : CharCase) (hlength : hash.length = 20) :
    decode chars (text (symbolsOf hash)) = .ok ⟨.p2pkh hash, .bitcoinCash⟩ := by
  obtain ⟨h34, hvalue, hsymbols⟩ := payloadOf_spec hlength
  have hcs := length_checksumSymbols (payloadOf hash)
  -- the first symbol is that of the upper bits of the version
  obtain ⟨d, ds, hd⟩ := List.exists_cons_of_length_pos (by rw [h34]; decide :
    0 < (payloadOf hash).length)
  have hfirst : d = 0 := by
    have hlt : valueOf 8 hash < 2 ^ 160 := by
      have hdigits : ∀ n ∈ hash.map UInt8.toNat, n < 2 ^ 8 := by
        intro n hn
        obtain ⟨b, _, rfl⟩ := List.mem_map.mp hn
        exact b.toNat_lt
      have h := value_lt (by decide : 1 < 2 ^ 8) hdigits
      rwa [List.length_map, hlength, ← Nat.pow_mul] at h
    have hds : ds.length = 33 := by
      rw [hd, List.length_cons] at h34
      omega
    have hhead := @head_eq_div 5 (by decide) d ds fun d' hd' =>
      hsymbols d' (by rw [hd]; exact List.mem_cons_of_mem d hd')
    have hzero : valueOf 8 (0 :: hash) = valueOf 8 hash := by
      rw [← List.singleton_append, valueOf_append, valueOf_single]
      show 0 * _ + _ = _
      rw [Nat.zero_mul, Nat.zero_add]
    rw [← hd, hvalue, hzero, hds, Nat.div_eq_of_lt (by omega)] at hhead
    exact UInt8.toNat_inj.mp hhead
  have hrest : ∀ c ∈ text (ds ++ checksumSymbols (payloadOf hash)), chars.isUppercase c = false := by
    have hall : ∀ n < 32, (charset.getD n 'q').toNat < 128 ∧ (charset.getD n 'q').isUpper = false := by
      decide
    intro c hc
    obtain ⟨d', hd', rfl⟩ := List.mem_map.mp hc
    have hsymbol : IsSymbol d' := by
      rcases List.mem_append.mp hd' with hd' | hd'
      · exact hsymbols d' (by rw [hd]; exact List.mem_cons_of_mem d hd')
      · exact isSymbol_checksumSymbols _ d' hd'
    rw [chars.isUppercase_ascii _ (hall d'.toNat hsymbol).1]
    exact (hall d'.toNat hsymbol).2
  have htext : text (symbolsOf hash) = 'q' :: text (ds ++ checksumSymbols (payloadOf hash)) := by
    rw [symbolsOf, hd, hfirst]
    rfl
  have hcase : mixedCase chars 'q' (text (ds ++ checksumSymbols (payloadOf hash))) = false := by
    rw [mixedCase, chars.isLowercase_ascii 'q' (by decide), if_pos (by decide), List.any_eq_false]
    exact fun c hc => by rw [hrest c hc]; exact Bool.false_ne_true
  have hchecksum : polymod (expandPrefix dashPrefix ++ symbolsOf hash) = 0 :=
    (polymod_eq_zero_iff hsymbols (isSymbol_checksumSymbols _) hcs).mpr rfl
  have hlong : (symbolsOf hash).length = 42 := by
    rw [symbolsOf, List.length_append, h34, hcs]
  have htake : (symbolsOf hash).take ((symbolsOf hash).length - 8) = payloadOf hash := by
    rw [hlong, symbolsOf, show 42 - 8 = (payloadOf hash).length by rw [h34], List.take_left]
  -- the two zeros are cut off again
  have hcut : convertBits (payloadOf hash) 5 8 false = 0 :: hash := by
    obtain ⟨hlen, hval, hbytes⟩ := @convertBits_cut 8 5 (by decide) (by decide) (by decide)
      (payloadOf hash) hsymbols
    rw [h34] at hlen hval
    refine valueOf_inj (by decide : 0 < 8) ?_ hbytes (fun b _ => b.toNat_lt) ?_
    · rw [hlen, List.length_cons, hlength]
    · rw [hval, hvalue]
      exact Nat.mul_div_cancel _ (by decide)
  have hread := collect_text (isSymbol_symbolsOf hlength)
  rw [htext] at hread ⊢
  show (if mixedCase chars 'q' _ then _ else Outcome.collect symbolOf _ >>= decodeSymbols) = _
  rw [if_neg (by rw [hcase]; exact Bool.false_ne_true), hread, Outcome.ok_bind, decodeSymbols,
    if_neg (not_not.mpr hchecksum), if_neg (by omega), htake, hcut]
  exact (decodePayload_cons 0 hash _).mpr ⟨hlength, .inl rfl, rfl⟩

/-- The shape of the symbols that are written for a hash: as many as 168 bits take, the upper
bits of the version zero and so are the two bits that were put to the last symbol. -/
def HasShape (us : List UInt8) : Prop :=
  us.length = 34 ∧ (us.getD 0 0).toNat < 16 ∧ (us.getD 33 0).toNat % 4 = 0

/-- A text of that shape: eight symbols of checksum follow. -/
def IsCanonical (s : Text) : Prop :=
  match Outcome.collect symbolOf s with
  | .ok symbols => 8 ≤ symbols.length ∧ HasShape (symbols.take (symbols.length - 8))
  | _ => False

theorem getLast_eq_mod {us : List UInt8} (hlength : us.length = 34) (hus : ∀ d ∈ us, IsSymbol d) :
    (us.getD 33 0).toNat = valueOf 5 us % 32 := by
  obtain ⟨init, last, rfl⟩ : ∃ init last, us = init ++ [last] := by
    rcases List.eq_nil_or_concat us with rfl | h
    · cases hlength
    · simpa only [List.concat_eq_append] using h
  have hinit : init.length = 33 := by
    rw [List.length_append, List.length_singleton] at hlength
    omega
  have hlast : last.toNat < 32 := hus last (List.mem_append_right _ (List.mem_singleton_self last))
  rw [valueOf_append, valueOf_single, List.length_singleton, Nat.mul_one,
    List.getD_append_right _ _ _ _ (by rw [hinit]), hinit]
  show last.toNat = (valueOf 5 init * 32 + last.toNat) % 32
  omega

theorem valueOf_version (version : UInt8) (hlength : hash.length = 20) :
    valueOf 8 (version :: hash) = version.toNat * 2 ^ 160 + valueOf 8 hash ∧
      valueOf 8 hash < 2 ^ 160 := by
  have hdigits : ∀ n ∈ hash.map UInt8.toNat, n < 2 ^ 8 := by
    intro n hn
    obtain ⟨b, _, rfl⟩ := List.mem_map.mp hn
    exact b.toNat_lt
  have hlt := value_lt (by decide : 1 < 2 ^ 8) hdigits
  rw [List.length_map, hlength, ← Nat.pow_mul] at hlt
  refine ⟨?_, hlt⟩
  rw [← List.singleton_append, valueOf_append, valueOf_single, hlength]

theorem eq_payloadOf_iff {us : List UInt8} {version : UInt8}
    (hus : ∀ d ∈ us, IsSymbol d) (hcut : convertBits us 5 8 false = version :: hash)
    (hlength : hash.length = 20) (hversion : version = 0 ∨ version = 0x80) :
    us = payloadOf hash ↔ HasShape us := by
  obtain ⟨h34, hvalue, hsymbols⟩ := payloadOf_spec hlength
  obtain ⟨hzero, hsmall⟩ := valueOf_version 0 hlength
  have hfirst : ∀ {l : List UInt8}, l.length = 34 → (∀ d ∈ l, IsSymbol d) →
      (l.getD 0 0).toNat = valueOf 5 l / 2 ^ 165 := by
    intro l hl hall
    obtain ⟨d, ds, rfl⟩ := List.exists_cons_of_length_pos (by rw [hl]; decide : 0 < l.length)
    have hds : ds.length = 33 := by
      rw [List.length_cons] at hl
      omega
    have h := @head_eq_div 5 (by decide) d ds fun d' hd' => hall d' (List.mem_cons_of_mem d hd')
    rwa [hds] at h
  constructor
  · intro h
    rw [h]
    refine ⟨h34, ?_, ?_⟩
    · rw [hfirst h34 hsymbols, hvalue, hzero]
      show (0 * _ + _) * 4 / _ < 16
      omega
    · rw [getLast_eq_mod h34 hsymbols, hvalue]
      omega
  · intro h
    obtain ⟨hlen, hhead, hlast⟩ := h
    rw [hfirst hlen hus] at hhead
    rw [getLast_eq_mod hlen hus] at hlast
    obtain ⟨-, hval, -⟩ := @convertBits_cut 8 5 (by decide) (by decide) (by decide) us hus
    obtain ⟨hnumber, -⟩ := valueOf_version version hlength
    rw [hcut, hlen, hnumber, show 34 * 5 % 8 = 2 from rfl] at hval
    -- the version has no upper bits: they would be in the first symbol
    have hnone : version = 0 := by
      rcases hversion with h0 | h80
      · exact h0
      · rw [h80] at hval
        have h : (0x80 : UInt8).toNat = 128 := rfl
        rw [h] at hval
        omega
    refine valueOf_inj (by decide : 0 < 5) (hlen.trans h34.symm) hus hsymbols ?_
    rw [hnone, UInt8.toNat_zero] at hval
    rw [hvalue, hzero, UInt8.toNat_zero]
    omega

/-- **When a hash has one text.** What is written for a hash is read back as that hash. A text
that is read is, up to the case of its letters, the one that is written for its hash exactly if
it has the shape of what is written: nothing checks the number of symbols beyond the bytes they
make, the upper bit of the version or the bits that fill the last symbol. -/
theorem encode_decode_iff (chars : CharCase) :
    (∀ hash : List UInt8, hash.length = 20 →
      ∃ s, encode hash = .ok s ∧ decode chars s = .ok ⟨.p2pkh hash, .bitcoinCash⟩)
    ∧ ∀ (s : Text) (hash : List UInt8) (network : Network),
      decode chars s = .ok ⟨.p2pkh hash, network⟩ →
        (encode hash = .ok (s.map Char.toLower) ↔ IsCanonical s) := by
  constructor
  · intro hash hlength
    exact ⟨_, encode_eq hlength, decode_encode chars hlength⟩
  · intro s hash network h
    obtain ⟨us, ws, version, hash', hread, hws, hchecksum, hcut, hlength, hversion, heq⟩ :=
      decode_eq_ok h
    obtain ⟨rfl, -⟩ : hash = hash' ∧ _ := by
      rw [Address.mk.injEq, Payload.p2pkh.injEq] at heq
      exact heq
    obtain ⟨hall, -, htext⟩ := collect_symbolOf hread
    have hus : ∀ d ∈ us, IsSymbol d := fun d hd => hall d (List.mem_append_left _ hd)
    have hsum := (polymod_eq_zero_iff hus (fun d hd => hall d (List.mem_append_right _ hd)) hws).mp
      hchecksum
    have hcanonical : IsCanonical s ↔ HasShape us := by
      unfold IsCanonical
      rw [hread]
      show 8 ≤ (us ++ ws).length ∧ _ ↔ _
      rw [List.length_append, hws, Nat.add_sub_cancel, List.take_left]
      exact and_iff_right (Nat.le_add_left 8 _)
    rw [hcanonical, ← eq_payloadOf_iff hus hcut hlength hversion, encode_eq hlength, ← htext]
    constructor
    · intro hok
      have hsymbols := text_inj (isSymbol_symbolsOf hlength) hall (Outcome.ok.inj hok)
      exact (List.append_inj' hsymbols (by rw [length_checksumSymbols, hws])).1.symm
    · intro hpayload
      rw [symbolsOf, ← hpayload, ← hsum]

def asciiCase : CharCase where
  isLowercase := Char.isLower
  isUppercase := Char.isUpper
  isLowercase_ascii _ _ := rfl
  isUppercase_ascii _ _ := rfl

def zeroText : Text :=
    ['q', 'q', 'q', 'q', 'q', 'q', 'q', 'q', 'q', 'q', 'q', 'q', 'q', 'q', 'q', 'q', 'q', 'q',
    'q', 'q', 'q', 'q', 'q', 'q', 'q', 'q', 'q', 'q', 'q', 'q', 'q', 'q', 'q', 'q', 'f', 'n',
    'h', 'k', 's', '6', '0', '3']

def filledText : Text :=
    ['q', 'q', 'q', 'q', 'q', 'q', 'q', 'q', 'q', 'q', 'q', 'q', 'q', 'q', 'q', 'q', 'q', 'q',
    'q', 'q', 'q', 'q', 'q', 'q', 'q', 'q', 'q', 'q', 'q', 'q', 'q', 'q', 'q', 'p', '6', 's',
    'w', 'a', 'f', 'e', 'u', 's']

set_option maxRecDepth 16384 in
theorem encode_decode_iff_zero :
    (∃ s, encode (List.replicate 20 0) = .ok s
      ∧ decode asciiCase s = .ok ⟨.p2pkh (List.replicate 20 0), .bitcoinCash⟩)
    ∧ (encode (List.replicate 20 0) = .ok (zeroText.map Char.toLower) ↔ IsCanonical zeroText) :=
  ⟨(encode_decode_iff asciiCase).1 _ List.length_replicate,
    (encode_decode_iff asciiCase).2 zeroText (List.replicate 20 0) .bitcoinCash (by decide)⟩

set_option maxRecDepth 16384 in
/-- **Two texts of one hash**: the filling bits of the last symbol are not looked at. -/
theorem decode_filledText :
    decode asciiCase filledText = .ok ⟨.p2pkh (List.replicate 20 0), .bitcoinCash⟩
      ∧ encode (List.replicate 20 0) ≠ .ok (filledText.map Char.toLower) := by
  decide

end CashAddrCodec

end Keystone3.Bitcoin
