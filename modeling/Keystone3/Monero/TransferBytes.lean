import Mathlib.Data.UInt
import Keystone3.Bytes.Reader
import Keystone3.Monero.KeyImages

/-!
# A transaction on its way to the device

The request for a transaction is written by one file (`writeTxConstructionData`)
and read by another (`readTxConstructionData`). Counts and amounts come in groups
of seven bits, keys and a few numbers at their full width. What is written is
read again, and nothing behind it (`reads_txConstructionData`).
-/

namespace Keystone3.Monero

open Bytes (Block Reader toLe)
open Bytes.Reader (Reads)
open Logic (Outcome)

structure MultisigKLRki where
  k : Block 32
  L : Block 32
  R : Block 32
  ki : Block 32

structure SourceEntry extends TxSourceEntry where
  rct : Bool
  multisigKLRki : MultisigKLRki

inductive RangeProofType where
  | null
  | full
  | simple
  | bulletproof
  | bulletproof2
  | clsag
  | bulletproofPlus

structure RctConfig where
  version : UInt32
  rangeProofType : RangeProofType
  bpVersion : RctType

structure ConstructionData where
  sources : List SourceEntry
  changeDts : TxDestinationEntry
  splittedDsts : List TxDestinationEntry
  /-- `usize` has 32 bits. -/
  selectedTransfers : List UInt32
  extra : List UInt8
  unlockTime : UInt64
  useRct : UInt8
  rctConfig : RctConfig
  dests : List TxDestinationEntry
  subaddrAccount : UInt32
  subaddrIndices : List UInt32

def ConstructionData.toTransfer (data : ConstructionData) : TxConstructionData where
  sources := data.sources.map SourceEntry.toTxSourceEntry
  changeDts := data.changeDts
  splittedDsts := data.splittedDsts
  extra := data.extra
  unlockTime := data.unlockTime
  bpVersion := data.rctConfig.bpVersion
  subaddrAccount := data.subaddrAccount
  subaddrIndices := data.subaddrIndices

def RangeProofType.code : RangeProofType → UInt64
  | null => 0
  | full => 1
  | simple => 2
  | bulletproof => 3
  | bulletproof2 => 4
  | clsag => 5
  | bulletproofPlus => 6

def RctType.code : RctType → UInt64
  | null => 0
  | full => 1
  | simple => 2
  | bulletproof => 3
  | bulletproof2 => 4
  | clsag => 5
  | bulletproofPlus => 6

/-- The count of a vector, `len() as u64`. -/
def writeLen {α : Type} (items : List α) : List UInt8 := writeVarinteger (UInt64.ofNat items.length)

def writeVec {α : Type} (write : α → List UInt8) (items : List α) : List UInt8 :=
  writeLen items ++ items.flatMap write

def utf8 (text : List Char) : List UInt8 := text.flatMap String.utf8EncodeChar

def writeBool (b : Bool) : List UInt8 := [if b then 1 else 0]

def writeTxDestinationEntry (entry : TxDestinationEntry) : List UInt8 :=
  writeLen (utf8 entry.original) ++ utf8 entry.original ++ writeVarinteger entry.amount
    ++ entry.addr.spendPublicKey.bytes ++ entry.addr.viewPublicKey.bytes
    ++ writeBool entry.isSubaddress ++ writeBool entry.isIntegrated

def writeOutputEntry (entry : OutputEntry) : List UInt8 :=
  2 :: writeVarinteger entry.index ++ entry.key.dest.bytes ++ entry.key.mask.bytes

def writeTxSourceEntry (entry : SourceEntry) : List UInt8 :=
  writeVec writeOutputEntry entry.outputs
    ++ toLe 8 entry.realOutput.toNat ++ entry.realOutTxKey.bytes
    ++ writeVec Block.bytes entry.realOutAdditionalTxKeys
    ++ toLe 8 entry.realOutputInTxIndex.toNat ++ toLe 8 entry.amount.toNat ++ writeBool entry.rct
    ++ entry.mask.bytes ++ entry.multisigKLRki.k.bytes ++ entry.multisigKLRki.L.bytes
    ++ entry.multisigKLRki.R.bytes ++ entry.multisigKLRki.ki.bytes

def writeRctConfig (config : RctConfig) : List UInt8 :=
  writeVarinteger config.version.toUInt64 ++ writeVarinteger config.rangeProofType.code
    ++ writeVarinteger config.bpVersion.code

def writeTxConstructionData (data : ConstructionData) : List UInt8 :=
  writeVec writeTxSourceEntry data.sources
    ++ writeTxDestinationEntry data.changeDts
    ++ writeVec writeTxDestinationEntry data.splittedDsts
    ++ writeVec (fun transfer => writeVarinteger transfer.toUInt64) data.selectedTransfers
    ++ writeLen data.extra ++ data.extra
    ++ toLe 8 data.unlockTime.toNat
    ++ [data.useRct]
    ++ writeRctConfig data.rctConfig
    ++ writeVec writeTxDestinationEntry data.dests
    ++ toLe 4 data.subaddrAccount.toNat
    ++ writeVec (fun index => writeVarinteger index.toUInt64) data.subaddrIndices

/-- `length`: the bytes of the buffer that a number is written to. -/
def varintegerLength (value : UInt64) : Nat :=
  let zeroLen := if value = 0 then 0 else Nat.log2 value.toNat + 1
  ((if zeroLen = 0 then 7 else 6) + zeroLen) / 7

theorem log2_shiftRight_seven {n : Nat} (h : 127 < n) : n.log2 = (n >>> 7).log2 + 7 := by
  have hshift : n >>> 7 = n / 128 := Nat.shiftRight_eq_div_pow n 7
  have hne : n >>> 7 ≠ 0 := by omega
  obtain ⟨hlow, hhigh⟩ := (Nat.log2_eq_iff hne).mp rfl
  rw [hshift] at hlow hhigh ⊢
  rw [Nat.pow_succ] at hhigh
  have hpow : 2 ^ ((n / 128).log2 + 7) = 2 ^ (n / 128).log2 * 128 := Nat.pow_add 2 _ 7
  refine (Nat.log2_eq_iff (by omega)).mpr ⟨?_, ?_⟩
  · omega
  · rw [Nat.pow_succ, hpow]
    omega

theorem length_encodeVarinteger {rounds : Nat} : ∀ {value : Nat}, value < 128 ^ (rounds + 1) →
    (encodeVarinteger (rounds + 1) value).length = value.log2 / 7 + 1 := by
  have hsmall : ∀ value, ¬value > 127 → value.log2 / 7 = 0 := by
    intro value h
    by_cases hzero : value = 0
    · rw [hzero]
      rfl
    · have hlog : value.log2 < 7 := (Nat.log2_lt hzero).mpr (by omega)
      omega
  induction rounds with
  | zero =>
    intro value h
    have hvalue : ¬value > 127 := by
      rw [Nat.zero_add, Nat.pow_one] at h
      omega
    rw [encodeVarinteger, if_neg hvalue, hsmall value hvalue]
    rfl
  | succ rounds ih =>
    intro value h
    rw [encodeVarinteger]
    by_cases hvalue : value > 127
    · have hrest : value >>> 7 < 128 ^ (rounds + 1) := by
        rw [Nat.shiftRight_eq_div_pow]
        exact Nat.div_lt_of_lt_mul (by rw [Nat.mul_comm, ← Nat.pow_succ]; exact h)
      rw [if_pos hvalue, List.length_cons, ih hrest, log2_shiftRight_seven hvalue]
      omega
    · rw [if_neg hvalue, hsmall value hvalue]
      rfl

theorem length_writeVarinteger (value : UInt64) :
    (writeVarinteger value).length = varintegerLength value := by
  have hlt : value.toNat < 128 ^ (9 + 1) := lt_trans value.toNat_lt (by decide)
  rw [writeVarinteger, length_encodeVarinteger hlt, varintegerLength]
  by_cases hzero : value = 0
  · rw [hzero]
    rfl
  · simp only [if_neg hzero, Nat.add_one_ne_zero, if_false]
    omega

/-- `decode_with_offset`, with the value so far and the weight of the next group. -/
def decodeVarinteger (val fac : UInt64) : Reader MoneroError UInt64
  | [] => .halted
  | byte :: s =>
    let val := val + fac * (byte &&& 127).toUInt64
    if byte &&& 128 = 0 then .ok (val, s) else decodeVarinteger val (fac <<< 7) s

def readVarinteger : Reader MoneroError UInt64 := decodeVarinteger 0 1

def readNextU8 : Reader MoneroError UInt8 := Reader.byte none

def readNextU32 : Reader MoneroError UInt32 := do
  let value ← Reader.little none 4
  pure (UInt32.ofNat value)

def readNextU64 : Reader MoneroError UInt64 := do
  let value ← Reader.little none 8
  pure (UInt64.ofNat value)

def readNextBool : Reader MoneroError Bool := do
  let byte ← readNextU8
  pure (byte != 0)

/-- The length is a `usize`. -/
def readNextVecU8 (len : UInt32) : Reader MoneroError (List UInt8) := Reader.take none len.toNat

def readNextU832 : Reader MoneroError (Block 32) := Reader.block none 32

/-- `String::from_utf8`, and a panic. -/
def decodeUtf8 (bytes : List UInt8) : Result (List Char) :=
  Outcome.unwrap (bytes.toByteArray.utf8Decode?.map Array.toList)

def readNextTxDestinationEntry : Reader MoneroError TxDestinationEntry := do
  let originalLen ← readVarinteger
  let originalBytes ← readNextVecU8 originalLen.toUInt32
  let original ← Reader.lift (decodeUtf8 originalBytes)
  let amount ← readVarinteger
  let spendPublicKey ← readNextU832
  let viewPublicKey ← readNextU832
  let isSubaddress ← readNextBool
  let isIntegrated ← readNextBool
  pure ⟨original, amount, ⟨spendPublicKey, viewPublicKey⟩, isSubaddress, isIntegrated⟩

def readVec {α : Type} (p : Reader MoneroError α) : Reader MoneroError (List α) := do
  let len ← readVarinteger
  Reader.many p len.toNat

def readOutputEntry : Reader MoneroError OutputEntry := do
  let _ ← readVarinteger
  let index ← readVarinteger
  let dest ← readNextU832
  let mask ← readNextU832
  pure ⟨index, ⟨dest, mask⟩⟩

def readMultisigKLRki : Reader MoneroError MultisigKLRki := do
  let k ← readNextU832
  let L ← readNextU832
  let R ← readNextU832
  let ki ← readNextU832
  pure ⟨k, L, R, ki⟩

def readSourceEntry : Reader MoneroError SourceEntry := do
  let outputs ← readVec readOutputEntry
  let realOutput ← readNextU64
  let realOutTxKey ← readNextU832
  let realOutAdditionalTxKeys ← readVec readNextU832
  let realOutputInTxIndex ← readNextU64
  let amount ← readNextU64
  let rct ← readNextBool
  let mask ← readNextU832
  let multisigKLRki ← readMultisigKLRki
  pure { outputs, realOutput, realOutTxKey, realOutAdditionalTxKeys, realOutputInTxIndex, amount,
         rct, mask, multisigKLRki }

def RangeProofType.ofCode (code : UInt64) : Result RangeProofType :=
  if code = 0 then .ok .null
  else if code = 1 then .ok .full
  else if code = 2 then .ok .simple
  else if code = 3 then .ok .bulletproof
  else if code = 4 then .ok .bulletproof2
  else if code = 5 then .ok .clsag
  else if code = 6 then .ok .bulletproofPlus
  else .halted

def RctType.ofCode (code : UInt64) : Result RctType :=
  if code = 0 then .ok .null
  else if code = 1 then .ok .full
  else if code = 2 then .ok .simple
  else if code = 3 then .ok .bulletproof
  else if code = 4 then .ok .bulletproof2
  else if code = 5 then .ok .clsag
  else if code = 6 then .ok .bulletproofPlus
  else .halted

def readRctConfig : Reader MoneroError RctConfig := do
  let version ← readVarinteger
  let rangeProofCode ← readVarinteger
  let rangeProofType ← Reader.lift (RangeProofType.ofCode rangeProofCode)
  let bpCode ← readVarinteger
  let bpVersion ← Reader.lift (RctType.ofCode bpCode)
  pure ⟨version.toUInt32, rangeProofType, bpVersion⟩

def readVarinteger32 : Reader MoneroError UInt32 := do
  let value ← readVarinteger
  pure value.toUInt32

/-- The part of `deserialize` for one transaction. -/
def readTxConstructionData : Reader MoneroError ConstructionData := do
  let sources ← readVec readSourceEntry
  let changeDts ← readNextTxDestinationEntry
  let splittedDsts ← readVec readNextTxDestinationEntry
  let selectedTransfers ← readVec readVarinteger32
  let extraLen ← readVarinteger
  let extra ← readNextVecU8 extraLen.toUInt32
  let unlockTime ← readNextU64
  let useRct ← readNextU8
  let rctConfig ← readRctConfig
  let dests ← readVec readNextTxDestinationEntry
  let subaddrAccount ← readNextU32
  let subaddrIndices ← readVec readVarinteger32
  pure { sources, changeDts, splittedDsts, selectedTransfers, extra, unlockTime, useRct, rctConfig,
         dests, subaddrAccount, subaddrIndices }

theorem low_byte {value : Nat} (h : value < 128) : ((UInt8.ofNat value) &&& 127).toUInt64
    = UInt64.ofNat value ∧ (UInt8.ofNat value) &&& 128 = 0 := by
  have hall : ∀ n < 128, ((UInt8.ofNat n) &&& 127).toUInt64 = UInt64.ofNat n
    ∧ (UInt8.ofNat n) &&& 128 = 0 := by decide
  exact hall value h

set_option maxRecDepth 16384 in
theorem high_byte (value : Nat) : ((UInt8.ofNat value ||| 128) &&& 127).toUInt64
    = UInt64.ofNat (value % 128) ∧ (UInt8.ofNat value ||| 128) &&& 128 ≠ 0 := by
  have hall : ∀ n < 256, ((UInt8.ofNat n ||| 128) &&& 127).toUInt64 = UInt64.ofNat (n % 128)
      ∧ (UInt8.ofNat n ||| 128) &&& 128 ≠ 0 := by decide
  have hbyte : UInt8.ofNat value = UInt8.ofNat (value % 256) := by
    apply UInt8.toNat_inj.mp
    simp
  have hmod : value % 256 % 128 = value % 128 := by omega
  rw [hbyte, ← hmod]
  exact hall (value % 256) (Nat.mod_lt value (by decide))

theorem shiftLeft_seven (fac : UInt64) : fac <<< 7 = fac * 128 := by
  apply UInt64.toNat_inj.mp
  simp [Nat.shiftLeft_eq]

theorem reads_decodeVarinteger {rounds : Nat} : ∀ {value : Nat} (val fac : UInt64),
    value < 128 ^ (rounds + 1) → Reads (decodeVarinteger val fac)
      (encodeVarinteger (rounds + 1) value) (val + fac * UInt64.ofNat value) := by
  induction rounds with
  | zero =>
    intro value val fac h rest
    have hsmall : value < 128 := by simpa using h
    have hlow := low_byte hsmall
    rw [encodeVarinteger, if_neg (by omega), List.singleton_append, decodeVarinteger,
      if_pos hlow.2, hlow.1]
  | succ rounds ih =>
    intro value val fac h rest
    rw [encodeVarinteger]
    by_cases hlarge : value > 127
    · have hhigh := high_byte value
      have hshift : value >>> 7 = value / 128 := Nat.shiftRight_eq_div_pow value 7
      have hrest : value >>> 7 < 128 ^ (rounds + 1) := by
        rw [hshift]
        exact Nat.div_lt_of_lt_mul (by rw [Nat.mul_comm, ← Nat.pow_succ]; exact h)
      have hvalue : UInt64.ofNat value
          = UInt64.ofNat (value % 128) + (128 : UInt64) * UInt64.ofNat (value >>> 7) := by
        rw [hshift]
        conv_lhs => rw [← Nat.mod_add_div value 128, UInt64.ofNat_add, UInt64.ofNat_mul]
        rfl
      rw [if_pos hlarge, List.cons_append, decodeVarinteger, if_neg hhigh.2, ih _ _ hrest rest,
        hhigh.1, shiftLeft_seven, hvalue, UInt64.mul_add, UInt64.mul_assoc, UInt64.add_assoc]
    · have hsmall : value < 128 := by omega
      have hlow := low_byte hsmall
      rw [if_neg hlarge, List.singleton_append, decodeVarinteger, if_pos hlow.2, hlow.1]

theorem reads_varinteger (value : UInt64) : Reads readVarinteger (writeVarinteger value) value := by
  have hlt : value.toNat < 128 ^ (9 + 1) := lt_trans value.toNat_lt (by decide)
  have hreads := reads_decodeVarinteger 0 1 hlt
  rwa [UInt64.ofNat_toNat, UInt64.one_mul, UInt64.zero_add] at hreads

/-- The loop of `encode_with_offset`. A byte behind the buffer is a panic. -/
def encodeLoop (val : Nat) (buf : List UInt8) (off : Nat) : Result (List UInt8 × Nat) :=
  if off < buf.length then
    if val > 127 then encodeLoop (val >>> 7) (buf.set off (UInt8.ofNat val ||| 128)) (off + 1)
    else .ok (buf.set off (UInt8.ofNat val), off + 1)
  else .halted
termination_by val
decreasing_by rw [Nat.shiftRight_eq_div_pow]; omega

def encodeWithOffset (value : UInt64) (buf : List UInt8) (offset : Nat) :
    Result (List UInt8 × Nat) := do
  let (buf, off) ← encodeLoop value.toNat buf offset
  pure (buf, off - offset)

/-- The loop of `decode_with_offset`, up to the offset behind the number. -/
def decodeLoop (buf : List UInt8) (val fac : UInt64) (off : Nat) : Result (UInt64 × Nat) :=
  if h : off < buf.length then
    let byte := buf[off]
    let val := val + fac * (byte &&& 127).toUInt64
    if byte &&& 128 = 0 then .ok (val, off + 1) else decodeLoop buf val (fac <<< 7) (off + 1)
  else .halted
termination_by buf.length - off

/-- `read_varinteger`: the number, and the offset behind it. -/
def readVarintegerAt (data : List UInt8) (offset : Nat) : Result (UInt64 × Nat) :=
  decodeLoop data 0 1 offset

theorem encodeLoop_eq {rounds : Nat} : ∀ {val off : Nat} {buf : List UInt8},
    val < 128 ^ (rounds + 1) → off + (encodeVarinteger (rounds + 1) val).length ≤ buf.length →
      encodeLoop val buf off
        = .ok (buf.take off ++ encodeVarinteger (rounds + 1) val
            ++ buf.drop (off + (encodeVarinteger (rounds + 1) val).length),
          off + (encodeVarinteger (rounds + 1) val).length) := by
  have hset : ∀ {buf : List UInt8} {off : Nat} (b : UInt8), off < buf.length →
      (buf.set off b).take (off + 1) = buf.take off ++ [b] := by
    intro buf off b hoff
    rw [List.take_add_one, List.take_set_of_le (Nat.le_refl off), List.getElem?_set_self hoff]
    rfl
  have hlast : ∀ {val off : Nat} {buf : List UInt8}, ¬val > 127 → off + 1 ≤ buf.length →
      encodeLoop val buf off
        = .ok (buf.take off ++ [UInt8.ofNat val] ++ buf.drop (off + 1), off + 1) := by
    intro val off buf hval hroom
    rw [encodeLoop, if_pos (by omega), if_neg hval, ← hset _ (by omega),
      ← List.drop_set_of_lt (Nat.lt_succ_self off), List.take_append_drop]
  induction rounds with
  | zero =>
    intro val off buf hval hroom
    have hsmall : ¬val > 127 := by
      rw [Nat.zero_add, Nat.pow_one] at hval
      omega
    rw [encodeVarinteger, if_neg hsmall] at hroom ⊢
    exact hlast hsmall hroom
  | succ rounds ih =>
    intro val off buf hval hroom
    rw [encodeVarinteger] at hroom ⊢
    by_cases hlarge : val > 127
    · rw [if_pos hlarge] at hroom ⊢
      have hrest : val >>> 7 < 128 ^ (rounds + 1) := by
        rw [Nat.shiftRight_eq_div_pow]
        exact Nat.div_lt_of_lt_mul (by rw [Nat.mul_comm, ← Nat.pow_succ]; exact hval)
      rw [List.length_cons] at hroom ⊢
      have hoff : off < buf.length := by omega
      rw [encodeLoop, if_pos hoff, if_pos hlarge, ih hrest (by rw [List.length_set]; omega),
        hset _ hoff, List.drop_set_of_lt (by omega), List.append_assoc _ [_], List.singleton_append]
      simp only [Nat.add_assoc, Nat.add_comm 1]
    · rw [if_neg hlarge] at hroom ⊢
      exact hlast hlarge hroom

theorem decodeLoop_of {s rest : List UInt8} {a : UInt64} : ∀ {buf : List UInt8} {off : Nat}
    {val fac : UInt64}, buf.drop off = s → decodeVarinteger val fac s = .ok (a, rest) →
      decodeLoop buf val fac off = .ok (a, buf.length - rest.length) := by
  induction s with
  | nil => exact fun _ h => by cases h
  | cons byte s ih =>
    intro buf off val fac hdrop h
    have hlength : buf.length - off = s.length + 1 := by
      rw [← List.length_drop, hdrop, List.length_cons]
    have hoff : off < buf.length := by omega
    rw [List.drop_eq_getElem_cons hoff, List.cons.injEq] at hdrop
    rw [decodeLoop, dif_pos hoff]
    rw [decodeVarinteger] at h
    dsimp only at h ⊢
    rw [hdrop.1]
    split_ifs at h ⊢ with hend
    · obtain ⟨rfl, rfl⟩ := Prod.mk.inj (Outcome.ok.inj h)
      rw [show buf.length - s.length = off + 1 by omega]
    · exact ih hdrop.2 h

/-- **A number is read where it was written**, whatever is before it and behind it,
and takes as many bytes as `length` says. -/
theorem readVarintegerAt_encodeWithOffset (value : UInt64) {buf : List UInt8} {offset : Nat}
    (hroom : offset + varintegerLength value ≤ buf.length) :
    encodeWithOffset value buf offset
        = .ok (buf.take offset ++ writeVarinteger value
            ++ buf.drop (offset + varintegerLength value), varintegerLength value)
      ∧ ∀ front back : List UInt8,
        readVarintegerAt (front ++ writeVarinteger value ++ back) front.length
          = .ok (value, front.length + varintegerLength value) := by
  have hlt : value.toNat < 128 ^ (9 + 1) := lt_trans value.toNat_lt (by decide)
  have hlength := length_writeVarinteger value
  constructor
  · have hends : offset + (writeVarinteger value).length ≤ buf.length := hlength ▸ hroom
    have hloop := encodeLoop_eq hlt hends
    rw [encodeWithOffset, hloop]
    show Outcome.ok (buf.take offset ++ writeVarinteger value
      ++ buf.drop (offset + (writeVarinteger value).length),
        offset + (writeVarinteger value).length - offset) = _
    rw [hlength, Nat.add_sub_cancel_left]
  · intro front back
    have hread : decodeVarinteger 0 1 (writeVarinteger value ++ back) = .ok (value, back) :=
      reads_varinteger value back
    rw [readVarintegerAt, decodeLoop_of (by rw [List.append_assoc, List.drop_left]) hread]
    simp only [List.length_append, Nat.add_sub_cancel, hlength]

set_option maxRecDepth 16384 in
theorem readVarintegerAt_encodeWithOffset_largest :
    encodeWithOffset (2 ^ 64 - 1) (List.replicate 12 7) 1
      = .ok ([7, 255, 255, 255, 255, 255, 255, 255, 255, 255, 1, 7], 10) :=
  (readVarintegerAt_encodeWithOffset (2 ^ 64 - 1) (by decide)).1.trans (by decide)

theorem toNat_len {α : Type} {items : List α} (h : items.length < 2 ^ 32) :
    (UInt64.ofNat items.length).toNat = items.length
      ∧ (UInt64.ofNat items.length).toUInt32.toNat = items.length := by
  have hlong : items.length < 2 ^ 64 := lt_trans h (by decide)
  constructor
  · rw [UInt64.toNat_ofNat', Nat.mod_eq_of_lt hlong]
  · rw [UInt64.toNat_toUInt32, UInt64.toNat_ofNat', Nat.mod_eq_of_lt hlong, Nat.mod_eq_of_lt h]

theorem reads_vec {α : Type} {p : Reader MoneroError α} {write : α → List UInt8} {items : List α}
    (hlength : items.length < 2 ^ 32) (h : ∀ item ∈ items, Reads p (write item) item) :
    Reads (readVec p) (writeVec write items) items := by
  refine (reads_varinteger _).bind ?_
  rw [(toNat_len hlength).1]
  exact Reads.many h

theorem reads_vecU8 {bytes : List UInt8} (hlength : bytes.length < 2 ^ 32) :
    Reads (readNextVecU8 (UInt64.ofNat bytes.length).toUInt32) bytes bytes := by
  rw [readNextVecU8, (toNat_len hlength).2]
  exact Reader.reads_take none bytes

theorem reads_nextU32 (value : UInt32) : Reads readNextU32 (toLe 4 value.toNat) value := by
  have hreads := (Reader.reads_little (ε := MoneroError) none (n := 4) value.toNat_lt).map UInt32.ofNat
  rwa [UInt32.ofNat_toNat] at hreads

theorem reads_nextU64 (value : UInt64) : Reads readNextU64 (toLe 8 value.toNat) value := by
  have hreads := (Reader.reads_little (ε := MoneroError) none (n := 8) value.toNat_lt).map UInt64.ofNat
  rwa [UInt64.ofNat_toNat] at hreads

theorem reads_nextBool (b : Bool) : Reads readNextBool (writeBool b) b := by
  cases b with
  | false => exact fun _ => rfl
  | true => exact fun _ => rfl

theorem reads_nextU832 (block : Block 32) : Reads readNextU832 block.bytes block :=
  Reader.reads_block none block

theorem decodeUtf8_utf8 (text : List Char) : decodeUtf8 (utf8 text) = .ok text := by
  have hbytes : (utf8 text).toByteArray = text.utf8Encode := rfl
  rw [decodeUtf8, hbytes, List.utf8Decode?_utf8Encode]
  rfl

theorem reads_txDestinationEntry {entry : TxDestinationEntry}
    (h : (utf8 entry.original).length < 2 ^ 32) :
    Reads readNextTxDestinationEntry (writeTxDestinationEntry entry) entry := by
  simp only [writeTxDestinationEntry, List.append_assoc]
  refine (reads_varinteger _).bind ?_
  refine (reads_vecU8 h).bind ?_
  refine Reads.lift_bind (decodeUtf8_utf8 _) ?_
  refine (reads_varinteger _).bind ?_
  refine (reads_nextU832 _).bind ?_
  refine (reads_nextU832 _).bind ?_
  refine (reads_nextBool _).bind ?_
  exact (reads_nextBool _).map _

theorem reads_outputEntry (entry : OutputEntry) :
    Reads readOutputEntry (writeOutputEntry entry) entry := by
  have hmark : Reads readVarinteger [2] 2 := reads_varinteger 2
  have hentry : writeOutputEntry entry = [2] ++ (writeVarinteger entry.index
      ++ (entry.key.dest.bytes ++ entry.key.mask.bytes)) := by
    simp [writeOutputEntry]
  rw [hentry]
  refine hmark.bind ?_
  refine (reads_varinteger _).bind ?_
  refine (reads_nextU832 _).bind ?_
  exact (reads_nextU832 _).map _

theorem reads_multisigKLRki (multisig : MultisigKLRki) : Reads readMultisigKLRki
    (multisig.k.bytes ++ (multisig.L.bytes ++ (multisig.R.bytes ++ multisig.ki.bytes)))
    multisig := by
  refine (reads_nextU832 _).bind ?_
  refine (reads_nextU832 _).bind ?_
  refine (reads_nextU832 _).bind ?_
  exact (reads_nextU832 _).map _

structure SourceEntry.Fits (source : SourceEntry) : Prop where
  outputs : source.outputs.length < 2 ^ 32
  realOutAdditionalTxKeys : source.realOutAdditionalTxKeys.length < 2 ^ 32

theorem reads_sourceEntry {source : SourceEntry} (h : source.Fits) :
    Reads readSourceEntry (writeTxSourceEntry source) source := by
  simp only [writeTxSourceEntry, List.append_assoc]
  refine (reads_vec h.outputs fun output _ => reads_outputEntry output).bind ?_
  refine (reads_nextU64 _).bind ?_
  refine (reads_nextU832 _).bind ?_
  refine (reads_vec h.realOutAdditionalTxKeys fun key _ => reads_nextU832 key).bind ?_
  refine (reads_nextU64 _).bind ?_
  refine (reads_nextU64 _).bind ?_
  refine (reads_nextBool _).bind ?_
  refine (reads_nextU832 _).bind ?_
  exact (reads_multisigKLRki source.multisigKLRki).map _

theorem ofCode_rangeProofType (type : RangeProofType) :
    RangeProofType.ofCode type.code = .ok type := by
  cases type with
  | null => rfl
  | full => rfl
  | simple => rfl
  | bulletproof => rfl
  | bulletproof2 => rfl
  | clsag => rfl
  | bulletproofPlus => rfl

theorem ofCode_rctType (type : RctType) : RctType.ofCode type.code = .ok type := by
  cases type with
  | null => rfl
  | full => rfl
  | simple => rfl
  | bulletproof => rfl
  | bulletproof2 => rfl
  | clsag => rfl
  | bulletproofPlus => rfl

theorem reads_rctConfig (config : RctConfig) :
    Reads readRctConfig (writeRctConfig config) config := by
  suffices hcut : Reads readRctConfig (writeRctConfig config)
      ⟨config.version.toUInt64.toUInt32, config.rangeProofType, config.bpVersion⟩ by
    rwa [UInt32.toUInt32_toUInt64] at hcut
  rw [writeRctConfig, List.append_assoc]
  refine (reads_varinteger _).bind ?_
  refine (reads_varinteger _).bind ?_
  refine Reads.lift_bind (ofCode_rangeProofType _) ?_
  rw [← List.append_nil (writeVarinteger config.bpVersion.code)]
  refine (reads_varinteger _).bind ?_
  exact Reads.lift_bind (ofCode_rctType _) (Reads.pure _)

theorem reads_varinteger32 (value : UInt32) :
    Reads readVarinteger32 (writeVarinteger value.toUInt64) value := by
  have hreads := (reads_varinteger value.toUInt64).map UInt64.toUInt32
  rwa [UInt32.toUInt32_toUInt64] at hreads

structure ConstructionData.Fits (data : ConstructionData) : Prop where
  sources : data.sources.length < 2 ^ 32 ∧ ∀ source ∈ data.sources, source.Fits
  changeDts : (utf8 data.changeDts.original).length < 2 ^ 32
  splittedDsts : data.splittedDsts.length < 2 ^ 32
    ∧ ∀ entry ∈ data.splittedDsts, (utf8 entry.original).length < 2 ^ 32
  selectedTransfers : data.selectedTransfers.length < 2 ^ 32
  extra : data.extra.length < 2 ^ 32
  dests : data.dests.length < 2 ^ 32 ∧ ∀ entry ∈ data.dests, (utf8 entry.original).length < 2 ^ 32
  subaddrIndices : data.subaddrIndices.length < 2 ^ 32

/-- **What is written for a transaction is read as it was**, up to its last byte. -/
theorem reads_txConstructionData {data : ConstructionData} (h : data.Fits) :
    Reads readTxConstructionData (writeTxConstructionData data) data := by
  have hentries : ∀ {entries : List TxDestinationEntry}, entries.length < 2 ^ 32 →
      (∀ entry ∈ entries, (utf8 entry.original).length < 2 ^ 32) →
      Reads (readVec readNextTxDestinationEntry)
        (writeVec writeTxDestinationEntry entries) entries := by
    intro entries hlength hall
    exact reads_vec hlength fun entry hentry => reads_txDestinationEntry (hall entry hentry)
  simp only [writeTxConstructionData, List.append_assoc]
  refine (reads_vec h.sources.1 fun source hs => reads_sourceEntry (h.sources.2 source hs)).bind ?_
  refine (reads_txDestinationEntry h.changeDts).bind ?_
  refine (hentries h.splittedDsts.1 h.splittedDsts.2).bind ?_
  refine (reads_vec h.selectedTransfers fun transfer _ => reads_varinteger32 transfer).bind ?_
  refine (reads_varinteger _).bind ?_
  refine (reads_vecU8 h.extra).bind ?_
  refine (reads_nextU64 _).bind ?_
  refine (Reader.reads_byte none _).bind ?_
  refine (reads_rctConfig data.rctConfig).bind ?_
  refine (hentries h.dests.1 h.dests.2).bind ?_
  refine (reads_nextU32 _).bind ?_
  exact (reads_vec h.subaddrIndices fun index _ => reads_varinteger32 index).map _

/-- The bytes behind a transaction are left. -/
theorem readTxConstructionData_write (data : ConstructionData) (h : data.Fits)
    (rest : List UInt8) :
    readTxConstructionData (writeTxConstructionData data ++ rest) = .ok (data, rest) :=
  reads_txConstructionData h rest

def sampleRequest : ConstructionData :=
  let entry : TxDestinationEntry := ⟨['a', 'b'], 300, ⟨Block.fill 32 1, Block.fill 32 2⟩, true, false⟩
  { sources := [{
      outputs := [⟨70000, ⟨Block.fill 32 3, Block.fill 32 4⟩⟩]
      realOutput := 0
      realOutTxKey := Block.fill 32 5
      realOutAdditionalTxKeys := [Block.fill 32 6]
      realOutputInTxIndex := 1
      amount := 400
      mask := Block.fill 32 7
      rct := true
      multisigKLRki := ⟨Block.zero 32, Block.zero 32, Block.zero 32, Block.zero 32⟩ }]
    changeDts := entry
    splittedDsts := [entry, entry]
    selectedTransfers := [128]
    extra := [2, 9]
    unlockTime := 12
    useRct := 1
    rctConfig := ⟨0, .bulletproofPlus, .bulletproof2⟩
    dests := [entry]
    subaddrAccount := 3
    subaddrIndices := [200] }

theorem fits_sampleRequest : sampleRequest.Fits := by
  have hentry : (utf8 ['a', 'b']).length < 2 ^ 32 := by decide
  refine ⟨⟨by decide, ?_⟩, hentry, ⟨by decide, ?_⟩, by decide, by decide, ⟨by decide, ?_⟩, by decide⟩
  · intro source hsource
    rw [List.mem_singleton.mp hsource]
    exact ⟨by decide, by decide⟩
  · intro entry hmem
    simp only [sampleRequest, List.mem_cons, List.not_mem_nil, or_false, or_self] at hmem
    rw [hmem]
    exact hentry
  · intro entry hmem
    rw [List.mem_singleton.mp hmem]
    exact hentry

theorem readTxConstructionData_sample :
    readTxConstructionData (writeTxConstructionData sampleRequest ++ [0])
      = .ok (sampleRequest, [0]) :=
  readTxConstructionData_write sampleRequest fits_sampleRequest [0]

end Keystone3.Monero
