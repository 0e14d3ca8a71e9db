import Keystone3.Bytes.Format
import Keystone3.Monero.Display
import Keystone3.Monero.SignedTxSet

/-!
# What is in a request

Behind the cipher a request is a list of transactions and the outputs of the wallet, or
these outputs alone. It is read without a check: a number of groups of seven bits of any
length, a text that is none, a code for which there is no type and bytes that run out
are a panic.
-/

namespace Keystone3.Monero

open Bytes (Block Reader Format toLe)
open Bytes.Reader (Decides)
open Logic (Outcome)
open Logic.Outcome (ValueIff)

structure TransferDetail extends ExportedTransferDetail where
  globalOutputIndex : UInt64
  flags : UInt8
  amount : UInt64

structure ExportedTransferDetails where
  offset : UInt64
  size : UInt64
  details : List TransferDetail

def readTransferDetail : Reader MoneroError TransferDetail := do
  let _ ← readVarinteger
  let pubkey ← readNextU832
  let internalOutputIndex ← readVarinteger
  let globalOutputIndex ← readVarinteger
  let txPubkey ← readNextU832
  let flags ← readNextU8
  let amount ← readVarinteger
  let additionalTxKeys ← readVec readNextU832
  let major ← readVarinteger32
  let minor ← readVarinteger32
  pure { pubkey, internalOutputIndex, globalOutputIndex, txPubkey, flags, amount, additionalTxKeys,
         major, minor }

def readExportedTransferDetails : Reader MoneroError ExportedTransferDetails := do
  let hasTransfers ← readVarinteger
  if hasTransfers = 0 then pure ⟨0, 0, []⟩
  else do
    let _ ← readVarinteger
    let offset ← readVarinteger
    let size ← readVarinteger
    let details ← Reader.many readTransferDetail size.toNat
    pure ⟨offset, size, details⟩

def ExportedTransferDetails.fromBytes (bytes : List UInt8) : Result ExportedTransferDetails :=
  Reader.run readExportedTransferDetails bytes

/-- `UnsignedTx`, the whole of it. -/
structure UnsignedTxData where
  txes : List ConstructionData
  transfers : ExportedTransferDetails

def UnsignedTxData.toUnsignedTx (unsigned : UnsignedTxData) : UnsignedTx :=
  ⟨unsigned.txes.map ConstructionData.toTransfer⟩

def readTxes : Reader MoneroError (List ConstructionData) := do
  let _ ← readVarinteger
  readVec readTxConstructionData

def UnsignedTxData.deserialize (bytes : List UInt8) : Result UnsignedTxData := do
  let (txes, rest) ← readTxes bytes
  let transfers ← unwrap (ExportedTransferDetails.fromBytes rest)
  pure ⟨txes, transfers⟩

/-- A number in groups of seven bits, the lowest first. All groups but the last one are marked. -/
inductive Groups : List UInt8 → Nat → Prop where
  | last {b : UInt8} (h : b.toNat < 128) : Groups [b] b.toNat
  | more {b : UInt8} {w : List UInt8} {n : Nat} (h : 128 ≤ b.toNat) (rest : Groups w n) :
      Groups (b :: w) (b.toNat - 128 + 128 * n)

namespace Wire

def varinteger : Format UInt64 := fun w value => ∃ n, Groups w n ∧ value = UInt64.ofNat n

def varinteger32 : Format UInt32 := do
  let value ← varinteger
  pure value.toUInt32

def u32 : Format UInt32 := fun w value => w = toLe 4 value.toNat

def u64 : Format UInt64 := fun w value => w = toLe 8 value.toNat

/-- Every byte but zero is `true`. -/
def bool : Format Bool := do
  let byte ← Format.byte
  pure (byte != 0)

def key : Format (Block 32) := Format.block 32

/-- A text of `n` bytes. -/
def text (n : Nat) : Format (List Char) := fun w cs => w = utf8 cs ∧ w.length = n

def vec {α : Type} (R : Format α) : Format (List α) := do
  let len ← varinteger
  R.many len.toNat

def txDestinationEntry : Format TxDestinationEntry := do
  let originalLen ← varinteger
  let original ← text originalLen.toUInt32.toNat
  let amount ← varinteger
  let spendPublicKey ← key
  let viewPublicKey ← key
  let isSubaddress ← bool
  let isIntegrated ← bool
  pure ⟨original, amount, ⟨spendPublicKey, viewPublicKey⟩, isSubaddress, isIntegrated⟩

def outputEntry : Format OutputEntry := do
  let _ ← varinteger
  let index ← varinteger
  let dest ← key
  let mask ← key
  pure ⟨index, ⟨dest, mask⟩⟩

def multisigKLRki : Format MultisigKLRki := do
  let k ← key
  let L ← key
  let R ← key
  let ki ← key
  pure ⟨k, L, R, ki⟩

def sourceEntry : Format SourceEntry := do
  let outputs ← vec outputEntry
  let realOutput ← u64
  let realOutTxKey ← key
  let realOutAdditionalTxKeys ← vec key
  let realOutputInTxIndex ← u64
  let amount ← u64
  let rct ← bool
  let mask ← key
  let multisigKLRki ← multisigKLRki
  pure { outputs, realOutput, realOutTxKey, realOutAdditionalTxKeys, realOutputInTxIndex, amount,
         rct, mask, multisigKLRki }

def rangeProofType : Format RangeProofType := fun w type => varinteger w type.code

def rctType : Format RctType := fun w type => varinteger w type.code

def rctConfig : Format RctConfig := do
  let version ← varinteger
  let rangeProofType ← rangeProofType
  let bpVersion ← rctType
  pure ⟨version.toUInt32, rangeProofType, bpVersion⟩

def txConstructionData : Format ConstructionData := do
  let sources ← vec sourceEntry
  let changeDts ← txDestinationEntry
  let splittedDsts ← vec txDestinationEntry
  let selectedTransfers ← vec varinteger32
  let extraLen ← varinteger
  let extra ← Format.bytes extraLen.toUInt32.toNat
  let unlockTime ← u64
  let useRct ← Format.byte
  let rctConfig ← rctConfig
  let dests ← vec txDestinationEntry
  let subaddrAccount ← u32
  let subaddrIndices ← vec varinteger32
  pure { sources, changeDts, splittedDsts, selectedTransfers, extra, unlockTime, useRct, rctConfig,
         dests, subaddrAccount, subaddrIndices }

def transferDetail : Format TransferDetail := do
  let _ ← varinteger
  let pubkey ← key
  let internalOutputIndex ← varinteger
  let globalOutputIndex ← varinteger
  let txPubkey ← key
  let flags ← Format.byte
  let amount ← varinteger
  let additionalTxKeys ← vec key
  let major ← varinteger32
  let minor ← varinteger32
  pure { pubkey, internalOutputIndex, globalOutputIndex, txPubkey, flags, amount, additionalTxKeys,
         major, minor }

def exportedTransferDetails : Format ExportedTransferDetails := do
  let hasTransfers ← varinteger
  if hasTransfers = 0 then pure ⟨0, 0, []⟩
  else do
    let _ ← varinteger
    let offset ← varinteger
    let size ← varinteger
    let details ← transferDetail.many size.toNat
    pure ⟨offset, size, details⟩

def txes : Format (List ConstructionData) := do
  let _ ← varinteger
  vec txConstructionData

def unsignedTx : Format UnsignedTxData := do
  let txes ← txes
  let transfers ← exportedTransferDetails
  pure ⟨txes, transfers⟩

end Wire

set_option maxRecDepth 16384 in
theorem seven_bits (b : UInt8) : (b &&& 128 = 0 ↔ b.toNat < 128)
    ∧ (b &&& 127).toUInt64 = UInt64.ofNat (b.toNat % 128) := by
  have hall : ∀ n < 256, (UInt8.ofNat n &&& 128 = 0 ↔ (UInt8.ofNat n).toNat < 128)
      ∧ (UInt8.ofNat n &&& 127).toUInt64 = UInt64.ofNat ((UInt8.ofNat n).toNat % 128) := by
    decide
  have hb := hall b.toNat b.toNat_lt
  rwa [UInt8.ofNat_toNat] at hb

theorem spells_decodeVarinteger (s : List UInt8) : ∀ (val fac a : UInt64) (rest : List UInt8),
    decodeVarinteger val fac s = .ok (a, rest)
      ↔ ∃ w n, Groups w n ∧ a = val + fac * UInt64.ofNat n ∧ s = w ++ rest := by
  -- by the bytes, for any value and any weight that have been reached
  induction s with
  | nil =>
    intro val fac a rest
    refine iff_of_false nofun ?_
    rintro ⟨w, n, hw, -, hs⟩
    cases hw with
    | last _ => cases hs
    | more _ _ => cases hs
  | cons b s ih =>
    intro val fac a rest
    obtain ⟨hlast, hvalue⟩ := seven_bits b
    rw [decodeVarinteger, hvalue]
    by_cases hlow : b.toNat < 128
    · rw [if_pos (hlast.mpr hlow), Nat.mod_eq_of_lt hlow]
      constructor
      · intro h
        cases h
        exact ⟨[b], b.toNat, .last hlow, rfl, rfl⟩
      · rintro ⟨w, n, hw, rfl, hs⟩
        cases hw with
        | last _ =>
          cases hs
          rfl
        | more hhigh _ =>
          cases hs
          omega
    · -- a group that is marked: its seven bits count, and the rest counts 128 times as much
      rw [if_neg fun h => hlow (hlast.mp h), ih]
      have hgroup : b.toNat % 128 = b.toNat - 128 := by
        have hlt := b.toNat_lt
        omega
      have hsum : ∀ n, val + fac * UInt64.ofNat (b.toNat % 128) + fac <<< 7 * UInt64.ofNat n
          = val + fac * UInt64.ofNat (b.toNat - 128 + 128 * n) := by
        intro n
        rw [hgroup, shiftLeft_seven, UInt64.ofNat_add, UInt64.ofNat_mul, UInt64.mul_add,
          UInt64.add_assoc, UInt64.mul_assoc]
        rfl
      constructor
      · rintro ⟨w, n, hw, rfl, rfl⟩
        exact ⟨b :: w, _, .more (by omega) hw, hsum n, rfl⟩
      · rintro ⟨w, n, hw, rfl, hs⟩
        cases hw with
        | last hlow' =>
          cases hs
          omega
        | more _ hrest =>
          cases hs
          exact ⟨_, _, hrest, (hsum _).symm, rfl⟩

theorem not_fails_decodeVarinteger (s : List UInt8) : ∀ val fac : UInt64,
    ¬Outcome.Fails (decodeVarinteger val fac s) := by
  induction s with
  | nil => exact fun _ _ => Outcome.not_fails_halted
  | cons b s ih =>
    intro val fac
    rw [decodeVarinteger]
    split
    · exact Outcome.not_fails_ok _
    · exact ih _ _

theorem decides_varinteger : Decides readVarinteger Wire.varinteger := by
  refine ⟨fun s a rest => ?_, fun s => not_fails_decodeVarinteger s 0 1⟩
  rw [readVarinteger, spells_decodeVarinteger]
  simp only [UInt64.one_mul, UInt64.zero_add]
  constructor
  · rintro ⟨w, n, hw, ha, hs⟩
    exact ⟨w, ⟨n, hw, ha⟩, hs⟩
  · rintro ⟨w, ⟨n, hw, ha⟩, hs⟩
    exact ⟨w, n, hw, ha, hs⟩

theorem decides_varinteger32 : Decides readVarinteger32 Wire.varinteger32 :=
  decides_varinteger.map UInt64.toUInt32

theorem decides_nextU32 : Decides readNextU32 Wire.u32 := by
  refine ((Reader.decides_little 4).map UInt32.ofNat).congr fun w value => ?_
  constructor
  · rintro ⟨n, w₁, w₂, ⟨rfl, hlt⟩, ⟨rfl, rfl⟩, rfl⟩
    rw [List.append_nil, Wire.u32, UInt32.toNat_ofNat_of_lt' hlt]
  · rintro rfl
    exact ⟨value.toNat, _, [], ⟨rfl, value.toNat_lt⟩, ⟨rfl, (UInt32.ofNat_toNat).symm⟩,
      (List.append_nil _).symm⟩

theorem decides_nextU64 : Decides readNextU64 Wire.u64 := by
  refine ((Reader.decides_little 8).map UInt64.ofNat).congr fun w value => ?_
  constructor
  · rintro ⟨n, w₁, w₂, ⟨rfl, hlt⟩, ⟨rfl, rfl⟩, rfl⟩
    rw [List.append_nil, Wire.u64, UInt64.toNat_ofNat_of_lt' hlt]
  · rintro rfl
    exact ⟨value.toNat, _, [], ⟨rfl, value.toNat_lt⟩, ⟨rfl, (UInt64.ofNat_toNat).symm⟩,
      (List.append_nil _).symm⟩

theorem decides_nextU8 : Decides readNextU8 Format.byte := Reader.decides_byte

theorem decides_nextBool : Decides readNextBool Wire.bool := decides_nextU8.map (· != 0)

theorem decides_nextU832 : Decides readNextU832 Wire.key := Reader.decides_block 32

theorem decides_nextVecU8 (len : UInt32) :
    Decides (readNextVecU8 len) (Format.bytes len.toNat) := Reader.decides_take len.toNat

theorem decides_vec {α : Type} {p : Reader MoneroError α} {R : Format α} (hp : Decides p R) :
    Decides (readVec p) (Wire.vec R) :=
  decides_varinteger.bind fun len => hp.many len.toNat

theorem meaning_text (n : Nat) (w : List UInt8) (cs : List Char) :
    (Format.bytes n).meaning decodeUtf8 w cs ↔ Wire.text n w cs := by
  constructor
  · rintro ⟨bs, ⟨rfl, hlength⟩, hcs⟩
    exact ⟨(utf8_of_decodeUtf8 hcs).symm, hlength⟩
  · rintro ⟨rfl, hlength⟩
    exact ⟨utf8 cs, ⟨rfl, hlength⟩, decodeUtf8_utf8 cs⟩

theorem decides_txDestinationEntry :
    Decides readNextTxDestinationEntry Wire.txDestinationEntry := by
  refine decides_varinteger.bind fun len => ?_
  refine (decides_nextVecU8 len.toUInt32).lift_bind (fun _ => Outcome.not_fails_unwrap _)
    (meaning_text _) fun original => ?_
  refine decides_varinteger.bind fun amount => ?_
  refine decides_nextU832.bind fun spend => ?_
  refine decides_nextU832.bind fun view => ?_
  refine decides_nextBool.bind fun isSubaddress => ?_
  exact decides_nextBool.map _

theorem decides_outputEntry : Decides readOutputEntry Wire.outputEntry := by
  refine decides_varinteger.bind fun _ => ?_
  refine decides_varinteger.bind fun index => ?_
  refine decides_nextU832.bind fun dest => ?_
  exact decides_nextU832.map _

theorem decides_multisigKLRki : Decides readMultisigKLRki Wire.multisigKLRki := by
  refine decides_nextU832.bind fun k => ?_
  refine decides_nextU832.bind fun L => ?_
  refine decides_nextU832.bind fun R => ?_
  exact decides_nextU832.map _

theorem decides_sourceEntry : Decides readSourceEntry Wire.sourceEntry := by
  refine (decides_vec decides_outputEntry).bind fun outputs => ?_
  refine decides_nextU64.bind fun realOutput => ?_
  refine decides_nextU832.bind fun realOutTxKey => ?_
  refine (decides_vec decides_nextU832).bind fun additional => ?_
  refine decides_nextU64.bind fun index => ?_
  refine decides_nextU64.bind fun amount => ?_
  refine decides_nextBool.bind fun rct => ?_
  refine decides_nextU832.bind fun mask => ?_
  exact decides_multisigKLRki.map _

theorem rangeProofType_ofCode_eq_ok {code : UInt64} {type : RangeProofType} :
    RangeProofType.ofCode code = .ok type ↔ code = type.code := by
  constructor
  · intro h
    exact (code_of_rangeProofType h).symm
  · rintro rfl
    exact ofCode_rangeProofType type

theorem rctType_ofCode_eq_ok {code : UInt64} {type : RctType} :
    RctType.ofCode code = .ok type ↔ code = type.code := by
  constructor
  · intro h
    exact (code_of_rctType h).symm
  · rintro rfl
    exact ofCode_rctType type

theorem not_fails_rangeProofType (code : UInt64) : ¬Outcome.Fails (RangeProofType.ofCode code) := by
  unfold RangeProofType.ofCode
  split_ifs <;> simp

theorem not_fails_rctType (code : UInt64) : ¬Outcome.Fails (RctType.ofCode code) := by
  unfold RctType.ofCode
  split_ifs <;> simp

theorem decides_rctConfig : Decides readRctConfig Wire.rctConfig := by
  refine decides_varinteger.bind fun version => ?_
  refine decides_varinteger.lift_bind not_fails_rangeProofType (fun w type => ?_) fun rangeProof => ?_
  · simp only [Format.meaning, rangeProofType_ofCode_eq_ok, exists_eq_right]
    rfl
  refine decides_varinteger.lift_bind not_fails_rctType (fun w type => ?_) fun bp => ?_
  · simp only [Format.meaning, rctType_ofCode_eq_ok, exists_eq_right]
    rfl
  exact Decides.pure _

theorem decides_txConstructionData : Decides readTxConstructionData Wire.txConstructionData := by
  refine (decides_vec decides_sourceEntry).bind fun sources => ?_
  refine decides_txDestinationEntry.bind fun changeDts => ?_
  refine (decides_vec decides_txDestinationEntry).bind fun splittedDsts => ?_
  refine (decides_vec decides_varinteger32).bind fun selectedTransfers => ?_
  refine decides_varinteger.bind fun extraLen => ?_
  refine (decides_nextVecU8 extraLen.toUInt32).bind fun extra => ?_
  refine decides_nextU64.bind fun unlockTime => ?_
  refine decides_nextU8.bind fun useRct => ?_
  refine decides_rctConfig.bind fun rctConfig => ?_
  refine (decides_vec decides_txDestinationEntry).bind fun dests => ?_
  refine decides_nextU32.bind fun subaddrAccount => ?_
  exact (decides_vec decides_varinteger32).map _

theorem decides_transferDetail : Decides readTransferDetail Wire.transferDetail := by
  refine decides_varinteger.bind fun _ => ?_
  refine decides_nextU832.bind fun pubkey => ?_
  refine decides_varinteger.bind fun internalIndex => ?_
  refine decides_varinteger.bind fun globalIndex => ?_
  refine decides_nextU832.bind fun txPubkey => ?_
  refine decides_nextU8.bind fun flags => ?_
  refine decides_varinteger.bind fun amount => ?_
  refine (decides_vec decides_nextU832).bind fun additional => ?_
  refine decides_varinteger32.bind fun major => ?_
  exact decides_varinteger32.map _

theorem decides_exportedTransferDetails :
    Decides readExportedTransferDetails Wire.exportedTransferDetails := by
  refine decides_varinteger.bind fun hasTransfers => ?_
  by_cases hnone : hasTransfers = 0
  · simp only [if_pos hnone]
    exact Decides.pure _
  · simp only [if_neg hnone]
    refine decides_varinteger.bind fun _ => ?_
    refine decides_varinteger.bind fun offset => ?_
    refine decides_varinteger.bind fun size => ?_
    exact (decides_transferDetail.many size.toNat).map _

theorem fromBytes_eq_ok {bytes : List UInt8} {transfers : ExportedTransferDetails} :
    ExportedTransferDetails.fromBytes bytes = .ok transfers
      ↔ Wire.exportedTransferDetails.Begins bytes transfers :=
  decides_exportedTransferDetails.run_eq_ok

theorem fromBytes_valueIff (bytes : List UInt8) :
    ValueIff (ExportedTransferDetails.fromBytes bytes)
      (∃ transfers, Wire.exportedTransferDetails.Begins bytes transfers) :=
  decides_exportedTransferDetails.run_valueIff bytes

theorem decides_unsignedTx : Decides
    (do let txes ← readTxes; let transfers ← readExportedTransferDetails; pure ⟨txes, transfers⟩)
    Wire.unsignedTx := by
  have htxes : Decides readTxes Wire.txes :=
    decides_varinteger.bind fun _ => decides_vec decides_txConstructionData
  exact htxes.bind fun txes => decides_exportedTransferDetails.map _

theorem deserialize_eq_run (bytes : List UInt8) : UnsignedTxData.deserialize bytes = Reader.run
    (do let txes ← readTxes; let transfers ← readExportedTransferDetails; pure ⟨txes, transfers⟩)
    bytes := by
  rw [UnsignedTxData.deserialize, Reader.run, Reader.bind_apply]
  cases readTxes bytes with
  | ok r =>
    -- the reader of the transfers fails with no error, and `unwrap` changes nothing
    show (unwrap (Reader.run readExportedTransferDetails r.2) >>= _) = _
    rw [Reader.run, Outcome.ok_bind, Reader.bind_apply]
    cases hread : readExportedTransferDetails r.2 with
    | ok transfers => rfl
    | error e => exact absurd ⟨e, hread⟩ (decides_exportedTransferDetails.not_fails r.2)
    | halted => rfl
  | error e => rfl
  | halted => rfl

theorem deserialize_eq_ok {bytes : List UInt8} {unsigned : UnsignedTxData} :
    UnsignedTxData.deserialize bytes = .ok unsigned ↔ Wire.unsignedTx.Begins bytes unsigned := by
  rw [deserialize_eq_run]
  exact decides_unsignedTx.run_eq_ok

theorem deserialize_valueIff (bytes : List UInt8) : ValueIff (UnsignedTxData.deserialize bytes)
    (∃ unsigned, Wire.unsignedTx.Begins bytes unsigned) := by
  rw [deserialize_eq_run]
  exact decides_unsignedTx.run_valueIff bytes

end Keystone3.Monero
