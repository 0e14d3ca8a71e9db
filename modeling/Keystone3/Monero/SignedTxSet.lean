import Mathlib.Algebra.Order.BigOperators.Group.List
import Keystone3.Bytes.Utf8
import Keystone3.Monero.Sealed
import Keystone3.Monero.TransferBytes

/-!
# The signed transactions on their way back

`SignedTxSet::serialize` is what the wallet is handed after signing, and it reads the
fields one behind the other. All counts and numbers are written in groups of seven bits,
except the indices of the selected transfers, of which one byte each is written; the
request has them in groups of seven bits too.

With indices from 128 on what is written is shorter (`length_serialize_lt`), so the set
is read back exactly if they are all below (`decodes_iff`).
-/

namespace Keystone3.Monero

open Bytes (Block Reader toLe)
open Bytes.Reader (Reads Takes)
open Logic (Outcome)

/-- `Transaction<NotPruned>` as the library has it: its bytes, and how they are read. -/
structure TxFormat (Tx : Type) where
  serialize : Tx → List UInt8
  read : Reader MoneroError Tx
  reads : ∀ tx, Reads read (serialize tx) tx
  takes : Takes read fun tx => (serialize tx).length

structure PendingTx (Tx : Type) where
  tx : Tx
  dust : UInt64
  fee : UInt64
  dustAddedToFee : Bool
  changeDts : TxDestinationEntry
  /-- `usize` has 32 bits. -/
  selectedTransfers : List UInt32
  keyImages : List Char
  txKey : Block 32
  additionalTxKeys : List (Block 32)
  dests : List TxDestinationEntry
  multisigSigs : List (List Char)
  constructionData : ConstructionData
  multisigTxKeyEntropy : Block 32

structure SignedTxSet (Tx : Type) where
  ptx : List (PendingTx Tx)
  keyImages : List (Block 32)
  txKeyImages : List (Block 32 × Block 32)

section

variable {Tx : Type} (format : TxFormat Tx)

/-- `Scalar::ONE`, in the place of the secret key. -/
def scalarOne : Block 32 := scalarBytes 1

def writeText (text : List Char) : List UInt8 := writeLen (utf8 text) ++ utf8 text

/-- A transaction, with the selected transfers written as `writeTransfer` says. -/
def writePendingTx (writeTransfer : UInt32 → List UInt8) (ptx : PendingTx Tx) : List UInt8 :=
  [1] ++ format.serialize ptx.tx
    ++ toLe 8 ptx.dust.toNat ++ toLe 8 ptx.fee.toNat ++ writeBool ptx.dustAddedToFee
    ++ writeTxDestinationEntry ptx.changeDts
    ++ writeVec writeTransfer ptx.selectedTransfers
    ++ writeText ptx.keyImages
    ++ scalarOne.bytes
    ++ writeVec Block.bytes ptx.additionalTxKeys
    ++ writeVec writeTxDestinationEntry ptx.dests
    ++ writeTxConstructionData ptx.constructionData
    ++ [0] ++ ptx.multisigTxKeyEntropy.bytes

def writeTxKeyImage (pair : Block 32 × Block 32) : List UInt8 := 2 :: pair.1.bytes ++ pair.2.bytes

namespace SignedTxSet

variable (set : SignedTxSet Tx)

def serializeWith (writeTransfer : UInt32 → List UInt8) : List UInt8 :=
  [0] ++ writeVec (writePendingTx format writeTransfer) set.ptx
    ++ writeVec Block.bytes set.keyImages
    ++ writeVec writeTxKeyImage set.txKeyImages

/-- `res.push(transfer as u8)`. -/
def pushTransfer (transfer : UInt32) : List UInt8 := [transfer.toUInt8]

def serialize : List UInt8 := set.serializeWith format pushTransfer

/-- A number in groups of seven bits, as in `write_tx_construction_data`. -/
def writeTransfer (transfer : UInt32) : List UInt8 := writeVarinteger transfer.toUInt64

end SignedTxSet

variable {Point : Type} [AddCommGroup Point] (c : Crypto Point)

def ConstructionData.txKey (data : ConstructionData) : Block 32 :=
  scalarBytes (c.randomScalar (c.keccak256 data.extra) 0)

def readText : Reader MoneroError (List Char) := do
  let len ← readVarinteger
  let bytes ← readNextVecU8 len.toUInt32
  Reader.lift (decodeUtf8 bytes)

def readPendingTx : Reader MoneroError (PendingTx Tx) := do
  let _ ← readVarinteger
  let tx ← format.read
  let dust ← readNextU64
  let fee ← readNextU64
  let dustAddedToFee ← readNextBool
  let changeDts ← readNextTxDestinationEntry
  let selectedTransfers ← readVec readVarinteger32
  let keyImages ← readText
  let _ ← readNextU832
  let additionalTxKeys ← readVec readNextU832
  let dests ← readVec readNextTxDestinationEntry
  let constructionData ← readTxConstructionData
  let multisigSigs ← readVec readText
  let multisigTxKeyEntropy ← readNextU832
  pure { tx, dust, fee, dustAddedToFee, changeDts, selectedTransfers, keyImages,
         txKey := constructionData.txKey c, additionalTxKeys, dests, multisigSigs,
         constructionData, multisigTxKeyEntropy }

def readTxKeyImage : Reader MoneroError (Block 32 × Block 32) := do
  let _ ← readVarinteger
  let key ← readNextU832
  let image ← readNextU832
  pure (key, image)

def readSignedTxSet : Reader MoneroError (SignedTxSet Tx) := do
  let _ ← readVarinteger
  let ptx ← readVec (readPendingTx format c)
  let keyImages ← readVec readNextU832
  let txKeyImages ← readVec readTxKeyImage
  pure ⟨ptx, keyImages, txKeyImages⟩

/-- As `PendingTx::new` leaves it for `sign`: the key is the one that belongs to the data, and
there is nothing of a multisignature. Lengths are those of vectors. -/
structure PendingTx.Built (ptx : PendingTx Tx) : Prop where
  txKey : ptx.txKey = ptx.constructionData.txKey c
  multisigSigs : ptx.multisigSigs = []
  changeDts : (utf8 ptx.changeDts.original).length < 2 ^ 32
  selectedTransfers : ptx.selectedTransfers.length < 2 ^ 32
  keyImages : (utf8 ptx.keyImages).length < 2 ^ 32
  additionalTxKeys : ptx.additionalTxKeys.length < 2 ^ 32
  dests : ptx.dests.length < 2 ^ 32 ∧ ∀ entry ∈ ptx.dests, (utf8 entry.original).length < 2 ^ 32
  constructionData : ptx.constructionData.Fits

structure SignedTxSet.Built (set : SignedTxSet Tx) : Prop where
  ptx : set.ptx.length < 2 ^ 32 ∧ ∀ ptx ∈ set.ptx, ptx.Built c
  keyImages : set.keyImages.length < 2 ^ 32
  txKeyImages : set.txKeyImages.length < 2 ^ 32

/-- The wallet reads all fields of the set, and reads to the end. -/
def SignedTxSet.Decodes (set : SignedTxSet Tx) : Prop :=
  readSignedTxSet format c (set.serialize format) = .ok (set, [])

def SignedTxSet.Short (set : SignedTxSet Tx) : Prop :=
  ∀ ptx ∈ set.ptx, ∀ transfer ∈ ptx.selectedTransfers, transfer.toNat < 128

end

theorem reads_text {text : List Char} (h : (utf8 text).length < 2 ^ 32) :
    Reads readText (writeText text) text := by
  have hlift : Reads (Reader.lift (decodeUtf8 (utf8 text))) [] text := fun rest =>
    Reader.lift_eq_ok.mpr ⟨decodeUtf8_utf8 text, rfl⟩
  have hreads : Reads readText _ text := (reads_varinteger _).bind ((reads_vecU8 h).bind hlift)
  rwa [List.append_nil] at hreads

section

variable {Tx : Type} {format : TxFormat Tx} {Point : Type} [AddCommGroup Point] {c : Crypto Point}

theorem reads_pendingTx {ptx : PendingTx Tx} (h : ptx.Built c) :
    Reads (readPendingTx format c) (writePendingTx format SignedTxSet.writeTransfer ptx) ptx := by
  have hversion : Reads readVarinteger [1] 1 := reads_varinteger 1
  have hnone : Reads (readVec readText) (writeVec writeText []) [] := reads_vec (by decide) nofun
  simp only [writePendingTx, List.append_assoc]
  obtain ⟨htxKey, hmultisig, hchange, hselected, himages, hadditional, hdests, hdata⟩ := h
  obtain ⟨tx, dust, fee, added, changeDts, selectedTransfers, keyImages, txKey, additionalTxKeys,
    dests, multisigSigs, constructionData, entropy⟩ := ptx
  dsimp only at htxKey hmultisig
  subst htxKey
  subst hmultisig
  refine hversion.bind ?_
  refine (format.reads tx).bind ?_
  refine (reads_nextU64 _).bind ?_
  refine (reads_nextU64 _).bind ?_
  refine (reads_nextBool _).bind ?_
  refine (reads_txDestinationEntry hchange).bind ?_
  refine (reads_vec hselected fun transfer _ => reads_varinteger32 transfer).bind ?_
  refine (reads_text himages).bind ?_
  refine (reads_nextU832 _).bind ?_
  refine (reads_vec hadditional fun key _ => reads_nextU832 key).bind ?_
  refine (reads_vec hdests.1 fun entry he => reads_txDestinationEntry (hdests.2 entry he)).bind ?_
  refine (reads_txConstructionData hdata).bind ?_
  refine hnone.bind ?_
  exact (reads_nextU832 _).map _

theorem reads_txKeyImage (pair : Block 32 × Block 32) :
    Reads readTxKeyImage (writeTxKeyImage pair) pair := by
  have hmark : Reads readVarinteger [2] 2 := reads_varinteger 2
  have hpair : writeTxKeyImage pair = [2] ++ (pair.1.bytes ++ pair.2.bytes) := rfl
  rw [hpair]
  refine hmark.bind ?_
  refine (reads_nextU832 _).bind ?_
  exact (reads_nextU832 _).map _

theorem reads_signedTxSet {set : SignedTxSet Tx} (h : set.Built c) :
    Reads (readSignedTxSet format c) (set.serializeWith format SignedTxSet.writeTransfer) set := by
  have hversion : Reads readVarinteger [0] 0 := reads_varinteger 0
  simp only [SignedTxSet.serializeWith, List.append_assoc]
  refine hversion.bind ?_
  refine (reads_vec h.ptx.1 fun ptx hptx => reads_pendingTx (h.ptx.2 ptx hptx)).bind ?_
  refine (reads_vec h.keyImages fun image _ => reads_nextU832 image).bind ?_
  exact (reads_vec h.txKeyImages fun pair _ => reads_txKeyImage pair).map _

end

theorem length_encodeVarinteger_le (rounds : Nat) : ∀ {k value : Nat}, 0 < k → value < 128 ^ k →
    (encodeVarinteger rounds value).length ≤ k := by
  induction rounds with
  | zero =>
    intro k value _ _
    exact Nat.zero_le k
  | succ rounds ih =>
    intro k value hk h
    rw [encodeVarinteger]
    split
    · rename_i hlarge
      obtain ⟨k, rfl⟩ : ∃ j, k = j + 1 := ⟨k - 1, by omega⟩
      have hpos : 0 < k := by
        by_contra hzero
        rw [Nat.eq_zero_of_not_pos hzero, Nat.zero_add, Nat.pow_one] at h
        omega
      have hrest : value >>> 7 < 128 ^ k := by
        rw [Nat.shiftRight_eq_div_pow]
        exact Nat.div_lt_of_lt_mul (by rw [Nat.mul_comm, ← Nat.pow_succ]; exact h)
      have hle := ih hpos hrest
      rw [List.length_cons]
      omega
    · exact hk

theorem decodeVarinteger_lt {s : List UInt8} : ∀ {val fac v : UInt64} {rest : List UInt8} {j : Nat},
    val.toNat < 128 ^ j → fac.toNat ≤ 128 ^ j → decodeVarinteger val fac s = .ok (v, rest) →
    ∃ k, s.length = rest.length + (k + 1) ∧ v.toNat < 128 ^ (j + k + 1) := by
  induction s with
  | nil =>
    intro val fac v rest j _ _ h
    cases h
  | cons byte s ih =>
    intro val fac v rest j hval hfac h
    have hgroup : ((byte &&& 127).toUInt64).toNat ≤ 127 := by
      rw [UInt8.toNat_toUInt64, UInt8.toNat_and]
      exact Nat.and_le_right
    have hmul : fac.toNat * ((byte &&& 127).toUInt64).toNat ≤ 128 ^ j * 127 :=
      Nat.mul_le_mul hfac hgroup
    have hnext : (val + fac * (byte &&& 127).toUInt64).toNat < 128 ^ (j + 1) := by
      rw [UInt64.toNat_add, UInt64.toNat_mul, Nat.pow_succ]
      have hsum := Nat.mod_le (val.toNat
        + fac.toNat * ((byte &&& 127).toUInt64).toNat % 2 ^ 64) (2 ^ 64)
      have hprod := Nat.mod_le (fac.toNat * ((byte &&& 127).toUInt64).toNat) (2 ^ 64)
      omega
    rw [decodeVarinteger] at h
    split at h
    · cases h
      exact ⟨0, rfl, hnext⟩
    · have hshift : (fac <<< 7).toNat ≤ 128 ^ (j + 1) := by
        rw [shiftLeft_seven, UInt64.toNat_mul, Nat.pow_succ]
        exact (Nat.mod_le _ _).trans (Nat.mul_le_mul_right 128 hfac)
      obtain ⟨k, hlength, hlt⟩ := ih hnext hshift h
      refine ⟨k + 1, by rw [List.length_cons, hlength]; omega, ?_⟩
      rwa [show j + (k + 1) + 1 = j + 1 + k + 1 by omega]

theorem length_of_readVarinteger {s rest : List UInt8} {v : UInt64}
    (h : readVarinteger s = .ok (v, rest)) {value : UInt64} (hle : value.toNat ≤ v.toNat) :
    rest.length + (writeVarinteger value).length ≤ s.length := by
  obtain ⟨k, hlength, hlt⟩ := decodeVarinteger_lt (j := 0) (by decide) (by decide) h
  rw [Nat.zero_add] at hlt
  have hwritten := length_encodeVarinteger_le 10 (Nat.succ_pos k) (Nat.lt_of_le_of_lt hle hlt)
  rw [writeVarinteger]
  omega

theorem takes_varinteger : Takes readVarinteger fun value => (writeVarinteger value).length :=
  fun _ _ _ h => length_of_readVarinteger h (Nat.le_refl _)

theorem takes_varinteger32 :
    Takes readVarinteger32 fun value => (writeVarinteger value.toUInt64).length := by
  intro s value rest h
  obtain ⟨v, mid, hv, h⟩ := Reader.bind_eq_ok.mp h
  cases h
  refine length_of_readVarinteger hv ?_
  rw [UInt32.toNat_toUInt64, UInt64.toNat_toUInt32]
  exact Nat.mod_le _ _

theorem length_writeVec {α : Type} (write : α → List UInt8) (items : List α) :
    (writeVec write items).length
      = (writeLen items).length + (items.map fun item => (write item).length).sum := by
  rw [writeVec, List.length_append, List.length_flatMap]

theorem takes_vec {α : Type} {p : Reader MoneroError α} {write : α → List UInt8}
    (hp : Takes p fun item => (write item).length) :
    Takes (readVec p) fun items => (writeVec write items).length := by
  intro s items rest h
  obtain ⟨len, mid, hlen, h⟩ := Reader.bind_eq_ok.mp h
  have hcount : UInt64.ofNat items.length = len := by
    rw [Reader.length_of_many h, UInt64.ofNat_toNat]
  have hfirst := takes_varinteger.le hlen
  have hrest := (hp.many len.toNat).le h
  show rest.length + (writeVec write items).length ≤ s.length
  rw [length_writeVec, writeLen, hcount]
  omega

theorem takes_nextU32 : Takes readNextU32 fun _ => 4 :=
  (Reader.takes_little none 4).map fun _ => Nat.le_refl 4

theorem takes_nextU64 : Takes readNextU64 fun _ => 8 :=
  (Reader.takes_little none 8).map fun _ => Nat.le_refl 8

theorem takes_nextBool : Takes readNextBool fun _ => 1 :=
  (Reader.takes_byte none).map fun _ => Nat.le_refl 1

theorem takes_nextU832 : Takes readNextU832 fun _ => 32 := Reader.takes_block none 32

theorem utf8_of_decodeUtf8 {bytes : List UInt8} {text : List Char}
    (h : decodeUtf8 bytes = .ok text) : utf8 text = bytes :=
  Bytes.utf8_of_ofUtf8 (Outcome.unwrap_eq_ok.mp h)

/-- The bytes that a written length announces. -/
theorem takes_bytes {α : Type} {f : List UInt8 → Reader MoneroError α} {size : α → Nat}
    (hf : ∀ bytes, Takes (f bytes) fun a => size a - ((writeLen bytes).length + bytes.length)) :
    Takes (do let len ← readVarinteger; let bytes ← readNextVecU8 len.toUInt32; f bytes) size := by
  intro s a rest h
  obtain ⟨len, mid, hlen, h⟩ := Reader.bind_eq_ok.mp h
  obtain ⟨bytes, mid', hbytes, h⟩ := Reader.bind_eq_ok.mp h
  have hrest : rest.length + (size a - ((writeLen bytes).length + bytes.length)) ≤ mid'.length :=
    (hf bytes).le h
  obtain ⟨w, ⟨rfl, hlength⟩, hmid⟩ :=
    (Reader.spells_take none len.toUInt32.toNat mid bytes mid').mp hbytes
  have hle : (UInt64.ofNat w.length).toNat ≤ len.toNat := by
    rw [UInt64.toNat_ofNat', hlength, UInt64.toNat_toUInt32]
    exact (Nat.mod_le _ _).trans (Nat.mod_le _ _)
  have hcount := length_of_readVarinteger hlen hle
  rw [hmid, List.length_append, ← writeLen] at hcount
  omega

theorem takes_text : Takes readText fun text => (writeText text).length := by
  refine takes_bytes fun bytes s text rest h => ?_
  obtain ⟨htext, rfl⟩ := Reader.lift_eq_ok.mp h
  show rest.length + ((writeText text).length - _) ≤ rest.length
  rw [writeText, utf8_of_decodeUtf8 htext, List.length_append, Nat.sub_self]
  exact Nat.le_refl _

theorem takes_txDestinationEntry :
    Takes readNextTxDestinationEntry fun entry => (writeTxDestinationEntry entry).length := by
  refine takes_bytes fun bytes => ?_
  refine Reader.takes_lift fun original horiginal => ?_
  refine takes_varinteger.bind fun amount => ?_
  refine takes_nextU832.bind fun spend => ?_
  refine takes_nextU832.bind fun view => ?_
  refine takes_nextBool.bind fun isSubaddress => ?_
  refine takes_nextBool.bind fun isIntegrated => Reader.takes_pure ?_
  simp only [writeTxDestinationEntry, utf8_of_decodeUtf8 horiginal, List.length_append,
    Block.size_eq, writeBool, List.length_singleton, Nat.sub_sub]
  omega

theorem takes_mark : Takes readVarinteger fun _ => 1 := by
  intro s mark rest h
  have hzero : (0 : UInt64).toNat ≤ mark.toNat := Nat.zero_le _
  exact length_of_readVarinteger h hzero

theorem takes_key : Takes readNextU832 fun key => key.bytes.length := by
  intro s key rest h
  show rest.length + key.bytes.length ≤ s.length
  rw [key.size_eq]
  exact takes_nextU832.le h

theorem length_writeVarinteger_pos (value : UInt64) : 0 < (writeVarinteger value).length := by
  rw [writeVarinteger, encodeVarinteger]
  split
  · exact Nat.succ_pos _
  · exact Nat.one_pos

theorem takes_outputEntry : Takes readOutputEntry fun entry => (writeOutputEntry entry).length := by
  refine takes_mark.bind fun mark => ?_
  refine takes_varinteger.bind fun index => ?_
  refine takes_nextU832.bind fun dest => ?_
  refine takes_nextU832.bind fun mask => Reader.takes_pure ?_
  simp only [writeOutputEntry, List.length_append, List.length_cons, Block.size_eq, Nat.sub_sub]
  omega

theorem takes_multisigKLRki : Takes readMultisigKLRki fun _ => 128 := by
  refine takes_nextU832.bind fun k => ?_
  refine takes_nextU832.bind fun L => ?_
  refine takes_nextU832.bind fun R => ?_
  exact takes_nextU832.bind fun ki => Reader.takes_pure rfl

theorem takes_sourceEntry : Takes readSourceEntry fun entry => (writeTxSourceEntry entry).length := by
  refine (takes_vec takes_outputEntry).bind fun outputs => ?_
  refine takes_nextU64.bind fun realOutput => ?_
  refine takes_nextU832.bind fun realOutTxKey => ?_
  refine (takes_vec takes_key).bind fun additional => ?_
  refine takes_nextU64.bind fun index => ?_
  refine takes_nextU64.bind fun amount => ?_
  refine takes_nextBool.bind fun rct => ?_
  refine takes_nextU832.bind fun mask => ?_
  refine takes_multisigKLRki.bind fun multisig => Reader.takes_pure ?_
  simp only [writeTxSourceEntry, List.length_append, Block.size_eq, Bytes.length_toLe, writeBool,
    List.length_singleton, Nat.sub_sub]
  omega

theorem code_of_rangeProofType {code : UInt64} {type : RangeProofType}
    (h : RangeProofType.ofCode code = .ok type) : type.code = code := by
  unfold RangeProofType.ofCode at h
  grind [RangeProofType.code]

theorem code_of_rctType {code : UInt64} {type : RctType} (h : RctType.ofCode code = .ok type) :
    type.code = code := by
  unfold RctType.ofCode at h
  grind [RctType.code]

theorem takes_version :
    Takes readVarinteger fun version => (writeVarinteger version.toUInt32.toUInt64).length := by
  intro s version rest h
  refine length_of_readVarinteger h ?_
  rw [UInt32.toNat_toUInt64, UInt64.toNat_toUInt32]
  exact Nat.mod_le _ _

theorem takes_rctConfig : Takes readRctConfig fun config => (writeRctConfig config).length := by
  refine takes_version.bind fun version => ?_
  refine takes_varinteger.bind fun rangeProof => ?_
  refine Reader.takes_lift fun rangeProofType hrange => ?_
  refine takes_varinteger.bind fun bp => ?_
  refine Reader.takes_lift fun bpVersion hbp => Reader.takes_pure ?_
  simp only [writeRctConfig, List.length_append, code_of_rangeProofType hrange, code_of_rctType hbp,
    Nat.sub_sub]
  omega

theorem takes_txConstructionData :
    Takes readTxConstructionData fun data => (writeTxConstructionData data).length := by
  refine (takes_vec takes_sourceEntry).bind fun sources => ?_
  refine takes_txDestinationEntry.bind fun changeDts => ?_
  refine (takes_vec takes_txDestinationEntry).bind fun splittedDsts => ?_
  refine (takes_vec takes_varinteger32).bind fun selectedTransfers => ?_
  refine takes_bytes fun extra => ?_
  refine takes_nextU64.bind fun unlockTime => ?_
  refine (Reader.takes_byte none).bind fun useRct => ?_
  refine takes_rctConfig.bind fun rctConfig => ?_
  refine (takes_vec takes_txDestinationEntry).bind fun dests => ?_
  refine takes_nextU32.bind fun account => ?_
  refine (takes_vec takes_varinteger32).bind fun indices => Reader.takes_pure ?_
  simp only [writeTxConstructionData, List.length_append, Bytes.length_toLe, List.length_singleton,
    Nat.sub_sub]
  omega

section

variable {Tx : Type} {format : TxFormat Tx} {Point : Type} [AddCommGroup Point] {c : Crypto Point}

theorem takes_pendingTx : Takes (readPendingTx format c)
    fun ptx => (writePendingTx format SignedTxSet.writeTransfer ptx).length := by
  refine takes_mark.bind fun version => ?_
  refine format.takes.bind fun tx => ?_
  refine takes_nextU64.bind fun dust => ?_
  refine takes_nextU64.bind fun fee => ?_
  refine takes_nextBool.bind fun added => ?_
  refine takes_txDestinationEntry.bind fun changeDts => ?_
  refine (takes_vec takes_varinteger32).bind fun selectedTransfers => ?_
  refine takes_text.bind fun keyImages => ?_
  refine takes_nextU832.bind fun one => ?_
  refine (takes_vec takes_key).bind fun additional => ?_
  refine (takes_vec takes_txDestinationEntry).bind fun dests => ?_
  refine takes_txConstructionData.bind fun data => ?_
  refine (takes_vec takes_text).bind fun sigs => ?_
  refine takes_nextU832.bind fun entropy => Reader.takes_pure ?_
  have hcount := length_writeVarinteger_pos (UInt64.ofNat sigs.length)
  show (writePendingTx format (fun transfer => writeVarinteger transfer.toUInt64) _).length
    - _ - _ - _ - _ - _ - _ - _ - _ - _ - _ - _ - _ - _ - _ = 0
  simp only [writePendingTx, List.length_append, Bytes.length_toLe, List.length_singleton, writeBool,
    Block.size_eq, length_writeVec writeText, writeLen, Nat.sub_sub]
  omega

theorem takes_txKeyImage : Takes readTxKeyImage fun pair => (writeTxKeyImage pair).length := by
  refine takes_mark.bind fun mark => ?_
  refine takes_nextU832.bind fun key => ?_
  refine takes_nextU832.bind fun image => Reader.takes_pure ?_
  simp only [writeTxKeyImage, List.length_append, List.length_cons, Block.size_eq, Nat.sub_sub]

theorem takes_signedTxSet : Takes (readSignedTxSet format c)
    fun set => (set.serializeWith format SignedTxSet.writeTransfer).length := by
  refine takes_mark.bind fun version => ?_
  refine (takes_vec takes_pendingTx).bind fun ptx => ?_
  refine (takes_vec takes_key).bind fun keyImages => ?_
  refine (takes_vec takes_txKeyImage).bind fun txKeyImages => Reader.takes_pure ?_
  simp only [SignedTxSet.serializeWith, List.length_append, List.length_singleton, Nat.sub_self,
    Nat.sub_sub]

end

namespace SignedTxSet

theorem writeTransfer_eq {transfer : UInt32} (h : transfer.toNat < 128) :
    writeTransfer transfer = pushTransfer transfer := by
  have hsmall : ¬transfer.toUInt64.toNat > 127 := by
    rw [UInt32.toNat_toUInt64]
    omega
  have hbyte : UInt8.ofNat transfer.toUInt64.toNat = transfer.toUInt8 := by
    apply UInt8.toNat_inj.mp
    rw [UInt8.toNat_ofNat', UInt32.toNat_toUInt64, UInt32.toNat_toUInt8]
  rw [writeTransfer, pushTransfer, writeVarinteger, encodeVarinteger, if_neg hsmall, hbyte]

theorem length_pushTransfer_le (transfer : UInt32) :
    (pushTransfer transfer).length ≤ (writeTransfer transfer).length :=
  length_writeVarinteger_pos transfer.toUInt64

theorem length_pushTransfer_lt {transfer : UInt32} (h : ¬transfer.toNat < 128) :
    (pushTransfer transfer).length < (writeTransfer transfer).length := by
  have hlarge : transfer.toUInt64.toNat > 127 := by
    rw [UInt32.toNat_toUInt64]
    omega
  have hrest : 0 < (encodeVarinteger 9 (transfer.toUInt64.toNat >>> 7)).length := by
    rw [encodeVarinteger]
    split
    · exact Nat.succ_pos _
    · exact Nat.one_pos
  rw [writeTransfer, writeVarinteger, encodeVarinteger, if_pos hlarge, List.length_cons]
  exact Nat.succ_lt_succ hrest

section

variable {Tx : Type} {format : TxFormat Tx} {Point : Type} [AddCommGroup Point] {c : Crypto Point}
  {set : SignedTxSet Tx}

theorem length_writePendingTx_le (ptx : PendingTx Tx) :
    (writePendingTx format pushTransfer ptx).length
      ≤ (writePendingTx format writeTransfer ptx).length := by
  have hle : (ptx.selectedTransfers.map fun transfer => (pushTransfer transfer).length).sum
      ≤ (ptx.selectedTransfers.map fun transfer => (writeTransfer transfer).length).sum :=
    List.sum_le_sum fun transfer _ => length_pushTransfer_le transfer
  simp only [writePendingTx, List.length_append, length_writeVec]
  omega

theorem length_writePendingTx_lt {ptx : PendingTx Tx} {transfer : UInt32}
    (hmem : transfer ∈ ptx.selectedTransfers) (h : ¬transfer.toNat < 128) :
    (writePendingTx format pushTransfer ptx).length
      < (writePendingTx format writeTransfer ptx).length := by
  have hlt : (ptx.selectedTransfers.map fun transfer => (pushTransfer transfer).length).sum
      < (ptx.selectedTransfers.map fun transfer => (writeTransfer transfer).length).sum :=
    List.sum_lt_sum _ _ (fun transfer _ => length_pushTransfer_le transfer)
      ⟨transfer, hmem, length_pushTransfer_lt h⟩
  simp only [writePendingTx, List.length_append, length_writeVec]
  omega

theorem length_serialize_lt (h : ¬set.Short) :
    (set.serialize format).length < (set.serializeWith format writeTransfer).length := by
  unfold Short at h
  push Not at h
  obtain ⟨ptx, hptx, transfer, htransfer, hlarge⟩ := h
  have hlt : (set.ptx.map fun ptx => (writePendingTx format pushTransfer ptx).length).sum
      < (set.ptx.map fun ptx => (writePendingTx format writeTransfer ptx).length).sum :=
    List.sum_lt_sum _ _ (fun ptx _ => length_writePendingTx_le ptx)
      ⟨ptx, hptx, length_writePendingTx_lt htransfer (by omega)⟩
  simp only [serialize, serializeWith, List.length_append, length_writeVec]
  omega

theorem writeVec_congr {α : Type} {write write' : α → List UInt8} {items : List α}
    (h : ∀ item ∈ items, write item = write' item) : writeVec write items = writeVec write' items := by
  rw [writeVec, writeVec, List.flatMap_def, List.flatMap_def, List.map_congr_left h]

theorem serialize_eq (h : set.Short) :
    set.serialize format = set.serializeWith format writeTransfer := by
  have hptx : ∀ ptx ∈ set.ptx, writePendingTx format pushTransfer ptx
      = writePendingTx format writeTransfer ptx := by
    intro ptx hptx
    have htransfers := writeVec_congr fun transfer ht => writeTransfer_eq (h ptx hptx transfer ht)
    rw [writePendingTx, writePendingTx, htransfers]
  rw [serialize, serializeWith, serializeWith, writeVec_congr hptx]

theorem decodes_of_short (hbuilt : set.Built c) (h : set.Short) : set.Decodes format c := by
  have hreads : Reads (readSignedTxSet format c) (set.serializeWith format writeTransfer) set :=
    reads_signedTxSet hbuilt
  have hall := hreads []
  rwa [List.append_nil, ← serialize_eq h] at hall

theorem short_of_decodes (h : set.Decodes format c) : set.Short := by
  by_contra hshort
  have hlt : (set.serialize format).length < (set.serializeWith format writeTransfer).length :=
    length_serialize_lt hshort
  have htaken := takes_signedTxSet.le h
  rw [List.length_nil] at htaken
  omega

/-- **When the wallet reads the set back**: exactly if one byte is enough for every index of a
selected transfer. Among such sets no two are written alike. -/
theorem decodes_iff (format : TxFormat Tx) (h : set.Built c) :
    (set.Decodes format c ↔ set.Short)
      ∧ ∀ other : SignedTxSet Tx, other.Built c → set.Short → other.Short →
        set.serialize format = other.serialize format → set = other := by
  refine ⟨⟨short_of_decodes, decodes_of_short h⟩, fun other hother hshort hshort' heq => ?_⟩
  have hset : set.Decodes format c := decodes_of_short h hshort
  have hother : other.Decodes format c := decodes_of_short hother hshort'
  unfold Decodes at hset hother
  rw [heq, hother] at hset
  cases hset
  rfl

end

def byteFormat : TxFormat UInt8 where
  serialize tx := [tx]
  read := Reader.byte none
  reads := Reader.reads_byte none
  takes := Reader.takes_byte none

def sample (selectedTransfers : List UInt32) : SignedTxSet UInt8 where
  ptx := [{
    tx := 7
    dust := 0
    fee := 100
    dustAddedToFee := false
    changeDts := sampleRequest.changeDts
    selectedTransfers
    keyImages := ['<', '4', '>', ' ']
    txKey := sampleRequest.txKey smallCurve
    additionalTxKeys := [Block.fill 32 8]
    dests := sampleRequest.dests
    multisigSigs := []
    constructionData := sampleRequest
    multisigTxKeyEntropy := Block.zero 32 }]
  keyImages := []
  txKeyImages := [(Block.fill 32 9, Block.fill 32 4)]

theorem built_sample {selectedTransfers : List UInt32} (h : selectedTransfers.length < 2 ^ 32) :
    (sample selectedTransfers).Built smallCurve := by
  have hone : 1 < 2 ^ 32 := by decide
  have hnone : 0 < 2 ^ 32 := by decide
  have himages : (utf8 ['<', '4', '>', ' ']).length < 2 ^ 32 := by decide
  have hfits := fits_sampleRequest
  refine ⟨⟨hone, fun ptx hptx => ?_⟩, hnone, hone⟩
  rw [List.mem_singleton.mp hptx]
  exact ⟨rfl, rfl, hfits.changeDts, h, himages, hone, hfits.dests, hfits⟩

theorem decodes_sample : (sample [3, 127]).Decodes byteFormat smallCurve := by
  refine (decodes_iff byteFormat (built_sample (by decide))).1.mpr ?_
  intro ptx hptx transfer htransfer
  rw [List.mem_singleton.mp hptx] at htransfer
  rcases List.mem_pair.mp htransfer with rfl | rfl
  · decide
  · decide

/-- **The transfer with index 128** is written as the first of two bytes. -/
theorem not_decodes_largeIndex : ¬∀ (format : TxFormat UInt8) (set : SignedTxSet UInt8),
    set.Built smallCurve → set.Decodes format smallCurve := by
  intro claim
  have hshort := short_of_decodes (claim byteFormat (sample [128]) (built_sample (by decide)))
  exact absurd (hshort _ List.mem_cons_self 128 List.mem_cons_self) (by decide)

end SignedTxSet

end Keystone3.Monero
