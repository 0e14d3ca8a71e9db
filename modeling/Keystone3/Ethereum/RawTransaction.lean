import Keystone3.Bytes.Rlp
import Keystone3.Ethereum.LegacyTransaction

/-!
# Signed transactions as bytes

A transaction is written as a list of strings, with the two words of its signature
as they are, in thirty-two bytes each. They are read as numbers, which have no
zeros in front, so a signed transaction is read again just if neither word begins
with a zero (`canonical_and_decodeRaw_iff`).
-/

namespace Keystone3.Ethereum

open Bytes (Block be length_be ofBe)
open Bytes.Rlp (Item minimal)
open Logic (Outcome)
open Logic.Outcome (bind_eq_ok ok_bind)

/-- `DecoderError`, less what is only raised elsewhere. -/
inductive DecoderError where
  | rlpExpectedToBeData
  | rlpExpectedToBeList
  | rlpIncorrectListLen
  | rlpInvalidIndirection
  | rlpIsTooBig
  | rlpIsTooShort
deriving DecidableEq

structure RlpLib where
  /-- The bytes of an unbounded list to which strings have been appended. -/
  stream : List (List UInt8) → List UInt8
  /-- The items of a list. -/
  items : List UInt8 → Outcome DecoderError (List Item)

structure RlpLib.Lawful (lib : RlpLib) : Prop where
  stream_eq : ∀ strings, lib.stream strings = Bytes.Rlp.list strings
  items_list : ∀ strings : List (List UInt8),
    (strings.flatMap Bytes.Rlp.string).length < 2 ^ 64 →
      lib.items (Bytes.Rlp.list strings) = .ok (strings.map .data)

/-- A number of at most `size` bytes, with no zeros in front. -/
def decodeUint (size : Nat) : Item → Outcome DecoderError Nat
  | .list _ => .error .rlpExpectedToBeData
  | .data bytes =>
    if bytes.head? = some 0 then .error .rlpInvalidIndirection
    else if bytes.length ≤ size then .ok (ofBe bytes)
    else .error .rlpIsTooBig

def decodeH160 : Item → Outcome DecoderError (Block 20)
  | .list _ => .error .rlpExpectedToBeData
  | .data bytes =>
    if h : bytes.length = 20 then .ok ⟨bytes, h⟩
    else if bytes.length < 20 then .error .rlpIsTooShort
    else .error .rlpIsTooBig

def decodeBytes : Item → Outcome DecoderError (List UInt8)
  | .list _ => .error .rlpExpectedToBeData
  | .data bytes => .ok bytes

structure TransactionSignature where
  v : UInt64
  r : Block 32
  s : Block 32
deriving DecidableEq

structure RawTransaction extends LegacyTransaction where
  signature : Option TransactionSignature
deriving DecidableEq

def TransactionAction.bytes : TransactionAction → List UInt8
  | .call recipient => recipient.bytes
  | .create => []

def TransactionAction.decode : Item → Outcome DecoderError TransactionAction
  | .data [] => .ok .create
  | .list [] => .error .rlpExpectedToBeData
  | item => do
    let recipient ← decodeH160 item
    pure (.call recipient)

def valAt {α : Type} (items : List Item) (i : Nat) (decode : Item → Outcome DecoderError α) :
    Outcome DecoderError α := do
  let item ← Outcome.okOr .rlpIsTooShort items[i]?
  decode item

namespace RawTransaction

def chainId (tx : RawTransaction) : UInt64 :=
  match tx.signature with
  | some signature => if signature.s = Block.zero 32 then signature.v else (signature.v - 35) / 2
  | none => 1

def setSignature (tx : RawTransaction) (signature : TransactionSignature) : RawTransaction :=
  { tx with signature := some signature }

def signatureStrings (tx : RawTransaction) : List (List UInt8) :=
  match tx.signature with
  | some signature => [minimal 8 signature.v.toNat, signature.r.bytes, signature.s.bytes]
  | none => [minimal 8 tx.chainId.toNat, [], []]

def strings (tx : RawTransaction) : List (List UInt8) :=
  [minimal 32 tx.nonce, minimal 32 tx.gasPrice, minimal 32 tx.gasLimit, tx.action.bytes,
    minimal 32 tx.value, tx.input] ++ tx.signatureStrings

def decodeRsv (items : List Item) : Outcome DecoderError (Option TransactionSignature) :=
  if items.length = 6 then .ok none
  else if items.length = 9 then do
    let v ← valAt items 6 (decodeUint 8)
    let r ← valAt items 7 (decodeUint 32)
    let s ← valAt items 8 (decodeUint 32)
    pure (some ⟨UInt64.ofNat v, ⟨be 32 r, length_be 32 r⟩, ⟨be 32 s, length_be 32 s⟩⟩)
  else .error .rlpIncorrectListLen

def decode (items : List Item) : Outcome DecoderError RawTransaction :=
  if items.length < 6 then .error .rlpIncorrectListLen
  else do
    let signature ← decodeRsv items
    let nonce ← valAt items 0 (decodeUint 32)
    let gasPrice ← valAt items 1 (decodeUint 32)
    let gasLimit ← valAt items 2 (decodeUint 32)
    let action ← valAt items 3 TransactionAction.decode
    let value ← valAt items 4 (decodeUint 32)
    let input ← valAt items 5 decodeBytes
    pure { nonce, gasPrice, gasLimit, action, value, input, signature }

variable (lib : RlpLib)

def encodeRaw (tx : RawTransaction) : List UInt8 := lib.stream tx.strings

def decodeRaw (raw : List UInt8) : Outcome DecoderError RawTransaction := do
  let items ← lib.items raw
  decode items

end RawTransaction

theorem decodeUint_minimal {size n : Nat} (h : n < 256 ^ size) :
    decodeUint size (.data (minimal size n)) = .ok n := by
  rw [decodeUint, if_neg (Bytes.Rlp.head_minimal size n),
    if_pos (Bytes.Rlp.length_minimal_le size n), Bytes.Rlp.ofBe_minimal h]

theorem lt_of_decodeUint {size n : Nat} {item : Item} (h : decodeUint size item = .ok n) :
    n < 256 ^ size := by
  cases item with
  | list payload => cases h
  | data bytes =>
    by_cases hzero : bytes.head? = some 0
    · rw [decodeUint, if_pos hzero] at h
      cases h
    · by_cases hsize : bytes.length ≤ size
      · rw [decodeUint, if_neg hzero, if_pos hsize] at h
        cases h
        exact Nat.lt_of_lt_of_le (Bytes.ofBe_lt bytes) (Nat.pow_le_pow_right (by decide) hsize)
      · rw [decodeUint, if_neg hzero, if_neg hsize] at h
        cases h

theorem decodeUint_word {word : Block 32} (h : word.bytes.head? ≠ some 0) :
    decodeUint 32 (.data word.bytes) = .ok (ofBe word.bytes) := by
  rw [decodeUint, if_neg h, if_pos (Nat.le_of_eq word.size_eq)]

theorem block_ofBe (word : Block 32) :
    (⟨be 32 (ofBe word.bytes), length_be 32 _⟩ : Block 32) = word := by
  apply Block.ext
  have hbe := Bytes.be_ofBe word.bytes
  rwa [word.size_eq] at hbe

theorem decode_action (action : TransactionAction) :
    TransactionAction.decode (.data action.bytes) = .ok action := by
  cases action with
  | create => rfl
  | call recipient =>
    obtain ⟨bytes, hsize⟩ := recipient
    cases bytes with
    | nil => cases hsize
    | cons b bytes =>
      show (decodeH160 (.data (b :: bytes)) >>= fun recipient =>
        pure (TransactionAction.call recipient)) = _
      rw [decodeH160, dif_pos hsize]
      rfl

theorem valAt_eq {α : Type} {items : List Item} {i : Nat} (item : Item)
    (h : items[i]? = some item) (decode : Item → Outcome DecoderError α) :
    valAt items i decode = decode item := by
  rw [valAt, h]
  rfl

theorem lt_of_valAt {items : List Item} {i size n : Nat}
    (h : valAt items i (decodeUint size) = .ok n) : n < 256 ^ size := by
  unfold valAt at h
  rw [bind_eq_ok] at h
  obtain ⟨item, -, hitem⟩ := h
  exact lt_of_decodeUint hitem

namespace RawTransaction

structure Bounded (tx : RawTransaction) : Prop where
  nonce : tx.nonce < 256 ^ 32
  gasPrice : tx.gasPrice < 256 ^ 32
  gasLimit : tx.gasLimit < 256 ^ 32
  value : tx.value < 256 ^ 32

theorem bounded_of_decode {items : List Item} {tx : RawTransaction} (h : decode items = .ok tx) :
    tx.Bounded := by
  unfold decode at h
  split at h
  · cases h
  · simp only [bind_eq_ok] at h
    obtain ⟨signature, -, nonce, hnonce, gasPrice, hgasPrice, gasLimit, hgasLimit, action, -, value,
      hvalue, input, -, htx⟩ := h
    cases htx
    exact ⟨lt_of_valAt hnonce, lt_of_valAt hgasPrice, lt_of_valAt hgasLimit, lt_of_valAt hvalue⟩

def NoZeroInFront (signature : TransactionSignature) : Prop :=
  signature.r.bytes.head? ≠ some 0 ∧ signature.s.bytes.head? ≠ some 0

theorem decodeRsv_strings {tx : RawTransaction} {signature : TransactionSignature}
    (hsignature : NoZeroInFront signature) :
    decodeRsv ((tx.setSignature signature).strings.map .data) = .ok (some signature) := by
  have hv : signature.v.toNat < 256 ^ 8 := signature.v.toNat_lt
  have hlength : ((tx.setSignature signature).strings.map Item.data).length = 9 := rfl
  rw [decodeRsv, hlength, if_neg (by decide), if_pos rfl,
    valAt_eq (.data (minimal 8 signature.v.toNat)) rfl, decodeUint_minimal hv,
    ok_bind, valAt_eq (.data signature.r.bytes) rfl,
    decodeUint_word hsignature.1, ok_bind, valAt_eq (.data signature.s.bytes) rfl,
    decodeUint_word hsignature.2, ok_bind, block_ofBe, block_ofBe, UInt64.ofNat_toNat]
  rfl

theorem decode_strings {tx : RawTransaction} (hbounded : tx.Bounded)
    {signature : TransactionSignature} (hsignature : NoZeroInFront signature) :
    decode ((tx.setSignature signature).strings.map .data) = .ok (tx.setSignature signature) := by
  have hlength : ((tx.setSignature signature).strings.map Item.data).length = 9 := rfl
  rw [decode, hlength, if_neg (by decide), decodeRsv_strings hsignature, ok_bind,
    valAt_eq (.data (minimal 32 tx.nonce)) rfl, decodeUint_minimal hbounded.nonce,
    ok_bind, valAt_eq (.data (minimal 32 tx.gasPrice)) rfl,
    decodeUint_minimal hbounded.gasPrice, ok_bind,
    valAt_eq (.data (minimal 32 tx.gasLimit)) rfl, decodeUint_minimal hbounded.gasLimit,
    ok_bind, valAt_eq (.data tx.action.bytes) rfl, decode_action, ok_bind,
    valAt_eq (.data (minimal 32 tx.value)) rfl, decodeUint_minimal hbounded.value,
    ok_bind, valAt_eq (.data tx.input) rfl]
  rfl

/-- Nine strings, and no zeros in front of the numbers among them. -/
def IsCanonical (raw : List UInt8) : Prop :=
  ∃ strings, raw = Bytes.Rlp.list strings
    ∧ (strings.flatMap Bytes.Rlp.string).length < 2 ^ 64 ∧ strings.length = 9
    ∧ ∀ i ∈ [0, 1, 2, 4, 6, 7, 8], ∀ s ∈ strings[i]?, s.head? ≠ some 0

theorem length_action (action : TransactionAction) : action.bytes.length ≤ 20 := by
  cases action with
  | create => exact Nat.zero_le _
  | call recipient => exact Nat.le_of_eq recipient.size_eq

theorem length_strings {tx : RawTransaction} (hinput : tx.input.length < 2 ^ 63)
    (signature : TransactionSignature) :
    ((tx.setSignature signature).strings.flatMap Bytes.Rlp.string).length < 2 ^ 64 := by
  have hstring := Bytes.Rlp.length_string_le
  have hminimal := Bytes.Rlp.length_minimal_le
  have h₀ := hstring (minimal 32 tx.nonce)
  have h₁ := hstring (minimal 32 tx.gasPrice)
  have h₂ := hstring (minimal 32 tx.gasLimit)
  have h₃ := hstring tx.action.bytes
  have h₄ := hstring (minimal 32 tx.value)
  have h₅ := hstring tx.input
  have h₆ := hstring (minimal 8 signature.v.toNat)
  have h₇ := hstring signature.r.bytes
  have h₈ := hstring signature.s.bytes
  have hnonce := hminimal 32 tx.nonce
  have hgasPrice := hminimal 32 tx.gasPrice
  have hgasLimit := hminimal 32 tx.gasLimit
  have haction := length_action tx.action
  have hvalue := hminimal 32 tx.value
  have hv := hminimal 8 signature.v.toNat
  have hr := signature.r.size_eq
  have hs := signature.s.size_eq
  simp only [strings, signatureStrings, setSignature, List.cons_append, List.nil_append,
    List.flatMap_cons, List.flatMap_nil, List.length_append, List.length_nil]
  omega

theorem isCanonical_iff {lib : RlpLib} (hlib : lib.Lawful) (tx : RawTransaction)
    (hinput : tx.input.length < 2 ^ 63) (signature : TransactionSignature) :
    IsCanonical ((tx.setSignature signature).encodeRaw lib) ↔ NoZeroInFront signature := by
  have hlength := length_strings hinput signature
  rw [encodeRaw, hlib.stream_eq]
  constructor
  · intro h
    obtain ⟨strings, heq, hlength', -, hnumbers⟩ := h
    -- there is one way to read the bytes
    have hsame : strings = (tx.setSignature signature).strings := by
      have hitems := (hlib.items_list _ hlength').symm.trans
        ((congrArg lib.items heq).symm.trans (hlib.items_list _ hlength))
      injection hitems with hitems
      exact (List.map_inj_right fun _ _ => Item.data.inj).mp hitems
    subst hsame
    exact ⟨hnumbers 7 (by decide) _ rfl, hnumbers 8 (by decide) _ rfl⟩
  · intro h
    refine ⟨_, rfl, hlength, rfl, ?_⟩
    intro i hi s hs
    simp only [List.mem_cons, List.not_mem_nil, or_false] at hi
    rcases hi with rfl | rfl | rfl | rfl | rfl | rfl | rfl
    · cases hs
      exact Bytes.Rlp.head_minimal _ _
    · cases hs
      exact Bytes.Rlp.head_minimal _ _
    · cases hs
      exact Bytes.Rlp.head_minimal _ _
    · cases hs
      exact Bytes.Rlp.head_minimal _ _
    · cases hs
      exact Bytes.Rlp.head_minimal _ _
    · cases hs
      exact h.1
    · cases hs
      exact h.2

/-- With a signature, a transaction that was read is canonical and read again just if the
words of the signature do not begin with zeros. -/
theorem canonical_and_decodeRaw_iff (lib : RlpLib) (hlib : lib.Lawful) (raw : List UInt8)
    (tx : RawTransaction) (h : decodeRaw lib raw = .ok tx) (hinput : tx.input.length < 2 ^ 63)
    (signature : TransactionSignature) :
    IsCanonical ((tx.setSignature signature).encodeRaw lib)
        ∧ decodeRaw lib ((tx.setSignature signature).encodeRaw lib)
          = .ok (tx.setSignature signature)
      ↔ NoZeroInFront signature := by
  rw [isCanonical_iff hlib tx hinput]
  constructor
  · intro hboth
    exact hboth.1
  · intro hsignature
    refine ⟨hsignature, ?_⟩
    rw [decodeRaw, bind_eq_ok] at h
    obtain ⟨items, -, hdecode⟩ := h
    rw [decodeRaw, encodeRaw, hlib.stream_eq, hlib.items_list _ (length_strings hinput signature)]
    exact decode_strings (bounded_of_decode hdecode) hsignature

def specLib : RlpLib where
  stream := Bytes.Rlp.list
  items := Bytes.Rlp.decodeList .rlpExpectedToBeList

theorem specLib_lawful : specLib.Lawful where
  stream_eq := fun _ => rfl
  items_list := fun _ h => Bytes.Rlp.decodeList_list _ h

def sampleRaw : List UInt8 := [0xC6, 1, 2, 3, 0x80, 4, 0x80]

def sample : RawTransaction := ⟨⟨1, 2, 3, .create, 4, []⟩, none⟩

theorem decodeRaw_sampleRaw : decodeRaw specLib sampleRaw = .ok sample := by
  decide

theorem canonical_and_decodeRaw_sample :
    IsCanonical ((sample.setSignature ⟨37, Block.fill 32 7, Block.fill 32 9⟩).encodeRaw specLib)
      ∧ decodeRaw specLib
          ((sample.setSignature ⟨37, Block.fill 32 7, Block.fill 32 9⟩).encodeRaw specLib)
        = .ok (sample.setSignature ⟨37, Block.fill 32 7, Block.fill 32 9⟩) :=
  (canonical_and_decodeRaw_iff specLib specLib_lawful sampleRaw sample decodeRaw_sampleRaw
    (by decide) _).mpr
    ⟨by decide, by decide⟩

def smallWord : TransactionSignature := ⟨37, Block.ofBytes 32 [0, 1], Block.fill 32 9⟩

theorem not_decodeRaw_smallWord :
    decodeRaw specLib sampleRaw = .ok sample
      ∧ ¬IsCanonical ((sample.setSignature smallWord).encodeRaw specLib)
      ∧ decodeRaw specLib ((sample.setSignature smallWord).encodeRaw specLib)
        = .error .rlpInvalidIndirection := by
  refine ⟨decodeRaw_sampleRaw, ?_, by decide⟩
  intro h
  exact ((isCanonical_iff specLib_lawful sample (by decide) smallWord).mp h).1 rfl

end RawTransaction

end Keystone3.Ethereum
