import Keystone3.Bytes.Block
import Keystone3.Bytes.Numeral
import Keystone3.Logic.Outcome

/-!
# A transaction, shown and signed

A request for a payment is converted twice: into what is shown, and into the
transaction that is signed. `sameCall_iff` says for which requests the two are
about the same call.
-/

namespace Keystone3.Ethereum

open Bytes (Block parseUnsigned hexText hexDecode intText)
open Logic (Outcome)
open Logic.Outcome (bind_eq_ok unwrap_eq_ok)

abbrev Text : Type := List Char

abbrev Result (α : Type) : Type := Outcome Unit α

structure Erc20Override where
  contractAddress : Text

structure EthTx where
  recipient : Text
  value : Text
  gasPrice : Text
  gasLimit : Text
  memo : Text
  nonce : Int64
  override : Option Erc20Override

/-- Floating-point numbers, with their texts, and the text of an address. -/
structure EthLib where
  Float : Type
  parseFloat : Text → Option Float
  /-- Some wei, printed in ether with six digits. -/
  etherText : Float → Text
  /-- A product, printed with six digits. -/
  productText : Float → Float → Text
  /-- `H160::from_str`. -/
  parseH160 : Text → Option (Block 20)

/-- Texts of one whole number are read as one floating-point number. -/
structure EthLib.Lawful (lib : EthLib) : Prop where
  parseFloat_unsigned : ∀ (s : Text) (n : Nat), parseUnsigned (2 ^ 64) s = some n →
    lib.parseFloat s = lib.parseFloat (Nat.toDigits 10 n)

inductive TransactionAction where
  | call (recipient : Block 20)
  | create
deriving DecidableEq

structure LegacyTransaction where
  nonce : Nat
  gasPrice : Nat
  gasLimit : Nat
  action : TransactionAction
  value : Nat
  input : List UInt8
deriving DecidableEq

def parseU64 (s : Text) : Result Nat := Outcome.unwrap (parseUnsigned (2 ^ 64) s)

def padded (s : Text) : Text := List.replicate (64 - s.length) '0' ++ s

def encodeErc20TransferCalldata (recipient : Block 20) (amount : Nat) : Text :=
  "a9059cbb".toList ++ padded (hexText recipient.bytes) ++ padded (Nat.toDigits 16 amount)

def asBytes (s : Text) : List UInt8 := s.flatMap String.utf8EncodeChar

section

variable (lib : EthLib)

def LegacyTransaction.new (nonce gasPrice gasLimit : Nat) (action : TransactionAction)
    (value : Nat) (input : Text) : Result LegacyTransaction := do
  let input ← Outcome.unwrap (hexDecode input)
  pure ⟨nonce, gasPrice, gasLimit, action, value, input⟩

def LegacyTransaction.ofOverride (tx : EthTx) (_ : Erc20Override) : Result LegacyTransaction := do
  let recipient ← Outcome.unwrap (lib.parseH160 tx.recipient)
  let amount ← parseU64 tx.value
  let inputData := encodeErc20TransferCalldata recipient amount
  let gasPrice ← parseU64 tx.gasPrice
  let gasLimit ← parseU64 tx.gasLimit
  LegacyTransaction.new tx.nonce.toUInt64.toNat gasPrice gasLimit (.call recipient) 0 inputData

def LegacyTransaction.ofPayment (tx : EthTx) : Result LegacyTransaction := do
  let gasPrice ← parseU64 tx.gasPrice
  let gasLimit ← parseU64 tx.gasLimit
  let recipient ← Outcome.unwrap (lib.parseH160 tx.recipient)
  let value ← parseU64 tx.value
  LegacyTransaction.new tx.nonce.toUInt64.toNat gasPrice gasLimit (.call recipient) value
    (hexText (asBytes tx.memo))

/-- `TryFrom<EthTx>` for the transaction. -/
def LegacyTransaction.tryFrom (tx : EthTx) : Result LegacyTransaction :=
  match tx.override with
  | some erc20 => LegacyTransaction.ofOverride lib tx erc20
  | none => LegacyTransaction.ofPayment lib tx

structure DisplayETHOverview where
  value : Text
  maxTxnFee : Text
  gasPrice : Text
  gasLimit : Text
  sender : Text
  recipient : Text
deriving DecidableEq

structure DisplayETHDetail where
  value : Text
  maxTxnFee : Text
  maxFee : Text
  maxPriority : Text
  maxFeePrice : Text
  maxPriorityPrice : Text
  gasPrice : Text
  gasLimit : Text
  sender : Text
  recipient : Text
  nonce : Text
  input : Text
deriving DecidableEq

structure DisplayETH where
  txType : Text
  chainId : UInt64
  overview : DisplayETHOverview
  detail : DisplayETHDetail
deriving DecidableEq

def convertCChar (s : Text) : Result Text := if '\x00' ∈ s then .halted else .ok s

def convertWeiToEth (wei : Text) : Result Text := do
  let wei ← Outcome.unwrap (lib.parseFloat wei)
  pure (lib.etherText wei)

def calculateMaxTxnFee (gasPrice gasLimit : Text) : Result Text := do
  let gasPrice ← Outcome.unwrap (lib.parseFloat gasPrice)
  let gasLimit ← Outcome.unwrap (lib.parseFloat gasLimit)
  pure (lib.productText gasPrice gasLimit)

def DisplayETH.ofTexts (tx : EthTx) (value recipient input : Text) : Result DisplayETH := do
  let value ← convertWeiToEth lib value
  let value ← convertCChar value
  let fee ← calculateMaxTxnFee lib tx.gasPrice tx.gasLimit
  let fee ← convertWeiToEth lib fee
  let maxTxnFee ← convertCChar fee
  let gasPrice ← convertCChar tx.gasPrice
  let gasLimit ← convertCChar tx.gasLimit
  let sender ← convertCChar []
  let recipient ← convertCChar recipient
  let nonce ← convertCChar (intText tx.nonce.toInt)
  let input ← convertCChar input
  pure {
    txType := "Legacy".toList
    chainId := 1
    overview := ⟨value, maxTxnFee, gasPrice, gasLimit, sender, recipient⟩
    detail := ⟨value, maxTxnFee, gasPrice, gasPrice, gasPrice, gasPrice, gasPrice, gasLimit, sender,
      recipient, nonce, input⟩ }

def DisplayETH.ofOverride (tx : EthTx) (erc20 : Erc20Override) : Result DisplayETH := do
  let recipient ← Outcome.unwrap (lib.parseH160 tx.recipient)
  let amount ← parseU64 tx.value
  let inputData := encodeErc20TransferCalldata recipient amount
  DisplayETH.ofTexts lib tx ['0'] erc20.contractAddress inputData

/-- `TryFrom<EthTx>` for what is shown. -/
def DisplayETH.tryFrom (tx : EthTx) : Result DisplayETH :=
  match tx.override with
  | some erc20 => DisplayETH.ofOverride lib tx erc20
  | none => DisplayETH.ofTexts lib tx tx.value tx.recipient tx.memo

end

/-- What is shown is the call that is signed, its value as it is printed in ether. -/
structure SameCall (lib : EthLib) (d : DisplayETH) (t : LegacyTransaction) : Prop where
  recipient : ∃ a, t.action = .call a ∧ lib.parseH160 d.overview.recipient = some a
    ∧ lib.parseH160 d.detail.recipient = some a
  value : convertWeiToEth lib (Nat.toDigits 10 t.value) = .ok d.overview.value
    ∧ convertWeiToEth lib (Nat.toDigits 10 t.value) = .ok d.detail.value
  calldata : hexDecode d.detail.input = some t.input
  nonce : parseUnsigned (2 ^ 64) d.detail.nonce = some t.nonce
  gasPrice : parseUnsigned (2 ^ 64) d.overview.gasPrice = some t.gasPrice
    ∧ parseUnsigned (2 ^ 64) d.detail.gasPrice = some t.gasPrice
  gasLimit : parseUnsigned (2 ^ 64) d.overview.gasLimit = some t.gasLimit
    ∧ parseUnsigned (2 ^ 64) d.detail.gasLimit = some t.gasLimit

/-- A token's contract is the recipient itself, a payment has no memo, and the nonce is not
negative. -/
structure EthTx.Unambiguous (lib : EthLib) (tx : EthTx) : Prop where
  contract : ∀ erc20, tx.override = some erc20 →
    lib.parseH160 erc20.contractAddress = lib.parseH160 tx.recipient
  memo : tx.override = none → tx.memo = []
  nonce : 0 ≤ tx.nonce.toInt

theorem convertCChar_eq_ok {s s' : Text} (h : convertCChar s = .ok s') : s' = s := by
  unfold convertCChar at h
  split at h
  · cases h
  · cases h
    rfl

theorem DisplayETH.ofTexts_spec {lib : EthLib} {tx : EthTx} {value recipient input : Text}
    {d : DisplayETH} (h : DisplayETH.ofTexts lib tx value recipient input = .ok d) :
    convertWeiToEth lib value = .ok d.overview.value ∧ d.detail.value = d.overview.value
      ∧ d.overview.gasPrice = tx.gasPrice ∧ d.detail.gasPrice = tx.gasPrice
      ∧ d.overview.gasLimit = tx.gasLimit ∧ d.detail.gasLimit = tx.gasLimit
      ∧ d.overview.recipient = recipient ∧ d.detail.recipient = recipient
      ∧ d.detail.nonce = intText tx.nonce.toInt ∧ d.detail.input = input := by
  obtain ⟨ether, hether, h⟩ := bind_eq_ok.mp h
  obtain ⟨value', hvalue, h⟩ := bind_eq_ok.mp h
  obtain ⟨fee, -, h⟩ := bind_eq_ok.mp h
  obtain ⟨fee', -, h⟩ := bind_eq_ok.mp h
  obtain ⟨maxTxnFee, -, h⟩ := bind_eq_ok.mp h
  obtain ⟨gasPrice, hgasPrice, h⟩ := bind_eq_ok.mp h
  obtain ⟨gasLimit, hgasLimit, h⟩ := bind_eq_ok.mp h
  obtain ⟨sender, -, h⟩ := bind_eq_ok.mp h
  obtain ⟨recipient', hrecipient, h⟩ := bind_eq_ok.mp h
  obtain ⟨nonce, hnonce, h⟩ := bind_eq_ok.mp h
  obtain ⟨input', hinput, h⟩ := bind_eq_ok.mp h
  cases h
  cases convertCChar_eq_ok hvalue
  have hprice := convertCChar_eq_ok hgasPrice
  have hlimit := convertCChar_eq_ok hgasLimit
  have hto := convertCChar_eq_ok hrecipient
  exact ⟨hether, rfl, hprice, hprice, hlimit, hlimit, hto, hto, convertCChar_eq_ok hnonce,
    convertCChar_eq_ok hinput⟩

theorem parseU64_eq_ok {s : Text} {n : Nat} :
    parseU64 s = .ok n ↔ parseUnsigned (2 ^ 64) s = some n := unwrap_eq_ok

theorem LegacyTransaction.new_eq_ok {nonce gasPrice gasLimit value : Nat}
    {action : TransactionAction} {input : Text} {t : LegacyTransaction}
    (h : LegacyTransaction.new nonce gasPrice gasLimit action value input = .ok t) :
    t.nonce = nonce ∧ t.gasPrice = gasPrice ∧ t.gasLimit = gasLimit ∧ t.action = action
      ∧ t.value = value ∧ hexDecode input = some t.input := by
  obtain ⟨bytes, hbytes, h⟩ := bind_eq_ok.mp h
  cases h
  exact ⟨rfl, rfl, rfl, rfl, rfl, unwrap_eq_ok.mp hbytes⟩

theorem parseUnsigned_nonce (n : Int64) :
    parseUnsigned (2 ^ 64) (intText n.toInt) = some n.toUInt64.toNat ↔ 0 ≤ n.toInt := by
  have hnat : n.toUInt64.toNat = n.toBitVec.toNat := rfl
  have hint : n.toInt = n.toBitVec.toInt := rfl
  have hcond := BitVec.toInt_eq_toNat_cond n.toBitVec
  have hlt := n.toBitVec.isLt
  cases hn : n.toInt with
  | ofNat k =>
    have hk : n.toUInt64.toNat = k := by
      rw [hint, hcond, Int.ofNat_eq_natCast] at hn
      split at hn <;> omega
    rw [hk, intText, Bytes.parseUnsigned_toDigits (by omega)]
    simp
  | negSucc k =>
    rw [intText, Bytes.parseUnsigned_negative]
    constructor
    · nofun
    · intro h
      exact absurd h (by omega)

theorem length_le_asBytes (s : Text) : s.length ≤ (asBytes s).length := by
  induction s with
  | nil => exact Nat.le_refl 0
  | cons c s ih =>
    have hc := Char.utf8Size_pos c
    rw [asBytes, List.flatMap_cons, List.length_append, String.length_utf8EncodeChar,
      List.length_cons]
    have : (asBytes s).length = (s.flatMap String.utf8EncodeChar).length := rfl
    omega

theorem hexDecode_asBytes (s : Text) : hexDecode s = some (asBytes s) ↔ s = [] := by
  constructor
  · intro h
    have hlen := Bytes.length_of_hexDecode h
    have hle := length_le_asBytes s
    exact List.length_eq_zero_iff.mp (by omega)
  · intro h
    rw [h]
    rfl

theorem sameCall_ofTexts {lib : EthLib} {tx : EthTx} {value recipient input calldata : Text}
    {d : DisplayETH} {t : LegacyTransaction} {a : Block 20} {v gasPrice gasLimit : Nat}
    (hshown : DisplayETH.ofTexts lib tx value recipient input = .ok d)
    (hsigned : LegacyTransaction.new tx.nonce.toUInt64.toNat gasPrice gasLimit (.call a) v calldata
      = .ok t)
    (hgasPrice : parseU64 tx.gasPrice = .ok gasPrice)
    (hgasLimit : parseU64 tx.gasLimit = .ok gasLimit)
    (hvalue : lib.parseFloat value = lib.parseFloat (Nat.toDigits 10 v)) :
    SameCall lib d t ↔ lib.parseH160 recipient = some a ∧ hexDecode input = hexDecode calldata
      ∧ 0 ≤ tx.nonce.toInt := by
  obtain ⟨hether, hether', hprice, hprice', hlimit, hlimit', hto, hto', hnonce, hinput⟩ :=
    DisplayETH.ofTexts_spec hshown
  obtain ⟨hn, hp, hl, ha, hv, hcalldata⟩ := LegacyTransaction.new_eq_ok hsigned
  constructor
  · intro h
    obtain ⟨a', haction, hread, -⟩ := h.recipient
    rw [ha] at haction
    cases haction
    have hcall := h.nonce
    rw [hnonce, hn] at hcall
    refine ⟨?_, ?_, (parseUnsigned_nonce _).mp hcall⟩
    · rw [← hto, hread]
    · rw [hcalldata, ← hinput, h.calldata]
  · intro h
    obtain ⟨hread, hdata, hpositive⟩ := h
    have hprinted : convertWeiToEth lib (Nat.toDigits 10 t.value) = .ok d.overview.value := by
      rw [← hether, convertWeiToEth, convertWeiToEth, hvalue, hv]
    refine ⟨⟨a, ha, ?_, ?_⟩, ⟨hprinted, ?_⟩, ?_, ?_, ⟨?_, ?_⟩, ⟨?_, ?_⟩⟩
    · rw [hto, hread]
    · rw [hto', hread]
    · rw [hether', hprinted]
    · rw [hinput, hdata, hcalldata]
    · rw [hnonce, hn]
      exact (parseUnsigned_nonce _).mpr hpositive
    · rw [hprice, hp]
      exact parseU64_eq_ok.mp hgasPrice
    · rw [hprice', hp]
      exact parseU64_eq_ok.mp hgasPrice
    · rw [hlimit, hl]
      exact parseU64_eq_ok.mp hgasLimit
    · rw [hlimit', hl]
      exact parseU64_eq_ok.mp hgasLimit

/-- **When the call that is shown is the one that is signed**: of all requests that both
conversions accept, for the unambiguous ones. -/
theorem sameCall_iff {lib : EthLib} (hlib : lib.Lawful) {tx : EthTx} {d : DisplayETH}
    (hd : DisplayETH.tryFrom lib tx = .ok d) {t : LegacyTransaction}
    (ht : LegacyTransaction.tryFrom lib tx = .ok t) :
    SameCall lib d t ↔ tx.Unambiguous lib := by
  cases hoverride : tx.override with
  | some erc20 =>
    rw [DisplayETH.tryFrom, hoverride] at hd
    rw [LegacyTransaction.tryFrom, hoverride] at ht
    obtain ⟨recipient, hrecipient, hd⟩ := bind_eq_ok.mp hd
    obtain ⟨amount, hamount, hshown⟩ := bind_eq_ok.mp hd
    obtain ⟨recipient', hrecipient', ht⟩ := bind_eq_ok.mp ht
    obtain ⟨amount', hamount', ht⟩ := bind_eq_ok.mp ht
    obtain ⟨gasPrice, hgasPrice, ht⟩ := bind_eq_ok.mp ht
    obtain ⟨gasLimit, hgasLimit, hsigned⟩ := bind_eq_ok.mp ht
    rw [hrecipient] at hrecipient'
    cases hrecipient'
    rw [hamount] at hamount'
    cases hamount'
    have hsame := unwrap_eq_ok.mp hrecipient
    rw [sameCall_ofTexts hshown hsigned hgasPrice hgasLimit rfl]
    constructor
    · intro h
      refine ⟨?_, ?_, h.2.2⟩
      · intro erc20' herc20
        cases hoverride.symm.trans herc20
        rw [h.1, hsame]
      · intro hnone
        rw [hoverride] at hnone
        cases hnone
    · intro h
      exact ⟨(h.contract erc20 hoverride).trans hsame, rfl, h.nonce⟩
  | none =>
    rw [DisplayETH.tryFrom, hoverride] at hd
    rw [LegacyTransaction.tryFrom, hoverride] at ht
    obtain ⟨gasPrice, hgasPrice, ht⟩ := bind_eq_ok.mp ht
    obtain ⟨gasLimit, hgasLimit, ht⟩ := bind_eq_ok.mp ht
    obtain ⟨recipient, hrecipient, ht⟩ := bind_eq_ok.mp ht
    obtain ⟨value, hvalue, hsigned⟩ := bind_eq_ok.mp ht
    have hfloat := hlib.parseFloat_unsigned _ _ (parseU64_eq_ok.mp hvalue)
    rw [sameCall_ofTexts hd hsigned hgasPrice hgasLimit hfloat, Bytes.hexDecode_hexText,
      hexDecode_asBytes]
    constructor
    · intro h
      refine ⟨?_, fun _ => h.2.1, h.2.2⟩
      intro erc20 herc20
      rw [hoverride] at herc20
      cases herc20
    · intro h
      exact ⟨unwrap_eq_ok.mp hrecipient, h.memo hoverride, h.nonce⟩

def sampleParse (s : Text) : Option Nat :=
  (parseUnsigned (2 ^ 64) s).or (parseUnsigned (2 ^ 128) (s.takeWhile (· ≠ '.')))

def sampleH160 (s : Text) : Option (Block 20) :=
  (hexDecode s).bind fun bytes =>
    if h : bytes.length = 20 then some ⟨bytes, h⟩ else none

def sampleLib : EthLib where
  Float := Nat
  parseFloat := sampleParse
  etherText wei := Nat.toDigits 10 (wei / 10 ^ 18) ++ ['.']
    ++ (Nat.toDigits 10 (10 ^ 6 + wei % 10 ^ 18 / 10 ^ 12)).drop 1
  productText a b := Nat.toDigits 10 (a * b) ++ ['.', '0', '0', '0', '0', '0', '0']
  parseH160 := sampleH160

theorem lawful_sampleLib : sampleLib.Lawful where
  parseFloat_unsigned := by
    intro s n h
    have hn := Bytes.parseUnsigned_toDigits (Bytes.lt_of_parseUnsigned h)
    show sampleParse s = sampleParse (Nat.toDigits 10 n)
    rw [sampleParse, sampleParse, h, hn]
    rfl

def sampleAddress (c : Char) : Text := List.replicate 40 c

def samplePayment (memo : Text) (override : Option Erc20Override) : EthTx where
  recipient := sampleAddress '1'
  value := '2' :: List.replicate 18 '0'
  gasPrice := ['5']
  gasLimit := ['7']
  memo
  nonce := 3
  override

def sampleDisplay (value recipient input : Text) : DisplayETH where
  txType := "Legacy".toList
  chainId := 1
  overview := ⟨value, ['0', '.', '0', '0', '0', '0', '0', '0'], ['5'], ['7'], [], recipient⟩
  detail := ⟨value, ['0', '.', '0', '0', '0', '0', '0', '0'], ['5'], ['5'], ['5'], ['5'], ['5'], ['7'],
    [], recipient, ['3'], input⟩

def sampleSigned (value : Nat) (input : List UInt8) : LegacyTransaction where
  nonce := 3
  gasPrice := 5
  gasLimit := 7
  action := .call (Block.ofBytes 20 (List.replicate 20 17))
  value
  input

/-- A payment without a memo is shown as it is signed. -/
theorem sameCall_payment : SameCall sampleLib
    (sampleDisplay ['2', '.', '0', '0', '0', '0', '0', '0'] (sampleAddress '1') [])
    (sampleSigned (2 * 10 ^ 18) []) := by
  refine (@sameCall_iff sampleLib lawful_sampleLib (samplePayment [] none) _ (by decide) _
    (by decide)).mpr ⟨?_, fun _ => rfl, by decide⟩
  intro erc20 h
  cases h

def sampleCalldata : Text :=
  encodeErc20TransferCalldata (Block.ofBytes 20 (List.replicate 20 17)) (2 * 10 ^ 18)

/-- **A token is shown and another call is signed**: to the recipient instead of the contract. -/
theorem sameCall_not_override : ¬∀ (lib : EthLib) (tx : EthTx) (d : DisplayETH)
    (t : LegacyTransaction), lib.Lawful → DisplayETH.tryFrom lib tx = .ok d →
    LegacyTransaction.tryFrom lib tx = .ok t → SameCall lib d t := by
  intro claim
  have hsame := claim sampleLib (samplePayment [] (some ⟨sampleAddress '2'⟩))
    (sampleDisplay ['0', '.', '0', '0', '0', '0', '0', '0'] (sampleAddress '2') sampleCalldata)
    (sampleSigned 0 ((hexDecode sampleCalldata).getD [])) lawful_sampleLib (by decide)
    (by decide)
  obtain ⟨a, haction, hread, -⟩ := hsame.recipient
  cases haction
  cases hread

end Keystone3.Ethereum
