import Keystone3.Bytes.Double
import Keystone3.Ethereum.Normalizer
import Keystone3.Ethereum.RawTransaction

/-!
# Transactions, parsed and shown

A transaction is read from its bytes, its numbers of 256 bits are narrowed and printed,
and the texts are handed to C. A nonce has 32 bits and a price 64, and where a number or
a product has more the code panics.
-/

namespace Keystone3.Ethereum.Parsed

open Bytes (Block Double hexText)
open Bytes.Rlp (Item)
open Logic (Outcome)
open Logic.Outcome (Returns)

/-- `EthereumError`, less what other requests raise. -/
inductive EthereumError where
  | rlpDecodingError (e : DecoderError)
  | signFailure (reason : Text)

structure ParseLib extends RlpLib where
  PublicKey : Type
  generateAddress : PublicKey → Option Text
  keccak256 : List UInt8 → Block 32
  /-- `sign_message_by_seed`, with the seed and the path. -/
  signMessage : Block 32 → Outcome Text (Fin 4 × Block 64)

structure ParseLib.Lawful (lib : ParseLib) : Prop where
  returns_items : ∀ raw, Returns (lib.items raw)
  returns_signMessage : ∀ digest, Returns (lib.signMessage digest)
  zero_notMem_address : ∀ key address, lib.generateAddress key = some address → '\x00' ∉ address

section

variable {ε : Type}

def asU32 (n : Nat) : Outcome ε UInt32 := if n < 2 ^ 32 then .ok (UInt32.ofNat n) else .halted

def asU64 (n : Nat) : Outcome ε UInt64 := if n < 2 ^ 64 then .ok (UInt64.ofNat n) else .halted

def mul (m n : Nat) : Outcome ε Nat := if m * n < 2 ^ 256 then .ok (m * n) else .halted

end

/-- `(gas as f64).div(F_DIVIDER)`. -/
def gwei (gas : Nat) : Double := .div (.ofNat gas) (.ofNat (10 ^ 9))

def normalizePrice (gas : UInt64) : Text := (gwei gas.toNat).text ++ " Gwei".toList

structure ParsedEthereumTransaction where
  nonce : UInt32
  chainId : UInt64
  sender : Option Text
  recipient : Text
  value : Text
  input : Text
  gasPrice : Option Text
  maxFeePerGas : Option Text
  maxPriorityFeePerGas : Option Text
  maxFee : Option Text
  maxPriority : Option Text
  gasLimit : Text
  maxTxnFee : Text

def TransactionAction.getTo : TransactionAction → List UInt8
  | .call recipient => recipient.bytes
  | .create => List.replicate 20 0

def prefixedHex (bytes : List UInt8) : Text := '0' :: 'x' :: hexText bytes

structure ParsedLegacyTransaction where
  nonce : UInt32
  gasPrice : Text
  gasLimit : Text
  recipient : Text
  value : Text
  input : Text
  chainId : UInt64
  maxTxnFee : Text

/-- `From<LegacyTransaction>`. -/
def ParsedLegacyTransaction.ofTx {ε : Type} (tx : RawTransaction) :
    Outcome ε ParsedLegacyTransaction := do
  let nonce ← asU32 tx.nonce
  let gasPrice ← asU64 tx.gasPrice
  let fee ← mul tx.gasPrice tx.gasLimit
  pure {
    nonce
    gasPrice := normalizePrice gasPrice
    gasLimit := Nat.toDigits 10 tx.gasLimit
    recipient := prefixedHex (TransactionAction.getTo tx.action)
    value := normalizeValue tx.value
    input := hexText tx.input
    chainId := tx.chainId
    maxTxnFee := normalizeValue fee }

structure EIP1559Transaction where
  chainId : UInt64
  nonce : Nat
  maxPriorityFeePerGas : Nat
  maxFeePerGas : Nat
  gasLimit : Nat
  action : TransactionAction
  value : Nat
  input : List UInt8

def EIP1559Transaction.decode (items : List Item) : Outcome DecoderError EIP1559Transaction := do
  let chainId ← valAt items 0 (decodeUint 8)
  let nonce ← valAt items 1 (decodeUint 32)
  let maxPriorityFeePerGas ← valAt items 2 (decodeUint 32)
  let maxFeePerGas ← valAt items 3 (decodeUint 32)
  let gasLimit ← valAt items 4 (decodeUint 32)
  let action ← valAt items 5 TransactionAction.decode
  let value ← valAt items 6 (decodeUint 32)
  let input ← valAt items 7 decodeBytes
  pure { chainId := UInt64.ofNat chainId, nonce, maxPriorityFeePerGas, maxFeePerGas, gasLimit,
         action, value, input }

def EIP1559Transaction.decodeRaw (lib : RlpLib) (raw : List UInt8) :
    Outcome DecoderError EIP1559Transaction := do
  let items ← lib.items raw
  decode items

structure ParsedEIP1559Transaction where
  chainId : UInt64
  nonce : UInt32
  maxPriorityFeePerGas : Text
  maxFeePerGas : Text
  gasLimit : Text
  recipient : Text
  value : Text
  input : Text
  maxTxnFee : Text
  maxFee : Text
  maxPriority : Text

/-- `From<EIP1559Transaction>`. -/
def ParsedEIP1559Transaction.ofTx {ε : Type} (tx : EIP1559Transaction) :
    Outcome ε ParsedEIP1559Transaction := do
  let nonce ← asU32 tx.nonce
  let maxPriorityFeePerGas ← asU64 tx.maxPriorityFeePerGas
  let maxFeePerGas ← asU64 tx.maxFeePerGas
  let maxTxnFee ← mul tx.maxFeePerGas tx.gasLimit
  let maxPriority ← mul tx.maxPriorityFeePerGas tx.gasLimit
  let maxFee ← mul tx.maxFeePerGas tx.gasLimit
  pure {
    chainId := tx.chainId
    nonce
    maxPriorityFeePerGas := normalizePrice maxPriorityFeePerGas
    maxFeePerGas := normalizePrice maxFeePerGas
    gasLimit := Nat.toDigits 10 tx.gasLimit
    recipient := prefixedHex (TransactionAction.getTo tx.action)
    value := normalizeValue tx.value
    input := hexText tx.input
    maxTxnFee := normalizeValue maxTxnFee
    maxPriority := normalizeValue maxPriority
    maxFee := normalizeValue maxFee }

namespace ParsedEthereumTransaction

variable (sender : Option Text)

def fromLegacy (tx : ParsedLegacyTransaction) : ParsedEthereumTransaction where
  nonce := tx.nonce
  gasLimit := tx.gasLimit
  gasPrice := some tx.gasPrice
  sender
  recipient := tx.recipient
  value := tx.value
  chainId := tx.chainId
  input := tx.input
  maxTxnFee := tx.maxTxnFee
  maxFeePerGas := none
  maxPriorityFeePerGas := none
  maxFee := none
  maxPriority := none

def fromEip1559 (tx : ParsedEIP1559Transaction) : ParsedEthereumTransaction where
  nonce := tx.nonce
  gasLimit := tx.gasLimit
  sender
  recipient := tx.recipient
  value := tx.value
  chainId := tx.chainId
  input := tx.input
  maxFeePerGas := some tx.maxFeePerGas
  maxPriorityFeePerGas := some tx.maxPriorityFeePerGas
  maxTxnFee := tx.maxTxnFee
  maxFee := some tx.maxFee
  maxPriority := some tx.maxPriority
  gasPrice := none

end ParsedEthereumTransaction

section

variable (lib : ParseLib)

/-- `from.map_or(None, |key| Some(generate_address(key).unwrap_or_default()))` -/
def senderText (key : Option lib.PublicKey) : Option Text :=
  key.map fun key => (lib.generateAddress key).getD []

def parseLegacyTx (txHex : List UInt8) (key : Option lib.PublicKey) :
    Outcome EthereumError ParsedEthereumTransaction := do
  let tx ← Outcome.mapError .rlpDecodingError (RawTransaction.decodeRaw lib.toRlpLib txHex)
  let parsed ← ParsedLegacyTransaction.ofTx tx
  pure (.fromLegacy (senderText lib key) parsed)

def parseFeeMarketTx (txHex : List UInt8) (key : Option lib.PublicKey) :
    Outcome EthereumError ParsedEthereumTransaction := do
  let tx ← Outcome.mapError .rlpDecodingError (EIP1559Transaction.decodeRaw lib.toRlpLib txHex)
  let parsed ← ParsedEIP1559Transaction.ofTx tx
  pure (.fromEip1559 (senderText lib key) parsed)

end

structure DisplayETHOverview where
  value : Text
  maxTxnFee : Text
  gasPrice : Option Text
  gasLimit : Text
  sender : Option Text
  recipient : Text

structure DisplayETHDetail where
  value : Text
  maxTxnFee : Text
  maxFee : Option Text
  maxPriority : Option Text
  maxFeePrice : Option Text
  maxPriorityPrice : Option Text
  gasPrice : Option Text
  gasLimit : Text
  sender : Option Text
  recipient : Text
  nonce : Text
  input : Text

structure DisplayETH where
  txType : Text
  chainId : UInt64
  overview : DisplayETHOverview
  detail : DisplayETHDetail

/-- `s.map(convert_c_char).unwrap_or(null_mut())` -/
def convertOption : Option Text → Result (Option Text)
  | none => pure none
  | some s => do
    let s ← convertCChar s
    pure (some s)

/-- `From<ParsedEthereumTransaction> for DisplayETHOverview`. -/
def DisplayETHOverview.ofParsed (tx : ParsedEthereumTransaction) : Result DisplayETHOverview := do
  let value ← convertCChar tx.value
  let maxTxnFee ← convertCChar tx.maxTxnFee
  let gasPrice ← convertOption tx.gasPrice
  let gasLimit ← convertCChar tx.gasLimit
  let sender ← convertOption tx.sender
  let recipient ← convertCChar tx.recipient
  pure { value, maxTxnFee, gasPrice, gasLimit, sender, recipient }

/-- `From<ParsedEthereumTransaction> for DisplayETHDetail`. -/
def DisplayETHDetail.ofParsed (tx : ParsedEthereumTransaction) : Result DisplayETHDetail := do
  let value ← convertCChar tx.value
  let maxTxnFee ← convertCChar tx.maxTxnFee
  let maxFee ← convertOption tx.maxFee
  let maxPriority ← convertOption tx.maxPriority
  let maxFeePrice ← convertOption tx.maxFeePerGas
  let maxPriorityPrice ← convertOption tx.maxPriorityFeePerGas
  let gasPrice ← convertOption tx.gasPrice
  let gasLimit ← convertCChar tx.gasLimit
  let sender ← convertOption tx.sender
  let recipient ← convertCChar tx.recipient
  let nonce ← convertCChar (Nat.toDigits 10 tx.nonce.toNat)
  let input ← convertCChar tx.input
  pure { value, maxTxnFee, maxFee, maxPriority, maxFeePrice, maxPriorityPrice, gasPrice, gasLimit,
         sender, recipient, nonce, input }

/-- `From<ParsedEthereumTransaction> for DisplayETH`. -/
def DisplayETH.ofParsed (tx : ParsedEthereumTransaction) : Result DisplayETH := do
  let txType ← convertCChar
    (if tx.maxPriorityFeePerGas.isSome = true then "FeeMarket".toList else "Legacy".toList)
  let overview ← DisplayETHOverview.ofParsed tx
  let detail ← DisplayETHDetail.ofParsed tx
  pure { txType, chainId := tx.chainId, overview, detail }

section

variable (lib : ParseLib)

/-- A transaction of `eth_parse`: parsed and shown. -/
def showLegacyTx (txHex : List UInt8) (key : Option lib.PublicKey) :
    Outcome EthereumError DisplayETH := do
  let tx ← parseLegacyTx lib txHex key
  Outcome.expect (DisplayETH.ofParsed tx)

def showFeeMarketTx (txHex : List UInt8) (key : Option lib.PublicKey) :
    Outcome EthereumError DisplayETH := do
  let tx ← parseFeeMarketTx lib txHex key
  Outcome.expect (DisplayETH.ofParsed tx)

end

structure EthereumSignature where
  v : UInt64
  rs : Block 64

def isEip155Compatible (tx : RawTransaction) : Bool :=
  match tx.signature with
  | some signature => if signature.s = Block.zero 32 then true else 35 < signature.v
  | none => false

def signLegacyTx (lib : ParseLib) (signData : List UInt8) :
    Outcome EthereumError EthereumSignature := do
  let tx ← Outcome.mapError .rlpDecodingError (RawTransaction.decodeRaw lib.toRlpLib signData)
  let signed ← Outcome.mapError .signFailure (lib.signMessage (lib.keccak256 signData))
  let v := UInt64.ofNat signed.1 + 27
  if isEip155Compatible tx = true then pure ⟨v + tx.chainId * 2 + 8, signed.2⟩
  else pure ⟨v, signed.2⟩

end Keystone3.Ethereum.Parsed
