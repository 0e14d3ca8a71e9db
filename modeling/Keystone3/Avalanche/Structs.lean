import Keystone3.Bytes.Reader

/-!
# The records of a transaction

Each record is parsed from a copy of the bytes, and whoever asked for it skips as many
bytes as the record says that it occupies (`parsedSize`). The memory of a vector is
asked for by its number of elements before any of them is read (`Alloc`).
-/

namespace Keystone3.Avalanche

open Bytes (Block Reader)
open Bytes.Reader (take block big demand measured run peek sized many lift)
open Logic (Outcome)

/-- `AvaxError`, less what is only raised elsewhere. -/
inductive AvaxError where
  | invalidHex (what : String)
  | unknownTypeId (value : UInt32)

def getU16 : Reader AvaxError UInt16 := do
  let n ← big none 2
  pure (UInt16.ofNat n)

def getU32 : Reader AvaxError UInt32 := do
  let n ← big none 4
  pure (UInt32.ofNat n)

def getU64 : Reader AvaxError UInt64 := do
  let n ← big none 8
  pure (UInt64.ofNat n)

def getI64 : Reader AvaxError Int64 := do
  let n ← getU64
  pure n.toInt64

inductive TypeId where
  | baseTx
  | cchainExportTx
  | xchainImportTx
  | xchainExportTx
  | secp256k1TransferInput
  | secp256k1MintOutput
  | secp256k1TransferOutput
  | secp256k1MintOperation
  | secp256k1Credential
  | validatorRewardsOwner
  | nftMintOperation
  | nftTransferOperation
  | pchainImportTx
  | pchainExportTx
  | addPermissLessionValidator
  | addPermissLessionDelegator

def TypeId.tryFrom (value : UInt32) : Outcome AvaxError TypeId :=
  match value.toNat with
  | 0 | 0x22 => .ok .baseTx
  | 0x01 => .ok .cchainExportTx
  | 0x03 => .ok .xchainImportTx
  | 0x04 => .ok .xchainExportTx
  | 0x05 => .ok .secp256k1TransferInput
  | 0x06 => .ok .secp256k1MintOutput
  | 0x07 => .ok .secp256k1TransferOutput
  | 0x08 => .ok .secp256k1MintOperation
  | 0x09 => .ok .secp256k1Credential
  | 0x0B => .ok .validatorRewardsOwner
  | 0x0C => .ok .nftMintOperation
  | 0x0D => .ok .nftTransferOperation
  | 0x11 => .ok .pchainImportTx
  | 0x12 => .ok .pchainExportTx
  | 0x19 => .ok .addPermissLessionValidator
  | 0x1A => .ok .addPermissLessionDelegator
  | _ => .error (.unknownTypeId value)

def getTypeId : Reader AvaxError TypeId := do
  let value ← getU32
  lift (TypeId.tryFrom value)

/-- The memory: whether so many bytes of it can be had for a vector. -/
structure Alloc where
  fits : Nat → Bool

namespace Alloc

def unlimited : Alloc := ⟨fun _ => true⟩

/-- `Vec::with_capacity`, for so many bytes. -/
def withCapacity (alloc : Alloc) (n : Nat) : Reader AvaxError Unit := fun s =>
  if alloc.fits n = true then .ok ((), s) else .halted

end Alloc

structure LengthPrefixedVec (α : Type) where
  len : Nat
  items : List α

namespace LengthPrefixedVec

variable {α : Type}

def parsedSize (size : α → Nat) (vec : LengthPrefixedVec α) : Nat :=
  4 + vec.items.foldl (fun acc item => acc + size item) 0

variable (alloc : Alloc)

def tryFrom (memory : Nat) (size : α → Nat) (item : List UInt8 → Outcome AvaxError α) :
    List UInt8 → Outcome AvaxError (LengthPrefixedVec α) :=
  run do
    demand (.invalidHex "Insufficient data for LengthPrefixedVec") 4
    let len ← getU32
    alloc.withCapacity (memory * len.toNat)
    let items ← many (sized size item) len.toNat
    pure ⟨len.toNat, items⟩

def next (memory : Nat) (size : α → Nat) (item : List UInt8 → Outcome AvaxError α) :
    Reader AvaxError (LengthPrefixedVec α) :=
  sized (parsedSize size) (tryFrom alloc memory size item)

end LengthPrefixedVec

structure Address where
  address : Block 20

def Address.parsedSize (_ : Address) : Nat := 20

def Address.tryFrom : List UInt8 → Outcome AvaxError Address := run do
  let address ← block none 20
  pure ⟨address⟩

section

variable (alloc : Alloc)

structure SECP256K1TransferOutput where
  typeId : UInt32
  amount : UInt64
  locktime : UInt64
  threshold : UInt32
  addresses : LengthPrefixedVec Address

namespace SECP256K1TransferOutput

def getTransferOutputLen (output : SECP256K1TransferOutput) : Nat := 28 + output.addresses.len * 20

def tryFrom : List UInt8 → Outcome AvaxError SECP256K1TransferOutput := run do
  demand (.invalidHex "Insufficient data") 28
  let typeId ← getU32
  let amount ← getU64
  let locktime ← getU64
  let threshold ← getU32
  let addresses ← LengthPrefixedVec.next alloc 20 Address.parsedSize Address.tryFrom
  pure { typeId, amount, locktime, threshold, addresses }

end SECP256K1TransferOutput

inductive OutputType where
  | secp256k1 (output : SECP256K1TransferOutput)

namespace OutputType

def getTransferOutputLen : OutputType → Nat
  | .secp256k1 output => output.getTransferOutputLen

def tryFrom (bytes : List UInt8) : Outcome AvaxError OutputType := do
  let value ← run getU32 bytes
  let typeId ← TypeId.tryFrom value
  match typeId with
  | .cchainExportTx => .halted
  | .secp256k1TransferOutput => do
    let output ← SECP256K1TransferOutput.tryFrom alloc bytes
    pure (.secp256k1 output)
  | .xchainImportTx => .halted
  | _ => .error (.invalidHex "Unsupported output type found in input bytes.")

end OutputType

structure TransferableOutput where
  assetId : Block 32
  output : OutputType

namespace TransferableOutput

def parsedSize (output : TransferableOutput) : Nat := output.output.getTransferOutputLen + 32

def tryFrom : List UInt8 → Outcome AvaxError TransferableOutput := run do
  let assetId ← block none 32
  let output ← peek (OutputType.tryFrom alloc)
  pure { assetId, output }

end TransferableOutput

structure SECP256K1TransferInput where
  typeId : UInt32
  amount : UInt64
  addressesLen : UInt32
  addressIndices : List UInt32

namespace SECP256K1TransferInput

def getTransferInputLen (input : SECP256K1TransferInput) : Nat := 16 + input.addressesLen.toNat * 4

def tryFrom : List UInt8 → Outcome AvaxError SECP256K1TransferInput := run do
  demand (.invalidHex "Insufficient data") 20
  let typeId ← getU32
  let amount ← getU64
  let addressesLen ← getU32
  alloc.withCapacity (4 * addressesLen.toNat)
  let addressIndices ← many getU32 addressesLen.toNat
  pure { typeId, amount, addressesLen, addressIndices }

end SECP256K1TransferInput

inductive InputType where
  | secp256k1 (input : SECP256K1TransferInput)

namespace InputType

def getTransferInputLen : InputType → Nat
  | .secp256k1 input => input.getTransferInputLen

def tryFrom (bytes : List UInt8) : Outcome AvaxError InputType := do
  let value ← run getU32 bytes
  let typeId ← TypeId.tryFrom value
  match typeId with
  | .secp256k1TransferInput => do
    let input ← SECP256K1TransferInput.tryFrom alloc bytes
    pure (.secp256k1 input)
  | _ => .error (.invalidHex "Unsupported output type found in input bytes.")

end InputType

structure TransferableInput where
  txId : Block 32
  utxoIndex : UInt32
  assetId : Block 32
  input : InputType

namespace TransferableInput

def parsedSize (input : TransferableInput) : Nat := input.input.getTransferInputLen + 32 + 32 + 4

def tryFrom : List UInt8 → Outcome AvaxError TransferableInput := run do
  let txId ← block none 32
  let utxoIndex ← getU32
  let assetId ← block none 32
  let input ← peek (InputType.tryFrom alloc)
  pure { txId, utxoIndex, assetId, input }

end TransferableInput

structure EvmInput where
  address : Address
  amount : UInt64
  assetId : Block 32
  nonce : UInt64

namespace EvmInput

def parsedSize (_ : EvmInput) : Nat := 20 + 8 + 32 + 8

def tryFrom : List UInt8 → Outcome AvaxError EvmInput := run do
  let address ← block none 20
  let amount ← getU64
  let assetId ← block none 32
  let nonce ← getU64
  pure { address := ⟨address⟩, amount, assetId, nonce }

end EvmInput

structure EvmOutput where
  address : Address
  amount : UInt64
  assetId : Block 32

namespace EvmOutput

def parsedSize (_ : EvmOutput) : Nat := 20 + 8 + 32

def tryFrom : List UInt8 → Outcome AvaxError EvmOutput := run do
  let address ← block none 20
  let amount ← getU64
  let assetId ← block none 32
  pure { address := ⟨address⟩, amount, assetId }

end EvmOutput

structure Header where
  networkId : UInt32
  blockchainId : Block 32

namespace Header

def parsedSize (_ : Header) : Nat := 4 + 32

def tryFrom : List UInt8 → Outcome AvaxError Header := run do
  let networkId ← getU32
  let blockchainId ← block none 32
  pure { networkId, blockchainId }

end Header

structure Validator where
  nodeId : Block 20
  startTime : Int64
  endTime : Int64
  weight : UInt64

namespace Validator

def parsedSize (_ : Validator) : Nat := 20 + 8 + 8 + 8

def tryFrom : List UInt8 → Outcome AvaxError Validator := run do
  let nodeId ← block none 20
  let startTime ← getI64
  let endTime ← getI64
  let weight ← getU64
  pure { nodeId, startTime, endTime, weight }

end Validator

structure Signer where
  pubkey : Block 48
  signature : Block 100

def Signer.tryFrom : List UInt8 → Outcome AvaxError Signer := run do
  let pubkey ← block none 48
  let signature ← block none 100
  pure { pubkey, signature }

structure OutputOwner where
  typeId : TypeId
  locktime : UInt64
  threshold : UInt32
  addresses : LengthPrefixedVec Address

namespace OutputOwner

def parsedSize (owner : OutputOwner) : Nat :=
  4 + 8 + 4 + owner.addresses.parsedSize Address.parsedSize

def tryFrom : List UInt8 → Outcome AvaxError OutputOwner := run do
  let typeId ← getTypeId
  let locktime ← getU64
  let threshold ← getU32
  let addresses ← LengthPrefixedVec.next alloc 20 Address.parsedSize Address.tryFrom
  pure { typeId, locktime, threshold, addresses }

end OutputOwner

def nextOutputs : Reader AvaxError (LengthPrefixedVec TransferableOutput) :=
  LengthPrefixedVec.next alloc 56 TransferableOutput.parsedSize (TransferableOutput.tryFrom alloc)

def nextInputs : Reader AvaxError (LengthPrefixedVec TransferableInput) :=
  LengthPrefixedVec.next alloc 88 TransferableInput.parsedSize (TransferableInput.tryFrom alloc)

def nextOwner : Reader AvaxError OutputOwner := 
  sized OutputOwner.parsedSize (OutputOwner.tryFrom alloc)

structure BaseTx where
  codecId : UInt16
  typeId : TypeId
  txHeader : Header
  outputs : LengthPrefixedVec TransferableOutput
  inputs : LengthPrefixedVec TransferableInput
  memoLen : UInt32
  memo : List UInt8
  txSize : Nat

namespace BaseTx

def parsedSize (tx : BaseTx) : Nat := tx.txSize

def fields : Reader AvaxError (Nat → BaseTx) := do
  let codecId ← getU16
  let typeId ← getTypeId
  let txHeader ← sized Header.parsedSize Header.tryFrom
  let outputs ← nextOutputs alloc
  let inputs ← nextInputs alloc
  let memoLen ← getU32
  let memo ← take none memoLen.toNat
  pure fun txSize => { codecId, typeId, txHeader, outputs, inputs, memoLen, memo, txSize }

def tryFrom : List UInt8 → Outcome AvaxError BaseTx := run do
  let tx ← measured (fields alloc)
  pure (tx.1 tx.2)

def next : Reader AvaxError BaseTx := sized parsedSize (tryFrom alloc)

end BaseTx

structure ImportTx where
  baseTx : BaseTx
  sourceChain : Block 32
  transferIn : LengthPrefixedVec TransferableInput

def ImportTx.tryFrom : List UInt8 → Outcome AvaxError ImportTx := run do
  let baseTx ← BaseTx.next alloc
  let sourceChain ← block none 32
  let transferIn ←
    peek (LengthPrefixedVec.tryFrom alloc 88 TransferableInput.parsedSize
      (TransferableInput.tryFrom alloc))
  pure { baseTx, sourceChain, transferIn }

structure ExportTx where
  baseTx : BaseTx
  destChain : Block 32
  transferOut : LengthPrefixedVec TransferableOutput

def ExportTx.tryFrom : List UInt8 → Outcome AvaxError ExportTx := run do
  let baseTx ← BaseTx.next alloc
  let destChain ← block none 32
  let transferOut ←
    peek (LengthPrefixedVec.tryFrom alloc 56 TransferableOutput.parsedSize
      (TransferableOutput.tryFrom alloc))
  pure { baseTx, destChain, transferOut }

namespace CChain

structure ImportTx where
  codecId : UInt16
  typeId : TypeId
  txHeader : Header
  sourceChain : Block 32
  inputs : LengthPrefixedVec TransferableInput
  outputs : LengthPrefixedVec EvmOutput

def ImportTx.tryFrom : List UInt8 → Outcome AvaxError ImportTx := run do
  let codecId ← getU16
  let typeId ← getTypeId
  let txHeader ← sized Header.parsedSize Header.tryFrom
  let sourceChain ← block none 32
  let inputs ← nextInputs alloc
  let outputs ← LengthPrefixedVec.next alloc 48 EvmOutput.parsedSize EvmOutput.tryFrom
  pure { codecId, typeId, txHeader, sourceChain, inputs, outputs }

structure ExportTx where
  codecId : UInt16
  typeId : TypeId
  txHeader : Header
  destChain : Block 32
  inputs : LengthPrefixedVec EvmInput
  outputs : LengthPrefixedVec TransferableOutput

def ExportTx.tryFrom : List UInt8 → Outcome AvaxError ExportTx := run do
  let codecId ← getU16
  let typeId ← getTypeId
  let txHeader ← sized Header.parsedSize Header.tryFrom
  let destChain ← block none 32
  let inputs ← LengthPrefixedVec.next alloc 56 EvmInput.parsedSize EvmInput.tryFrom
  let outputs ← nextOutputs alloc
  pure { codecId, typeId, txHeader, destChain, inputs, outputs }

end CChain

structure AddPermissLessionValidatorTx where
  baseTx : BaseTx
  validator : Validator
  subnetId : Block 32
  signer : Signer
  stakeOut : LengthPrefixedVec TransferableOutput
  validatorOwner : OutputOwner
  delegatorOwner : OutputOwner
  delegatorShare : UInt32

def AddPermissLessionValidatorTx.tryFrom :
    List UInt8 → Outcome AvaxError AddPermissLessionValidatorTx := run do
  let baseTx ← BaseTx.next alloc
  let validator ← sized Validator.parsedSize Validator.tryFrom
  let subnetId ← sized (fun _ => 32) (run (block none 32))
  let signer ← sized (fun _ => 48 + 100) Signer.tryFrom
  let stakeOut ← nextOutputs alloc
  let validatorOwner ← nextOwner alloc
  let delegatorOwner ← nextOwner alloc
  let delegatorShare ← getU32
  pure { baseTx, validator, subnetId, signer, stakeOut, validatorOwner, delegatorOwner
         delegatorShare }

structure AddPermissLessionDelegatorTx where
  baseTx : BaseTx
  validator : Validator
  subnetId : Block 32
  stakeOut : LengthPrefixedVec TransferableOutput
  delegatorOwner : OutputOwner

def AddPermissLessionDelegatorTx.tryFrom :
    List UInt8 → Outcome AvaxError AddPermissLessionDelegatorTx := run do
  let baseTx ← BaseTx.next alloc
  let validator ← sized Validator.parsedSize Validator.tryFrom
  let subnetId ← sized (fun _ => 32) (run (block none 32))
  let stakeOut ← nextOutputs alloc
  let delegatorOwner ← nextOwner alloc
  pure { baseTx, validator, subnetId, stakeOut, delegatorOwner }

end

end Keystone3.Avalanche
