import Keystone3.Avalanche.Structs
import Keystone3.Bytes.Numeral

/-!
# What is shown of a transaction

The type id of a transaction says which of the parsers it is read with (`parseTx`). Each
of the records has totals of its own (`AvaxTxInfo`), from which the fee and the amount
on the screen are computed (`fromTxInfo`).
-/

namespace Keystone3.Avalanche

open Bytes.Reader (run skip sized)
open Logic (Outcome)

abbrev Text : Type := List Char

structure AvaxLib where
  /-- `Address::encode`, in Bech32. -/
  encode : Address → Text
  /-- The address of the account at a path, or nothing if it has no key for it. -/
  accountAddress : TypeId → Text → Text → Text

structure AvaxFromToInfo where
  amount : UInt64
  address : List Text
  pathPrefix : Text

/-- `AvaxTxInfo`, with the fee of an import as it is unless it is overridden. -/
structure AvaxTxInfo where
  totalInputAmount : UInt64
  totalOutputAmount : UInt64
  importTxFee : UInt64 := totalInputAmount - totalOutputAmount
  outputsAddresses : List AvaxFromToInfo

def C_CHAIN_PREFIX : Text := "m/44'/60'/0'".toList

def X_P_CHAIN_PREFIX : Text := "m/44'/9000'/0'".toList

def sumAmounts (amounts : List UInt64) : UInt64 := amounts.foldl (· + ·) 0

def TransferableOutput.getAmount (output : TransferableOutput) : UInt64 :=
  match output.output with
  | .secp256k1 output => output.amount

def TransferableInput.getAmount (input : TransferableInput) : UInt64 :=
  match input.input with
  | .secp256k1 input => input.amount

def Address.toEvmAddress (address : Address) : Text :=
  "0x".toList ++ Bytes.hexText address.address.bytes

section

variable (lib : AvaxLib)

def TransferableOutput.getAddresses (output : TransferableOutput) : List Text :=
  match output.output with
  | .secp256k1 output => output.addresses.items.map lib.encode

def TransferableOutput.info (pathPrefix : Text) (output : TransferableOutput) : AvaxFromToInfo :=
  ⟨output.getAmount, output.getAddresses lib, pathPrefix⟩

namespace BaseTx

def getTotalOutputAmount (tx : BaseTx) : UInt64 :=
  sumAmounts (tx.outputs.items.map TransferableOutput.getAmount)

def getTotalInputAmount (tx : BaseTx) : UInt64 :=
  sumAmounts (tx.inputs.items.map TransferableInput.getAmount)

def getOutputsAddresses (tx : BaseTx) : List AvaxFromToInfo :=
  tx.outputs.items.map (TransferableOutput.info lib X_P_CHAIN_PREFIX)

def info (tx : BaseTx) : AvaxTxInfo where
  totalInputAmount := tx.getTotalInputAmount
  totalOutputAmount := tx.getTotalOutputAmount
  outputsAddresses := tx.getOutputsAddresses lib

def infoWith (tx : BaseTx) (outputs : LengthPrefixedVec TransferableOutput) : AvaxTxInfo where
  totalInputAmount := tx.getTotalInputAmount
  totalOutputAmount := tx.getTotalOutputAmount
    + sumAmounts (outputs.items.map TransferableOutput.getAmount)
  outputsAddresses := tx.getOutputsAddresses lib
    ++ outputs.items.map (TransferableOutput.info lib X_P_CHAIN_PREFIX)

end BaseTx

def ImportTx.info (tx : ImportTx) : AvaxTxInfo where
  totalInputAmount := sumAmounts (tx.transferIn.items.map TransferableInput.getAmount)
  totalOutputAmount := tx.baseTx.getTotalOutputAmount
  importTxFee := 0
  outputsAddresses := tx.baseTx.getOutputsAddresses lib

def ExportTx.info (tx : ExportTx) : AvaxTxInfo := tx.baseTx.infoWith lib tx.transferOut

def AddPermissLessionValidatorTx.info (tx : AddPermissLessionValidatorTx) : AvaxTxInfo :=
  tx.baseTx.infoWith lib tx.stakeOut

def AddPermissLessionDelegatorTx.info (tx : AddPermissLessionDelegatorTx) : AvaxTxInfo :=
  tx.baseTx.infoWith lib tx.stakeOut

def CChain.ImportTx.info (tx : CChain.ImportTx) : AvaxTxInfo where
  totalInputAmount := sumAmounts (tx.inputs.items.map TransferableInput.getAmount)
  totalOutputAmount := sumAmounts (tx.outputs.items.map EvmOutput.amount)
  importTxFee := 0
  outputsAddresses := tx.outputs.items.map fun output =>
    ⟨output.amount, [output.address.toEvmAddress], C_CHAIN_PREFIX⟩

def CChain.ExportTx.info (tx : CChain.ExportTx) : AvaxTxInfo where
  totalInputAmount := sumAmounts (tx.inputs.items.map EvmInput.amount)
  totalOutputAmount := sumAmounts (tx.outputs.items.map TransferableOutput.getAmount)
  outputsAddresses := tx.outputs.items.map (TransferableOutput.info lib C_CHAIN_PREFIX)

end

inductive RustCError where
  | invalidMasterFingerprint
  | invalidData (typeId : TypeId)

namespace AvaxTxInfo

def getFeeAmount (info : AvaxTxInfo) : UInt64 := info.totalInputAmount - info.totalOutputAmount

def findFirst (address : Text) : List AvaxFromToInfo → Outcome RustCError (Option AvaxFromToInfo)
  | [] => pure none
  | info :: rest => do
    let first ← Outcome.index info.address 0
    if first = address then pure (some info) else findFirst address rest

def getOutputAmount (info : AvaxTxInfo) (address : Text) (typeId : TypeId) :
    Outcome RustCError UInt64 :=
  let leftAmount := info.totalInputAmount - info.importTxFee
  match typeId with
  | .pchainImportTx | .xchainImportTx => pure leftAmount
  | _ => do
    let found ← findFirst address info.outputsAddresses
    pure (leftAmount - (found.map AvaxFromToInfo.amount).getD 0)

end AvaxTxInfo

structure DisplayAvaxFromToInfo where
  address : Text
  amount : UInt64
  isChange : Bool
  path : Option Text

def walletPath (pathPrefix : Text) (walletIndex : Nat) : Text :=
  pathPrefix ++ "/0/".toList ++ Nat.toDigits 10 walletIndex

def fromIndex (value : AvaxFromToInfo) (walletIndex : Nat) (fromAddress : Text) (typeId : TypeId) :
    Outcome RustCError DisplayAvaxFromToInfo := do
  let address ← Outcome.index value.address 0
  let isChange :=
    match typeId with
    | .xchainImportTx | .pchainImportTx | .xchainExportTx | .pchainExportTx => false
    | _ => decide (address = fromAddress)
  pure
    { address
      amount := value.amount
      isChange
      path := bif isChange then some (walletPath value.pathPrefix walletIndex) else none }

/-- `DisplayTxAvaxData`, less its texts. -/
structure DisplayTxAvaxData where
  sender : DisplayAvaxFromToInfo
  amount : UInt64
  totalInputAmount : UInt64
  totalOutputAmount : UInt64
  feeAmount : UInt64
  receivers : List DisplayAvaxFromToInfo

def fromTxInfo (value : AvaxTxInfo) (fromPath fromAddress : Text) (walletIndex : Nat)
    (typeId : TypeId) : Outcome RustCError DisplayTxAvaxData := do
  let amount ← value.getOutputAmount fromAddress typeId
  let receivers ← Outcome.collect
    (fun v => fromIndex v walletIndex fromAddress typeId) value.outputsAddresses
  pure
    { sender := ⟨fromAddress, value.totalInputAmount, false, some fromPath⟩
      amount
      totalInputAmount := value.totalInputAmount
      totalOutputAmount := value.totalOutputAmount
      feeAmount := value.getFeeAmount
      receivers }

/-- The chains whose transactions begin with a base transaction. -/
inductive BaseChain where
  | x
  | p

inductive ParsedTx where
  | base (tx : BaseTx)
  | cchainImport (tx : CChain.ImportTx)
  | exportTx (chain : BaseChain) (tx : ExportTx)
  | importTx (chain : BaseChain) (tx : ImportTx)
  | cchainExport (tx : CChain.ExportTx)
  | addValidator (tx : AddPermissLessionValidatorTx)
  | addDelegator (tx : AddPermissLessionDelegatorTx)

namespace ParsedTx

def typeId : ParsedTx → TypeId
  | base _ => .baseTx
  | cchainImport _ => .baseTx
  | exportTx .x _ => .xchainExportTx
  | exportTx .p _ => .pchainExportTx
  | importTx .x _ => .xchainImportTx
  | importTx .p _ => .pchainImportTx
  | cchainExport _ => .cchainExportTx
  | addValidator _ => .addPermissLessionValidator
  | addDelegator _ => .addPermissLessionDelegator

def info (lib : AvaxLib) : ParsedTx → AvaxTxInfo
  | base tx => tx.info lib
  | cchainImport tx => tx.info
  | exportTx _ tx => tx.info lib
  | importTx _ tx => tx.info lib
  | cchainExport tx => tx.info lib
  | addValidator tx => tx.info lib
  | addDelegator tx => tx.info lib

end ParsedTx

def C_BLOCKCHAIN_ID : List UInt8 :=
  [4, 39, 212, 178, 42, 42, 120, 188, 221, 212, 86, 116, 44, 175, 145, 181, 107, 173, 191, 249,
    133, 238, 25, 174, 241, 69, 115, 231, 52, 63, 214, 82]

def C_TEST_BLOCKCHAIN_ID : List UInt8 :=
  [127, 201, 61, 133, 198, 214, 44, 91, 42, 192, 181, 25, 200, 112, 16, 234, 82, 148, 1, 45, 30,
    64, 112, 48, 214, 172, 208, 2, 28, 172, 16, 213]

def Header.isCChain (header : Header) : Bool :=
  decide (header.blockchainId.bytes = C_BLOCKCHAIN_ID)
    || decide (header.blockchainId.bytes = C_TEST_BLOCKCHAIN_ID)

def getAvaxTxTypeId : List UInt8 → Outcome AvaxError TypeId := run do
  skip 2
  getTypeId

def getAvaxTxHeader : List UInt8 → Outcome AvaxError Header := run do
  skip 2
  skip 4
  sized Header.parsedSize Header.tryFrom

/-- `parse_avax_tx`, with the error that is shown for any of its errors. -/
def parseAvaxTx {α : Type} (tryFrom : List UInt8 → Outcome AvaxError α) (data : List UInt8) :
    Outcome RustCError α :=
  Outcome.mapError (fun _ => .invalidMasterFingerprint) (tryFrom data)

section

variable (alloc : Alloc)

/-- The parser for a type id, in `parse_transaction_by_type`. -/
def parseTx (data : List UInt8) : TypeId → Outcome RustCError ParsedTx
  | .baseTx => do
    let header ← Outcome.expect (getAvaxTxHeader data)
    if header.isCChain = true then
      .cchainImport <$> parseAvaxTx (CChain.ImportTx.tryFrom alloc) data
    else .base <$> parseAvaxTx (BaseTx.tryFrom alloc) data
  | .pchainExportTx => .exportTx .p <$> parseAvaxTx (ExportTx.tryFrom alloc) data
  | .xchainExportTx => .exportTx .x <$> parseAvaxTx (ExportTx.tryFrom alloc) data
  | .xchainImportTx => .importTx .x <$> parseAvaxTx (ImportTx.tryFrom alloc) data
  | .pchainImportTx => .importTx .p <$> parseAvaxTx (ImportTx.tryFrom alloc) data
  | .cchainExportTx => .cchainExport <$> parseAvaxTx (CChain.ExportTx.tryFrom alloc) data
  | .addPermissLessionValidator =>
    .addValidator <$> parseAvaxTx (AddPermissLessionValidatorTx.tryFrom alloc) data
  | .addPermissLessionDelegator =>
    .addDelegator <$> parseAvaxTx (AddPermissLessionDelegatorTx.tryFrom alloc) data
  | typeId => .error (.invalidData typeId)

structure DerivationPath where
  basePath : Text
  fullPath : Text

def determineDerivationPath (typeId : TypeId) (data : List UInt8) (walletIndex : Nat) :
    Outcome AvaxError DerivationPath := do
  let header ← getAvaxTxHeader data
  match typeId with
  | .cchainExportTx => pure ⟨C_CHAIN_PREFIX, walletPath C_CHAIN_PREFIX walletIndex⟩
  | .xchainImportTx | .pchainImportTx => do
    let _tx ← ImportTx.tryFrom alloc data
    pure ⟨X_P_CHAIN_PREFIX, walletPath X_P_CHAIN_PREFIX walletIndex⟩
  | _ =>
    let pathPrefix := if header.isCChain = true then C_CHAIN_PREFIX else X_P_CHAIN_PREFIX
    pure ⟨pathPrefix, walletPath pathPrefix walletIndex⟩

/-- The path of a C-chain import is not shown. -/
def parseTransactionByType (lib : AvaxLib) (data : List UInt8) (walletIndex : Nat) :
    Outcome RustCError DisplayTxAvaxData := do
  let typeId ← Outcome.expect (getAvaxTxTypeId data)
  let path ← Outcome.expect (determineDerivationPath alloc typeId data walletIndex)
  let address := lib.accountAddress typeId path.basePath path.fullPath
  let tx ← parseTx alloc data typeId
  let fullPath := match tx with
    | .cchainImport _ => []
    | _ => path.fullPath
  fromTxInfo (tx.info lib) fullPath address walletIndex typeId

end

theorem typeId_of_parseTx {alloc : Alloc} {data : List UInt8} {typeId : TypeId} {tx : ParsedTx}
    (h : parseTx alloc data typeId = .ok tx) : tx.typeId = typeId := by
  unfold parseTx at h
  split at h
  · obtain ⟨header, -, h⟩ := Outcome.bind_eq_ok.mp h
    split at h
    · obtain ⟨tx', -, h⟩ := Outcome.bind_eq_ok.mp h
      cases h
      rfl
    · obtain ⟨tx', -, h⟩ := Outcome.bind_eq_ok.mp h
      cases h
      rfl
  all_goals
    first
    | cases h
    | obtain ⟨tx', -, h⟩ := Outcome.bind_eq_ok.mp h
      cases h
      rfl

end Keystone3.Avalanche
