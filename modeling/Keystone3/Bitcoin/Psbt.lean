import Keystone3.Bytes.Block
import Keystone3.Logic.BTreeMap
import Keystone3.Logic.Outcome

/-!
# Partially signed transactions

The data of a PSBT as the device reads it, the context it is parsed in, and the errors
of the Bitcoin code. The context is the device's own: its master fingerprint, the
extended public keys of its accounts and, for a multisig wallet, the wallet's
configuration.

What the Bitcoin library computes (hashes, key derivation, the texts of keys and paths,
which form a script has) is a parameter, `BitcoinLib`.
-/

namespace Keystone3.Bitcoin

open Bytes (Block toLe)
open Logic (BTreeMap Outcome)

/-- A `String` of the Rust code. -/
abbrev Text : Type := List Char

abbrev Script : Type := List UInt8
abbrev Txid : Type := Block 32
abbrev Fingerprint : Type := Block 4
abbrev PublicKey : Type := Block 33
abbrev XOnlyPublicKey : Type := Block 32
abbrev TapLeafHash : Type := Block 32
abbrev TapNodeHash : Type := Block 32

structure OutPoint where
  txid : Txid
  vout : UInt32

structure TxIn where
  previousOutput : OutPoint
  scriptSig : Script
  sequence : UInt32
  witness : List (List UInt8)

structure TxOut where
  value : UInt64
  scriptPubkey : Script
deriving DecidableEq

structure Transaction where
  version : Int32
  lockTime : UInt32
  input : List TxIn
  output : List TxOut

inductive ChildNumber where
  | normal (index : UInt32)
  | hardened (index : UInt32)
deriving DecidableEq

abbrev DerivationPath : Type := List ChildNumber

/-- The fingerprint of the master key and the path from it, as the host states them. -/
structure KeySource where
  fingerprint : Fingerprint
  path : DerivationPath

inductive NetworkKind where
  | main
  | test
deriving DecidableEq

structure Xpub where
  network : NetworkKind
  payload : List UInt8
deriving DecidableEq

structure SigningKey where
  compressed : Bool
  inner : PublicKey
deriving DecidableEq

/-- The map of an input, less the fields that are only passed on to the signer. -/
structure Input where
  nonWitnessUtxo : Option Transaction
  witnessUtxo : Option TxOut
  partialSigs : BTreeMap SigningKey (List UInt8)
  sighashType : Option UInt32
  redeemScript : Option Script
  witnessScript : Option Script
  bip32Derivation : BTreeMap PublicKey KeySource
  tapKeySig : Option (List UInt8)
  tapScriptSigs : BTreeMap (XOnlyPublicKey × TapLeafHash) (List UInt8)
  tapKeyOrigins : BTreeMap XOnlyPublicKey (List TapLeafHash × KeySource)
  tapInternalKey : Option XOnlyPublicKey
  tapMerkleRoot : Option TapNodeHash

/-- The map of an output, less the fields that are not read. -/
structure Output where
  bip32Derivation : BTreeMap PublicKey KeySource
  tapKeyOrigins : BTreeMap XOnlyPublicKey (List TapLeafHash × KeySource)

structure RawKey where
  typeValue : UInt64
  key : List UInt8

structure Psbt where
  unsignedTx : Transaction
  xpub : BTreeMap Xpub KeySource
  unknown : BTreeMap RawKey (List UInt8)
  inputs : List Input
  outputs : List Output

structure MultiSigXPubItem where
  xfp : Text
  xpub : Text

inductive MultiSigNetwork where
  | mainNet
  | testNet
deriving DecidableEq

/-- A multisig wallet, less what only its own pages show. -/
structure MultiSigWalletConfig where
  threshold : UInt32
  total : UInt32
  derivations : List Text
  format : Text
  xpubItems : List MultiSigXPubItem
  network : MultiSigNetwork

structure ParseContext where
  masterFingerprint : Fingerprint
  extendedPublicKeys : BTreeMap DerivationPath Xpub
  verifyCode : Option Text
  multisigWalletConfig : Option MultiSigWalletConfig

/-- The errors that checking and parsing a PSBT can end in. -/
inductive BitcoinError where
  | invalidInput
  | invalidOutput
  | invalidPsbt (reason : String)
  | invalidTransaction (reason : String)
  | noInputs
  | noOutputs
  | noMyInputs
  | inputValueTampered (reason : String)
  | addressError (reason : String)
  | signLegacyTxError (reason : String)
  | unsupportedNetwork (reason : String)
  | base58Error (reason : String)
  | bech32DecodeError (reason : String)
  | witnessProgramError (reason : String)
  | keystoreError (reason : String)
  | invalidRawTxCryptoBytes (reason : String)
  | invalidParseContext (reason : String)
  | unsupportedScriptType (reason : String)
  | multiSigWalletAddressCalError (reason : String)
  | multiSigWalletFormatError (reason : String)
  | multiSigNetworkError (reason : String)
  | multiSigInputError (reason : String)
  | multiSigWalletCrateError (reason : String)
  | multiSigWalletParseError (reason : String)
  | multiSigWalletNotMyWallet
  | derivePublicKeyError (reason : String)
  | walletTypeError (reason : String)
deriving DecidableEq

abbrev Result (α : Type) : Type := Outcome BitcoinError α

inductive Instruction where
  | pushBytes (bytes : List UInt8)
  | op (code : UInt8)

structure BitcoinLib where
  computeTxid : Transaction → Txid
  pathText : DerivationPath → Text
  fingerprintText : Fingerprint → Text
  xpubText : Xpub → Text
  scriptText : Script → Text
  /-- The key at a path below an extended key, both as texts. -/
  derivePublicKey : Text → Text → Except String PublicKey
  xOnly : PublicKey → XOnlyPublicKey
  /-- The prefix of an extended key's text replaced by `xpub`. -/
  convertVersion : Text → Except String Text
  sha256 : List UInt8 → Block 32
  pubkeyHash : PublicKey → Block 20
  scriptHash : Script → Block 20
  wscriptHash : Script → Block 32
  /-- The output key of an internal key and the root of its scripts. -/
  p2trProgram : XOnlyPublicKey → Option TapNodeHash → Block 32
  isP2pkh : Script → Bool
  isP2sh : Script → Bool
  isP2tr : Script → Bool
  isWitnessProgram : Script → Bool
  isMultisig : Script → Bool
  /-- The elements of a script up to the first that cannot be read. -/
  instructions : Script → List Instruction
  newP2pkh : List UInt8 → Script
  newP2sh : List UInt8 → Script
  newWitnessProgram : UInt8 → List UInt8 → Script
  /-- The version and the program of a witness program. -/
  witnessProgram : Script → Except String (UInt8 × List UInt8)
  /-- `threshold` of the keys, in their order. -/
  newMultisig : UInt32 → List PublicKey → Script
  /-- The standard signature hash type of a PSBT's field. -/
  ecdsaHashTy : UInt32 → Option UInt32

def ChildNumber.text : ChildNumber → Text
  | .normal index => Nat.toDigits 10 index.toNat
  | .hardened index => Nat.toDigits 10 index.toNat ++ ['\'']

def hexByte (b : UInt8) : Text := [Nat.digitChar (b.toNat / 16), Nat.digitChar (b.toNat % 16)]

def asciiBytes (s : Text) : List UInt8 := s.map fun c => UInt8.ofNat c.toNat

/-- A library that runs in the kernel: the forms of scripts and paths are the real ones, and
for hashes and keys there are the bytes that go into them. -/
def BitcoinLib.sample : BitcoinLib where
  computeTxid tx := Block.ofBytes 32 (toLe 8 ((tx.output.head?.map (·.value.toNat)).getD 0))
  pathText path := List.intercalate ['/'] (path.map ChildNumber.text)
  fingerprintText fp := fp.bytes.flatMap hexByte
  xpubText xpub := xpub.payload.flatMap hexByte
  scriptText script := script.flatMap hexByte
  derivePublicKey xpub path := .ok (Block.ofBytes 33 (asciiBytes (xpub ++ path)))
  xOnly pk := Block.ofBytes 32 (pk.bytes.drop 1)
  convertVersion := .ok
  sha256 := Block.ofBytes 32
  pubkeyHash pk := Block.ofBytes 20 pk.bytes
  scriptHash := Block.ofBytes 20
  wscriptHash := Block.ofBytes 32
  p2trProgram key _ := key
  isP2pkh script := script.length = 25 && script.take 3 = [0x76, 0xA9, 20]
    && script.drop 23 = [0x88, 0xAC]
  isP2sh script := script.length = 23 && script.take 2 = [0xA9, 20] && script.drop 22 = [0x87]
  isP2tr script := script.length = 34 && script.take 2 = [0x51, 32]
  isWitnessProgram script := script.length ≤ 42
    && (script.take 2 = [0, 20] || script.take 2 = [0, 32] || script.take 2 = [0x51, 32])
  isMultisig _ := false
  instructions _ := []
  newP2pkh pubkeyHash := [0x76, 0xA9, 20] ++ pubkeyHash ++ [0x88, 0xAC]
  newP2sh scriptHash := [0xA9, 20] ++ scriptHash ++ [0x87]
  newWitnessProgram version program :=
    [if version = 0 then 0 else version + 0x50, UInt8.ofNat program.length] ++ program
  witnessProgram script :=
    .ok (if script.headD 0 = 0 then 0 else script.headD 0 - 0x50, script.drop 2)
  newMultisig _ keys := keys.flatMap (·.bytes)
  ecdsaHashTy := some

end Keystone3.Bitcoin
