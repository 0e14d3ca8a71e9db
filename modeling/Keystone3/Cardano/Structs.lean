import Keystone3.Cardano.Certificates

/-!
# The check of a Cardano transaction

The check looks for the output of each input and compares the key hash of its address
with the one that the account's public key leads to. By `paired_of_checkTx` each output
that is found is the account's by two steps of its path; the account in the path and the
steps behind are not compared.
-/

namespace Keystone3.Cardano

open Bitcoin (DerivationPath)
open Bytes (Block hexText)
open Logic (Outcome)

structure TransactionInput where
  transactionId : Block 32
  index : UInt32
deriving DecidableEq

inductive NetworkIdKind where
  | mainnet
  | testnet
deriving DecidableEq

/-- `FixedTransaction`, with what the check and the signing read, and with the hashes of the keys
that have to sign for its certificates and withdrawals. -/
structure Transaction where
  rawBody : List UInt8
  inputs : List TransactionInput
  certs : Option (List Certificate)
  networkId : Option NetworkIdKind
  /-- The networks of the addresses of its outputs. -/
  outputNetworks : List (Option UInt8)
  requiredSigners : List (Block 28)
deriving DecidableEq

def judgeNetworkId (tx : Transaction) : UInt8 :=
  match tx.networkId with
  | some .mainnet => 1
  | some .testnet => 0
  | none =>
    match tx.outputNetworks with
    | [] => 1
    | network :: _ => network.getD 1

structure KeyPath where
  masterFingerprint : List UInt8
  path : DerivationPath
deriving DecidableEq

structure CardanoUtxo extends KeyPath where
  address : Text
  value : UInt64
  transactionHash : List UInt8
  index : UInt32
deriving DecidableEq

structure CardanoCertKey extends KeyPath where
  keyHash : List UInt8

structure ParseContext where
  utxos : List CardanoUtxo
  certKeys : List CardanoCertKey
  cardanoXpub : Option Text
  masterFingerprint : List UInt8

structure Vkeywitness where
  vkey : Block 32
  signature : Block 64

structure CardanoLib (XPrv XPub : Type) extends AddressLib, Ed25519Lib XPrv XPub where
  fromBytes : List UInt8 → Option Transaction
  blake2b256 : List UInt8 → Block 32
  /-- `normalize_coin`, which divides in floating point. -/
  normalizeCoin : UInt64 → Text
  /-- `PublicKey::from_bytes` takes the points of the curve. -/
  isPoint : Block 32 → Bool
  /-- A witness set with these signatures alone. -/
  witnessSetToBytes : List Vkeywitness → List UInt8

structure ParsedCardanoInput where
  transactionHash : List UInt8
  index : UInt32
  value : Option UInt64
  address : Option Text
  path : Option Text
  isMine : Bool

def ParseContext.findUtxo (context : ParseContext) (input : TransactionInput) :
    Option CardanoUtxo :=
  context.utxos.find? fun v =>
    Bitcoin.Text.eqIgnoreAsciiCase (hexText input.transactionId.bytes) (hexText v.transactionHash)
      && input.index == v.index

def changeAndIndex : DerivationPath → Result (UInt32 × UInt32)
  | .hardened 1852 :: .hardened 1815 :: .hardened _account :: .normal change :: .normal index
      :: _ =>
    .ok (change, index)
  | _ => .error (.derivationError (some "invalid derivation path"))

def pubkeyHashPaired (address : Address) (hash : Block 28) : Bool :=
  address.paymentKeyHash.map (fun keyhash => hexText keyhash.bytes) = some (hexText hash.bytes)

section

variable {XPrv XPub : Type} (lib : CardanoLib XPrv XPub)

/-- What `parse_inputs` does with one input. -/
def parseInput (context : ParseContext) (input : TransactionInput) : Result ParsedCardanoInput :=
  match context.findUtxo input with
  | none => pure ⟨input.transactionId.bytes, input.index, none, none, none, false⟩
  | some utxo => do
    let (change, index) ← changeAndIndex utxo.path
    let addrInUtxo ← orInvalid (lib.fromBech32 utxo.address)
    let parsed : ParsedCardanoInput := ⟨utxo.transactionHash, utxo.index, some utxo.value,
      some utxo.address, some (Keys.pathText utxo.path),
      utxo.masterFingerprint == context.masterFingerprint⟩
    match context.cardanoXpub with
    | none => pure parsed
    | some xpub => do
      let myPubkeyHash ← derivePubkeyHash lib.toAddressLib lib.toEd25519Lib xpub change index
      if pubkeyHashPaired addrInUtxo myPubkeyHash then pure parsed
      else .error (.invalidTransaction (some "invalid address"))

def parseInputs (tx : Transaction) (context : ParseContext) : Result (List ParsedCardanoInput) :=
  Outcome.collect (parseInput lib context) tx.inputs

def ParseContext.hasMySigner (context : ParseContext) : Bool :=
  context.certKeys.any fun v => hexText v.masterFingerprint = hexText context.masterFingerprint

def verify (tx : Transaction) (context : ParseContext) : Result Unit := do
  let networkId := judgeNetworkId tx
  let parsedInputs ← parseInputs lib tx context
  if context.hasMySigner then pure ()
  else if (parsedInputs.filter fun v => v.address.isSome).isEmpty then
    .error (.invalidTransaction (some "no input related to this account"))
  else do
    let _ ← parseCertificates lib.toAddressLib lib.normalizeCoin networkId tx.certs
    pure ()

def checkTx (tx : List UInt8) (context : ParseContext) : Result Unit := do
  let cardanoTx ← orInvalid (lib.fromBytes tx)
  verify lib cardanoTx context

end

section

variable {XPrv XPub : Type} {lib : CardanoLib XPrv XPub}

theorem changeAndIndex_eq_ok {path : DerivationPath} {change index : UInt32}
    (h : changeAndIndex path = .ok (change, index)) : ∃ account rest,
      path = [.hardened 1852, .hardened 1815, .hardened account]
        ++ [.normal change, .normal index] ++ rest := by
  unfold changeAndIndex at h
  split at h
  · cases h
    exact ⟨_, _, rfl⟩
  · cases h

theorem pubkeyHashPaired_iff {address : Address} {hash : Block 28} :
    pubkeyHashPaired address hash = true ↔ address.paymentKeyHash = some hash := by
  unfold pubkeyHashPaired
  rw [decide_eq_true_iff]
  constructor
  · intro h
    obtain ⟨keyhash, hkeyhash, htext⟩ := Option.map_eq_some_iff.mp h
    rw [hkeyhash, Block.ext (Bytes.hexText_injective htext)]
  · intro h
    rw [h]
    rfl

theorem parseInput_eq_ok {context : ParseContext} {input : TransactionInput} {utxo : CardanoUtxo}
    {parsed : ParsedCardanoInput} {root : XPrv} {account : DerivationPath} {xpub : Text}
    (hxpub : context.cardanoXpub = some xpub) (hkey : IsKeyAt lib.toEd25519Lib root account xpub)
    (hfind : context.findUtxo input = some utxo) (h : parseInput lib context input = .ok parsed) :
    ∃ step change index rest address,
      utxo.path = [.hardened 1852, .hardened 1815, .hardened step]
          ++ [.normal change, .normal index] ++ rest
        ∧ lib.fromBech32 utxo.address = some address
        ∧ address.paymentKeyHash = some (lib.blake2b224
            (lib.pubkeyAt root (account ++ [.normal change, .normal index])).bytes) := by
  unfold parseInput at h
  rw [hfind] at h
  obtain ⟨⟨change, index⟩, hsteps, h⟩ := Outcome.bind_eq_ok.mp h
  obtain ⟨step, rest, hpath⟩ := changeAndIndex_eq_ok hsteps
  obtain ⟨address, haddress, h⟩ := Outcome.bind_eq_ok.mp h
  dsimp only at h
  rw [hxpub] at h
  obtain ⟨hash, hhash, h⟩ := Outcome.bind_eq_ok.mp h
  split at h
  · rename_i hpaired
    refine ⟨step, change, index, rest, address, hpath, Outcome.okOr_eq_ok.mp haddress, ?_⟩
    rw [pubkeyHashPaired_iff.mp hpaired, derivePubkeyHash_eq_ok hkey hhash]
  · cases h

theorem parseInputs_of_checkTx {bytes : List UInt8} {context : ParseContext} {tx : Transaction}
    (htx : lib.fromBytes bytes = some tx) (h : checkTx lib bytes context = .ok ()) :
    ∃ parsed, parseInputs lib tx context = .ok parsed := by
  obtain ⟨tx', htx', h⟩ := Outcome.bind_eq_ok.mp h
  cases htx.symm.trans (Outcome.okOr_eq_ok.mp htx')
  obtain ⟨parsed, hparsed, -⟩ := Outcome.bind_eq_ok.mp h
  exact ⟨parsed, hparsed⟩

theorem paired_of_checkTx {bytes : List UInt8} {context : ParseContext} {tx : Transaction}
    {root : XPrv} {account : DerivationPath} {xpub : Text}
    (htx : lib.fromBytes bytes = some tx) (h : checkTx lib bytes context = .ok ())
    (hxpub : context.cardanoXpub = some xpub) (hkey : IsKeyAt lib.toEd25519Lib root account xpub)
    {input : TransactionInput} (hinput : input ∈ tx.inputs) {utxo : CardanoUtxo}
    (hfind : context.findUtxo input = some utxo) : ∃ step change index rest address,
      utxo.path = [.hardened 1852, .hardened 1815, .hardened step]
          ++ [.normal change, .normal index] ++ rest
        ∧ lib.fromBech32 utxo.address = some address
        ∧ address.paymentKeyHash = some (lib.blake2b224
            (lib.pubkeyAt root (account ++ [.normal change, .normal index])).bytes) := by
  obtain ⟨parsed, hparsed⟩ := parseInputs_of_checkTx htx h
  obtain ⟨i, hi⟩ := List.mem_iff_getElem?.mp hinput
  obtain ⟨entry, -, hentry⟩ := Outcome.collect_getElem? hparsed hi
  exact parseInput_eq_ok hxpub hkey hfind hentry

end

end Keystone3.Cardano
