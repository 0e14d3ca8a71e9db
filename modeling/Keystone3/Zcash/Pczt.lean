import Keystone3.Keys.Secp256k1

/-!
# Checking a partially created Zcash transaction

The keys of inputs and outputs come with paths of the host's, each with the fingerprint
of a seed. A path with the fingerprint of this seed has to lead to its key below the
account's (`checkPczt`).
-/

namespace Keystone3.Zcash

open Bitcoin (ChildNumber PublicKey)
open Bytes (Block)
open Keys (Text)
open Logic (BTreeMap Outcome)
open Logic.Outcome (bind_eq_ok collect okOr okOr_eq_ok)

inductive TransparentAddress where
  | publicKeyHash (hash : Block 20)
  | scriptHash (hash : Block 20)
deriving DecidableEq

/-- A path from a seed, its steps as they are stored, with the upper half of the numbers for
hardened ones. -/
structure Bip32Derivation where
  seedFingerprint : Block 32
  derivationPath : List UInt32

structure TransparentInput where
  scriptPubkey : List UInt8
  value : UInt64
  bip32Derivation : BTreeMap PublicKey Bip32Derivation

structure TransparentOutput where
  scriptPubkey : List UInt8
  value : UInt64
  bip32Derivation : BTreeMap PublicKey Bip32Derivation
  userAddress : Option Text

structure TransparentBundle where
  inputs : List TransparentInput
  outputs : List TransparentOutput

abbrev OrchardAddress : Type := Block 43

abbrev FullViewingKey : Type := Block 96

abbrev OutgoingViewingKey : Type := Block 32

structure Zip32Derivation where
  seedFingerprint : Block 32
  derivationPath : List UInt32

structure OrchardSpend where
  nullifier : Block 32
  rk : Block 32
  recipient : Option OrchardAddress
  value : Option UInt64
  rho : Option (Block 32)
  rseed : Option (Block 32)
  fvk : Option FullViewingKey
  alpha : Option (Block 32)
  zip32Derivation : Option Zip32Derivation

structure EncryptedNote where
  epkBytes : Block 32
  encCiphertext : Block 580
  outCiphertext : Block 80

structure OrchardOutput where
  cmx : Block 32
  encryptedNote : EncryptedNote
  recipient : Option OrchardAddress
  value : Option UInt64
  rseed : Option (Block 32)
  userAddress : Option Text

structure Action where
  cvNet : Block 32
  rcv : Option (Block 32)
  spend : OrchardSpend
  output : OrchardOutput

structure OrchardBundle where
  actions : List Action
  valueSum : Int

structure SaplingBundle where
  valueSum : Int
  hasSpends : Bool
  hasOutputs : Bool

/-- A PCZT, with the parts that the verifier makes of it, if it can. -/
structure Pczt where
  transparent : Option TransparentBundle
  orchard : Option OrchardBundle
  sapling : SaplingBundle

/-- `UnifiedFullViewingKey`, with an account's public key that is left open. -/
structure UnifiedFullViewingKey (Xpub : Type) where
  transparent : Option Xpub
  orchard : Option FullViewingKey

structure Note where
  recipient : OrchardAddress
  value : UInt64
  rho : Block 32
  rseed : Block 32

inductive Scope where
  | external
  | internal

/-- What the code takes from its libraries and the network. -/
structure ZcashLib (Xpub : Type) where
  coinType : UInt32
  address : List UInt8 → Option TransparentAddress
  hash160 : PublicKey → Block 20
  derivePubkeyAtBip32Path : Xpub → UInt32 → List UInt32 → Option PublicKey
  encodeP2pkh : Block 20 → Text
  encodeP2sh : Block 20 → Text
  encodeUnified : OrchardAddress → Text
  /-- Does an address, if it is one, have the receiver? -/
  matchesReceiver : Text → OrchardAddress → Option Bool
  verifyCvNet : Action → Bool
  verifyNullifier : OrchardSpend → Option FullViewingKey → Bool
  verifyRk : OrchardSpend → Option FullViewingKey → Bool
  verifyNoteCommitment : OrchardOutput → OrchardSpend → Bool
  toOvk : FullViewingKey → Scope → OutgoingViewingKey
  internalOvk : Xpub → OutgoingViewingKey
  isRho : Block 32 → Bool
  isNote : Note → Bool
  tryOutputRecoveryWithOvk : Action → OutgoingViewingKey →
    Option (Note × OrchardAddress × Block 512)
  tryOutputRecoveryWithPkdEsk : Action → Note → Option (Note × OrchardAddress × Block 512)
  /-- An amount in ZEC with eight digits behind the point. -/
  zecText : UInt64 → Text

/-- An error of the verifier is printed and taken for invalid data, one of the keystore
for a signing error. -/
inductive ZcashError where
  | invalidDataError (reason : String)
  | signingError (reason : String)
  | keystoreError (e : Keys.KeystoreError)
  | invalidPczt (reason : String)
  | verifier (e : ZcashError)

abbrev Result (α : Type) : Type := Outcome ZcashError α

/-- `ChildNumber` as it is stored: the upper half of the numbers is for hardened steps. -/
def childNumber (n : UInt32) : ChildNumber :=
  if n < 0x80000000 then .normal n else .hardened (n - 0x80000000)

def accountPath (coinType accountIndex : UInt32) : List UInt32 :=
  [0x8000002c, 0x80000000 + coinType, 0x80000000 + accountIndex]

def myDerivation (seedFingerprint : Block 32) (map : BTreeMap PublicKey Bip32Derivation) :
    Option (PublicKey × Bip32Derivation) :=
  map.entries.find? fun entry => seedFingerprint = entry.2.seedFingerprint

section

variable {Xpub : Type} (lib : ZcashLib Xpub) (seedFingerprint : Block 32) (accountIndex : UInt32)

def keyOfHash (hash : Block 20) (map : BTreeMap PublicKey Bip32Derivation) : Option PublicKey :=
  map.keys.find? fun pubkey => hash = lib.hash160 pubkey

def checkDerivedKey (xpub : Xpub) (mismatch : String) (pubkey : PublicKey)
    (derivation : Bip32Derivation) : Result Unit := do
  let target ← okOr (.invalidPczt "transparent input bip32 derivation path invalid")
    (lib.derivePubkeyAtBip32Path xpub accountIndex derivation.derivationPath)
  if target ≠ pubkey then .error (.invalidPczt mismatch) else pure ()

def checkTransparentInput (xpub : Xpub) (input : TransparentInput) : Result Unit :=
  match lib.address input.scriptPubkey with
  | some (.publicKeyHash hash) =>
    match myDerivation seedFingerprint input.bip32Derivation with
    | none => pure ()
    | some (pubkey, derivation) => do
      checkDerivedKey lib accountIndex xpub "transparent input script pubkey mismatch" pubkey
        derivation
      if hash ≠ lib.hash160 pubkey then
        .error (.invalidPczt "transparent input script pubkey mismatch")
      else pure ()
  | _ => .error (.invalidPczt "transparent input script pubkey is not a public key hash")

def checkUserAddress (address : Text) (output : TransparentOutput) : Result Unit :=
  match output.userAddress with
  | some userAddress =>
    if userAddress ≠ address then
      .error (.invalidPczt "transparent output user_address mismatch")
    else pure ()
  | none => .error (.invalidPczt "transparent output user_address is None")

def checkTransparentOutput (xpub : Xpub) (output : TransparentOutput) : Result Unit :=
  match lib.address output.scriptPubkey with
  | some (.publicKeyHash hash) => do
    checkUserAddress (lib.encodeP2pkh hash) output
    match keyOfHash lib hash output.bip32Derivation with
    | some pubkey =>
      match output.bip32Derivation.get pubkey with
      | some derivation =>
        if seedFingerprint = derivation.seedFingerprint then
          checkDerivedKey lib accountIndex xpub "transparent output script pubkey mismatch" pubkey
            derivation
        else pure ()
      | none => pure ()
    | none => pure ()
  | some (.scriptHash hash) => do
    checkUserAddress (lib.encodeP2sh hash) output
    match myDerivation seedFingerprint output.bip32Derivation with
    | none => pure ()
    | some (pubkey, derivation) =>
      -- the script itself is not checked
      checkDerivedKey lib accountIndex xpub "transparent input script pubkey mismatch" pubkey
        derivation
  | none => .error (.invalidPczt "transparent output script pubkey is not a public key hash")

def checkTransparent (xpub : Xpub) (bundle : TransparentBundle) : Result Unit := do
  let _ ← collect (checkTransparentInput lib seedFingerprint accountIndex xpub) bundle.inputs
  let _ ← collect (checkTransparentOutput lib seedFingerprint accountIndex xpub) bundle.outputs
  pure ()

def orchardPath : List UInt32 := [0x80000020, 0x80000000 + lib.coinType, 0x80000000 + accountIndex]

/-- A note of another's, or without a value, is not verified. -/
def checkActionSpend (fvk : FullViewingKey) (spend : OrchardSpend) : Result Unit :=
  let isMine := spend.zip32Derivation.any fun derivation =>
    decide (derivation.seedFingerprint = seedFingerprint)
      && decide (derivation.derivationPath = orchardPath lib accountIndex)
  let canVerifyNfRk : Option (Option FullViewingKey) :=
    if isMine = true then some (some fvk)
    else if spend.value = some 0 ∧ spend.fvk.isSome = true then some none
    else none
  match canVerifyNfRk with
  | none => pure ()
  | some expectedFvk =>
    if lib.verifyNullifier spend expectedFvk = false then
      .error (.invalidPczt "invalid Orchard action nullifier")
    else if lib.verifyRk spend expectedFvk = false then
      .error (.invalidPczt "invalid Orchard action rk")
    else pure ()

def checkActionOutput (action : Action) : Result Unit :=
  if lib.verifyNoteCommitment action.output action.spend = false then
    .error (.invalidPczt "invalid Orchard action cmx")
  else pure ()

def checkAction (fvk : FullViewingKey) (action : Action) : Result Unit :=
  if lib.verifyCvNet action = false then
    .error (.invalidPczt "invalid cv_net in Orchard action")
  else do
    checkActionSpend lib seedFingerprint accountIndex fvk action.spend
    checkActionOutput lib action

def netValues : List Action → Result (List Int)
  | [] => pure []
  | action :: actions => do
    let spent ← Outcome.unwrap action.spend.value
    let paid ← Outcome.unwrap action.output.value
    let rest ← netValues actions
    pure (((spent.toNat : Int) - paid.toNat) :: rest)

def sumValues : Int → List Int → Option Int
  | acc, [] => some acc
  | acc, v :: vs => if (acc + v).natAbs < 2 ^ 64 then sumValues (acc + v) vs else none

def checkOrchard (fvk : FullViewingKey) (bundle : OrchardBundle) : Result Unit := do
  let _ ← collect (checkAction lib seedFingerprint accountIndex fvk) bundle.actions
  let values ← netValues bundle.actions
  if sumValues 0 values = some bundle.valueSum then pure ()
  else .error (.invalidPczt "invalid Orchard bundle value balance")

def part {α : Type} (bundle : Option α) : Result α :=
  okOr (.invalidDataError "parse") bundle

def checkPczt (ufvk : UnifiedFullViewingKey Xpub) (pczt : Pczt) : Result Unit := do
  let xpub ← okOr (.invalidDataError "transparent xpub is not present") ufvk.transparent
  let orchard ← okOr (.invalidDataError "orchard fvk is not present") ufvk.orchard
  let orchardBundle ← part pczt.orchard
  Outcome.mapError .verifier (checkOrchard lib seedFingerprint accountIndex orchard orchardBundle)
  let transparentBundle ← part pczt.transparent
  Outcome.mapError .verifier
    (checkTransparent lib seedFingerprint accountIndex xpub transparentBundle)

end

section

variable {Xpub : Type} {lib : ZcashLib Xpub} {seedFingerprint : Block 32} {accountIndex : UInt32}

theorem checkDerivedKey_eq_ok {xpub : Xpub} {mismatch : String} {pubkey : PublicKey}
    {derivation : Bip32Derivation}
    (h : checkDerivedKey lib accountIndex xpub mismatch pubkey derivation = .ok ()) :
    lib.derivePubkeyAtBip32Path xpub accountIndex derivation.derivationPath = some pubkey := by
  unfold checkDerivedKey at h
  obtain ⟨target, htarget, h⟩ := bind_eq_ok.mp h
  split at h
  · cases h
  · rename_i heq
    rw [← Decidable.not_not.mp heq]
    exact okOr_eq_ok.mp htarget

theorem checkTransparentInput_eq_ok {xpub : Xpub} {input : TransparentInput}
    (h : checkTransparentInput lib seedFingerprint accountIndex xpub input = .ok ()) :
    ∃ hash, lib.address input.scriptPubkey = some (.publicKeyHash hash)
      ∧ ∀ pubkey derivation,
        myDerivation seedFingerprint input.bip32Derivation = some (pubkey, derivation) →
          lib.derivePubkeyAtBip32Path xpub accountIndex derivation.derivationPath = some pubkey
            ∧ hash = lib.hash160 pubkey := by
  unfold checkTransparentInput at h
  split at h
  · rename_i hash haddress
    refine ⟨hash, haddress, ?_⟩
    intro pubkey derivation hmine
    rw [hmine] at h
    obtain ⟨_, hderived, h⟩ := bind_eq_ok.mp h
    split at h
    · cases h
    · rename_i heq
      exact ⟨checkDerivedKey_eq_ok hderived, Decidable.not_not.mp heq⟩
  · cases h

theorem checkTransparentOutput_publicKeyHash {xpub : Xpub} {output : TransparentOutput}
    {hash : Block 20} (haddress : lib.address output.scriptPubkey = some (.publicKeyHash hash))
    (h : checkTransparentOutput lib seedFingerprint accountIndex xpub output = .ok ())
    {pubkey : PublicKey} {derivation : Bip32Derivation}
    (hkey : keyOfHash lib hash output.bip32Derivation = some pubkey)
    (hget : output.bip32Derivation.get pubkey = some derivation)
    (hmine : seedFingerprint = derivation.seedFingerprint) :
    lib.derivePubkeyAtBip32Path xpub accountIndex derivation.derivationPath = some pubkey := by
  unfold checkTransparentOutput at h
  rw [haddress] at h
  obtain ⟨_, -, h⟩ := bind_eq_ok.mp h
  rw [hkey] at h
  dsimp only at h
  rw [hget] at h
  dsimp only at h
  rw [if_pos hmine] at h
  exact checkDerivedKey_eq_ok h

theorem checkPczt_eq_ok {ufvk : UnifiedFullViewingKey Xpub} {pczt : Pczt}
    (h : checkPczt lib seedFingerprint accountIndex ufvk pczt = .ok ()) :
    ∃ xpub bundle, ufvk.transparent = some xpub ∧ pczt.transparent = some bundle
      ∧ (∀ input ∈ bundle.inputs,
        checkTransparentInput lib seedFingerprint accountIndex xpub input = .ok ())
      ∧ ∀ output ∈ bundle.outputs,
        checkTransparentOutput lib seedFingerprint accountIndex xpub output = .ok () := by
  unfold checkPczt at h
  obtain ⟨xpub, hxpub, h⟩ := bind_eq_ok.mp h
  obtain ⟨fvk, -, h⟩ := bind_eq_ok.mp h
  obtain ⟨orchardBundle, -, h⟩ := bind_eq_ok.mp h
  obtain ⟨_, -, h⟩ := bind_eq_ok.mp h
  obtain ⟨bundle, hbundle, h⟩ := bind_eq_ok.mp h
  have h := Outcome.mapError_eq_ok.mp h
  unfold checkTransparent at h
  obtain ⟨checkedInputs, hinputs, h⟩ := bind_eq_ok.mp h
  obtain ⟨checkedOutputs, houtputs, -⟩ := bind_eq_ok.mp h
  refine ⟨xpub, bundle, okOr_eq_ok.mp hxpub, okOr_eq_ok.mp hbundle, ?_, ?_⟩
  · exact Outcome.forall_of_collect hinputs
  · exact Outcome.forall_of_collect houtputs

end

end Keystone3.Zcash
