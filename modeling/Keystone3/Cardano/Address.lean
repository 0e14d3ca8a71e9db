import Keystone3.Bitcoin.Address
import Keystone3.Keys.Secp256k1

/-!
# Cardano keys and addresses

The keys of an account are derived from its master key, or, for the steps that
are not hardened, from the public key of the account alone. An address pays to
the hash of a key or of a script.
-/

namespace Keystone3.Cardano

open Bitcoin (ChildNumber DerivationPath)
open Bytes (Block hexDecode)
open Keys (Hierarchy)
open Logic (Outcome)
open Logic.Outcome (bind_eq_ok okOr okOr_eq_ok)

abbrev Text : Type := List Char

/-- `CardanoError`, less what is not raised. A reason is left out where a library gives it. -/
inductive CardanoError where
  | addressEncodingError
  | derivationError (reason : Option String)
  | invalidTransaction (reason : Option String)
  | signingFailed
deriving DecidableEq

abbrev Result (α : Type) : Type := Outcome CardanoError α

/-- Extended Ed25519 keys. The public keys of the steps that are not hardened are derived from
public keys as well. -/
structure Ed25519Lib (XPrv XPub : Type) where
  derive : XPrv → ChildNumber → XPrv
  neuter : XPrv → XPub
  derivePublic : XPub → ChildNumber → Option XPub
  derivePublic_hardened : ∀ k index, derivePublic k (.hardened index) = none
  derivePublic_neuter : ∀ k index,
    derivePublic (neuter k) (.normal index) = some (neuter (derive k (.normal index)))
  fromSlice : List UInt8 → Option XPub
  publicKey : XPub → Block 32
  sign : XPrv → List UInt8 → Block 64

namespace Ed25519Lib

variable {XPrv XPub : Type} (lib : Ed25519Lib XPrv XPub)

def keys : Hierarchy XPrv XPub ChildNumber where
  hardened
    | .normal _ => false
    | .hardened _ => true
  neuter := lib.neuter
  childPriv k s := some (lib.derive k s)
  childPub := lib.derivePublic
  childPub_hardened k s h := by
    cases s with
    | normal index => cases h
    | hardened index => exact lib.derivePublic_hardened k index
  childPub_neuter k s h := by
    cases s with
    | normal index => exact lib.derivePublic_neuter k index
    | hardened index => cases h

def keyAt (root : XPrv) (path : DerivationPath) : XPrv := path.foldl lib.derive root

def pubkeyAt (root : XPrv) (path : DerivationPath) : Block 32 :=
  lib.publicKey (lib.neuter (lib.keyAt root path))

def deriveExtendedPrivkeyByXprv (xprv : XPrv) (path : Text) : Option XPrv :=
  (Keys.parsePath (Keys.normalizePath path)).map (lib.keyAt xprv)

def deriveExtendedPubkeyByXprv (xprv : XPrv) (path : Text) : Option XPub :=
  (lib.deriveExtendedPrivkeyByXprv xprv path).map lib.neuter

def signMessageByXprv (xprv : XPrv) (message : List UInt8) (path : Text) : Option (Block 64) :=
  (lib.deriveExtendedPrivkeyByXprv xprv path).map fun key => lib.sign key message

variable {lib}

theorem derivePriv_keys (root : XPrv) (path : DerivationPath) :
    lib.keys.derivePriv root path = some (lib.keyAt root path) := by
  induction path generalizing root with
  | nil => rfl
  | cons s path ih => exact ih (lib.derive root s)

theorem deriveExtendedPrivkeyByXprv_pathText {xprv key : XPrv} {path : DerivationPath}
    (h : lib.deriveExtendedPrivkeyByXprv xprv (Keys.pathText path) = some key) :
    key = lib.keyAt xprv path := by
  obtain ⟨path', hpath, rfl⟩ := Option.map_eq_some_iff.mp h
  rw [Keys.eq_of_parsePath_pathText hpath]

theorem deriveExtendedPubkeyByXprv_pathText {xprv : XPrv} {key : XPub} {path : DerivationPath}
    (h : lib.deriveExtendedPubkeyByXprv xprv (Keys.pathText path) = some key) :
    lib.publicKey key = lib.pubkeyAt xprv path := by
  obtain ⟨key', hkey, rfl⟩ := Option.map_eq_some_iff.mp h
  rw [deriveExtendedPrivkeyByXprv_pathText hkey]
  rfl

theorem pubkeyAt_of_derivePub {root : XPrv} {account path : DerivationPath} {child : XPub}
    (h : lib.keys.derivePub (lib.neuter (lib.keyAt root account)) path = some child) :
    lib.publicKey child = lib.pubkeyAt root (account ++ path) := by
  obtain ⟨key, hkey, hchild⟩ := Hierarchy.derivePriv_of_derivePub (derivePriv_keys root account) h
  rw [derivePriv_keys] at hkey
  cases hkey
  rw [← hchild]
  rfl

end Ed25519Lib

inductive Credential where
  | keyHash (hash : Block 28)
  | scriptHash (hash : Block 28)
deriving DecidableEq

inductive Address where
  | base (payment : Credential)
  | enterprise (payment : Credential)
  | other

structure RewardAddress where
  network : UInt8
  payment : Credential
deriving DecidableEq

/-- What the code takes from the address library, and a hash. -/
structure AddressLib where
  blake2b224 : List UInt8 → Block 28
  fromBech32 : Text → Option Address
  rewardToBech32 : RewardAddress → Option Text
  /-- A hash in Bech32, after the text in front of it. -/
  hashToBech32 : String → Block 28 → Option Text

def Credential.toKeyhash : Credential → Option (Block 28)
  | .keyHash hash => some hash
  | .scriptHash _ => none

def Address.paymentKeyHash : Address → Option (Block 28)
  | .base payment => payment.toKeyhash
  | .enterprise payment => payment.toKeyhash
  | .other => none

def derivePubkeyHash {XPrv XPub : Type} (lib : AddressLib) (ed : Ed25519Lib XPrv XPub) (xpub : Text)
    (change index : UInt32) : Result (Block 28) := do
  let xpubBytes ← okOr (.derivationError none) (hexDecode xpub)
  let xpub ← okOr (.derivationError none) (ed.fromSlice xpubBytes)
  let xpub ← okOr (.derivationError none) (ed.derivePublic xpub (.normal change))
  let xpub ← okOr (.derivationError none) (ed.derivePublic xpub (.normal index))
  pure (lib.blake2b224 (ed.publicKey xpub).bytes)

section

variable {XPrv XPub : Type} {lib : AddressLib} {ed : Ed25519Lib XPrv XPub}

def IsKeyAt (ed : Ed25519Lib XPrv XPub) (root : XPrv) (path : DerivationPath) (xpub : Text) :
    Prop :=
  ∃ bytes, hexDecode xpub = some bytes ∧ ed.fromSlice bytes = some (ed.neuter (ed.keyAt root path))

theorem derivePubkeyHash_eq_ok {root : XPrv} {account : DerivationPath} {xpub : Text}
    {change index : UInt32} {hash : Block 28} (hkey : IsKeyAt ed root account xpub)
    (h : derivePubkeyHash lib ed xpub change index = .ok hash) :
    hash = lib.blake2b224
      (ed.pubkeyAt root (account ++ [.normal change, .normal index])).bytes := by
  obtain ⟨bytes, hbytes, haccount⟩ := hkey
  obtain ⟨bytes', hbytes', h⟩ := bind_eq_ok.mp h
  obtain ⟨xpub', hxpub, h⟩ := bind_eq_ok.mp h
  obtain ⟨changed, hchange, h⟩ := bind_eq_ok.mp h
  obtain ⟨child, hchild, h⟩ := bind_eq_ok.mp h
  cases h
  cases hbytes.symm.trans (okOr_eq_ok.mp hbytes')
  cases haccount.symm.trans (okOr_eq_ok.mp hxpub)
  have hderive : ed.keys.derivePub (ed.neuter (ed.keyAt root account))
      [.normal change, .normal index] = some child := by
    rw [Hierarchy.derivePub]
    show (ed.derivePublic _ _).bind _ = _
    rw [okOr_eq_ok.mp hchange, Option.bind_some, Hierarchy.derivePub]
    show (ed.derivePublic _ _).bind _ = _
    rw [okOr_eq_ok.mp hchild]
    rfl
  rw [Ed25519Lib.pubkeyAt_of_derivePub hderive]

end

def cardanoAccount (index : UInt32) : DerivationPath :=
  [.hardened 1852, .hardened 1815, .hardened index]

structure SampleKey where
  path : DerivationPath
  pubkey : Block 32
  hash : Block 28

def paymentKey : SampleKey where
  path := cardanoAccount 0 ++ [.normal 0, .normal 0]
  pubkey := Block.ofBytes 32
    [0x7e, 0xa0, 0x9a, 0x34, 0xae, 0xbb, 0x13, 0xc9, 0x84, 0x1c, 0x71, 0x39, 0x7b, 0x1c, 0xab, 0xfe,
    0xc5, 0xdd, 0xf9, 0x50, 0x40, 0x52, 0x93, 0xde, 0xe4, 0x96, 0xca, 0xc2, 0xf4, 0x37, 0x48, 0x0a]
  hash := Block.ofBytes 28
    [0x0f, 0xdc, 0x78, 0x00, 0x23, 0xd8, 0xbe, 0x7c, 0x9f, 0xf3, 0xa6, 0xbd, 0xc0, 0xd8, 0xd3, 0xb2,
    0x63, 0xbd, 0x0c, 0xc1, 0x24, 0x48, 0xc4, 0x09, 0x48, 0xef, 0xbf, 0x42]

def stakeKey : SampleKey where
  path := cardanoAccount 0 ++ [.normal 2, .normal 0]
  pubkey := Block.ofBytes 32
    [0x01, 0x2f, 0x5d, 0xc3, 0x11, 0x5b, 0x8a, 0x07, 0x98, 0x1e, 0x6e, 0x50, 0xf5, 0xa6, 0x71, 0xe2,
    0xc6, 0xfb, 0xb2, 0x6c, 0x3f, 0xfd, 0xe1, 0xcd, 0x1d, 0xca, 0xf4, 0x0a, 0x7f, 0xe8, 0xf1, 0x60]
  hash := Block.ofBytes 28
    [0xe5, 0x57, 0x89, 0x03, 0x52, 0x09, 0x5f, 0x1c, 0xf6, 0xfd, 0x2b, 0x7d, 0x1a, 0x28, 0xe3, 0xc3,
    0xcb, 0x02, 0x9f, 0x48, 0xcf, 0x34, 0xff, 0x89, 0x0a, 0x28, 0xd1, 0x76]

def otherKey : SampleKey where
  path := cardanoAccount 1 ++ [.normal 0, .normal 0]
  pubkey := Block.ofBytes 32
    [0x06, 0xf4, 0xd2, 0x78, 0xa8, 0x82, 0x15, 0xfb, 0x31, 0x21, 0x83, 0x31, 0x4f, 0xb2, 0xe8, 0x6e,
    0x4b, 0xff, 0xb8, 0x70, 0xc7, 0x8a, 0xfc, 0xa5, 0x9e, 0x39, 0xf6, 0x93, 0x2c, 0xb2, 0xba, 0x30]
  hash := Block.ofBytes 28
    [0x6d, 0x20, 0x49, 0x11, 0x22, 0x41, 0xff, 0x72, 0x01, 0xea, 0x45, 0xd9, 0x85, 0xe6, 0x05, 0x52,
    0xce, 0x00, 0x48, 0x26, 0x5d, 0x70, 0x5f, 0x00, 0x9d, 0x8b, 0x57, 0x55]

def sampleKeys : List SampleKey := [paymentKey, stakeKey, otherKey]

def sampleBlake2b224 (bytes : List UInt8) : Block 28 :=
  ((sampleKeys.find? fun key => key.pubkey.bytes = bytes).map SampleKey.hash).getD
    (Block.ofBytes 28 bytes)

def Ed25519Lib.sample (fromSlice : List UInt8 → Option DerivationPath)
    (sign : DerivationPath → List UInt8 → Block 64) : Ed25519Lib DerivationPath DerivationPath where
  derive k s := k ++ [s]
  neuter := id
  derivePublic k
    | .normal index => some (k ++ [.normal index])
    | .hardened _ => none
  derivePublic_hardened _ _ := rfl
  derivePublic_neuter _ _ := rfl
  fromSlice
  publicKey path := ((sampleKeys.find? fun key => key.path = path).map SampleKey.pubkey).getD
    (Block.ofBytes 32 (Keys.stepBytes path))
  sign

def AddressLib.sample (fromBech32 : Text → Option Address) : AddressLib where
  blake2b224 := sampleBlake2b224
  fromBech32
  rewardToBech32 _ := none
  hashToBech32 _ _ := none

end Keystone3.Cardano
