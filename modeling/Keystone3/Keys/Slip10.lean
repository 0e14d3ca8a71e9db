import Keystone3.Bytes.Reader
import Keystone3.Keys.Secp256k1

/-!
# SLIP-10 keys on the curve ed25519

The secret key of a seed at a path, all of whose steps are hardened. A path that
is written down is one for every seed (`getPrivateKeyBySeed_eq_ok`).
-/

namespace Keystone3.Keys

open Bitcoin (DerivationPath)
open Bytes (Block)
open Logic (Outcome)

inductive PathError where
  | parse (path : Text)
  | notHardened

def hardenedIndexes : DerivationPath → Option (List Nat)
  | [] => some []
  | .hardened index :: path =>
    (hardenedIndexes path).map fun indexes => (index.toNat + 2 ^ 31) :: indexes
  | .normal _ :: _ => none

def masterSecret : List UInt8 :=
  [0x65, 0x64, 0x32, 0x35, 0x35, 0x31, 0x39, 0x20, 0x73, 0x65, 0x65, 0x64]

section

variable (hmacSha512 : List UInt8 → List UInt8 → Block 64)

def childKey (acc : Block 64) (index : Nat) : Block 64 :=
  hmacSha512 (acc.bytes.drop 32) (0 :: (acc.bytes.take 32 ++ Bytes.be 4 index))

def keyAtIndexes (seed : List UInt8) (indexes : List Nat) : Block 32 :=
  Block.ofBytes 32 ((indexes.foldl (childKey hmacSha512) (hmacSha512 masterSecret seed)).bytes.take 32)

def getPrivateKeyBySeed (seed : List UInt8) (path : Text) : Outcome PathError (Block 32) := do
  let p := normalizePath path
  let derivationPath ← Outcome.okOr (.parse p) (parsePath p)
  let indexes ← Outcome.okOr .notHardened (hardenedIndexes derivationPath)
  pure (keyAtIndexes hmacSha512 seed indexes)

theorem getPrivateKeyBySeed_eq_ok {path : Text} {indexes : List Nat}
    (h : (parsePath (normalizePath path)).bind hardenedIndexes = some indexes) (seed : List UInt8) :
    getPrivateKeyBySeed hmacSha512 seed path = .ok (keyAtIndexes hmacSha512 seed indexes) := by
  obtain ⟨derivationPath, hparse, hhardened⟩ := Option.bind_eq_some_iff.mp h
  unfold getPrivateKeyBySeed
  dsimp only
  rw [hparse]
  show (Outcome.okOr PathError.notHardened (hardenedIndexes derivationPath) >>= _) = _
  rw [hhardened]
  rfl

end

end Keystone3.Keys
