import Keystone3.Tron.Display

/-!
# Whose key signs a Tron transaction

The check derives an address from the account's public key with the last two
steps of the path, and the signature is made with the key at the whole path.
`signsFrom_iff` says for which paths these are the same key.
-/

namespace Keystone3.Tron

open Bitcoin (DerivationPath PublicKey)
open Bytes (Block hexText)
open Keys (IsAccountKey InAccount SecpLib)
open Logic (Outcome)

section

variable {Xpriv Xpub : Type} (lib : TronLib) (secp : SecpLib Xpriv Xpub)

/-- `check_hd_path!` and `derivation_address_path!`: the last two of six parts. -/
def derivationAddressPath (path : Text) : Result Text :=
  let parts := path.splitOn '/'
  if parts.length ≠ 6 then .error (.invalidHDPath parts)
  else .ok ('m' :: '/' :: List.intercalate ['/'] (parts.drop (parts.length - 2)))

def addressOf (pubkey : PublicKey) : Text :=
  let hash := lib.keccak256 ((secp.serializeUncompressed pubkey).bytes.drop 1)
  lib.encodeCheck (0x41 :: hash.bytes.drop 12)

def getAddress (path extendedPubKey : Text) : Result Text := do
  let derivationPath ← derivationAddressPath path
  let pubkey ← Outcome.mapError .keystoreError
    (Keys.derivePublicKey secp extendedPubKey derivationPath)
  pure (addressOf lib secp pubkey)

def WrappedTron.checkInput (tx : WrappedTron) (context : ParseContext) : Result Unit := do
  if tx.xfp.map Char.toUpper ≠ (hexText context.masterFingerprint.bytes).map Char.toUpper then
    .error (.invalidParseContext ("invalid xfp, expected "
      ++ String.ofList (hexText context.masterFingerprint.bytes) ++ ", got " ++ String.ofList tx.xfp))
  else do
    let derivedAddress ← getAddress lib secp tx.hdPath tx.extendedPubkey
    if derivedAddress = tx.sender then pure () else .error .noMyInputs

def WrappedTron.signatureHash (tx : WrappedTron) : Result (Block 32) := do
  let rawData ← Outcome.okOr (.invalidRawTxCryptoBytes "empty raw data") tx.tronTx.rawData
  pure (lib.sha256 (lib.encodeRaw rawData))

/-- `Signer for WrappedTron`: a signature for each contract. -/
def WrappedTron.sign (tx : WrappedTron) (seed : List UInt8) : Result (Text × Text) := do
  let sigHash ← tx.signatureHash lib
  let (recId, signature) ← Outcome.mapError .keystoreError
    (Keys.signMessageBySeed secp seed tx.hdPath sigHash)
  let count := (tx.tronTx.rawData.map fun raw => raw.contract.length).getD 0
  let signed := { tx.tronTx with signature := List.replicate count (signature.bytes ++ [recId]) }
  pure (hexText (lib.encodeTransaction signed), hexText sigHash.bytes)

/-- The private key that the transaction is signed with is that of the address it is shown to come
from. -/
def WrappedTron.SignsFromSender (tx : WrappedTron) (seed : List UInt8) : Prop :=
  ∃ key, Keys.getExtendedPrivateKeyBySeed secp seed tx.hdPath = .ok key
    ∧ addressOf lib secp (secp.publicKey (secp.neuter key)) = tx.sender

end

section

variable {Xpriv Xpub : Type} {lib : TronLib} {secp : SecpLib Xpriv Xpub}

theorem derivationAddressPath_eq_ok {path address : Text}
    (h : derivationAddressPath path = .ok address) : ∃ front a b, front ≠ []
      ∧ path.splitOn '/' = front ++ [a, b] ∧ address = Keys.twoSteps a b := by
  unfold derivationAddressPath at h
  dsimp only at h
  split at h
  · cases h
  · rename_i hsix
    have hsix := Decidable.not_not.mp hsix
    have hback : ((path.splitOn '/').drop 4).length = 2 := by
      rw [List.length_drop, hsix]
    obtain ⟨a, b, hab⟩ := List.length_eq_two.mp hback
    rw [hsix, hab] at h
    cases h
    refine ⟨(path.splitOn '/').take 4, a, b, ?_, ?_, ?_⟩
    · intro hnil
      have hlength := congrArg List.length hnil
      rw [List.length_take, hsix] at hlength
      cases hlength
    · rw [← hab, List.take_append_drop]
    · simp [Keys.twoSteps, List.intercalate]

theorem checkInput_eq_ok {tx : WrappedTron} {context : ParseContext}
    (h : tx.checkInput lib secp context = .ok ()) : ∃ front a b pubkey, front ≠ []
      ∧ tx.hdPath.splitOn '/' = front ++ [a, b]
      ∧ Keys.derivePublicKey secp tx.extendedPubkey (Keys.twoSteps a b) = .ok pubkey
      ∧ addressOf lib secp pubkey = tx.sender := by
  unfold WrappedTron.checkInput at h
  split at h
  · cases h
  · obtain ⟨derived, hderived, h⟩ := Outcome.bind_eq_ok.mp h
    split at h
    · rename_i hsender
      unfold getAddress at hderived
      obtain ⟨address, haddress, haddressed⟩ := Outcome.bind_eq_ok.mp hderived
      obtain ⟨front, a, b, hfront, hparts, rfl⟩ := derivationAddressPath_eq_ok haddress
      obtain ⟨pubkey, hpubkey, hpure⟩ := Outcome.bind_eq_ok.mp haddressed
      cases hpure
      exact ⟨front, a, b, pubkey, hfront, hparts, Outcome.mapError_eq_ok.mp hpubkey, hsender⟩
    · cases h

theorem signsFromSender {tx : WrappedTron} {context : ParseContext} {seed : List UInt8}
    {account : DerivationPath} (hkey : IsAccountKey secp seed account tx.extendedPubkey)
    (hcheck : tx.checkInput lib secp context = .ok ()) (hin : InAccount account tx.hdPath) :
    tx.SignsFromSender lib secp seed := by
  obtain ⟨front, a, b, pubkey, hfront, hparts, hpubkey, hsender⟩ := checkInput_eq_ok hcheck
  have hpublic := Keys.getPublicKeyBySeed_of_account hkey hparts hfront hin hpubkey
  unfold Keys.getPublicKeyBySeed at hpublic
  obtain ⟨key, hprivate, hpublic⟩ := Outcome.bind_eq_ok.mp hpublic
  cases hpublic
  exact ⟨key, hprivate, hsender⟩

end

/-- A transaction that is accepted is in the account and signed with the key of its sender if its
path is two steps below the account's: the check reads no other step. -/
theorem signsFrom_iff {Xpriv Xpub : Type} (lib : TronLib) (secp : SecpLib Xpriv Xpub)
    (tx : WrappedTron) (context : ParseContext) (seed : List UInt8) (account : DerivationPath)
    (hkey : IsAccountKey secp seed account tx.extendedPubkey)
    (hcheck : tx.checkInput lib secp context = .ok ()) :
    tx.SignsFromSender lib secp seed ∧ InAccount account tx.hdPath ↔ InAccount account tx.hdPath :=
  ⟨And.right, fun hin => ⟨signsFromSender hkey hcheck hin, hin⟩⟩

def sampleSecp : SecpLib DerivationPath DerivationPath :=
  .ofPaths (fun path => Block.ofBytes 33 (List.replicate 12 0 ++ Keys.stepBytes path))
    fun key _ => (0, Block.ofBytes 64 (Keys.stepBytes key))

def sampleAccount : DerivationPath := [.hardened 44, .hardened 195, .hardened 0]

def sampleXpub : Text := ['m', '/', '4', '4', '\'', '/', '1', '9', '5', '\'', '/', '0', '\'']

theorem parsePath_sampleXpub : Keys.parsePath sampleXpub = some sampleAccount := by
  decide

/-- A transaction from the first address of the account, with a path in an account of the host's
choice. -/
def sampleTx (account : Char) : WrappedTron where
  tronTx := ⟨none, []⟩
  hdPath := ['m', '/', '4', '4', '\'', '/', '1', '9', '5', '\'', '/', account, '\'', '/', '0', '/', '0']
  extendedPubkey := sampleXpub
  xfp := hexText (Block.zero 4).bytes
  token := []
  contractAddress := []
  sender := addressOf .sample sampleSecp
    (sampleSecp.publicKey (sampleAccount ++ [.normal 0, .normal 0]))
  recipient := ['B']
  value := ['1']
  tokenShortName := none
  divider := defaultDivider

theorem isAccountKey_sample (account : Char) :
    IsAccountKey sampleSecp [] sampleAccount (sampleTx account).extendedPubkey :=
  ⟨[], sampleAccount, rfl, rfl, parsePath_sampleXpub⟩

theorem signsFrom_iff_sample :
    (sampleTx '0').SignsFromSender .sample sampleSecp [] ∧ InAccount sampleAccount (sampleTx '0').hdPath
      ↔ InAccount sampleAccount (sampleTx '0').hdPath :=
  signsFrom_iff .sample sampleSecp (sampleTx '0') ⟨Block.zero 4, []⟩ [] sampleAccount
    (isAccountKey_sample '0') (by decide)

/-- With a path of the second account the check succeeds, and another key signs. -/
theorem not_signsFrom_otherAccount : ¬∀ (Xpriv Xpub : Type) (lib : TronLib)
    (secp : SecpLib Xpriv Xpub) (tx : WrappedTron) (context : ParseContext) (seed : List UInt8)
    (account : DerivationPath), IsAccountKey secp seed account tx.extendedPubkey →
    tx.checkInput lib secp context = .ok () →
    tx.SignsFromSender lib secp seed ∧ InAccount account tx.hdPath := by
  intro hall
  obtain ⟨⟨key, hkey, hsender⟩, -⟩ := hall _ _ .sample sampleSecp (sampleTx '1') ⟨Block.zero 4, []⟩ []
    sampleAccount (isAccountKey_sample '1') (by decide)
  have hother : Keys.getExtendedPrivateKeyBySeed sampleSecp [] (sampleTx '1').hdPath
      = .ok [.hardened 44, .hardened 195, .hardened 1, .normal 0, .normal 0] := by
    decide
  cases hkey.symm.trans hother
  revert hsender
  decide

end Keystone3.Tron
