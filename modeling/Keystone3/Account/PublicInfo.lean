import Keystone3.Account.Keystore

/-!
# The public keys of the current account

`account_public_info.c`. Logging in needs the public keys of every chain, and deriving
them is slow, so they are kept as a JSON text in the account's flash area with their
hash in the secure element. `accountPublicInfoSwitch` reads the text back and checks it
against the hash; a text whose size word is erased or that does not parse is made
afresh, one whose hash differs is refused.
-/

namespace Keystone3

open Logic.Prog
open Bytes (toLe ofLe)

def skipChainItem (mnemonicType : MnemonicType) (item : ChainItem) : Bool :=
  (mnemonicType == .slip39 &&
    (item.cryptoKey == .bip32Ed25519 || item.cryptoKey == .ledgerBitbox02)) ||
  item.cryptoKey == .tonChecksum || item.cryptoKey == .tonNative

/-- The loop over the chain table: the values of the rows, and the error code
of the row that ended it. `none` is a failed assertion. -/
def deriveChainKeys (env : Env) (mnemonicType : MnemonicType) (seed : List UInt8)
    (icarusMasterKey ledgerBitbox02Key : Option CString) :
    List ChainItem → Option (List (Option CString) × Option Int)
  | [] => some ([], none)
  | item :: items =>
    let rest := deriveChainKeys env mnemonicType seed icarusMasterKey ledgerBitbox02Key items
    if skipChainItem mnemonicType item then
      rest.map fun r => (none :: r.1, r.2)
    else
      match env.wallet.processKeyType seed item icarusMasterKey ledgerBitbox02Key with
      | none =>
        if item.cryptoKey = .rsaKey then rest.map fun r => (none :: r.1, r.2) else none
      | some (.error code) => some (none :: items.map fun _ => none, some code)
      | some (.ok xPub) => rest.map fun r => (some xPub :: r.1, r.2)

/-- `CHECK_AND_FREE_XPUB`: a null response fails an assertion. -/
def checkXPub (response : Option (Except Int CString)) : Account CString :=
  match response with
  | none => halt
  | some r => ofExcept (r.mapError .external)

def hexDigit (n : UInt8) : UInt8 := if n < 10 then 48 + n else 87 + n

/-- `%02x` of every byte. -/
def hexOfBytes (bs : List UInt8) : CString :=
  bs.flatMap fun (b : UInt8) => [hexDigit (b >>> 4), hexDigit (b &&& 0x0F)]

def freePublicKeyRam (env : Env) : Account Unit :=
  modify fun d => { d with
    tempPublicKeyAccountIndex := none
    accountPublicInfo := env.wallet.chainTable.map fun _ => none }

/-- Set `g_accountPublicInfo`. -/
def setAccountPublicInfo (keys : List (Option CString)) : Account Unit :=
  modify fun d => { d with accountPublicInfo := keys }

def setIsTempAccount (isTemp : Bool) : Account Unit :=
  modify fun d => { d with isTempAccount := isTemp }

def bip39MasterKeys (env : Env) (entropy : List UInt8) (passphrase : CString) :
    Option (Except Int CString) × Option (Except Int CString) :=
  let mnemonic := (env.wallet.bip39MnemonicFromBytes entropy).toOption
  (env.wallet.getIcarusMasterKey entropy passphrase,
    env.wallet.getLedgerBitbox02MasterKey mnemonic passphrase)

/-- The values of the chain table for the current account, and the error code
of the row that ended the loop. A TON account has two rows only. -/
def derivePublicKeys (env : Env) (mnemonicType : MnemonicType) (seed entropy : List UInt8)
    (passphrase : CString) : Account (List (Option CString) × Option Int) := do
  match mnemonicType with
  | .ton => do
    let xPub ← checkXPub
      (env.wallet.processKeyType seed { cryptoKey := .tonNative, path := [] } none none)
    let checksum := hexOfBytes (env.crypto.sha256 entropy).bytes
    return (env.wallet.chainTable.map fun item =>
      if item.cryptoKey = .tonNative then some xPub
      else if item.cryptoKey = .tonChecksum then some checksum else none, none)
  | .slip39 => chainKeys none none
  | .bip39 => do
    let masterKeys := bip39MasterKeys env entropy passphrase
    let icarusMasterKey ← checkXPub masterKeys.1
    let ledgerBitbox02Key ← checkXPub masterKeys.2
    chainKeys (some icarusMasterKey) (some ledgerBitbox02Key)
where
  chainKeys (icarusMasterKey ledgerBitbox02Key : Option CString) :
      Account (List (Option CString) × Option Int) :=
    match deriveChainKeys env mnemonicType seed icarusMasterKey ledgerBitbox02Key
      env.wallet.chainTable with
    | none => halt
    | some r => pure r

def writePublicInfo (env : Env) (accountIndex : AccountIndex) (jsonString : CString) :
    Account Unit := do
  eraseArea env accountIndex .data
  ignore (setWalletDataHash env accountIndex (env.crypto.sha256 jsonString))
  gd25FlashWriteBuffer env accountIndex .data 0 (toLe 4 jsonString.length)
  gd25FlashWriteBuffer env accountIndex .data 4 jsonString

def accountPublicSavePublicInfo (env : Env) (accountIndex : AccountIndex) (password : CString) :
    Account Unit := do
  let mnemonicType ← getMnemonicType
  let d ← get
  let len := if mnemonicType = .slip39 then d.currentAccountInfo.entropyLen.toNat else 64
  freePublicKeyRam env
  let seed ← getAccountSeed env accountIndex password
  let entropy ← getAccountEntropy env accountIndex password
  let keys ← derivePublicKeys env mnemonicType (seed.take len) entropy
    (d.passphraseInfo accountIndex).passphrase
  setAccountPublicInfo keys.1
  writePublicInfo env accountIndex (env.wallet.jsonOfPublicKeys keys.1)
  match keys.2 with
  | none => pure ()
  | some code => throw (.external code)

def publicInfoSize (d : Device) (i : AccountIndex) : Nat := ofLe (Flash.read (d.flash i .data) 0 4)

def publicInfoText (d : Device) (i : AccountIndex) : CString :=
  Flash.read (d.flash i .data) 4 (publicInfoSize d i)

def accountPublicInfoReadFromFlash (env : Env) (accountIndex : AccountIndex) : Account Unit := do
  let d ← get
  if publicInfoSize d accountIndex > UserArea.data.size - 4 then
    throw .generalFail
  else do
    let jsonString := publicInfoText d accountIndex
    if ← verifyWalletDataHash env accountIndex (env.crypto.sha256 jsonString) then
      match env.wallet.publicKeysOfJson jsonString with
      | some keys => setAccountPublicInfo keys
      | none => throw .generalFail
    else
      throw .keystoreExtendPublicKeyNotMatch

def accountPublicInfoSwitch (env : Env) (accountIndex : AccountIndex) (password : CString)
    (newKey : Bool) : Account Unit := do
  setIsTempAccount false
  freePublicKeyRam env
  if newKey then
    accountPublicSavePublicInfo env accountIndex password
  else
    match ← attempt (accountPublicInfoReadFromFlash env accountIndex) with
    | .ok () => pure ()
    | .error .generalFail => accountPublicSavePublicInfo env accountIndex password
    | .error e => throw e

/-- The rows of the chain table for a passphrase account. Unlike in
`AccountPublicSavePublicInfo` the loop over the table swallows its error, and
an error of a master key does not stop it. -/
def deriveTempKeys (env : Env) (mnemonicType : MnemonicType) (seed entropy : List UInt8)
    (passphrase : CString) : Account (List (Option CString) × Option Int) :=
  match mnemonicType with
  | .ton => halt
  | .slip39 => tempKeys none none none
  | .bip39 =>
    match bip39MasterKeys env entropy passphrase with
    | (some (.ok icarus), some (.ok ledger)) => tempKeys (some icarus) (some ledger) none
    | (some (.error code), _) => tempKeys none none (some code)
    | (some (.ok _), some (.error code)) => tempKeys none none (some code)
    | _ => halt
where
  tempKeys (icarusMasterKey ledgerBitbox02Key : Option CString) (ret : Option Int) :
      Account (List (Option CString) × Option Int) :=
    match deriveChainKeys env mnemonicType seed icarusMasterKey ledgerBitbox02Key
      env.wallet.chainTable with
    | none => halt
    | some r => pure (r.1, ret)

def tempAccountPublicInfo (env : Env) (accountIndex : AccountIndex) (password : CString)
    (set : Bool) : Account Unit := do
  let mnemonicType ← getMnemonicType
  assert (mnemonicType != .ton)
  let d ← get
  let len := if mnemonicType = .slip39 then d.currentAccountInfo.entropyLen.toNat else 64
  let passphrase := (d.passphraseInfo accountIndex).passphrase
  setIsTempAccount (!passphrase.isEmpty)
  if d.tempPublicKeyAccountIndex = some accountIndex ∧ set = false then
    pure ()
  else do
    freePublicKeyRam env
    let seed ← getAccountSeed env accountIndex password
    let entropy ← getAccountEntropy env accountIndex password
    let keys ← deriveTempKeys env mnemonicType (seed.take len) entropy passphrase
    setAccountPublicInfo keys.1
    modify fun d => { d with tempPublicKeyAccountIndex := some accountIndex }
    match keys.2 with
    | none => pure ()
    | some code => throw (.external code)

def deleteAccountPublicInfo (env : Env) (accountIndex : AccountIndex) : Account Unit := do
  eraseArea env accountIndex .data
  eraseArea env accountIndex .mutableData
  eraseArea env accountIndex .multiSigData
  freePublicKeyRam env

/-- The observables that the public keys in RAM cannot change. -/
structure IgnoresKeyRam {β : Type} (f : Device → β) : Prop extends Blind f where
  keys : ∀ (d : Device) (ks : List (Option CString)), f { d with accountPublicInfo := ks } = f d
  temp : ∀ (d : Device) (t : Option AccountIndex), f { d with tempPublicKeyAccountIndex := t } = f d
  isTemp : ∀ (d : Device) (b : Bool), f { d with isTempAccount := b } = f d

/-- The observables that the public keys of account `i`, in RAM, in flash and
as a hash in the secure element, cannot change. -/
structure IgnoresPublicInfo {β : Type} (i : AccountIndex) (f : Device → β) : Prop
    extends IgnoresKeyRam f where
  hash : ∀ (d : Device) (x : Page), f (d.setPage (walletHashPage i) x) = f d
  flash : ∀ (d : Device) (a : UserArea) (g : Flash.Cells → Flash.Cells), f (d.setFlash i a g) = f d

section

variable {β : Type} {f : Device → β} {i : AccountIndex} (env : Env)

theorem frame_freePublicKeyRam (hf : IgnoresKeyRam f) :
    Frame (Keeps f) (freePublicKeyRam env) :=
  fun d => (hf.keys { d with tempPublicKeyAccountIndex := none } _).trans (hf.temp d none)

theorem frame_checkXPub (r : Option (Except Int CString)) : Frame (Keeps f) (checkXPub r) := by
  cases r with
  | none => exact frame_halt (keeps_preorder f)
  | some r => exact frame_ofExcept (keeps_preorder f) _

theorem frame_derivePublicKeys (t : MnemonicType) (seed entropy : List UInt8)
    (passphrase : CString) : Frame (Keeps f) (derivePublicKeys env t seed entropy passphrase) := by
  have hR := keeps_preorder f
  have hchain : ∀ a b, Frame (Keeps f) (derivePublicKeys.chainKeys env t seed a b) := by
    intro a b
    unfold derivePublicKeys.chainKeys
    split
    · exact frame_halt hR
    · exact frame_pure hR _
  unfold derivePublicKeys
  split
  · exact frame_bind hR (frame_checkXPub _) fun _ => frame_pure hR _
  · exact hchain _ _
  · exact frame_bind hR (frame_checkXPub _) fun _ =>
      frame_bind hR (frame_checkXPub _) fun _ => hchain _ _

theorem frame_writePublicInfo (hf : IgnoresPublicInfo i f) (json : CString) :
    Frame (Keeps f) (writePublicInfo env i json) := by
  have hR := keeps_preorder f
  have hb := hf.toBlind
  exact frame_bind hR (frame_eraseArea env hb fun d g => hf.flash d _ g) fun _ =>
    frame_bind hR (frame_ignore (frame_seHmacEncryptWrite env hb fun d => hf.hash d _)) fun _ =>
    frame_bind hR (frame_gd25FlashWriteBuffer env hb (fun d g => hf.flash d _ g) _ _) fun _ =>
    frame_gd25FlashWriteBuffer env hb (fun d g => hf.flash d _ g) _ _

theorem frame_accountPublicSavePublicInfo (hf : IgnoresPublicInfo i f) (password : CString) :
    Frame (Keeps f) (accountPublicSavePublicInfo env i password) := by
  have hR := keeps_preorder f
  refine frame_bind hR frame_getMnemonicType fun t => frame_bind hR (frame_get hR) fun d =>
    frame_bind hR (frame_freePublicKeyRam env hf.toIgnoresKeyRam) fun _ =>
    frame_bind hR (frame_getAccountSeed env hf.toBlind i password) fun seed =>
    frame_bind hR (frame_getAccountEntropy env hf.toBlind i password) fun entropy =>
    frame_bind hR (frame_derivePublicKeys env _ _ _ _) fun keys =>
    frame_bind hR (frame_modify fun d => hf.keys d _) fun _ =>
    frame_bind hR (frame_writePublicInfo env hf _) fun _ => ?_
  split
  · exact frame_pure hR _
  · exact frame_throw hR _

theorem frame_accountPublicInfoReadFromFlash (hf : Blind f)
    (hh : ∀ (d : Device) (x : Page), f (d.setPage (walletHashPage i) x) = f d)
    (hk : ∀ (d : Device) (ks : List (Option CString)), f { d with accountPublicInfo := ks } = f d) :
    Frame (Keeps f) (accountPublicInfoReadFromFlash env i) := by
  have hR := keeps_preorder f
  refine frame_bind hR (frame_get hR) fun d => ?_
  split
  · exact frame_throw hR _
  · refine frame_bind hR (frame_verifyDataHash env hf hh _) fun b => ?_
    split
    · split
      · exact frame_modify fun d => hk d _
      · exact frame_throw hR _
    · exact frame_throw hR _

theorem frame_accountPublicInfoSwitch (hf : IgnoresPublicInfo i f) (password : CString)
    (newKey : Bool) : Frame (Keeps f) (accountPublicInfoSwitch env i password newKey) := by
  have hR := keeps_preorder f
  refine frame_bind hR (frame_modify fun d => hf.isTemp d _) fun _ =>
    frame_bind hR (frame_freePublicKeyRam env hf.toIgnoresKeyRam) fun _ => ?_
  split
  · exact frame_accountPublicSavePublicInfo env hf password
  · refine frame_bind hR (frame_attempt (frame_accountPublicInfoReadFromFlash env hf.toBlind
      hf.hash hf.keys)) fun r => ?_
    split
    · exact frame_pure hR _
    · exact frame_accountPublicSavePublicInfo env hf password
    · exact frame_throw hR _

theorem frame_deriveTempKeys (t : MnemonicType) (seed entropy : List UInt8)
    (passphrase : CString) : Frame (Keeps f) (deriveTempKeys env t seed entropy passphrase) := by
  have hR := keeps_preorder f
  have htemp : ∀ a b ret, Frame (Keeps f) (deriveTempKeys.tempKeys env t seed a b ret) := by
    intro a b ret
    unfold deriveTempKeys.tempKeys
    split
    · exact frame_halt hR
    · exact frame_pure hR _
  unfold deriveTempKeys
  split
  · exact frame_halt hR
  · exact htemp _ _ _
  · split
    · exact htemp _ _ _
    · exact htemp _ _ _
    · exact htemp _ _ _
    · exact frame_halt hR

theorem frame_tempAccountPublicInfo (hf : IgnoresKeyRam f) (i : AccountIndex)
    (password : CString) (set : Bool) : Frame (Keeps f) (tempAccountPublicInfo env i password set) := by
  have hR := keeps_preorder f
  refine frame_bind hR frame_getMnemonicType fun t => frame_bind hR (frame_assert hR _) fun _ =>
    frame_bind hR (frame_get hR) fun d => frame_bind hR (frame_modify fun d => hf.isTemp d _)
    fun _ => ?_
  split
  · exact frame_pure hR _
  · refine frame_bind hR (frame_freePublicKeyRam env hf) fun _ =>
      frame_bind hR (frame_getAccountSeed env hf.toBlind i password) fun seed =>
      frame_bind hR (frame_getAccountEntropy env hf.toBlind i password) fun entropy =>
      frame_bind hR (frame_deriveTempKeys env _ _ _ _) fun keys =>
      frame_bind hR (frame_modify fun d => hf.keys d _) fun _ =>
      frame_bind hR (frame_modify fun d => hf.temp d _) fun _ => ?_
    split
    · exact frame_pure hR _
    · exact frame_throw hR _

theorem frame_deleteAccountPublicInfo (hf : IgnoresPublicInfo i f) :
    Frame (Keeps f) (deleteAccountPublicInfo env i) := by
  have hR := keeps_preorder f
  have h : ∀ a, Frame (Keeps f) (eraseArea env i a) := fun a =>
    frame_eraseArea env hf.toBlind fun d g => hf.flash d a g
  exact frame_bind hR (h _) fun _ => frame_bind hR (h _) fun _ => frame_bind hR (h _) fun _ =>
    frame_freePublicKeyRam env hf.toIgnoresKeyRam

end

end Keystone3
