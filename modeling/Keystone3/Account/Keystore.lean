import Keystone3.Account.Secret

/-!
# Passwords and new accounts

The rest of `keystore.c`: which account a password belongs to, changing a password, and
saving the entropy of a new account.

An account is found by its password alone: `verifyPassword` compares the hash of the
password with the password-hash page of each account in turn and takes the first that
matches.
-/

namespace Keystone3

open Logic.Prog
open Bytes (Block)

/-- An entropy of one of the lengths the wallet supports. -/
structure Entropy where
  bytes : List UInt8
  supported : bytes.length ∈ [16, 20, 24, 28, 32]

def Entropy.len (e : Entropy) : UInt8 := UInt8.ofNat e.bytes.length

theorem Entropy.len_ne_zero (e : Entropy) : e.len ≠ 0 := by
  have h := e.supported
  simp only [List.mem_cons, List.not_mem_nil, or_false] at h
  unfold len
  rcases h with h | h | h | h | h <;> rw [h] <;> decide

def accountIndices : List AccountIndex := [0, 1, 2]

def firstAccount : AccountIndex := 0

/-- The loop of `VerifyPassword` over the accounts that are left. -/
def verifyPasswordFrom (env : Env) (password : CString) : List AccountIndex → Account AccountIndex
  | [] => throw .keystorePasswordErr
  | i :: is => do
    let passwordHashStore ← seHmacEncryptRead env (accountPage i pageIndexPasswordHash)
    if passwordHashStore = passwordHashOf env password then
      return i
    else
      verifyPasswordFrom env password is

def verifyPassword (env : Env) (password : CString) : Account AccountIndex :=
  verifyPasswordFrom env password accountIndices

/-- `CheckPasswordExisted`; no exclusion is `excludeIndex = 255`. -/
def checkPasswordExisted (env : Env) (password : CString) (excludeIndex : Option AccountIndex) :
    Account Unit := do
  match ← attempt (verifyPassword env password) with
  | .ok accountIndex => require (excludeIndex == some accountIndex) .keystoreRepeatPassword
  | .error .keystorePasswordErr => pure ()
  | .error e => throw e

def writePasswordHash (env : Env) (accountIndex : AccountIndex) (password : CString) :
    Account Unit :=
  seHmacEncryptWrite env (passwordHashOf env password)
    (accountPage accountIndex pageIndexPasswordHash)

def changePassword (env : Env) (accountIndex : AccountIndex) (newPassword password : CString) :
    Account Unit := do
  checkPasswordExisted env newPassword (some accountIndex)
  let accountSecret ← loadAccountSecret env accountIndex password
  saveAccountSecret env accountIndex accountSecret newPassword false
  writePasswordHash env accountIndex newPassword

/-- What the three routines below share. A secret that is `none` leaves the routine with its
return code at success. -/
def saveNewSecret (env : Env) (accountIndex : AccountIndex) (password : CString)
    (secret : Except ErrCode (Option AccountSecret)) : Account Unit := do
  checkPasswordExisted env password none
  match ← ofExcept secret with
  | none => pure ()
  | some accountSecret => do
    saveAccountSecret env accountIndex accountSecret password true
    writePasswordHash env accountIndex password

def bip39Secret (env : Env) (entropy : Entropy) : Except ErrCode (Option AccountSecret) := do
  let mnemonic ← (env.wallet.bip39MnemonicFromBytes entropy.bytes).mapError .external
  let seed ← (env.wallet.bip39MnemonicToSeed mnemonic []).mapError .external
  return some { AccountSecret.cleared with
    entropy := Block.ofBytes 32 entropy.bytes
    seed := seed
    entropyLen := entropy.len }

def slip39Secret (ems entropy : Entropy) : AccountSecret :=
  { AccountSecret.cleared with
    entropy := Block.ofBytes 32 entropy.bytes
    seed := Block.ofBytes 64 entropy.bytes
    slip39EmsOrTonEntropyL32 := Block.ofBytes 32 (ems.bytes.take entropy.bytes.length)
    entropyLen := entropy.len }

/-- The secret of a TON mnemonic; an error of `ton_entropy_to_seed` is not
reported. -/
def tonSecret (env : Env) (mnemonic : CString) : Option AccountSecret :=
  let entropy := env.wallet.tonMnemonicToEntropy mnemonic
  match env.wallet.tonEntropyToSeed entropy with
  | .error _ => none
  | .ok seed => some { AccountSecret.cleared with
      entropy := Block.front (m := 32) (n := 32) entropy
      seed := seed
      slip39EmsOrTonEntropyL32 := Block.back (m := 32) (n := 32) entropy
      entropyLen := 32 }

def saveNewBip39Entropy (env : Env) (accountIndex : AccountIndex) (entropy : Entropy)
    (password : CString) : Account Unit :=
  saveNewSecret env accountIndex password (bip39Secret env entropy)

/-- `SaveNewSlip39Entropy`; its identifier and exponent arguments are unused. -/
def saveNewSlip39Entropy (env : Env) (accountIndex : AccountIndex) (ems entropy : Entropy)
    (password : CString) : Account Unit :=
  saveNewSecret env accountIndex password (.ok (some (slip39Secret ems entropy)))

def saveNewTonMnemonic (env : Env) (accountIndex : AccountIndex) (mnemonic password : CString) :
    Account Unit :=
  saveNewSecret env accountIndex password (.ok (tonSecret env mnemonic))

def getAccountEntropy (env : Env) (accountIndex : AccountIndex) (password : CString) :
    Account (List UInt8) := do
  let accountSecret ← loadAccountSecret env accountIndex password
  match ← getMnemonicType with
  | .ton =>
    return accountSecret.entropy.bytes ++ accountSecret.slip39EmsOrTonEntropyL32.bytes
  | _ => return accountSecret.entropy.bytes.take accountSecret.entropyLen.toNat

def getAccountSlip39Ems (env : Env) (accountIndex : AccountIndex) (password : CString) :
    Account Page := do
  let accountSecret ← loadAccountSecret env accountIndex password
  return accountSecret.slip39EmsOrTonEntropyL32

def passphraseExist (accountIndex : AccountIndex) : Account Bool := do
  let d ← get
  let info := d.passphraseInfo accountIndex
  assert (info.passphraseExist == !info.passphrase.isEmpty)
  return !info.passphrase.isEmpty

def clearAccountPassphrase (accountIndex : AccountIndex) : Account Unit :=
  modify fun d => { d with passphraseInfo := fun j =>
    if j = accountIndex then PassphraseInfo.cleared else d.passphraseInfo j }

/-- The return code of `GetAccountSlip39Ems` is ignored. -/
def getPassphraseSeed (env : Env) (accountIndex : AccountIndex) (passphrase password : CString) :
    Account (List UInt8) := do
  let mnemonicType ← getMnemonicType
  assert (mnemonicType != .ton)
  match mnemonicType with
  | .slip39 => do
    let garbage ← stackGarbage env
    let slip39Ems := match ← attempt (getAccountSlip39Ems env accountIndex password) with
      | .ok ems => ems
      | .error _ => Block.front (m := 32) (n := 32) garbage
    let d ← get
    let info := d.currentAccountInfo
    ofExcept ((env.wallet.slip39GetSeed (slip39Ems.bytes.take info.entropyLen.toNat) passphrase
      info.slip39Ie info.slip39Eb info.slip39Id).mapError .external)
  | _ => do
    let entropy ← getAccountEntropy env accountIndex password
    let mnemonic ← ofExcept ((env.wallet.bip39MnemonicFromBytes entropy).mapError .external)
    let seed ← ofExcept ((env.wallet.bip39MnemonicToSeed mnemonic passphrase).mapError .external)
    return seed.bytes

def getAccountSeed (env : Env) (accountIndex : AccountIndex) (password : CString) :
    Account (List UInt8) := do
  let accountSecret ← loadAccountSecret env accountIndex password
  if ← passphraseExist accountIndex then do
    let d ← get
    getPassphraseSeed env accountIndex (d.passphraseInfo accountIndex).passphrase password
  else do
    let mnemonicType ← getMnemonicType
    let seedLen := if mnemonicType = .slip39 then accountSecret.entropyLen.toNat else 64
    return accountSecret.seed.bytes.take seedLen

section

variable {β : Type} {f : Device → β} {R : Device → Device → Prop} (env : Env)

theorem frame_verifyPasswordFrom (h : Reading R) (password : CString) :
    ∀ is, Frame R (verifyPasswordFrom env password is)
  | [] => frame_throw h.toPreorder _
  | i :: is => by
    refine frame_bind h.toPreorder (frame_seHmacEncryptRead env h _) fun x => ?_
    split
    · exact frame_pure h.toPreorder _
    · exact frame_verifyPasswordFrom h password is

theorem frame_verifyPassword (h : Reading R) (password : CString) :
    Frame R (verifyPassword env password) := frame_verifyPasswordFrom env h password _

theorem frame_checkPasswordExisted (h : Reading R) (password : CString)
    (excludeIndex : Option AccountIndex) :
    Frame R (checkPasswordExisted env password excludeIndex) := by
  have hR := h.toPreorder
  refine frame_bind hR (frame_attempt (frame_verifyPassword env h password)) fun r => ?_
  split
  · exact frame_require hR _ _
  · exact frame_pure hR _
  · exact frame_throw hR _

/-- The observables that the write of one password-hash page cannot change. -/
def MissesHash (i : AccountIndex) (f : Device → β) : Prop :=
  ∀ (d : Device) (x : Page), f (d.setPage (accountPage i pageIndexPasswordHash) x) = f d

theorem frame_writePasswordHash (hf : Blind f) {i : AccountIndex} (h : MissesHash i f)
    (password : CString) : Frame (Keeps f) (writePasswordHash env i password) :=
  frame_seHmacEncryptWrite env hf fun d => h d _

theorem frame_changePassword {i : AccountIndex} (hf : Misses i secretPages f)
    (hh : MissesHash i f) (newPassword password : CString) :
    Frame (Keeps f) (changePassword env i newPassword password) := by
  have hR := keeps_preorder f
  exact frame_bind hR (frame_checkPasswordExisted env hf.toBlind.reading _ _) fun _ =>
    frame_bind hR (frame_loadAccountSecret env hf.toBlind.reading _ _) fun _ =>
    frame_bind hR (frame_saveAccountSecret env hf _ _) fun _ =>
    frame_writePasswordHash env hf.toBlind hh _

theorem frame_saveNewSecret {i : AccountIndex} (hf : Misses i secretPages f)
    (hi : IgnoresInfo f) (hh : MissesHash i f) (password : CString)
    (secret : Except ErrCode (Option AccountSecret)) :
    Frame (Keeps f) (saveNewSecret env i password secret) := by
  have hR := keeps_preorder f
  refine frame_bind hR (frame_checkPasswordExisted env hf.toBlind.reading _ _) fun _ =>
    frame_bind hR (frame_ofExcept hR _) fun s => ?_
  split
  · exact frame_pure hR _
  · exact frame_bind hR (frame_saveAccountSecret_new env hf hi _ _ _) fun _ =>
      frame_writePasswordHash env hf.toBlind hh _

theorem frame_getAccountEntropy (hf : Blind f) (i : AccountIndex) (password : CString) :
    Frame (Keeps f) (getAccountEntropy env i password) := by
  have hR := keeps_preorder f
  refine frame_bind hR (frame_loadAccountSecret env hf.reading i password) fun s =>
    frame_bind hR frame_getMnemonicType fun t => ?_
  split <;> exact frame_pure hR _

theorem frame_passphraseExist (i : AccountIndex) : Frame (Keeps f) (passphraseExist i) := by
  have hR := keeps_preorder f
  exact frame_bind hR (frame_get hR) fun _ => frame_bind hR (frame_assert hR _) fun _ =>
    frame_pure hR _

theorem frame_getPassphraseSeed (hf : Blind f) (i : AccountIndex)
    (passphrase password : CString) :
    Frame (Keeps f) (getPassphraseSeed env i passphrase password) := by
  have hR := keeps_preorder f
  refine frame_bind hR frame_getMnemonicType fun t =>
    frame_bind hR (frame_assert hR _) fun _ => ?_
  split
  · refine frame_bind hR (frame_stackGarbage env hR) fun g =>
      frame_bind hR (frame_attempt (frame_bind hR (frame_loadAccountSecret env hf.reading i password)
        fun _ => frame_pure hR _)) fun r => ?_
    exact frame_bind hR (frame_get hR) fun d => frame_ofExcept hR _
  · exact frame_bind hR (frame_getAccountEntropy env hf i password) fun _ =>
      frame_bind hR (frame_ofExcept hR _) fun _ => frame_bind hR (frame_ofExcept hR _) fun _ =>
      frame_pure hR _

theorem frame_getAccountSeed (hf : Blind f) (i : AccountIndex) (password : CString) :
    Frame (Keeps f) (getAccountSeed env i password) := by
  have hR := keeps_preorder f
  refine frame_bind hR (frame_loadAccountSecret env hf.reading i password) fun s =>
    frame_bind hR (frame_passphraseExist i) fun e => ?_
  split
  · exact frame_bind hR (frame_get hR) fun _ => frame_getPassphraseSeed env hf i _ _
  · exact frame_bind hR frame_getMnemonicType fun _ => frame_pure hR _

end

def passwordHashes (d : Device) : AccountIndex → Page :=
  fun i => d.page (accountPage i pageIndexPasswordHash)

theorem blind_passwordHashes : Blind passwordHashes := ⟨fun _ => rfl, fun _ => rfl, fun _ _ => rfl⟩

section

variable {env : Env} {password : CString} {g : AccountIndex → Page}

theorem triple_verifyPasswordFrom :
    ∀ is, Triple (fun d => passwordHashes d = g) (verifyPasswordFrom env password is)
      (fun i _ => g i = passwordHashOf env password)
      (fun e _ => e = .keystorePasswordErr → ∀ i ∈ is, g i ≠ passwordHashOf env password)
      (fun _ => True)
  | [] => triple_throw fun _ _ _ i hi => absurd hi List.not_mem_nil
  | i :: is => by
    refine triple_bind (Q := fun x d => passwordHashes d = g ∧ x = g i) (triple_seRead
      (fun d hd _ => ⟨hd, congrFun hd i⟩) (fun d st _ _ _ he => absurd he ErrCode.noConfusion)
      fun _ _ _ _ => trivial) fun x => ?_
    split
    · next hx =>
      refine triple_pure fun d hd => ?_
      exact hd.2.symm.trans hx
    · next hx =>
      intro d hd
      refine triple_conseq (P := fun d => passwordHashes d = g ∧ x = g i)
        (triple_verifyPasswordFrom is) (fun _ h => h.1) (fun _ _ h => h)
        (fun e _ h he j hj => ?_) (fun _ h => h) d hd
      rcases List.mem_cons.mp hj with rfl | hj
      · exact fun hg => hx (hd.2.trans hg)
      · exact h he j hj

theorem mem_accountIndices (i : AccountIndex) : i ∈ accountIndices := by
  revert i
  decide

theorem triple_checkPasswordExisted {excludeIndex : Option AccountIndex} :
    Triple (fun d => passwordHashes d = g) (checkPasswordExisted env password excludeIndex)
      (fun _ d => passwordHashes d = g ∧
        ((∀ i, g i ≠ passwordHashOf env password) ∨
          ∃ i, excludeIndex = some i ∧ g i = passwordHashOf env password))
      (fun _ _ => True) (fun _ => True) := by
  have hscan : Triple _ (verifyPasswordFrom env password accountIndices) _ _ _ :=
    triple_verifyPasswordFrom (g := g) accountIndices
  have hverify := triple_and hscan
    (triple_of_frame (I := fun d => passwordHashes d = g)
      (frame_verifyPassword env blind_passwordHashes.reading password) fun _ _ h hI => h.trans hI)
  refine triple_bind (Q := fun r d => passwordHashes d = g ∧
      (∀ i, r = .ok i → g i = passwordHashOf env password) ∧
      (r = .error .keystorePasswordErr → ∀ i, g i ≠ passwordHashOf env password))
    (triple_attempt (triple_conseq hverify (fun _ h => ⟨h, h⟩)
      (fun i _ h => ⟨h.2, ?_, ?_⟩) (fun e _ h => ⟨h.2, ?_, ?_⟩) fun _ _ => trivial)) fun r => ?_
  · rintro j ⟨⟩
    exact h.1
  · exact nofun
  · exact nofun
  · rintro ⟨⟩ i
    exact h.1 rfl i (mem_accountIndices i)
  · split
    · next i =>
      refine triple_require (fun hc d hd => ⟨hd.1, .inr ⟨i, eq_of_beq hc, hd.2.1 i rfl⟩⟩)
        fun _ _ _ => trivial
    · exact triple_pure fun d hd => ⟨hd.1, .inl (hd.2.2 rfl)⟩
    · exact triple_throw fun _ _ => trivial

end

end Keystone3
