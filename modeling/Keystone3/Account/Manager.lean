import Keystone3.Account.PublicInfo

/-!
# Creating, destroying and logging in to accounts

`account_manager.c`, and the two boot steps that look at its pages.

`accountsDataCheck` is what repairs a slot that a power loss left half written: it
clears a slot of which just one of the IV page and the password-hash page looks written.
-/

namespace Keystone3

open Logic.Prog
open Bytes (Block toLe)

/-- The zeroes `DestroyAccount` and `AccountsDataCheck` write over an account. -/
def zeroPages : List (PageIndex × Page) := (List.finRange pageNumPerAccount).map (·, Block.zero 32)

def logoutCurrentAccount : Account Unit := modify fun d => { d with currentAccountIndex := none }

def destroyAccount (env : Env) (accountIndex : AccountIndex) : Account Unit := do
  let ret ← attempt (writePages env accountIndex zeroPages)
  deleteAccountPublicInfo env accountIndex
  clearAccountPassphrase accountIndex
  ignore (setWalletDataHash env accountIndex (Block.zero 32))
  logoutCurrentAccount
  setInfo fun _ => AccountInfo.cleared
  ofExcept ret

def takeSlot (env : Env) (accountIndex : AccountIndex) (info : AccountInfo) : Account Unit := do
  ignore (destroyAccount env accountIndex)
  setInfo fun _ => info
  modify fun d => { d with currentAccountIndex := some accountIndex }

/-- `SetWalletName` and `SetWalletIconIndex` from the secret cache. -/
def storeWalletName (env : Env) : Account Unit := do
  let d ← get
  setWalletName env d.walletName
  setWalletIconIndex env d.walletIconIndex

def fillSlot (env : Env) (accountIndex : AccountIndex) (password : CString) (save : Account Unit)
    (last : AccountInfo → AccountInfo) : Account Unit := do
  storeWalletName env
  save
  setInfo last
  saveCurrentAccountInfo env
  accountPublicInfoSwitch env accountIndex password true

/-- What the creators share: the parameters they start from, the routine that
saves the secret, and the parameters they store last. -/
def createAccount (env : Env) (accountIndex : AccountIndex) (password : CString)
    (info : AccountInfo) (save : Account Unit) (last : AccountInfo → AccountInfo) :
    Account Unit := do
  takeSlot env accountIndex info
  fillSlot env accountIndex password save last

def createNewAccount (env : Env) (accountIndex : AccountIndex) (entropy : Entropy)
    (password : CString) : Account Unit :=
  createAccount env accountIndex password AccountInfo.cleared
    (saveNewBip39Entropy env accountIndex entropy password) id

def setSlip39Params (id : UInt16) (eb : Bool) (ie : UInt8) (a : AccountInfo) : AccountInfo :=
  { a with
    slip39Id := Block.ofBytes 2 (toLe 2 id.toNat)
    slip39IeEb := Block.single (ie ||| ((if eb then (1 : UInt8) else 0) <<< 4)) }

def createNewSlip39Account (env : Env) (accountIndex : AccountIndex) (ems entropy : Entropy)
    (password : CString) (id : UInt16) (eb : Bool) (ie : UInt8) : Account Unit :=
  createAccount env accountIndex password { AccountInfo.cleared with isSlip39 := true }
    (saveNewSlip39Entropy env accountIndex ems entropy password) (setSlip39Params id eb ie)

def createNewTonAccount (env : Env) (accountIndex : AccountIndex) (mnemonic password : CString) :
    Account Unit :=
  createAccount env accountIndex password { AccountInfo.cleared with isTon := true }
    (saveNewTonMnemonic env accountIndex mnemonic password) id

inductive Creation where
  | bip39 (entropy : Entropy)
  | slip39 (ems entropy : Entropy) (id : UInt16) (eb : Bool) (ie : UInt8)
  | ton (mnemonic : CString)

namespace Creation

def info : Creation → AccountInfo
  | bip39 _ => AccountInfo.cleared
  | slip39 .. => { AccountInfo.cleared with isSlip39 := true }
  | ton _ => { AccountInfo.cleared with isTon := true }

def secret (env : Env) : Creation → Except ErrCode (Option AccountSecret)
  | bip39 entropy => bip39Secret env entropy
  | slip39 ems entropy _ _ _ => .ok (some (slip39Secret ems entropy))
  | ton mnemonic => .ok (tonSecret env mnemonic)

def last : Creation → AccountInfo → AccountInfo
  | bip39 _ => id
  | slip39 _ _ id eb ie => setSlip39Params id eb ie
  | ton _ => id

def create (env : Env) (accountIndex : AccountIndex) (password : CString) :
    Creation → Account Unit
  | bip39 entropy => createNewAccount env accountIndex entropy password
  | slip39 ems entropy id eb ie =>
    createNewSlip39Account env accountIndex ems entropy password id eb ie
  | ton mnemonic => createNewTonAccount env accountIndex mnemonic password

theorem create_eq (env : Env) (i : AccountIndex) (password : CString) (c : Creation) :
    c.create env i password
      = createAccount env i password c.info (saveNewSecret env i password (c.secret env)) c.last := by
  cases c <;> rfl

end Creation

/-- Change `g_publicInfo` in RAM. -/
def setPublicInfo (f : PublicInfo → PublicInfo) : Account Unit :=
  modify fun d => { d with publicInfo := f d.publicInfo }

/-- `SE_HmacEncryptWrite((uint8_t *)&g_publicInfo, PAGE_PUBLIC_INFO)`. -/
def savePublicInfo (env : Env) : Account Unit := do
  let d ← get
  seHmacEncryptWrite env d.publicInfo.toPage pagePublicInfo

def PublicInfo.clearErrorCounts (p : PublicInfo) : PublicInfo :=
  { p with loginPasswordErrorCount := 0, currentPasswordErrorCount := 0 }

/-- What `VerifyPasswordAndLogin` does once the account is the current one. -/
def enterAccount (env : Env) (tempIndex : AccountIndex) (password : CString) :
    Account (Except ErrCode Unit) := do
  let ret ← attempt (readCurrentAccountInfo env)
  setPublicInfo PublicInfo.clearErrorCounts
  if ← passphraseExist tempIndex then do
    ignore (tempAccountPublicInfo env tempIndex password false)
    return ret
  else
    attempt (accountPublicInfoSwitch env tempIndex password false)

/-- The branch of `VerifyPasswordAndLogin` for a password that was found. -/
def login (env : Env) (tempIndex : AccountIndex) (password : CString) :
    Account (Except ErrCode Unit) := do
  modify fun d => { d with
    currentAccountIndex := some tempIndex
    lastAccountIndex := some tempIndex }
  enterAccount env tempIndex password

def verifyPasswordAndLogin (env : Env) (password : CString) : Account Unit := do
  match ← attempt (verifyPassword env password) with
  | .ok tempIndex => do
    let ret ← login env tempIndex password
    ignore (savePublicInfo env)
    ofExcept ret
  | .error e => do
    setPublicInfo fun p => { p with loginPasswordErrorCount := p.loginPasswordErrorCount + 1 }
    ignore (savePublicInfo env)
    throw e

def verifyCurrentAccountPassword (env : Env) (password : CString) : Account Unit := do
  let d ← get
  match d.currentAccountIndex with
  | none => throw .keystoreNotLogin
  | some accountIndex => do
    let passwordHashStore ← seHmacEncryptRead env (accountPage accountIndex pageIndexPasswordHash)
    -- the whole string here, not the first `passwordMaxLen` bytes of it
    let passwordHashClac := hashWithSalt env password "password hash"
    if passwordHashStore = passwordHashClac then do
      setPublicInfo fun p => { p with currentPasswordErrorCount := 0 }
      ignore (savePublicInfo env)
    else do
      setPublicInfo fun p =>
        { p with currentPasswordErrorCount := p.currentPasswordErrorCount + 1 }
      ignore (savePublicInfo env)
      throw .keystorePasswordErr

def clearCurrentPasswordErrorCount (env : Env) : Account Unit := do
  setPublicInfo PublicInfo.clearErrorCounts
  ignore (savePublicInfo env)

def erasePublicInfo (env : Env) : Account Unit := do
  setPublicInfo fun _ => PublicInfo.cleared
  savePublicInfo env

def setLastLockDeviceTime (env : Env) (timeStamp : UInt32) : Account Unit := do
  setPublicInfo fun p => { p with lastLockDeviceTime := timeStamp }
  ignore (savePublicInfo env)

def setCurrentAccountIndex : Account Unit :=
  modify fun d => { d with currentAccountIndex := d.lastAccountIndex }

def accountManagerIsNeedReset (d : Device) : Bool := !(d.publicInfo.loginPasswordErrorCount < 10)

def Device.restart (d : Device) : Device :=
  { d with
    currentAccountIndex := none
    lastAccountIndex := none
    currentAccountInfo := AccountInfo.cleared
    publicInfo := PublicInfo.cleared
    passphraseInfo := fun _ => PassphraseInfo.cleared
    accountPublicInfo := []
    tempPublicKeyAccountIndex := none
    isTempAccount := false
    walletName := none
    walletIconIndex := 0 }

/-- One round of `AccountsDataCheck`. -/
def accountDataCheck (env : Env) (accountIndex : AccountIndex) : Account Unit := do
  let iv ← seHmacEncryptRead env (accountPage accountIndex pageIndexIv)
  let passwordHash ← seHmacEncryptRead env (accountPage accountIndex pageIndexPasswordHash)
  if checkEntropy iv != checkEntropy passwordHash then
    ignore (writePages env accountIndex zeroPages)
  else
    pure ()

def accountsDataCheck (env : Env) : Account Unit :=
  ignore (each (accountDataCheck env) accountIndices)

def accountManagerInit (env : Env) : Account Unit := do
  let p ← seHmacEncryptRead env pagePublicInfo
  setPublicInfo fun _ => PublicInfo.ofPage p

/-- The erase of `PowerOnSelfCheck`: the counters, the accounts, the whole
flash; then a reset. -/
def wipeDevice (env : Env) : Account Unit := do
  ignore (erasePublicInfo env)
  each (fun i => ignore (destroyAccount env i)) accountIndices
  flashWrite env fun d => { d with flash := fun _ _ _ => Flash.erased }
  halt

/-- The account part of `PowerOnSelfCheck`. -/
def powerOnSelfCheck (env : Env) (wipeFlag : Bool) : Account Unit := do
  let d ← get
  if wipeFlag || accountManagerIsNeedReset d then wipeDevice env else pure ()

/-- The account part of `main`, from reset. -/
def powerOn (env : Env) (wipeFlag : Bool) : Account Unit := do
  modify Device.restart
  accountsDataCheck env
  ignore (accountManagerInit env)
  powerOnSelfCheck env wipeFlag

/-- The observables that nothing done to account `i` can change: its twelve
pages, its key slots, its public keys and its passphrase. -/
structure IgnoresAccount {β : Type} (i : AccountIndex) (f : Device → β) : Prop
    extends IgnoresPublicInfo i f where
  pages : ∀ (k : PageIndex) (d : Device) (x : Page), f (d.setPage (accountPage i k) x) = f d
  slots : ∀ s ∈ (getAccountSlot i).all, ∀ (d : Device) (x : Page), f (d.setSlot s x) = f d
  passphrase : ∀ (d : Device) (g : AccountIndex → PassphraseInfo),
    f { d with passphraseInfo := g } = f d

/-- The globals of the session: who is logged in, with which parameters. -/
structure IgnoresSession {β : Type} (f : Device → β) : Prop where
  info : ∀ (d : Device) (a : AccountInfo), f { d with currentAccountInfo := a } = f d
  current : ∀ (d : Device) (o : Option AccountIndex), f { d with currentAccountIndex := o } = f d

section

variable {β : Type} {f : Device → β} {i : AccountIndex} (env : Env)

theorem IgnoresAccount.misses (hf : IgnoresAccount i f) (ks : List PageIndex) :
    Misses i ks f where
  toBlind := hf.toBlind
  page := fun k _ => hf.pages k
  slot := hf.slots

theorem frame_zeroPages (hf : Blind f)
    (h : ∀ (k : PageIndex) (d : Device), f (d.setPage (accountPage i k) (Block.zero 32)) = f d) :
    Frame (Keeps f) (writePages env i zeroPages) := by
  refine frame_each (keeps_preorder f) zeroPages fun p hp =>
    frame_seHmacEncryptWrite env hf fun d => ?_
  obtain ⟨k, _, rfl⟩ := List.mem_map.mp hp
  exact h k d

theorem frame_destroyAccount (hf : IgnoresPublicInfo i f)
    (hp : ∀ (k : PageIndex) (d : Device), f (d.setPage (accountPage i k) (Block.zero 32)) = f d)
    (hpass : ∀ (d : Device) (g : AccountIndex → PassphraseInfo),
      f { d with passphraseInfo := g } = f d)
    (hs : IgnoresSession f) : Frame (Keeps f) (destroyAccount env i) := by
  have hR := keeps_preorder f
  exact frame_bind hR (frame_attempt (frame_zeroPages env hf.toBlind hp)) fun _ =>
    frame_bind hR (frame_deleteAccountPublicInfo env hf) fun _ =>
    frame_bind hR (frame_modify fun d => hpass d _) fun _ =>
    frame_bind hR (frame_ignore (frame_seHmacEncryptWrite env hf.toBlind fun d => hf.hash d _))
      fun _ =>
    frame_bind hR (frame_modify fun d => hs.current d _) fun _ =>
    frame_bind hR (frame_modify fun d => hs.info d _) fun _ => frame_ofExcept hR _

/-- The observables that the rest of a creation cannot change once account `i`
is the current one. -/
structure IgnoresCreation {β : Type} (i : AccountIndex) (f : Device → β) : Prop
    extends IgnoresPublicInfo i f where
  pages : ∀ (k : PageIndex) (d : Device) (x : Page), f (d.setPage (accountPage i k) x) = f d
  slots : ∀ s ∈ (getAccountSlot i).all, ∀ (d : Device) (x : Page), f (d.setSlot s x) = f d
  info : ∀ (d : Device) (a : AccountInfo), f { d with currentAccountInfo := a } = f d
  param : ∀ (d : Device) (j : AccountIndex) (x : Page),
    d.currentAccountIndex = some j → f (d.setPage (accountPage j pageIndexParam) x) = f d

theorem IgnoresCreation.toIgnoresInfo (hf : IgnoresCreation i f) : IgnoresInfo f where
  toBlind := hf.toBlind
  info := hf.info
  param := hf.param

theorem frame_storeWalletName (hf : IgnoresInfo f) : Frame (Keeps f) (storeWalletName env) :=
  frame_bind (keeps_preorder f) (frame_get (keeps_preorder f)) fun _ =>
    frame_bind (keeps_preorder f) (frame_setAndSave env hf _) fun _ => frame_setAndSave env hf _

/-- An observable, as long as account `i` is the current one. -/
def whileCurrent (i : AccountIndex) (f : Device → β) (d : Device) : Option β :=
  if d.currentAccountIndex = some i then some (f d) else none

theorem keeps_of_whileCurrent {d d' : Device} (hi : d.currentAccountIndex = some i)
    (h : whileCurrent i f d' = whileCurrent i f d) :
    d'.currentAccountIndex = some i ∧ f d' = f d := by
  have hd : whileCurrent i f d = some (f d) := if_pos hi
  rw [hd] at h
  unfold whileCurrent at h
  split at h
  · next hi' => exact ⟨hi', Option.some.inj h⟩
  · exact nomatch h

theorem triple_takeSlot {P : Device → Prop} {H : Device → Prop} {info : AccountInfo}
    (hd : Triple P (destroyAccount env i) (fun _ _ => True) (fun _ _ => True) H) :
    Triple P (takeSlot env i info)
      (fun _ d => d.currentAccountIndex = some i ∧ d.currentAccountInfo = info)
      (fun _ _ => False) H := by
  refine triple_bind (Q := fun _ _ => True) (triple_ignore hd) fun _ => ?_
  refine triple_bind (Q := fun _ d => d.currentAccountInfo = info)
    (triple_modify fun _ _ => rfl) fun _ => ?_
  exact triple_modify fun _ h => ⟨rfl, h⟩

theorem triple_destroyAccount_any :
    Triple (fun _ => True) (destroyAccount env i) (fun _ _ => True) (fun _ _ => True)
      (fun _ => True) :=
  triple_of_frame (R := fun _ _ => True) (fun _ => trivial) fun _ _ _ _ => trivial

theorem frame_createAccount {password : CString} {info : AccountInfo} {save : Account Unit}
    {last : AccountInfo → AccountInfo} (htake : Frame (Keeps f) (takeSlot env i info))
    (hc : IgnoresCreation i (whileCurrent i f))
    (hsave : Frame (Keeps (whileCurrent i f)) save) :
    Frame (Keeps f) (createAccount env i password info save last) := by
  have hR := keeps_preorder (whileCurrent i f)
  intro d
  have hd := htake d
  have hcur : Sat _ _ _ (takeSlot env i info d) :=
    triple_takeSlot env (triple_destroyAccount_any env) d trivial
  match hrun : takeSlot env i info d with
  | (.ok (), t) =>
    rw [hrun] at hd hcur
    have hrest : Frame (Keeps (whileCurrent i f)) (fillSlot env i password save last) :=
      frame_bind hR (frame_storeWalletName env hc.toIgnoresInfo) fun _ =>
        frame_bind hR hsave fun _ => frame_bind hR (frame_setInfo hc.info _) fun _ =>
        frame_bind hR (frame_saveCurrentAccountInfo env hc.toBlind hc.param) fun _ =>
        frame_accountPublicInfoSwitch env hc.toIgnoresPublicInfo _ _
    have ht := (keeps_of_whileCurrent hcur.1 (hrest t)).2
    have hall : createAccount env i password info save last d = _ := bind_ok hrun
    show f (createAccount env i password info save last d).2 = f d
    rw [hall]
    exact ht.trans hd
  | (.error e, t) =>
    rw [hrun] at hcur
    exact hcur.elim
  | (.halted, t) =>
    rw [hrun] at hd
    have hall : createAccount env i password info save last d = _ := bind_halted hrun
    show f (createAccount env i password info save last d).2 = f d
    rw [hall]
    exact hd

theorem IgnoresCreation.misses (hf : IgnoresCreation i f) (ks : List PageIndex) :
    Misses i ks f where
  toBlind := hf.toBlind
  page := fun k _ => hf.pages k
  slot := hf.slots

theorem IgnoresAccount.creation (hf : IgnoresAccount i f) (hs : IgnoresSession f) :
    IgnoresCreation i (whileCurrent i f) := by
  have hsame : ∀ d d' : Device, d'.currentAccountIndex = d.currentAccountIndex → f d' = f d →
      whileCurrent i f d' = whileCurrent i f d := by
    intro d d' hcur hval
    unfold whileCurrent
    rw [hcur, hval]
  exact
    { writes := fun d => hsame d _ rfl (hf.writes d)
      reads := fun d => hsame d _ rfl (hf.reads d)
      draws := fun d n => hsame d _ rfl (hf.draws d n)
      hash := fun d x => hsame d _ rfl (hf.hash d x)
      flash := fun d a g => hsame d _ rfl (hf.flash d a g)
      keys := fun d ks => hsame d _ rfl (hf.keys d ks)
      temp := fun d t => hsame d _ rfl (hf.temp d t)
      isTemp := fun d b => hsame d _ rfl (hf.isTemp d b)
      pages := fun k d x => hsame d _ rfl (hf.pages k d x)
      slots := fun s ht d x => hsame d _ rfl (hf.slots s ht d x)
      info := fun d a => hsame d _ rfl (hs.info d a)
      param := fun d j x hj => by
        by_cases hji : j = i
        · subst hji
          exact hsame d _ rfl (hf.pages _ d x)
        · -- another account is the current one, so there is nothing to keep
          have hne : d.currentAccountIndex ≠ some i :=
            fun he => hji (Option.some.inj (hj.symm.trans he))
          exact (if_neg hne).trans (if_neg hne).symm }

theorem frame_create (hf : IgnoresAccount i f) (hs : IgnoresSession f) (c : Creation)
    (password : CString) : Frame (Keeps f) (c.create env i password) := by
  have hR := keeps_preorder f
  have hc := hf.creation hs
  have htake : Frame (Keeps f) (takeSlot env i c.info) :=
    frame_bind hR (frame_ignore (frame_destroyAccount env hf.toIgnoresPublicInfo
      (fun k d => hf.pages k d _) hf.passphrase hs)) fun _ =>
    frame_bind hR (frame_setInfo hs.info _) fun _ => frame_modify fun d => hs.current d _
  rw [c.create_eq]
  exact frame_createAccount env htake hc (frame_saveNewSecret env (hc.misses _)
    hc.toIgnoresInfo (hc.pages pageIndexPasswordHash) _ _)

theorem frame_savePublicInfo (hf : Blind f)
    (h : ∀ (d : Device) (x : Page), f (d.setPage pagePublicInfo x) = f d) :
    Frame (Keeps f) (savePublicInfo env) :=
  frame_bind (keeps_preorder f) (frame_get (keeps_preorder f)) fun _ =>
    frame_seHmacEncryptWrite env hf fun d => h d _

theorem frame_accountDataCheck (hf : Blind f)
    (h : ∀ (k : PageIndex) (d : Device), f (d.setPage (accountPage i k) (Block.zero 32)) = f d) :
    Frame (Keeps f) (accountDataCheck env i) := by
  have hR := keeps_preorder f
  refine frame_bind hR (frame_seHmacEncryptRead env hf.reading _) fun _ =>
    frame_bind hR (frame_seHmacEncryptRead env hf.reading _) fun _ => ?_
  split
  · exact frame_ignore (frame_zeroPages env hf h)
  · exact frame_pure hR _

end

end Keystone3
