import Keystone3.Account.Creation
import Keystone3.Account.Derivation

/-!
# Switching between accounts and passphrases

Logging in, setting a passphrase and creating an account all end with one of two
routines that put the public keys of the account into RAM: `AccountPublicInfoSwitch` for
an account without a passphrase, which keeps a copy in flash, and
`TempAccountPublicInfo` for one with, which keeps a note of the account whose keys are
in RAM.
-/

namespace Keystone3

open Logic (Outcome Prog)
open Logic.Prog

def passphraseMaxLen : Nat := 128

/-- `strcpy_s` into `passphrase[PASSPHRASE_MAX_LEN]`: one that does not fit leaves an
empty string. -/
def copyPassphrase (passphrase : CString) : CString :=
  if passphrase.length < passphraseMaxLen then passphrase else []

/-- Change one entry of `g_passphraseInfo`. -/
def setPassphraseInfo (accountIndex : AccountIndex) (f : PassphraseInfo → PassphraseInfo) :
    Account Unit :=
  modify fun d => { d with passphraseInfo := fun j =>
    if j = accountIndex then f (d.passphraseInfo j) else d.passphraseInfo j }

/-- `SetPassphrase` up to the switch: whether the passphrase was set. A fingerprint that
fails is printed, and the return code stays at success. -/
def storePassphrase (env : Env) (accountIndex : AccountIndex) (passphrase password : CString) :
    Account Bool := do
  let d ← get
  let len := if d.currentAccountInfo.mnemonicType = .bip39 then 64
    else d.currentAccountInfo.entropyLen.toNat
  assert (decide (6 ≤ password.length))
  let seed ← getPassphraseSeed env accountIndex passphrase password
  match env.wallet.getMasterFingerprint (seed.take len) with
  | some (.ok masterFingerprint) => do
    setPassphraseInfo accountIndex fun p => { p with mfp := masterFingerprint }
    if passphrase.isEmpty then clearAccountPassphrase accountIndex
    else setPassphraseInfo accountIndex fun p =>
      { p with passphrase := copyPassphrase passphrase, passphraseExist := true }
    return true
  | _ => return false

def setPassphrase (env : Env) (accountIndex : AccountIndex) (passphrase password : CString) :
    Account Unit := do
  if ← storePassphrase env accountIndex passphrase password then do
    let ret ← attempt (if passphrase.isEmpty then
        accountPublicInfoSwitch env accountIndex password false
      else tempAccountPublicInfo env accountIndex password true)
    setPassphraseMark env (!passphrase.isEmpty)
    ofExcept ret
  else pure ()

def getCurrentAccountPublicKey (d : Device) (chain : Nat) : Option CString :=
  match d.currentAccountIndex with
  | none => none
  | some _ => d.accountPublicInfo.getD chain none

/-- A call of `AccountPublicInfoSwitch` or of `TempAccountPublicInfo`. -/
inductive SwitchCall where
  | info (accountIndex : AccountIndex) (password : CString) (newKey : Bool)
  | temp (accountIndex : AccountIndex) (password : CString) (set : Bool)
deriving DecidableEq

namespace SwitchCall

def index : SwitchCall → AccountIndex
  | info i _ _ => i
  | temp i _ _ => i

def password : SwitchCall → CString
  | info _ p _ => p
  | temp _ p _ => p

def prog (env : Env) : SwitchCall → Account Unit
  | info i p newKey => accountPublicInfoSwitch env i p newKey
  | temp i p set => tempAccountPublicInfo env i p set

end SwitchCall

inductive SessionOp where
  | login (password : CString)
  | logout
  | setPassphrase (passphrase password : CString)
  | create (i : AccountIndex) (c : Creation) (password : CString)
  | destroy (i : AccountIndex)

def onCurrent {α : Type} (x : AccountIndex → Account α) : Account α := do
  let d ← get
  match d.currentAccountIndex with
  | none => halt
  | some i => x i

def readySlot (env : Env) (save : Account Unit) (last : AccountInfo → AccountInfo) :
    Account Unit := do
  storeWalletName env
  save
  setInfo last
  saveCurrentAccountInfo env

namespace SessionOp

def routine (env : Env) : SessionOp → Account Unit
  | login password => verifyPasswordAndLogin env password
  | logout => logoutCurrentAccount
  | setPassphrase passphrase password =>
    onCurrent fun i => Keystone3.setPassphrase env i passphrase password
  | create i c password => c.create env i password
  | destroy i => destroyAccount env i

def call (env : Env) : SessionOp → Account (Option SwitchCall)
  | login password => do
    match ← attempt (verifyPassword env password) with
    | .error _ => refuseLogin env
    | .ok i => enterCall env i password
  | logout => do
    logoutCurrentAccount
    return none
  | setPassphrase passphrase password => onCurrent fun i => do
    if ← storePassphrase env i passphrase password then
      return some (if passphrase.isEmpty then .info i password false else .temp i password true)
    else return none
  | create i c password => do
    takeSlot env i c.info
    readySlot env (saveNewSecret env i password (c.secret env)) c.last
    return some (.info i password true)
  | destroy i => do
    ignore (destroyAccount env i)
    return none
where
  /-- A login with a password that no account has. -/
  refuseLogin (env : Env) : Account (Option SwitchCall) := do
    setPublicInfo fun p => { p with loginPasswordErrorCount := p.loginPasswordErrorCount + 1 }
    ignore (savePublicInfo env)
    return none
  /-- A login to account `i`. -/
  enterCall (env : Env) (i : AccountIndex) (password : CString) :
      Account (Option SwitchCall) := do
    modify fun d => { d with currentAccountIndex := some i, lastAccountIndex := some i }
    ignore (readCurrentAccountInfo env)
    setPublicInfo PublicInfo.clearErrorCounts
    if ← passphraseExist i then return some (.temp i password false)
    else return some (.info i password false)

def after (env : Env) : SessionOp → Account Unit
  | login _ => ignore (savePublicInfo env)
  | setPassphrase passphrase _ => setPassphraseMark env (!passphrase.isEmpty)
  | _ => pure ()

def finish (env : Env) (op : SessionOp) : Option SwitchCall → Account Unit
  | none => pure ()
  | some c => do
    ignore (c.prog env)
    op.after env

def prog (env : Env) (op : SessionOp) : Account Unit := do
  let c ← op.call env
  op.finish env c

end SessionOp

def left {α : Type} : Outcome ErrCode α × Device → Option Device
  | (.halted, _) => none
  | (_, d) => some d

/-- One operation of a session; after a failed assertion or a power loss there is no
state to go on from. -/
def sessionStep (env : Env) (op : SessionOp) (o : Option Device) : Option Device :=
  o.bind fun d => left (op.routine env d)

def keyText (keys : List (Option CString)) (chain : Nat) : CString := (keys.getD chain none).getD []

/-- The keys in an account's flash area: none when the size word is out of range or the
text does not parse. -/
def flashKeys (env : Env) (i : AccountIndex) (d : Device) : Option (List (Option CString)) :=
  if publicInfoSize d i > UserArea.data.size - 4 then none
  else env.wallet.publicKeysOfJson (publicInfoText d i)

/-- Keys in the flash are those of the account without a passphrase. -/
def FlashDerived (env : Env) (i : AccountIndex) (d : Device) : Prop :=
  ∀ keys, flashKeys env i d = some keys →
    ∃ ks, HasKeys env i [] ks d ∧ ∀ chain, keyText keys chain = keyText ks chain

/-- Keys in RAM that are noted as an account's are its keys, under its passphrase. -/
def TempDerived (env : Env) (d : Device) : Prop :=
  ∀ i, d.tempPublicKeyAccountIndex = some i →
    HasKeys env i (d.passphraseInfo i).passphrase d.accountPublicInfo d

structure CachesDerived (env : Env) (d : Device) : Prop where
  temp : TempDerived env d
  flash : ∀ i, FlashDerived env i d

/-- Account `i` is the current one, and the device shows its keys, under its passphrase. -/
structure CurrentKeys (env : Env) (i : AccountIndex) (d : Device) : Prop where
  current : d.currentAccountIndex = some i
  keys : ∃ ks, HasKeys env i (d.passphraseInfo i).passphrase ks d ∧
    ∀ chain, (getCurrentAccountPublicKey d chain).getD [] = keyText ks chain

/-- The erases, the hash, the size word and the pages of a text: the hash may be refused,
the flash does what it is told. -/
def TextCarriedOut (env : Env) (w : Nat) : Prop := CarriedOut env w 16 ∧ CarriedOut env (w + 17) 257

namespace SwitchCall

/-- The call derives keys, and does not only look them up. -/
def Derives (env : Env) : SwitchCall → Device → Prop
  | info i _ newKey, d => newKey = true ∨ flashKeys env i d = none
  | temp i _ set, d => ¬(d.tempPublicKeyAccountIndex = some i ∧ set = false)

def freed (env : Env) (c : SwitchCall) (d : Device) : Device :=
  { d with
    isTempAccount := match c with
      | info .. => false
      | temp i _ _ => !(d.passphraseInfo i).passphrase.isEmpty
    tempPublicKeyAccountIndex := none
    accountPublicInfo := env.wallet.chainTable.map fun _ => none }

def loading (env : Env) (c : SwitchCall) (d : Device) : Device :=
  match c with
  | info i _ false => (accountPublicInfoReadFromFlash env i (c.freed env d)).2
  | _ => c.freed env d

/-- What the call gives no error for, and must not go wrong. -/
structure NoSilentFailure (env : Env) (c : SwitchCall) (d : Device) : Prop where
  params : keyParams d.currentAccountInfo = keyParams (paramOf d c.index)
  rows : ∀ s seed, Opens env c.index s d →
    seedOf env (paramOf d c.index) (d.passphraseInfo c.index).passphrase s = .ok seed →
    derivationFrom env (paramOf d c.index) (d.passphraseInfo c.index).passphrase s seed ≠ .rowFailed
  masters : ∀ i p set, c = temp i p set → ∀ s seed, Opens env i s d →
    seedOf env (paramOf d i) (d.passphraseInfo i).passphrase s = .ok seed →
    derivationFrom env (paramOf d i) (d.passphraseInfo i).passphrase s seed ≠ .masterFailed
  loads : d.currentAccountInfo.mnemonicType = .slip39 →
    (d.passphraseInfo c.index).passphrase ≠ [] →
    LoadsAgain env c.index c.password (c.loading env d)
  text : ∀ i p newKey, c = info i p newKey → TextCarriedOut env (c.loading env d).writes

end SwitchCall

namespace SessionOp

/-- What the operation gives no error for before its switching call: a passphrase is set
with the stored parameters in RAM, and the text of a destroyed account is erased. -/
def NoSilentFailure (env : Env) : SessionOp → Device → Prop
  | setPassphrase _ _, d => ∀ i, d.currentAccountIndex = some i →
    keyParams d.currentAccountInfo = keyParams (paramOf d i)
  | create i _ _, d => CarriedOut env (writePages env i zeroPages d).2.writes 16
  | destroy i, d => CarriedOut env (writePages env i zeroPages d).2.writes 16
  | _, _ => True

/-- Nothing goes wrong unnoticed in the operation, nor in its switching call when that
derives keys. -/
def Sound (env : Env) (op : SessionOp) (o : Option Device) : Prop :=
  ∀ d, o = some d → op.NoSilentFailure env d ∧
    ∀ c d', op.call env d = (.ok (some c), d') → c.Derives env d' → c.NoSilentFailure env d'

end SessionOp

section

variable {α β γ : Type}

def SameLeft (x : Account α) (y : Account β) : Prop := ∀ d, left (x d) = left (y d)

theorem sameLeft_bind {x : Account α} {f : α → Account β} {g : α → Account γ}
    (h : ∀ a, SameLeft (f a) (g a)) : SameLeft (x >>= f) (x >>= g) := by
  intro d
  rw [bind_apply, bind_apply]
  match x d with
  | (.ok a, d') => exact h a d'
  | (.error e, d') => rfl
  | (.halted, d') => rfl

theorem sameLeft_ignore (x : Account α) : SameLeft x (ignore x) := by
  intro d
  unfold ignore
  rw [bind_apply]
  unfold attempt
  match x d with
  | (.ok a, d') => rfl
  | (.error e, d') => rfl
  | (.halted, d') => rfl

theorem sameLeft_attempt {x : Account α} {f : Except ErrCode α → Account β} {y : Account γ}
    (h : ∀ r, SameLeft (f r) y) : SameLeft (attempt x >>= f) (ignore x >>= fun _ => y) := by
  unfold ignore
  rw [bind_bind]
  exact sameLeft_bind h

theorem sameLeft_ofExcept (r : Except ErrCode α) : SameLeft (ofExcept r) (pure () : Account Unit) := by
  intro d
  cases r <;> rfl

theorem SameLeft.symm {x : Account α} {y : Account β} (h : SameLeft x y) : SameLeft y x :=
  fun d => (h d).symm

theorem SameLeft.trans {x : Account α} {y : Account β} {z : Account γ} (h : SameLeft x y)
    (h' : SameLeft y z) : SameLeft x z := fun d => (h d).trans (h' d)

theorem sameLeft_bind_pure {x : Account α} {f : α → β} : SameLeft (x >>= fun a => pure (f a)) x := by
  intro d
  rw [bind_apply]
  match x d with
  | (.ok a, d') => rfl
  | (.error e, d') => rfl
  | (.halted, d') => rfl

theorem sameLeft_saved {x : Account Unit} (r : Except ErrCode Unit) :
    SameLeft (x >>= fun _ => ofExcept r) x :=
  (sameLeft_bind fun _ => sameLeft_ofExcept r).trans sameLeft_bind_pure

end

section

variable (env : Env)

theorem enterAccount_left (i : AccountIndex) (password : CString) :
    SameLeft (login env i password >>= fun ret => ignore (savePublicInfo env) >>= fun _ => ofExcept ret)
      (SessionOp.call.enterCall env i password >>= (SessionOp.login password).finish env) := by
  unfold login enterAccount SessionOp.call.enterCall
  simp only [bind_bind]
  refine sameLeft_bind fun _ => sameLeft_attempt fun r => sameLeft_bind fun _ =>
    sameLeft_bind fun b => ?_
  cases b with
  | true =>
    simp only [if_true, bind_bind, pure_bind_value]
    exact sameLeft_bind fun _ => sameLeft_saved r
  | false =>
    simp only [Bool.false_eq_true, if_false, pure_bind_value]
    exact sameLeft_attempt fun r => sameLeft_saved r

theorem login_left (password : CString) :
    SameLeft (verifyPasswordAndLogin env password) ((SessionOp.login password).prog env) := by
  unfold SessionOp.prog
  show SameLeft (attempt (verifyPassword env password) >>= _)
    ((attempt (verifyPassword env password) >>= _) >>= _)
  rw [bind_bind]
  refine sameLeft_bind fun r => ?_
  cases r with
  | ok i => exact enterAccount_left env i password
  | error e =>
    show SameLeft _ (SessionOp.call.refuseLogin env >>= _)
    unfold SessionOp.call.refuseLogin
    simp only [bind_bind]
    exact sameLeft_bind fun _ => sameLeft_bind fun _ _ => rfl

theorem setPassphrase_left (i : AccountIndex) (passphrase password : CString) :
    SameLeft (setPassphrase env i passphrase password)
      ((storePassphrase env i passphrase password >>= fun b =>
        if b then pure (some (if passphrase.isEmpty then SwitchCall.info i password false
          else .temp i password true)) else pure none) >>=
        (SessionOp.setPassphrase passphrase password).finish env) := by
  unfold setPassphrase
  rw [bind_bind]
  refine sameLeft_bind fun b => ?_
  cases b with
  | false => exact fun _ => rfl
  | true =>
    let c := if passphrase.isEmpty then SwitchCall.info i password false else .temp i password true
    have hcall : (if passphrase.isEmpty then accountPublicInfoSwitch env i password false
        else tempAccountPublicInfo env i password true) = c.prog env := by
      show _ = SwitchCall.prog env (if _ then _ else _)
      cases passphrase.isEmpty <;> rfl
    show SameLeft (attempt _ >>= fun ret => setPassphraseMark env _ >>= fun _ => ofExcept ret)
      (ignore (c.prog env) >>= fun _ => setPassphraseMark env _)
    rw [hcall]
    exact sameLeft_attempt fun r => sameLeft_saved r

theorem create_left (i : AccountIndex) (c : Creation) (password : CString) :
    SameLeft (c.create env i password) ((SessionOp.create i c password).prog env) := by
  rw [c.create_eq]
  unfold createAccount fillSlot SessionOp.prog
  show SameLeft _ ((takeSlot env i c.info >>= fun _ =>
    readySlot env (saveNewSecret env i password (c.secret env)) c.last >>= fun _ => _) >>= _)
  unfold readySlot
  simp only [bind_bind]
  refine sameLeft_bind fun _ => sameLeft_bind fun _ => sameLeft_bind fun _ => sameLeft_bind fun _ =>
    sameLeft_bind fun _ => ?_
  show SameLeft _ (ignore (accountPublicInfoSwitch env i password true) >>= fun _ => pure ())
  exact (sameLeft_ignore _).trans sameLeft_bind_pure.symm

theorem routine_left (op : SessionOp) : SameLeft (op.routine env) (op.prog env) := by
  cases op with
  | login password => exact login_left env password
  | logout => exact fun _ => rfl
  | setPassphrase passphrase password =>
    unfold SessionOp.prog
    show SameLeft (Prog.get >>= _) ((Prog.get >>= _) >>= _)
    rw [bind_bind]
    refine sameLeft_bind fun d => ?_
    cases d.currentAccountIndex with
    | none => exact fun _ => rfl
    | some i => exact setPassphrase_left env i passphrase password
  | create i c password => exact create_left env i c password
  | destroy i =>
    unfold SessionOp.prog
    show SameLeft _ ((ignore (destroyAccount env i) >>= _) >>= _)
    rw [bind_bind]
    exact (sameLeft_ignore _).trans sameLeft_bind_pure.symm

end

end Keystone3
