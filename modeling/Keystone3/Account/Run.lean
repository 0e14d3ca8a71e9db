import Keystone3.Account.RoundTrip

/-!
# Runs of the account code

The calls that the rest of the firmware makes into the account manager and the keystore,
as one type, so that a run is a list of them. A run goes on from whatever state the call
before it left, however that call ended; the environment decides which operations of
which call fail.
-/

namespace Keystone3

open Logic (runSteps)
open Logic.Prog

/-- A call into the account code. `store` stands for the setters of single
parameters, `powerOn` for a reset followed by the boot code. -/
inductive KeystoreOp where
  | create (i : AccountIndex) (c : Creation) (password : CString)
  | changePassword (i : AccountIndex) (newPassword password : CString)
  | destroy (i : AccountIndex)
  | login (password : CString)
  | verifyCurrent (password : CString)
  | clearErrorCounts
  | setLastLockDeviceTime (timeStamp : UInt32)
  | erasePublicInfo
  | setCurrentAccountIndex
  | logout
  | store (f : AccountInfo → AccountInfo)
  | powerOn (wipeFlag : Bool)

def KeystoreOp.prog (env : Env) : KeystoreOp → Account Unit
  | create i c password => c.create env i password
  | changePassword i newPassword password => Keystone3.changePassword env i newPassword password
  | destroy i => destroyAccount env i
  | login password => verifyPasswordAndLogin env password
  | verifyCurrent password => verifyCurrentAccountPassword env password
  | clearErrorCounts => clearCurrentPasswordErrorCount env
  | setLastLockDeviceTime timeStamp => Keystone3.setLastLockDeviceTime env timeStamp
  | erasePublicInfo => Keystone3.erasePublicInfo env
  | setCurrentAccountIndex => Keystone3.setCurrentAccountIndex
  | logout => logoutCurrentAccount
  | store f => setAndSave env f
  | powerOn wipeFlag => Keystone3.powerOn env wipeFlag

def KeystoreOp.step (env : Env) (op : KeystoreOp) (d : Device) : Device := (op.prog env d).2

def runOps (env : Env) : List KeystoreOp → Device → Device := runSteps (KeystoreOp.step env)

/-- The observables that the session, the error counters and the public keys of
no account can change. -/
structure IgnoresLogin {β : Type} (f : Device → β) : Prop extends IgnoresSession f where
  publicKeys : ∀ i, IgnoresPublicInfo i f
  last : ∀ (d : Device) (o : Option AccountIndex), f { d with lastAccountIndex := o } = f d
  counters : ∀ (d : Device) (p : PublicInfo), f { d with publicInfo := p } = f d
  counterPage : ∀ (d : Device) (x : Page), f (d.setPage pagePublicInfo x) = f d

section

variable {β : Type} {f : Device → β} (env : Env)

theorem IgnoresLogin.blind (hf : IgnoresLogin f) : Blind f := (hf.publicKeys 0).toBlind

theorem frame_setPublicInfo (hf : IgnoresLogin f) (g : PublicInfo → PublicInfo) :
    Frame (Keeps f) (setPublicInfo g) := frame_modify fun d => hf.counters d _

theorem frame_enterAccount {i : AccountIndex} (hf : IgnoresPublicInfo i f)
    (hinfo : ∀ (d : Device) (a : AccountInfo), f { d with currentAccountInfo := a } = f d)
    (hcounters : ∀ (d : Device) (p : PublicInfo), f { d with publicInfo := p } = f d)
    (password : CString) : Frame (Keeps f) (enterAccount env i password) := by
  have hR := keeps_preorder f
  refine frame_bind hR (frame_attempt (frame_readCurrentAccountInfo env hf.toBlind hinfo))
    fun _ => frame_bind hR (frame_modify fun d => hcounters d _) fun _ =>
    frame_bind hR (frame_passphraseExist i) fun b => ?_
  split
  · exact frame_bind hR (frame_ignore (frame_tempAccountPublicInfo env hf.toIgnoresKeyRam _ _ _)) fun _ =>
      frame_pure hR _
  · exact frame_attempt (frame_accountPublicInfoSwitch env hf _ _)

theorem frame_login (hf : IgnoresLogin f) (i : AccountIndex) (password : CString) :
    Frame (Keeps f) (login env i password) := by
  refine frame_bind (keeps_preorder f) (frame_modify fun d => ?_) fun _ =>
    frame_enterAccount env (hf.publicKeys i) hf.info hf.counters password
  exact (hf.last { d with currentAccountIndex := some i } _).trans (hf.current d _)

theorem frame_verifyPasswordAndLogin (hf : IgnoresLogin f) (password : CString) :
    Frame (Keeps f) (verifyPasswordAndLogin env password) := by
  have hR := keeps_preorder f
  have hsave := frame_savePublicInfo env hf.blind hf.counterPage
  refine frame_bind hR (frame_attempt (frame_verifyPassword env hf.blind.reading password)) fun r => ?_
  split
  · exact frame_bind hR (frame_login env hf _ _) fun _ =>
      frame_bind hR (frame_ignore hsave) fun _ => frame_ofExcept hR _
  · exact frame_bind hR (frame_setPublicInfo hf _) fun _ =>
      frame_bind hR (frame_ignore hsave) fun _ => frame_throw hR _

theorem frame_verifyCurrentAccountPassword (hf : IgnoresLogin f) (password : CString) :
    Frame (Keeps f) (verifyCurrentAccountPassword env password) := by
  have hR := keeps_preorder f
  have hsave := frame_savePublicInfo env hf.blind hf.counterPage
  refine frame_bind hR (frame_get hR) fun d => ?_
  split
  · exact frame_throw hR _
  · refine frame_bind hR (frame_seHmacEncryptRead env hf.blind.reading _) fun x => ?_
    dsimp only
    split
    · exact frame_bind hR (frame_setPublicInfo hf _) fun _ => frame_ignore hsave
    · exact frame_bind hR (frame_setPublicInfo hf _) fun _ =>
        frame_bind hR (frame_ignore hsave) fun _ => frame_throw hR _

theorem frame_counters (hf : IgnoresLogin f) (g : PublicInfo → PublicInfo) {x : Account Unit}
    (hx : Frame (Keeps f) (savePublicInfo env) → Frame (Keeps f) x) :
    Frame (Keeps f) (do setPublicInfo g; x) :=
  frame_bind (keeps_preorder f) (frame_setPublicInfo hf g) fun _ =>
    hx (frame_savePublicInfo env hf.blind hf.counterPage)

theorem frame_clearCurrentPasswordErrorCount (hf : IgnoresLogin f) :
    Frame (Keeps f) (clearCurrentPasswordErrorCount env) :=
  frame_counters env hf _ frame_ignore

theorem frame_setLastLockDeviceTime (hf : IgnoresLogin f) (t : UInt32) :
    Frame (Keeps f) (setLastLockDeviceTime env t) :=
  frame_counters env hf _ frame_ignore

theorem frame_erasePublicInfo (hf : IgnoresLogin f) : Frame (Keeps f) (erasePublicInfo env) :=
  frame_counters env hf _ id

/-- The observables that nothing done to any account can change. -/
structure IgnoresAccounts {β : Type} (f : Device → β) : Prop extends IgnoresSession f where
  account : ∀ i, IgnoresAccount i f

theorem IgnoresAccounts.toIgnoresInfo (hf : IgnoresAccounts f) : IgnoresInfo f where
  toBlind := (hf.account 0).toBlind
  info := hf.info
  param := fun d i x _ => (hf.account i).pages pageIndexParam d x

theorem frame_destroyAccount_any (hf : IgnoresAccounts f) (i : AccountIndex) :
    Frame (Keeps f) (destroyAccount env i) :=
  frame_destroyAccount env (hf.account i).toIgnoresPublicInfo
    (fun k d => (hf.account i).pages k d _) (hf.account i).passphrase hf.toIgnoresSession

theorem frame_changePassword_any (hf : IgnoresAccounts f) (i : AccountIndex)
    (newPassword password : CString) :
    Frame (Keeps f) (changePassword env i newPassword password) :=
  frame_changePassword env ((hf.account i).misses _) ((hf.account i).pages pageIndexPasswordHash)
    newPassword password

theorem frame_create_any (hf : IgnoresAccounts f) (i : AccountIndex) (c : Creation)
    (password : CString) : Frame (Keeps f) (c.create env i password) :=
  frame_create env (hf.account i) hf.toIgnoresSession c password

end

end Keystone3
