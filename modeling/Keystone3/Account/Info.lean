import Keystone3.Se.Manager

/-!
# The current account's parameters

The part of `account_manager.c` that works on `g_currentAccountInfo`: every setter
changes one field in RAM and stores the whole struct in the parameter page of the
current account. The setters drop the return code of the store, so an account can be
left with parameters in RAM that its page does not have.
-/

namespace Keystone3

open Logic.Prog
open Bytes (Block)

def AccountInfo.mnemonicType (a : AccountInfo) : MnemonicType :=
  if a.isSlip39 then .slip39 else if a.isTon then .ton else .bip39

/-- `GetMnemonicType` of the current account. -/
def getMnemonicType : Account MnemonicType := do
  let d ← get
  return d.currentAccountInfo.mnemonicType

def AccountInfo.slip39Ie (a : AccountInfo) : UInt8 := a.slip39IeEb.byte &&& 0x0F

def AccountInfo.slip39Eb (a : AccountInfo) : UInt8 := a.slip39IeEb.byte >>> 4

/-- Change `g_currentAccountInfo` in RAM. -/
def setInfo (f : AccountInfo → AccountInfo) : Account Unit :=
  modify fun d => { d with currentAccountInfo := f d.currentAccountInfo }

def readCurrentAccountInfo (env : Env) : Account Unit := do
  let d ← get
  match d.currentAccountIndex with
  | none => halt
  | some accountIndex =>
    let param ← seHmacEncryptRead env (accountPage accountIndex pageIndexParam)
    setInfo fun _ => AccountInfo.ofPage param

def saveCurrentAccountInfo (env : Env) : Account Unit := do
  let d ← get
  match d.currentAccountIndex with
  | none => halt
  | some accountIndex =>
    seHmacEncryptWrite env d.currentAccountInfo.toPage (accountPage accountIndex pageIndexParam)

def getAccountInfo (env : Env) (accountIndex : AccountIndex) : Account AccountInfo := do
  let param ← seHmacEncryptRead env (accountPage accountIndex pageIndexParam)
  return AccountInfo.ofPage param

def setAndSave (env : Env) (f : AccountInfo → AccountInfo) : Account Unit := do
  setInfo f
  ignore (saveCurrentAccountInfo env)

def setPasscodeType (env : Env) (type : PasscodeType) : Account Unit :=
  setAndSave env fun a => { a with passcodeType := type }

def setMnemonicType (env : Env) (type : MnemonicType) : Account Unit :=
  setAndSave env fun a => { a with isSlip39 := type = .slip39, isTon := type = .ton }

def setPassphraseMark (env : Env) (enable : Bool) : Account Unit :=
  setAndSave env fun a => { a with passphraseMark := enable }

def setWalletIconIndex (env : Env) (iconIndex : UInt8) : Account Unit :=
  setAndSave env fun a => { a with iconIndex := iconIndex }

/-- `strcpy_s` into `walletName[WALLET_NAME_MAX_LEN + 1]`: a null source or one
that does not fit leaves an empty string. -/
def copyWalletName : Option CString → Block 17
  | none => Block.zero 17
  | some s => if s.length < 17 then Block.ofBytes 17 s else Block.zero 17

def setWalletName (env : Env) (walletName : Option CString) : Account Unit :=
  setAndSave env fun a => { a with walletName := copyWalletName walletName }

/-- The observables that neither the parameters in RAM nor any parameter page
can change. -/
structure IgnoresInfo {β : Type} (f : Device → β) : Prop extends Blind f where
  info : ∀ (d : Device) (a : AccountInfo), f { d with currentAccountInfo := a } = f d
  param : ∀ (d : Device) (i : AccountIndex) (x : Page),
    d.currentAccountIndex = some i → f (d.setPage (accountPage i pageIndexParam) x) = f d

section

variable {β : Type} {f : Device → β} (env : Env)

theorem frame_getMnemonicType : Frame (Keeps f) getMnemonicType := fun _ => rfl

theorem frame_setInfo (h : ∀ (d : Device) (a : AccountInfo), f { d with currentAccountInfo := a } = f d)
    (g : AccountInfo → AccountInfo) : Frame (Keeps f) (setInfo g) := fun d => h d _

theorem frame_getAccountInfo {R : Device → Device → Prop} (h : Reading R) (i : AccountIndex) :
    Frame R (getAccountInfo env i) :=
  frame_bind h.toPreorder (frame_seHmacEncryptRead env h _) fun _ => frame_pure h.toPreorder _

theorem frame_readCurrentAccountInfo (hf : Blind f)
    (h : ∀ (d : Device) (a : AccountInfo), f { d with currentAccountInfo := a } = f d) :
    Frame (Keeps f) (readCurrentAccountInfo env) := by
  have hR := keeps_preorder f
  refine frame_bind hR (frame_get hR) fun d => ?_
  split
  · exact frame_halt hR
  · exact frame_bind hR (frame_seHmacEncryptRead env hf.reading _) fun _ => frame_setInfo h _

theorem frame_saveCurrentAccountInfo (hf : Blind f)
    (h : ∀ (d : Device) (i : AccountIndex) (x : Page),
      d.currentAccountIndex = some i → f (d.setPage (accountPage i pageIndexParam) x) = f d) :
    Frame (Keeps f) (saveCurrentAccountInfo env) := by
  intro d
  unfold saveCurrentAccountInfo
  rw [get_bind]
  cases hi : d.currentAccountIndex with
  | none => rfl
  | some i =>
    have hw : f (d.countWrite.setPage (accountPage i pageIndexParam) d.currentAccountInfo.toPage)
        = f d :=
      (h d.countWrite i _ hi).trans (hf.writes d)
    show f (seWrite env _ d).2 = f d
    unfold seWrite
    split
    · exact hw
    · next a _ =>
      cases a with
      | false => exact hf.writes d
      | true => exact hw
    · next a _ =>
      cases a with
      | false => exact hf.writes d
      | true => exact hw

theorem frame_setAndSave (hf : IgnoresInfo f) (g : AccountInfo → AccountInfo) :
    Frame (Keeps f) (setAndSave env g) :=
  frame_bind (keeps_preorder f) (frame_setInfo hf.info g) fun _ =>
    frame_ignore (frame_saveCurrentAccountInfo env hf.toBlind hf.param)

end

end Keystone3
