import Keystone3.Finger.Manager
import Keystone3.Se.Manager

/-!
# The password behind a finger

A registered finger unlocks an account without its password: `FingerSetInfoToSE`
enciphers the password under a key that the fingerprint module keeps, and stores it in a
page of the secure element; `FpRecognizeRecv` takes the key from the module's answer and
puts what it deciphers into the password cache.

The cache gets the first 32 bytes of the password (`unlockPassword_fpCipher`), which is
the password exactly if it has no more (`FpRecognizeRecv_password_iff`).
-/

namespace Keystone3.Finger

open Logic (Prog)
open Logic.Prog
open Bytes (Block)
open Bytes.Block (front append)
open Bytes.Cbc (encryptEach decryptEach decryptEach_encryptEach)

inductive RecognizeType where
  | unlock
  | openSign
  | sign
deriving DecidableEq

/-- The device with the record of the fingers and what the handler of a recognition uses. -/
structure FpDevice where
  device : Device
  fp : FpState
  g_fpTempAesKey : Page
  g_fingerRecognizeType : RecognizeType
  /-- `none` is a null pointer. -/
  g_passwordCache : Option CString

abbrev FpProg (α : Type) : Type := Prog ErrCode FpDevice α

def onDevice {α : Type} (x : Account α) : FpProg α :=
  onPart FpDevice.device (fun d s => { s with device := d }) x

def GetCurrentAccountIndex (d : Device) : Nat :=
  match d.currentAccountIndex with
  | none => 0xFF
  | some i => i.val

def pagePfEncryptedPassword : Nat := 72

def SetFpEncryptedPassword (env : Env) (index : Nat) (encryptedPassword : Page) :
    Account Unit := do
  assert (decide (index < 10))
  seHmacEncryptWrite env encryptedPassword (pagePfEncryptedPassword + index)

def GetFpEncryptedPassword (env : Env) (index : Nat) : Account Page := do
  assert (decide (index < 10))
  seHmacEncryptRead env (pagePfEncryptedPassword + index)

/-- `plainData` once the password is in it. -/
def plainData (password : CString) : Block (32 + 96) :=
  Block.ofBytes _ (strcpyS passwordMaxLen password)

/-- `cipherData`: two blocks of the plain text. -/
def fpCipher (env : Env) (random : Page) (password : CString) : Page :=
  encryptEach (env.crypto.aes random) 2 (front (m := 32) (n := 96) (plainData password))

def FingerSetInfoToSE (env : Env) (random : Page) (_fingerId : UInt8) (accountIndex : Nat)
    (password : CString) : Account Unit := do
  let cipherData := fpCipher env random password
  let ret ← attempt (SetFpEncryptedPassword env accountIndex cipherData)
  assert ret.isOk

/-- A null pointer leaves the buffer empty, as an empty password does. -/
def FpSaveKeyInfo (env : Env) (add : Bool) : FpProg Unit := do
  modify fun s => { s with fp := s.fp.FpSaveKeyInfo add }
  let s ← get
  onDevice (FingerSetInfoToSE env s.g_fpTempAesKey 0 (GetCurrentAccountIndex s.device)
    (s.g_passwordCache.getD []))
  modify fun s => { s with g_fpTempAesKey := .zero 32, g_passwordCache := none }

/-- `DecryptFunc` of two blocks, into a buffer of zeros. -/
def DecryptFunc (env : Env) (passwordAesKey encryptPasscode : Page) : Block (32 + 96) :=
  append (decryptEach (env.crypto.aes passwordAesKey) 2 encryptPasscode) (Block.zero 96)

/-- The C string at the start of a buffer, which `SecretCacheSetPassword` copies. -/
def bufferString {n : Nat} (buffer : Block n) : CString := buffer.bytes.takeWhile (· != 0)

def unlockPassword (env : Env) (key encryptedPassword : Page) : CString :=
  bufferString (DecryptFunc env key encryptedPassword)

def moduleKey (indata : List UInt8) : Page := Block.ofBytes 32 (indata.drop 6)

/-- `FpRecognizeRecv`, without the signals to the user interface. A page that cannot be read
leaves the buffer for it zeroed. -/
def FpRecognizeRecv (env : Env) (indata : List UInt8) (len : UInt8) : FpProg Unit := do
  let s ← get
  if indata.headD 0 = FP_SUCCESS_CODE ∧ len = 38 then
    if s.g_fingerRecognizeType = .openSign then
      if GetCurrentAccountIndex s.device ≠ 0xFF then
        modify fun s => { s with g_fpTempAesKey := moduleKey indata }
        FpSaveKeyInfo env false
      else pure ()
    else
      let encryptedPassword ←
        attempt (onDevice (GetFpEncryptedPassword env (GetCurrentAccountIndex s.device)))
      let encryptedPassword := encryptedPassword.toOption.getD (.zero 32)
      modify fun s => { s with
        g_passwordCache := some (unlockPassword env (moduleKey indata) encryptedPassword) }
  else pure ()

theorem FingerSetInfoToSE_stored {env : Env} {random : Page} {fingerId : UInt8}
    {i : AccountIndex} {password : CString} {d d₁ : Device}
    (h : FingerSetInfoToSE env random fingerId i.val password d = (.ok (), d₁)) :
    d₁.page (pagePfEncryptedPassword + i.val) = fpCipher env random password := by
  have hindex : decide (i.val < 10) = true := decide_eq_true (by omega)
  have hset : SetFpEncryptedPassword env i.val (fpCipher env random password) d =
      seHmacEncryptWrite env (fpCipher env random password)
        (pagePfEncryptedPassword + i.val) d := by
    unfold SetFpEncryptedPassword
    rw [hindex]
    rfl
  unfold FingerSetInfoToSE at h
  rw [bind_apply] at h
  unfold attempt at h
  rw [hset] at h
  unfold seHmacEncryptWrite seWrite at h
  -- A write that is refused stops at the assertion.
  cases hreply : env.writeReply d.writes with
  | answered =>
    rw [hreply] at h
    cases h
    exact Device.setPage_self _ _ _
  | refused status applied =>
    rw [hreply] at h
    cases h
  | stopped applied =>
    rw [hreply] at h
    cases h

theorem bufferString_append_zero {m n : Nat} (x : Block m) {text : CString} (hn : 0 < n)
    (hx : x.bytes = text ++ List.replicate (m - text.length) 0) (htext : 0 ∉ text) :
    bufferString (append x (Block.zero n)) = text := by
  have hall : ∀ b ∈ text, (b != 0) = true := fun b hb =>
    bne_iff_ne.mpr fun h => htext (h ▸ hb)
  obtain ⟨k, rfl⟩ : ∃ k, n = k + 1 := ⟨n - 1, by omega⟩
  have hbytes : (append x (Block.zero (k + 1))).bytes =
      text ++ List.replicate (m - text.length + (k + 1)) 0 := by
    show x.bytes ++ List.replicate (k + 1) 0 = _
    rw [hx, List.append_assoc, List.replicate_append_replicate]
  unfold bufferString
  rw [hbytes, List.takeWhile_append_of_pos hall, ← Nat.add_assoc, List.replicate_succ,
    List.takeWhile_cons_of_neg (by simp), List.append_nil]

theorem unlockPassword_fpCipher (env : Env) (key : Page) {password : CString}
    (h : 0 ∉ password) :
    unlockPassword env key (fpCipher env key password) =
      (strcpyS passwordMaxLen password).take 32 := by
  have hmem : 0 ∉ (strcpyS passwordMaxLen password).take 32 := by
    intro hmem
    have hcopy := List.mem_of_mem_take hmem
    unfold strcpyS at hcopy
    split at hcopy
    · exact h hcopy
    · exact absurd hcopy List.not_mem_nil
  unfold unlockPassword DecryptFunc fpCipher
  rw [decryptEach_encryptEach]
  refine bufferString_append_zero _ (by omega) ?_ hmem
  show ((strcpyS passwordMaxLen password).take (32 + 96) ++ List.replicate _ 0).take 32 = _
  rw [List.take_append, List.take_take, List.take_replicate, List.length_take, List.length_take]
  congr 2
  omega

/-- The module has recognised a finger registered with `key`, to unlock account `i`, and the
secure element answers. -/
structure Recognised (env : Env) (key : Page) (i : AccountIndex) (indata : List UInt8)
    (s : FpDevice) : Prop where
  success : indata.headD 0 = FP_SUCCESS_CODE
  key : moduleKey indata = key
  account : s.device.currentAccountIndex = some i
  kind : s.g_fingerRecognizeType ≠ .openSign
  answered : env.readReply s.device.writes s.device.reads = .answered

theorem FpRecognizeRecv_cache {env : Env} {key : Page} {i : AccountIndex} {indata : List UInt8}
    {s : FpDevice} (h : Recognised env key i indata s) :
    (FpRecognizeRecv env indata 38 s).2.g_passwordCache =
      some (unlockPassword env key (s.device.page (pagePfEncryptedPassword + i.val))) := by
  have hindex : decide (i.val < 10) = true := decide_eq_true (by omega)
  have hcurrent : GetCurrentAccountIndex s.device = i.val := by
    unfold GetCurrentAccountIndex
    rw [h.account]
  have hget : GetFpEncryptedPassword env i.val s.device =
      (.ok (s.device.page (pagePfEncryptedPassword + i.val)), s.device.countRead) := by
    unfold GetFpEncryptedPassword
    rw [hindex]
    exact (bind_ok rfl).trans (seRead_answered h.answered)
  have hread : attempt (onDevice (GetFpEncryptedPassword env i.val)) s =
      (.ok (.ok (s.device.page (pagePfEncryptedPassword + i.val))),
        { s with device := s.device.countRead }) := by
    unfold attempt onDevice onPart
    rw [hget]
  unfold FpRecognizeRecv
  rw [get_bind, if_pos ⟨h.success, rfl⟩, if_neg h.kind, hcurrent, bind_ok hread, h.key]
  rfl

/-- **The cached password is the stored one exactly if it has at most 32 bytes.** -/
theorem FpRecognizeRecv_password_iff {env : Env} {key : Page} (fingerId : UInt8)
    {i : AccountIndex} {password : CString} (hpassword : 0 ∉ password) {d d₁ : Device}
    (hstore : FingerSetInfoToSE env key fingerId i.val password d = (.ok (), d₁))
    {indata : List UInt8} {s : FpDevice}
    (hpage : s.device.page (pagePfEncryptedPassword + i.val) =
      d₁.page (pagePfEncryptedPassword + i.val))
    (h : Recognised env key i indata s) :
    (FpRecognizeRecv env indata 38 s).2.g_passwordCache = some password ↔
      password.length ≤ 32 := by
  rw [FpRecognizeRecv_cache h, hpage, FingerSetInfoToSE_stored hstore,
    unlockPassword_fpCipher env key hpassword, Option.some.injEq]
  unfold strcpyS passwordMaxLen
  constructor
  · intro he
    have hlen := congrArg List.length he
    rw [List.length_take] at hlen
    omega
  · intro hle
    rw [if_pos (by omega)]
    exact List.take_of_length_le hle

def FpDevice.sample : FpDevice where
  device := { Device.blank with currentAccountIndex := some 0 }
  fp := .boot
  g_fpTempAesKey := .zero 32
  g_fingerRecognizeType := .unlock
  g_passwordCache := none

def FpDevice.registered (password : CString) : FpDevice :=
  { FpDevice.sample with device := (FingerSetInfoToSE .sample (.zero 32) 0 0 password
      FpDevice.sample.device).2 }

theorem recognised_registered (password : CString) :
    Recognised .sample (.zero 32) 0 (List.replicate 38 0) (.registered password) where
  success := rfl
  key := rfl
  account := rfl
  kind := RecognizeType.noConfusion
  answered := rfl

theorem FpRecognizeRecv_password_iff_pin :
    (FpRecognizeRecv .sample (List.replicate 38 0) 38
        (.registered [49, 50, 51, 52, 53, 54])).2.g_passwordCache =
      some [49, 50, 51, 52, 53, 54] ↔ [49, 50, 51, 52, 53, 54].length ≤ 32 :=
  FpRecognizeRecv_password_iff 0 (by decide) rfl rfl (recognised_registered _)

/-- A password of 33 letters comes back one letter short. -/
theorem FpRecognizeRecv_password_short :
    ¬ ∀ (env : Env) (key : Page) (fingerId : UInt8) (i : AccountIndex) (password : CString)
        (d d₁ : Device) (indata : List UInt8) (s : FpDevice), 0 ∉ password →
      password.length < passwordMaxLen →
      FingerSetInfoToSE env key fingerId i.val password d = (.ok (), d₁) →
      s.device.page (pagePfEncryptedPassword + i.val) = d₁.page (pagePfEncryptedPassword + i.val) →
      Recognised env key i indata s →
      (FpRecognizeRecv env indata 38 s).2.g_passwordCache = some password := by
  intro h
  have hpassword : (0 : UInt8) ∉ List.replicate 33 (97 : UInt8) := by decide
  have hstored : (FpDevice.registered (List.replicate 33 97)).device.page
      (pagePfEncryptedPassword + (0 : AccountIndex).val) =
        fpCipher .sample (.zero 32) (List.replicate 33 97) :=
    @FingerSetInfoToSE_stored _ _ 0 _ _ FpDevice.sample.device _ rfl
  have hall := h .sample (.zero 32) 0 0 (List.replicate 33 97) _ _ _ _ hpassword (by decide) rfl
    rfl (recognised_registered _)
  rw [FpRecognizeRecv_cache (recognised_registered _),
    hstored,
    unlockPassword_fpCipher _ _ hpassword] at hall
  cases hall

end Keystone3.Finger
