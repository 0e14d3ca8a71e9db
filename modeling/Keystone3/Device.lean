import Keystone3.Logic.Prog
import Keystone3.Bytes.Cbc
import Keystone3.Flash.Nor

/-!
# The device the account code runs on

What the account manager and the keystore read and write: the pages of the DS28S60, the
key slots of the ATECC608B, the SPI flash areas of each account, and the globals in RAM.
Everything is in one record, `Device`, and every routine is a program over it.

What is outside the firmware is `Env`: the ciphers and hashes, the OTP secrets, the
random source, the wallet functions of the Rust and BIP39 libraries, and how the
hardware answers.
-/

namespace Keystone3

open Logic (Prog)
open Bytes (Block toLe ofLe)

abbrev Page : Type := Block 32

/-- `ASSERT(accountIndex <= 2)`: what every account routine asks of its index. -/
abbrev AccountIndex : Type := Fin 3

instance neZero_accounts : NeZero 3 := ⟨by decide⟩

abbrev CString : Type := List UInt8

/-- `strcpy_s` into `dmax` bytes: a text that does not fit leaves an empty one. -/
def strcpyS (dmax : Nat) (src : CString) : CString := if src.length < dmax then src else []

/-- Some byte is neither `0x00` nor `0xFF`. -/
def checkEntropy {n : Nat} (a : Block n) : Bool := a.bytes.any fun b => b != 0 && b != 0xFF

def checkAllFF {n : Nat} (a : Block n) : Bool := a.bytes.all fun b => b == 0xFF

def checkAllZero {n : Nat} (a : Block n) : Bool := a.bytes.all fun b => b == 0

/-- The error codes of `err_code.h` that the account code returns or looks at;
`se` is a status of one of the secure elements and `external` one of a
library. -/
inductive ErrCode where
  | generalFail
  | atecc608bSlotNumErr
  | keystoreAuth
  | keystorePasswordErr
  | keystoreRepeatPassword
  | keystoreNotLogin
  | keystoreExtendPublicKeyNotMatch
  | se (status : Nat)
  | external (code : Int)
deriving DecidableEq

inductive PasscodeType where
  | pin
  | password
deriving DecidableEq

inductive MnemonicType where
  | bip39
  | slip39
  | ton
deriving DecidableEq

/-- `AccountInfo_t`, the parameter page of an account. -/
structure AccountInfo where
  entropyLen : UInt8
  passcodeType : PasscodeType
  isSlip39 : Bool
  passphraseQuickAccess : Bool
  passphraseMark : Bool
  isTon : Bool
  slip39Id : Block 2
  mfp : Block 4
  slip39IeEb : Block 1
  reserved2 : Block 5
  iconIndex : UInt8
  walletName : Block 17
deriving DecidableEq

/-- `CLEAR_OBJECT(g_currentAccountInfo)`. -/
def AccountInfo.cleared : AccountInfo where
  entropyLen := 0
  passcodeType := .pin
  isSlip39 := false
  passphraseQuickAccess := false
  passphraseMark := false
  isTon := false
  slip39Id := Block.zero 2
  mfp := Block.zero 4
  slip39IeEb := Block.zero 1
  reserved2 := Block.zero 5
  iconIndex := 0
  walletName := Block.zero 17

def AccountInfo.flags (a : AccountInfo) : UInt8 :=
  (if a.passcodeType = .password then 1 else 0) ||| (if a.isSlip39 then 2 else 0) |||
    (if a.passphraseQuickAccess then 4 else 0) ||| (if a.passphraseMark then 8 else 0) |||
    (if a.isTon then 16 else 0)

def AccountInfo.toPage (a : AccountInfo) : Page :=
  (Block.single a.entropyLen).append ((Block.single a.flags).append (a.slip39Id.append
    (a.mfp.append (a.slip39IeEb.append (a.reserved2.append
      ((Block.single a.iconIndex).append a.walletName))))))

def AccountInfo.ofPage (p : Page) : AccountInfo :=
  let p₁ : Block 31 := Block.back (m := 1) p
  let flags := (Block.front (m := 1) (n := 30) p₁).byte
  let p₂ : Block 30 := Block.back (m := 1) p₁
  let p₃ : Block 28 := Block.back (m := 2) p₂
  let p₄ : Block 24 := Block.back (m := 4) p₃
  let p₅ : Block 23 := Block.back (m := 1) p₄
  let p₆ : Block 18 := Block.back (m := 5) p₅
  { entropyLen := (Block.front (m := 1) (n := 31) p).byte
    passcodeType := if flags &&& 1 = 0 then .pin else .password
    isSlip39 := flags &&& 2 != 0
    passphraseQuickAccess := flags &&& 4 != 0
    passphraseMark := flags &&& 8 != 0
    isTon := flags &&& 16 != 0
    slip39Id := Block.front (m := 2) (n := 28) p₂
    mfp := Block.front (m := 4) (n := 24) p₃
    slip39IeEb := Block.front (m := 1) (n := 23) p₄
    reserved2 := Block.front (m := 5) (n := 18) p₅
    iconIndex := (Block.front (m := 1) (n := 17) p₆).byte
    walletName := Block.back (m := 1) p₆ }

private theorem flags_decode (p : PasscodeType) (a b c d : Bool) :
    let f : UInt8 := (if p = .password then 1 else 0) ||| (if a then 2 else 0) |||
      (if b then 4 else 0) ||| (if c then 8 else 0) ||| (if d then 16 else 0)
    (if f &&& 1 = 0 then PasscodeType.pin else .password) = p ∧ (f &&& 2 != 0) = a ∧
      (f &&& 4 != 0) = b ∧ (f &&& 8 != 0) = c ∧ (f &&& 16 != 0) = d := by
  cases p <;> cases a <;> cases b <;> cases c <;> cases d <;> decide

/-- Storing the parameters and reading them back gives the same parameters. -/
@[simp] theorem AccountInfo.ofPage_toPage (a : AccountInfo) : ofPage a.toPage = a := by
  obtain ⟨h₁, h₂, h₃, h₄, h₅⟩ := flags_decode a.passcodeType a.isSlip39
    a.passphraseQuickAccess a.passphraseMark a.isTon
  unfold ofPage toPage
  simp only [Block.front_append, Block.back_append, Block.byte_single]
  unfold flags
  simp only [h₁, h₂, h₃, h₄, h₅]

/-- `PublicInfo_t`, the page of the error counters. -/
structure PublicInfo where
  loginPasswordErrorCount : UInt8
  currentPasswordErrorCount : UInt8
  reserved1 : Block 2
  lastLockDeviceTime : UInt32
  reserved2 : Block 24

/-- `CLEAR_OBJECT(g_publicInfo)`. -/
def PublicInfo.cleared : PublicInfo where
  loginPasswordErrorCount := 0
  currentPasswordErrorCount := 0
  reserved1 := Block.zero 2
  lastLockDeviceTime := 0
  reserved2 := Block.zero 24

def PublicInfo.toPage (a : PublicInfo) : Page :=
  (Block.single a.loginPasswordErrorCount).append ((Block.single a.currentPasswordErrorCount).append
    (a.reserved1.append ((Block.ofBytes 4 (toLe 4 a.lastLockDeviceTime.toNat)).append a.reserved2)))

def PublicInfo.ofPage (p : Page) : PublicInfo :=
  let p₁ : Block 31 := Block.back (m := 1) p
  let p₂ : Block 30 := Block.back (m := 1) p₁
  let p₃ : Block 28 := Block.back (m := 2) p₂
  { loginPasswordErrorCount := (Block.front (m := 1) (n := 31) p).byte
    currentPasswordErrorCount := (Block.front (m := 1) (n := 30) p₁).byte
    reserved1 := Block.front (m := 2) (n := 28) p₂
    lastLockDeviceTime := UInt32.ofNat (ofLe (Block.front (m := 4) (n := 24) p₃).bytes)
    reserved2 := Block.back (m := 4) p₃ }

/-- Storing the counters and reading them back gives the same counters. -/
@[simp] theorem PublicInfo.ofPage_toPage (a : PublicInfo) : ofPage a.toPage = a := by
  have hlen := Bytes.length_toLe 4 a.lastLockDeviceTime.toNat
  have htime : (Block.ofBytes 4 (toLe 4 a.lastLockDeviceTime.toNat)).bytes
      = toLe 4 a.lastLockDeviceTime.toNat :=
    congrArg Block.bytes (Block.ofBytes_bytes (n := 4) ⟨toLe 4 a.lastLockDeviceTime.toNat, hlen⟩)
  have hle : ofLe (toLe 4 a.lastLockDeviceTime.toNat) = a.lastLockDeviceTime.toNat :=
    Bytes.ofLe_toLe 4 _ a.lastLockDeviceTime.toNat_lt
  unfold ofPage toPage
  simp only [Block.front_append, Block.back_append, Block.byte_single, htime, hle,
    UInt32.ofNat_toNat]

/-- `PassphraseInfo_t` of one account. -/
structure PassphraseInfo where
  passphrase : CString
  passphraseExist : Bool
  mfp : Block 4
deriving DecidableEq

def PassphraseInfo.cleared : PassphraseInfo where
  passphrase := []
  passphraseExist := false
  mfp := Block.zero 4

inductive UserArea where
  | data
  | mutableData
  | multiSigData
deriving DecidableEq

/-- The size of an area: `SPI_FLASH_SIZE_USER1_DATA` and its siblings. -/
def UserArea.size : UserArea → Nat
  | .data => 0x10000
  | .mutableData => 0x5000
  | .multiSigData => 0x2000

structure Device where
  /-- DS28S60 pages. -/
  page : Nat → Page
  /-- ATECC608B data slots. -/
  slot : Nat → Page
  /-- SPI flash, by account and area. -/
  flash : AccountIndex → UserArea → Flash.Cells
  /-- Writes issued so far, to either secure element or to the flash. -/
  writes : Nat
  /-- Reads issued since the last write. -/
  reads : Nat
  /-- Random draws so far. -/
  draws : Nat
  /-- `g_currentAccountIndex`; `none` is `ACCOUNT_INDEX_LOGOUT`. -/
  currentAccountIndex : Option AccountIndex
  /-- `g_lastAccountIndex`. -/
  lastAccountIndex : Option AccountIndex
  /-- `g_currentAccountInfo`. -/
  currentAccountInfo : AccountInfo
  /-- `g_publicInfo`. -/
  publicInfo : PublicInfo
  /-- `g_passphraseInfo`. -/
  passphraseInfo : AccountIndex → PassphraseInfo
  /-- `g_accountPublicInfo`: the value of each row of the chain table. -/
  accountPublicInfo : List (Option CString)
  /-- `g_tempPublicKeyAccountIndex`; `none` is `INVALID_ACCOUNT_INDEX`. -/
  tempPublicKeyAccountIndex : Option AccountIndex
  /-- `g_isTempAccount`. -/
  isTempAccount : Bool
  /-- `g_walletName` of the secret cache. -/
  walletName : Option CString
  /-- `g_walletIconIndex` of the secret cache. -/
  walletIconIndex : UInt8

abbrev Account (α : Type) : Type := Prog ErrCode Device α

namespace Device

def setPage (d : Device) (p : Nat) (x : Page) : Device :=
  { d with page := fun q => if q = p then x else d.page q }

def setSlot (d : Device) (s : Nat) (x : Page) : Device :=
  { d with slot := fun t => if t = s then x else d.slot t }

def setFlash (d : Device) (i : AccountIndex) (a : UserArea)
    (f : Flash.Cells → Flash.Cells) : Device :=
  { d with flash := fun j b => if j = i ∧ b = a then f (d.flash j b) else d.flash j b }

variable (d : Device)

@[simp] theorem setPage_self (p : Nat) (x : Page) : (d.setPage p x).page p = x :=
  if_pos rfl

theorem setPage_ne {p q : Nat} (x : Page) (h : q ≠ p) :
    (d.setPage p x).page q = d.page q := if_neg h

@[simp] theorem setSlot_self (s : Nat) (x : Page) : (d.setSlot s x).slot s = x :=
  if_pos rfl

theorem setSlot_ne {s t : Nat} (x : Page) (h : t ≠ s) :
    (d.setSlot s x).slot t = d.slot t := if_neg h

@[simp] theorem setPage_slot (p : Nat) (x : Page) :
    (d.setPage p x).slot = d.slot := rfl

@[simp] theorem setSlot_page (s : Nat) (x : Page) :
    (d.setSlot s x).page = d.page := rfl

@[simp] theorem setFlash_page (i : AccountIndex) (a : UserArea)
    (f : Flash.Cells → Flash.Cells) : (d.setFlash i a f).page = d.page := rfl

@[simp] theorem setFlash_slot (i : AccountIndex) (a : UserArea)
    (f : Flash.Cells → Flash.Cells) : (d.setFlash i a f).slot = d.slot := rfl

@[simp] theorem setFlash_self (i : AccountIndex) (a : UserArea)
    (f : Flash.Cells → Flash.Cells) : (d.setFlash i a f).flash i a = f (d.flash i a) :=
  if_pos ⟨rfl, rfl⟩

end Device

/-- The hashes and ciphers, and the key operations inside the ATECC608B. -/
structure Crypto where
  hmacSha256 : List UInt8 → List UInt8 → Page
  sha256 : List UInt8 → Page
  sha512 : List UInt8 → Block 64
  /-- AES-256 under a key. -/
  aes : Page → Bytes.Cbc.Cipher
  /-- The new value of a slot after a `DeriveKey` with this nonce. -/
  deriveKey : Page → Page → Page
  /-- HKDF under a slot's key. -/
  kdf : Page → Page → Page

/-- The secrets in one-time-programmable memory, provisioned before first use. -/
structure Otp where
  salt : Page
  aesKey : Page
  salt_provisioned : checkEntropy salt = true
  aesKey_provisioned : checkEntropy aesKey = true

/-- `PublicInfoType_t`: how the key of a row of the chain table is derived. -/
inductive CryptoKey where
  | secp256k1
  | ed25519
  | bip32Ed25519
  | ledgerBitbox02
  | rsaKey
  | tonNative
  | tonChecksum
deriving DecidableEq

/-- A row of `g_chainTable`. -/
structure ChainItem where
  cryptoKey : CryptoKey
  path : CString

/-- The library functions of the Rust, BIP39 and JSON code; `none` is a null
response. -/
structure Wallet where
  bip39MnemonicFromBytes : List UInt8 → Except Int CString
  /-- `bip39_mnemonic_to_seed` of a mnemonic and a passphrase. -/
  bip39MnemonicToSeed : CString → CString → Except Int (Block 64)
  /-- `Slip39GetSeed`: ems, passphrase, exponent, extendable flag, identifier. -/
  slip39GetSeed : List UInt8 → CString → UInt8 → UInt8 → Block 2 → Except Int (List UInt8)
  tonMnemonicToEntropy : CString → Block 64
  tonEntropyToSeed : Block 64 → Except Int (Block 64)
  getMasterFingerprint : List UInt8 → Option (Except Int (Block 4))
  /-- `get_icarus_master_key` of an entropy and a passphrase. -/
  getIcarusMasterKey : List UInt8 → CString → Option (Except Int CString)
  /-- `get_ledger_bitbox02_master_key` of a mnemonic, null when there is none,
      and a passphrase. -/
  getLedgerBitbox02MasterKey : Option CString → CString → Option (Except Int CString)
  /-- `ProcessKeyType` of a seed, a row, and the two master keys. -/
  processKeyType : List UInt8 → ChainItem → Option CString → Option CString →
    Option (Except Int CString)
  chainTable : List ChainItem
  jsonOfPublicKeys : List (Option CString) → CString
  /-- `GetPublicKeyFromJsonString`; `none` when the text is not one of ours. -/
  publicKeysOfJson : CString → Option (List (Option CString))

inductive SeReply where
  | answered
  | refused (status : Nat) (applied : Bool)
  | stopped (applied : Bool)

structure Env where
  crypto : Crypto
  otp : Otp
  wallet : Wallet
  /-- The `n`-th random draw. -/
  trng : Nat → Page
  /-- What an uninitialised buffer holds, by writes and reads issued so far. -/
  stack : Nat → Nat → Block 64
  writeReply : Nat → SeReply
  readReply : Nat → Nat → SeReply

def Env.ideal (env : Env) : Env :=
  { env with writeReply := fun _ => .answered, readReply := fun _ _ => .answered }

/-- A power loss at the `n`-th write, before it takes effect. -/
def Env.cutAt (env : Env) (n : Nat) : Env :=
  { env with
    writeReply := fun w => if w < n then .answered else .stopped false
    readReply := fun _ _ => .answered }

def Env.refuseAt (env : Env) (n : Nat) : Env :=
  { env with writeReply := fun w => if w = n then .refused 0 false else env.writeReply w }

/-- The same environment, with `g` in every uninitialised buffer. -/
def Env.withStack (env : Env) (g : Block 64) : Env := { env with stack := fun _ _ => g }

def Device.blank : Device where
  page := fun _ => Block.zero 32
  slot := fun _ => Block.zero 32
  flash := fun _ _ _ => Flash.erased
  writes := 0
  reads := 0
  draws := 0
  currentAccountIndex := none
  lastAccountIndex := none
  currentAccountInfo := AccountInfo.cleared
  publicInfo := PublicInfo.cleared
  passphraseInfo := fun _ => PassphraseInfo.cleared
  accountPublicInfo := []
  tempPublicKeyAccountIndex := none
  isTempAccount := false
  walletName := none
  walletIconIndex := 0

def sampleHash (k m : List UInt8) : Page :=
  (Block.ofBytes 32 k).xor ((Block.ofBytes 32 m).xor (Block.ofBytes 32 (m.drop 32)))

def Crypto.sample : Crypto where
  hmacSha256 := sampleHash
  sha256 := sampleHash []
  sha512 := fun m => (sampleHash [] m).append (sampleHash [] m)
  aes := fun _ => .plain
  deriveKey := Block.xor
  kdf := Block.xor

def Otp.sample : Otp where
  salt := Block.fill 32 1
  aesKey := Block.fill 32 2
  salt_provisioned := by decide
  aesKey_provisioned := by decide

def Wallet.sample : Wallet where
  bip39MnemonicFromBytes := .ok
  bip39MnemonicToSeed := fun m p => .ok (Block.ofBytes 64 (m ++ p))
  slip39GetSeed := fun ems _ _ _ _ => .ok ems
  tonMnemonicToEntropy := Block.ofBytes 64
  tonEntropyToSeed := .ok
  getMasterFingerprint := fun seed => some (.ok (Block.ofBytes 4 seed))
  getIcarusMasterKey := fun e _ => some (.ok e)
  getLedgerBitbox02MasterKey := fun m _ => some (.ok (m.getD []))
  processKeyType := fun seed _ _ _ => some (.ok (seed.take 4))
  chainTable := [{ cryptoKey := .secp256k1, path := [] }]
  jsonOfPublicKeys := fun ks => ks.flatMap fun k => k.getD [48]
  publicKeysOfJson := fun json => some [some json]

def Env.sample : Env where
  crypto := Crypto.sample
  otp := Otp.sample
  wallet := Wallet.sample
  trng := fun n => Block.fill 32 (UInt8.ofNat (3 + n % 16))
  stack := fun _ _ => Block.zero 64
  writeReply := fun _ => .answered
  readReply := fun _ _ => .answered

end Keystone3
