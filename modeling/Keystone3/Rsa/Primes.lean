import Keystone3.Account.Passphrase
import Keystone3.Keys.Slip10

/-!
# The RSA primes of an account

`rsa.c` keeps the primes of an account's RSA key in a flash sector of their own,
enciphered under a key of the account's seed, with a salted hash behind them.

`hasGeneratedRsaPrimes` erases the sector before it reads it.
-/

namespace Keystone3

open Logic (Outcome Prog)
open Logic.Prog
open Bytes (Block)

/-- What the code takes from its cryptographic libraries. -/
structure Ed25519Lib where
  hmacSha512 : List UInt8 → List UInt8 → Block 64
  /-- The public half of `ed25519::keypair`. -/
  publicKey : Block 32 → Block 32

abbrev rsaPrimeSize : Nat := 256

abbrev rsaOriginDataSize : Nat := rsaPrimeSize + rsaPrimeSize

abbrev rsaDataSize : Nat := rsaOriginDataSize + 16

abbrev rsaDataFullSize : Nat := rsaDataSize + 32

structure RsaPrimes where
  p : Block rsaPrimeSize
  q : Block rsaPrimeSize

def RsaPrimes.data (primes : RsaPrimes) : Block rsaOriginDataSize := primes.p.append primes.q

def RsaPrimes.ofData (data : Block rsaOriginDataSize) : RsaPrimes := ⟨data.front, data.back⟩

@[simp] theorem RsaPrimes.data_ofData (data : Block rsaOriginDataSize) :
    (ofData data).data = data := Block.append_front_back data

/-- `key_path` and `iv_path`. -/
def primesKeyPath : Keys.Text := "m/44'/1557192335'/0'/0'/0'".toList
def primesIvPath : Keys.Text := "m/44'/1557192335'/0'/1'/0'".toList

section

variable (lib : Ed25519Lib) (env : Env)

def generateAesKeyIv (seed : List UInt8) : Outcome ErrCode (Page × Bytes.Cbc.Cell) := do
  let key ← Outcome.expect (Keys.getPrivateKeyBySeed lib.hmacSha512 seed primesKeyPath)
  let iv ← Outcome.expect (Keys.getPrivateKeyBySeed lib.hmacSha512 seed primesIvPath)
  pure (lib.publicKey key, Block.front (m := 16) (n := 16) (lib.publicKey iv))

def aes256EncryptPrimes (seed : List UInt8) (data : Block rsaOriginDataSize) :
    Outcome ErrCode (Block rsaDataSize) := do
  let keyIv ← generateAesKeyIv lib seed
  pure (Bytes.Cbc.encryptPadded (env.crypto.aes keyIv.1) 32 keyIv.2 data)

/-- `aes256_decrypt_primes`; an error is `none`. -/
def aes256DecryptPrimes (seed : List UInt8) (data : Block rsaDataSize) :
    Outcome ErrCode (Option (Block rsaOriginDataSize)) := do
  let keyIv ← generateAesKeyIv lib seed
  match Bytes.Cbc.decryptPadded (env.crypto.aes keyIv.1) 33 keyIv.2 data with
  | none => pure none
  | some text =>
    if h : text.length = rsaOriginDataSize then pure (some ⟨text, h⟩) else pure none

def primesKeyIv (seed : List UInt8) : Page × Bytes.Cbc.Cell :=
  let hardened := fun indexes : List Nat => indexes.map (· + 2 ^ 31)
  let keyAt := fun indexes : List Nat =>
    lib.publicKey (Keys.keyAtIndexes lib.hmacSha512 seed (hardened indexes))
  (keyAt [44, 1557192335, 0, 0, 0], Block.front (m := 16) (n := 16) (keyAt [44, 1557192335, 0, 1, 0]))

theorem generateAesKeyIv_eq (seed : List UInt8) :
    generateAesKeyIv lib seed = .ok (primesKeyIv lib seed) := by
  have hkey := @Keys.getPrivateKeyBySeed_eq_ok lib.hmacSha512 primesKeyPath
    ([44, 1557192335, 0, 0, 0].map (· + 2 ^ 31)) (by decide) seed
  have hiv := @Keys.getPrivateKeyBySeed_eq_ok lib.hmacSha512 primesIvPath
    ([44, 1557192335, 0, 1, 0].map (· + 2 ^ 31)) (by decide) seed
  unfold generateAesKeyIv
  rw [hkey, hiv]
  rfl

theorem aes256EncryptPrimes_eq (seed : List UInt8) (data : Block rsaOriginDataSize) :
    aes256EncryptPrimes lib env seed data = .ok (Bytes.Cbc.encryptPadded
      (env.crypto.aes (primesKeyIv lib seed).1) 32 (primesKeyIv lib seed).2 data) := by
  unfold aes256EncryptPrimes
  rw [generateAesKeyIv_eq]
  rfl

theorem aes256DecryptPrimes_eq_some {seed : List UInt8} {c : Block rsaDataSize}
    {data : Block rsaOriginDataSize} :
    aes256DecryptPrimes lib env seed c = .ok (some data) ↔
      Bytes.Cbc.decryptPadded (env.crypto.aes (primesKeyIv lib seed).1) 33
        (primesKeyIv lib seed).2 c = some data.bytes := by
  unfold aes256DecryptPrimes
  rw [generateAesKeyIv_eq, Outcome.ok_bind]
  cases Bytes.Cbc.decryptPadded (env.crypto.aes (primesKeyIv lib seed).1) 33
    (primesKeyIv lib seed).2 c with
  | none =>
    constructor
    · nofun
    · nofun
  | some text =>
    dsimp only
    constructor
    · intro h
      split at h
      · cases h
        rfl
      · cases h
    · rintro ⟨⟩
      rw [dif_pos data.size_eq]
      rfl

theorem aes256DecryptPrimes_encrypt {seed : List UInt8} {data : Block rsaOriginDataSize}
    {c : Block rsaDataSize} (h : aes256EncryptPrimes lib env seed data = .ok c) :
    aes256DecryptPrimes lib env seed c = .ok (some data) := by
  have hc := Outcome.ok.inj ((aes256EncryptPrimes_eq lib env seed data).symm.trans h)
  rw [aes256DecryptPrimes_eq_some, ← hc]
  exact Bytes.Cbc.decryptPadded_encryptPadded (env.crypto.aes (primesKeyIv lib seed).1) 32
    (primesKeyIv lib seed).2 data

end

/-- The device with the sectors of the primes and the secret cache. -/
structure RsaDevice where
  device : Device
  /-- `SPI_FLASH_RSA_USER1_DATA` and its siblings. -/
  rsaData : AccountIndex → Flash.Cells
  /-- `g_passwordCache`. -/
  passwordCache : Option CString
  /-- `g_passphraseCache`. -/
  passphraseCache : Option CString

/-- The routines of `rsa.c`. -/
abbrev Rsa (α : Type) : Type := Prog ErrCode RsaDevice α

def RsaDevice.setRsaData (s : RsaDevice) (i : AccountIndex) (f : Flash.Cells → Flash.Cells) :
    RsaDevice :=
  { s with rsaData := fun j => if j = i then f (s.rsaData j) else s.rsaData j }

def onDevice {α : Type} (x : Account α) : Rsa α :=
  onPart RsaDevice.device (fun d s => { s with device := d }) x

def RsaDevice.rsaAddress (s : RsaDevice) : AccountIndex :=
  match s.device.currentAccountIndex with
  | some i => i
  | none => 0

/-- `PassphraseExist(GetCurrentAccountIndex())`. -/
def currentPassphraseExist : Account Bool := do
  let d ← get
  match d.currentAccountIndex with
  | none => return false
  | some i => passphraseExist i

/-- No password in the cache acts as an empty one. -/
def getPassword : Rsa CString := do
  let exist ← onDevice currentPassphraseExist
  let s ← get
  return (if exist then s.passphraseCache else s.passwordCache).getD []

def masterFingerPrint : Account (Block 4) := do
  let d ← get
  match d.currentAccountIndex with
  | none => return Block.zero 4
  | some i => do
    let exist ← passphraseExist i
    return if exist then (d.passphraseInfo i).mfp else d.currentAccountInfo.mfp

/-- The two digits of `%02X`. -/
def upperHex (b : UInt8) : List Char :=
  [(Nat.digitChar (b.toNat / 16)).toUpper, (Nat.digitChar (b.toNat % 16)).toUpper]

/-- `hexString` of `RsaHashWithSalt`. -/
def fingerPrintText (mfp : Block 4) : String := String.ofList (mfp.bytes.flatMap upperHex)

section

variable (lib : Ed25519Lib) (env : Env)

def rsaHashWithSalt (data : Block rsaOriginDataSize) : Account Page := do
  let mfp ← masterFingerPrint
  return hashWithSalt env data.bytes (fingerPrintText mfp)

def hasMatchingPrimesHash (primes : RsaPrimes) (targethash : List UInt8) : Account Bool := do
  let sourceHash ← rsaHashWithSalt env primes.data
  return sourceHash.bytes == targethash

def loadPrimesSeed : Rsa (Except ErrCode (List UInt8)) := do
  let s ← get
  let info := s.device.currentAccountInfo
  let len := if info.mnemonicType = .bip39 then 64 else info.entropyLen.toNat
  let password ← getPassword
  match s.device.currentAccountIndex with
  | none => halt
  | some i => do
    let seed ← attempt (onDevice (getAccountSeed env i password))
    return seed.map (·.take len)

def sectorErase (address : AccountIndex) : Rsa Unit :=
  modify fun s => s.setRsaData address (Flash.eraseSector 0x1000 0)

/-- `Gd25FlashWriteBuffer`: how many bytes were written. -/
def writeBuffer (address : AccountIndex) (buffer : List UInt8) : Rsa Nat := do
  modify fun s => s.setRsaData address (Flash.programPages 256 0 buffer)
  return buffer.length

/-- `FlashReadRsaPrimes`; no primes are a null pointer. -/
def flashReadRsaPrimes : Rsa (Option RsaPrimes) := do
  let s ← get
  let fullData := Flash.read (s.rsaData s.rsaAddress) 0 rsaDataFullSize
  match ← loadPrimesSeed env with
  | .error _ => return none
  | .ok seed => do
    let cryptData := Block.ofBytes rsaDataSize (fullData.take rsaDataSize)
    match ← ofOutcome (aes256DecryptPrimes lib env seed cryptData) with
    | none => return none
    | some data => do
      let primes := RsaPrimes.ofData data
      if ← onDevice (hasMatchingPrimesHash env primes (fullData.drop rsaDataSize)) then
        return some primes
      else
        return none

def flashWriteRsaPrimes (data : Block rsaOriginDataSize) : Rsa Int := do
  match ← loadPrimesSeed env with
  | .error _ => halt
  | .ok seed => do
    let cryptData ← ofOutcome (aes256EncryptPrimes lib env seed data)
    let hash ← onDevice (rsaHashWithSalt env data)
    let s ← get
    sectorErase s.rsaAddress
    let ret ← writeBuffer s.rsaAddress (cryptData.bytes ++ hash.bytes)
    if ret = rsaDataFullSize then return 0 else return -1

def hasGeneratedRsaPrimes : Rsa Bool := do
  let s ← get
  sectorErase s.rsaAddress
  let primes ← flashReadRsaPrimes lib env
  return primes.isSome

end

end Keystone3
