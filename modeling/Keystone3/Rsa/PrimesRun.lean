import Keystone3.Rsa.Primes

/-!
# The RSA primes over a run

What `flashWriteRsaPrimes` has written is what `flashReadRsaPrimes` returns, to the same
account with the same passphrase, and to no other seed: the sector of the account is left
alone by everything but another write and `hasGeneratedRsaPrimes` (`step_rsaData`), and the
same account loads the same seed (`loadPrimesSeed_same`).

A query erases the primes that it asks for (`primes_lost_by_query`).
-/

namespace Keystone3

open Logic (Outcome AllSteps runSteps runSteps_inv_of)
open Logic.Prog
open Bytes (Block)
open Flash (Cells eraseSector erased programPages)

/-- The account's secret is `s`, under this password, and the hardware answers. -/
structure Loads (env : Env) (i : AccountIndex) (password : CString) (s : AccountSecret)
    (d : Device) : Prop where
  answers : AnswersReads env d.writes
  authorized : Authorized env d i password
  opens : openAccount env (storedPieces env d i password) (recordOf d i) (paramOf d i).entropyLen
    = .ok s

section

variable {env : Env} {i : AccountIndex} {password passphrase : CString} {s : AccountSecret}
  {d d' : Device}

theorem Loads.countReads (h : Loads env i password s d) (n : Nat) :
    Loads env i password s (d.countReads n) := ⟨h.answers, h.authorized, h.opens⟩

theorem Loads.load (h : Loads env i password s d) :
    ∃ n, loadAccountSecret env i password d = (.ok s, d.countReads n) := by
  obtain ⟨n, hload⟩ := loadAccountSecret_answered h.answers i password
  refine ⟨n, ?_⟩
  rw [hload]
  unfold loaded
  rw [if_pos h.authorized, h.opens]
  rfl

theorem Loads.passphraseSeed (h : Loads env i password s d) (hne : passphrase ≠ [])
    (hton : d.currentAccountInfo.mnemonicType ≠ .ton) :
    ∃ n, getPassphraseSeed env i passphrase password d
      = (ofExcept (seedOf env d.currentAccountInfo passphrase s) : Account _) (d.countReads n) := by
  obtain ⟨n, hload⟩ := h.load
  refine ⟨n, ?_⟩
  have htype : getMnemonicType d = (.ok d.currentAccountInfo.mnemonicType, d) := rfl
  have hempty : passphrase.isEmpty = false := List.isEmpty_eq_false_iff.mpr hne
  unfold getPassphraseSeed seedOf
  rw [bind_ok htype, hempty]
  cases ht : d.currentAccountInfo.mnemonicType with
  | ton => exact absurd ht hton
  | slip39 =>
    have hems : attempt (getAccountSlip39Ems env i password) d
        = (.ok (.ok s.slip39EmsOrTonEntropyL32), d.countReads n) := attempt_ok (bind_ok hload)
    have hgarbage : stackGarbage env d = (.ok (env.stack d.writes d.reads), d) := rfl
    rw [bind_ok (assert_true (c := MnemonicType.slip39 != .ton) rfl d)]
    dsimp only
    rw [bind_ok hgarbage, bind_ok hems]
    rfl
  | bip39 =>
    have hentropy : getAccountEntropy env i password d
        = (.ok (entropyOf d.currentAccountInfo s), d.countReads n) := by
      unfold getAccountEntropy entropyOf
      rw [bind_ok hload, ht]
      have htype' : getMnemonicType (d.countReads n) = (.ok .bip39, d.countReads n) := by
        rw [← ht]
        rfl
      rw [bind_ok htype']
      rfl
    rw [bind_ok (assert_true (c := MnemonicType.bip39 != .ton) rfl d)]
    dsimp only
    rw [bind_ok hentropy]
    cases env.wallet.bip39MnemonicFromBytes (entropyOf d.currentAccountInfo s) with
    | error e => rfl
    | ok mnemonic =>
      show (ofExcept ((env.wallet.bip39MnemonicToSeed mnemonic passphrase).mapError _)
        >>= fun seed : Block 64 => pure seed.bytes : Account _) _ = (ofExcept (
          (env.wallet.bip39MnemonicToSeed mnemonic passphrase).mapError _
            >>= fun seed : Block 64 => pure seed.bytes) : Account _) _
      cases env.wallet.bip39MnemonicToSeed mnemonic passphrase with
      | error e => rfl
      | ok seed => rfl

/-- Whether there is a passphrase is noted, and it is not of a TON account. -/
structure PassphraseUsable (i : AccountIndex) (d : Device) : Prop where
  agrees : (d.passphraseInfo i).Agrees
  not_ton : d.currentAccountInfo.mnemonicType = .ton → (d.passphraseInfo i).passphrase = []

theorem Loads.seed (h : Loads env i password s d) (hp : PassphraseUsable i d) :
    ∃ n, getAccountSeed env i password d = (ofExcept (seedOf env d.currentAccountInfo
      (d.passphraseInfo i).passphrase s) : Account _) (d.countReads n) := by
  obtain ⟨n, hload⟩ := h.load
  have hexist := passphraseExist_agrees (i := i) (d := d.countReads n) hp.agrees
  have hinfo : (d.countReads n).passphraseInfo i = d.passphraseInfo i := rfl
  rw [hinfo] at hexist
  unfold getAccountSeed
  rw [bind_ok hload, bind_ok hexist]
  by_cases hempty : (d.passphraseInfo i).passphrase = []
  · refine ⟨n, ?_⟩
    unfold seedOf
    rw [hempty]
    rfl
  · rw [List.isEmpty_eq_false_iff.mpr hempty]
    obtain ⟨m, hseed⟩ := (h.countReads n).passphraseSeed hempty fun ht => hempty (hp.not_ton ht)
    refine ⟨n + m, ?_⟩
    show getPassphraseSeed env i (d.passphraseInfo i).passphrase password (d.countReads n) = _
    rw [hseed]
    show (ofExcept _ : Account _) { d with reads := d.reads + n + m } = _
    rw [Nat.add_assoc]
    rfl

theorem getAccountSeed_returned {seed : List UInt8} (hr : AnswersReads env d.writes)
    (ha : Authorized env d i password) (h : getAccountSeed env i password d = (.ok seed, d')) :
    PassphraseUsable i d ∧ ∃ s, Loads env i password s d ∧
      seedOf env d.currentAccountInfo (d.passphraseInfo i).passphrase s = .ok seed := by
  obtain ⟨s, d₁, hload, hrest⟩ := bind_eq_ok h
  -- the secret was opened, or nothing would have been returned
  have hopens : openAccount env (storedPieces env d i password) (recordOf d i)
      (paramOf d i).entropyLen = .ok s := by
    obtain ⟨n, hanswered⟩ := loadAccountSecret_answered hr i password
    rw [hanswered] at hload
    have hloaded := (ofExcept_eq_ok hload).1
    unfold loaded at hloaded
    rwa [if_pos ha] at hloaded
  have hloads : Loads env i password s d := ⟨hr, ha, hopens⟩
  obtain ⟨n, hload'⟩ := hloads.load
  obtain rfl : d₁ = d.countReads n := congrArg Prod.snd (hload.symm.trans hload')
  obtain ⟨b, d₂, hexist, hrest⟩ := bind_eq_ok hrest
  obtain ⟨rfl, hb⟩ := passphraseExist_ok hexist
  have husable : PassphraseUsable i d := by
    refine ⟨(passphraseExist_returns_iff (d := d.countReads n)).mp ⟨b, hexist⟩, fun ht => ?_⟩
    by_contra hne
    have hpassphrase : ((d.countReads n).passphraseInfo i).passphrase.isEmpty = false :=
      List.isEmpty_eq_false_iff.mpr hne
    rw [hb, hpassphrase] at hrest
    exact getPassphraseSeed_not_ton (d := d.countReads n) hrest ht
  refine ⟨husable, s, hloads, ?_⟩
  obtain ⟨m, hseed⟩ := hloads.seed husable
  exact (ofExcept_eq_ok (hseed.symm.trans h)).1

end

/-- What `getPassword` returns. -/
def passwordOf (i : AccountIndex) (s : RsaDevice) : CString :=
  (if (s.device.passphraseInfo i).passphrase = [] then s.passwordCache
    else s.passphraseCache).getD []

def primesSeedLen (a : AccountInfo) : Nat :=
  if a.mnemonicType = .bip39 then 64 else a.entropyLen.toNat

def mfpOf (i : AccountIndex) (d : Device) : Block 4 :=
  if (d.passphraseInfo i).passphrase = [] then d.currentAccountInfo.mfp else (d.passphraseInfo i).mfp

section

variable {env : Env} {i : AccountIndex} {s s' : RsaDevice} {seed : List UInt8}

theorem getPassword_eq (hcur : s.device.currentAccountIndex = some i)
    (hp : (s.device.passphraseInfo i).Agrees) : getPassword s = (.ok (passwordOf i s), s) := by
  have hexist : onDevice currentPassphraseExist s
      = (.ok (!(s.device.passphraseInfo i).passphrase.isEmpty), s) := by
    refine onPart_eq (s := s.device) ?_
    unfold currentPassphraseExist
    rw [get_bind, hcur]
    exact passphraseExist_agrees hp
  unfold getPassword passwordOf
  rw [bind_ok hexist, get_bind]
  cases (s.device.passphraseInfo i).passphrase with
  | nil => rfl
  | cons _ _ => rfl

theorem masterFingerPrint_eq {d : Device} (hcur : d.currentAccountIndex = some i)
    (hp : (d.passphraseInfo i).Agrees) : masterFingerPrint d = (.ok (mfpOf i d), d) := by
  unfold masterFingerPrint mfpOf
  rw [get_bind, hcur]
  dsimp only
  rw [bind_ok (passphraseExist_agrees hp)]
  cases (d.passphraseInfo i).passphrase with
  | nil => rfl
  | cons _ _ => rfl

theorem loadPrimesSeed_returned (h : loadPrimesSeed env s = (.ok (.ok seed), s')) :
    ∃ i full d', s.device.currentAccountIndex = some i ∧
      (s.device.passphraseInfo i).Agrees ∧
      getAccountSeed env i (passwordOf i s) s.device = (.ok full, d') ∧
      seed = full.take (primesSeedLen s.device.currentAccountInfo) ∧
      s' = { s with device := d' } := by
  unfold loadPrimesSeed at h
  rw [get_bind] at h
  obtain ⟨password, s₁, hpassword, h⟩ := bind_eq_ok h
  cases hcur : s.device.currentAccountIndex with
  | none =>
    rw [hcur] at h
    cases h
  | some i =>
    rw [hcur] at h
    -- the assertion of `PassphraseExist` has passed
    have hagrees : (s.device.passphraseInfo i).Agrees := by
      obtain ⟨b, s₂, hexist, -⟩ := bind_eq_ok hpassword
      have hexist' : currentPassphraseExist s.device = (.ok b, s.device) := by
        have hval : (currentPassphraseExist s.device).1 = .ok b := congrArg Prod.fst hexist
        have hrun := run_eq hval
        unfold currentPassphraseExist at hrun ⊢
        rw [get_bind, hcur] at hrun ⊢
        rw [(passphraseExist_ok hrun).1] at hrun
        exact hrun
      unfold currentPassphraseExist at hexist'
      rw [get_bind, hcur] at hexist'
      exact passphraseExist_returns_iff.mp ⟨b, hexist'⟩
    rw [getPassword_eq hcur hagrees] at hpassword
    cases hpassword
    obtain ⟨r, s₂, hseed, h⟩ := bind_eq_ok h
    rcases attempt_eq_ok hseed with ⟨full, rfl, hrun⟩ | ⟨e, rfl, -⟩
    · have hval : (getAccountSeed env i (passwordOf i s) s.device).1 = .ok full :=
        congrArg Prod.fst hrun
      have hleft : { s with device := (getAccountSeed env i (passwordOf i s) s.device).2 } = s₂ :=
        congrArg Prod.snd hrun
      have hend : s₂ = s' := congrArg Prod.snd h
      exact ⟨i, full, _, rfl, hagrees, run_eq hval,
        (Except.ok.inj (Outcome.ok.inj (congrArg Prod.fst h))).symm, (hleft.trans hend).symm⟩
    · exact nomatch Outcome.ok.inj (congrArg Prod.fst h)

end

def primesImage (lib : Ed25519Lib) (env : Env) (seed : List UInt8) (mfp : Block 4)
    (data : Block rsaOriginDataSize) : List UInt8 :=
  (Bytes.Cbc.encryptPadded (env.crypto.aes (primesKeyIv lib seed).1) 32
    (primesKeyIv lib seed).2 data).bytes ++
    (hashWithSalt env data.bytes (fingerPrintText mfp)).bytes

/-- The primes of a seed are at the front of the sector of account `i`. -/
def HoldsPrimes (lib : Ed25519Lib) (env : Env) (i : AccountIndex) (seed : List UInt8)
    (mfp : Block 4) (data : Block rsaOriginDataSize) (s : RsaDevice) : Prop :=
  Flash.read (s.rsaData i) 0 rsaDataFullSize = primesImage lib env seed mfp data

section

variable {lib : Ed25519Lib} {env : Env} {i : AccountIndex} {s t : RsaDevice}
  {data : Block rsaOriginDataSize}

theorem length_primesImage (lib : Ed25519Lib) (env : Env) (data : Block rsaOriginDataSize)
    (seed : List UInt8) (mfp : Block 4) :
    (primesImage lib env seed mfp data).length = rsaDataFullSize := by
  unfold primesImage
  rw [List.length_append, Block.size_eq, Block.size_eq]
  rfl

theorem rsaAddress_eq (hcur : s.device.currentAccountIndex = some i) : s.rsaAddress = i := by
  unfold RsaDevice.rsaAddress
  rw [hcur]

theorem rsaHashWithSalt_eq (env : Env) (data : Block rsaOriginDataSize) {d : Device}
    (hcur : d.currentAccountIndex = some i) (hp : (d.passphraseInfo i).Agrees) :
    rsaHashWithSalt env data d
      = (.ok (hashWithSalt env data.bytes (fingerPrintText (mfpOf i d))), d) := by
  unfold rsaHashWithSalt
  rw [bind_ok (masterFingerPrint_eq hcur hp)]
  rfl

theorem read_written {bs : List UInt8} (f : Cells) (h : bs.length ≤ 0x1000) :
    Flash.read (programPages 256 0 bs (eraseSector 0x1000 0 f)) 0 bs.length = bs := by
  rw [Flash.programPages_eq (by decide)]
  refine Flash.read_program fun j hj => Flash.eraseSector_in f ?_
  omega

def primesWritten (lib : Ed25519Lib) (env : Env) (i : AccountIndex) (seed : List UInt8)
    (data : Block rsaOriginDataSize) (s : RsaDevice) : RsaDevice :=
  (s.setRsaData i (eraseSector 0x1000 0)).setRsaData i
    (programPages 256 0 (primesImage lib env seed (mfpOf i s.device) data))

theorem flashWrite_eq (lib : Ed25519Lib) (data : Block rsaOriginDataSize) {seed : List UInt8}
    {s₁ : RsaDevice} (h : loadPrimesSeed env s = (.ok (.ok seed), s₁)) :
    ∃ i n, s.device.currentAccountIndex = some i ∧
      s₁ = { s with device := s.device.countReads n } ∧
      flashWriteRsaPrimes lib env data s = (.ok 0, primesWritten lib env i seed data s₁) := by
  obtain ⟨i, full, d', hcur, hagrees, hfull, -, rfl⟩ := loadPrimesSeed_returned h
  obtain ⟨n, rfl⟩ : OnlyRead s.device d' := by
    have hread := frame_readAccountSeed env i (passwordOf i s) s.device
    rwa [hfull] at hread
  refine ⟨i, n, hcur, rfl, ?_⟩
  let s₁ : RsaDevice := { s with device := s.device.countReads n }
  -- what is written is computed before the sector is erased
  let image := primesImage lib env seed (mfpOf i s₁.device) data
  have hcipher : (ofOutcome (aes256EncryptPrimes lib env seed data) : Rsa _) s₁
      = (.ok (Bytes.Cbc.encryptPadded (env.crypto.aes (primesKeyIv lib seed).1) 32
        (primesKeyIv lib seed).2 data), s₁) := by
    rw [aes256EncryptPrimes_eq]
    rfl
  have hhash : onDevice (rsaHashWithSalt env data) s₁
      = (.ok (hashWithSalt env data.bytes (fingerPrintText (mfpOf i s₁.device))), s₁) :=
    onPart_eq (rsaHashWithSalt_eq env data (d := s.device.countReads n) hcur hagrees)
  have haddress : s₁.rsaAddress = i := rsaAddress_eq hcur
  have herase : sectorErase i s₁ = (.ok (), s₁.setRsaData i (eraseSector 0x1000 0)) := rfl
  have hwrite : writeBuffer i image (s₁.setRsaData i (eraseSector 0x1000 0))
      = (.ok image.length, primesWritten lib env i seed data s₁) := rfl
  unfold flashWriteRsaPrimes
  rw [bind_ok h]
  dsimp only
  rw [bind_ok hcipher, bind_ok hhash, get_bind, haddress, bind_ok herase]
  change (writeBuffer i image >>= _) _ = _
  rw [bind_ok hwrite, length_primesImage, if_pos rfl]
  rfl

theorem holds_primesWritten (seed : List UInt8) :
    HoldsPrimes lib env i seed (mfpOf i s.device) data (primesWritten lib env i seed data s) := by
  have hlen := length_primesImage lib env data seed (mfpOf i s.device)
  have hcells : (primesWritten lib env i seed data s).rsaData i = programPages 256 0
      (primesImage lib env seed (mfpOf i s.device) data)
        (eraseSector 0x1000 0 (s.rsaData i)) :=
    (if_pos rfl).trans (congrArg _ (if_pos rfl))
  unfold HoldsPrimes
  rw [hcells, ← hlen]
  exact read_written (s.rsaData i) (by rw [hlen]; decide)

theorem flashWrite_holds {ret : Int} (h : flashWriteRsaPrimes lib env data s = (.ok ret, t)) :
    ∃ i seed s₁, s.device.currentAccountIndex = some i ∧
      loadPrimesSeed env s = (.ok (.ok seed), s₁) ∧
      HoldsPrimes lib env i seed (mfpOf i s.device) data t := by
  obtain ⟨r, s₁, hload, hrest⟩ := bind_eq_ok h
  cases r with
  | error e => cases hrest
  | ok seed =>
    obtain ⟨i, n, hcur, rfl, hwrite⟩ := flashWrite_eq lib data hload
    obtain rfl : primesWritten lib env i seed data _ = t :=
      congrArg Prod.snd (hwrite.symm.trans h)
    exact ⟨i, seed, _, hcur, hload,
      holds_primesWritten (s := { s with device := s.device.countReads n }) seed⟩

end

/-- Account `i` is current in `t` with the secret, the parameters and the passphrase that it
has in `s`. The password may be another one by now. -/
structure SameAccount (env : Env) (i : AccountIndex) (s t : RsaDevice) : Prop where
  current : t.device.currentAccountIndex = some i
  secret : ∃ a, Loads env i (passwordOf i s) a s.device ∧ Loads env i (passwordOf i t) a t.device
  params : keyParams t.device.currentAccountInfo = keyParams s.device.currentAccountInfo
  mfp : t.device.currentAccountInfo.mfp = s.device.currentAccountInfo.mfp
  passphrase : t.device.passphraseInfo i = s.device.passphraseInfo i

section

variable {lib : Ed25519Lib} {env : Env} {i : AccountIndex} {s t s' : RsaDevice}
  {data : Block rsaOriginDataSize} {seed : List UInt8}

theorem sameAccount_of_cells {a : AccountSecret} (hs : Loads env i (passwordOf i s) a s.device)
    (hcur : t.device.currentAccountIndex = some i)
    (hcells : cellsOf i t.device = cellsOf i s.device)
    (hinfo : t.device.currentAccountInfo = s.device.currentAccountInfo)
    (hpass : t.device.passphraseInfo i = s.device.passphraseInfo i)
    (hcache : (t.passwordCache, t.passphraseCache) = (s.passwordCache, s.passphraseCache))
    (hr : AnswersReads env t.device.writes) : SameAccount env i s t := by
  have hpassword : passwordOf i t = passwordOf i s := by
    obtain ⟨hword, hphrase⟩ := Prod.mk.inj hcache
    unfold passwordOf
    rw [hpass, hword, hphrase]
  refine ⟨hcur, ⟨a, hs, ?_⟩, by rw [hinfo], by rw [hinfo], hpass⟩
  rw [hpassword]
  refine ⟨hr, (authorized_congr hcells).mpr hs.authorized, ?_⟩
  rw [storedPieces_congr hcells, recordOf_congr hcells, paramOf_congr hcells]
  exact hs.opens

theorem loadPrimesSeed_same (hcur : s.device.currentAccountIndex = some i)
    (h : loadPrimesSeed env s = (.ok (.ok seed), s')) (hsame : SameAccount env i s t) :
    (t.device.passphraseInfo i).Agrees ∧ mfpOf i t.device = mfpOf i s.device ∧
      ∃ n, loadPrimesSeed env t = (.ok (.ok seed), { t with device := t.device.countReads n }) := by
  obtain ⟨j, full, d', hj, hagrees, hfull, rfl, -⟩ := loadPrimesSeed_returned h
  obtain rfl : i = j := Option.some.inj (hcur.symm.trans hj)
  obtain ⟨a, hs, ht⟩ := hsame.secret
  obtain ⟨husable, a', hs', hseed⟩ := getAccountSeed_returned hs.answers hs.authorized hfull
  -- the pieces in the elements open to one secret only
  obtain rfl : a = a' := Except.ok.inj (hs.opens.symm.trans hs'.opens)
  obtain ⟨hlen, htype, -, -⟩ := keyParams_eq hsame.params
  have husable' : PassphraseUsable i t.device := by
    refine ⟨?_, fun hton => ?_⟩
    · rw [hsame.passphrase]
      exact husable.agrees
    · rw [hsame.passphrase]
      exact husable.not_ton (htype.symm.trans hton)
  refine ⟨husable'.agrees, ?_, ?_⟩
  · unfold mfpOf
    rw [hsame.passphrase, hsame.mfp]
  obtain ⟨n, hload⟩ := ht.seed husable'
  rw [seedOf_congr hsame.params, hsame.passphrase, hseed] at hload
  refine ⟨n, ?_⟩
  have hdevice : onDevice (getAccountSeed env i (passwordOf i t)) t
      = (.ok full, { t with device := t.device.countReads n }) := onPart_eq hload
  unfold loadPrimesSeed primesSeedLen
  rw [get_bind, bind_ok (getPassword_eq hsame.current husable'.agrees), hsame.current]
  dsimp only
  rw [bind_ok (attempt_ok hdevice), hlen, htype]
  rfl

theorem primesImage_parts (lib : Ed25519Lib) (env : Env) (data : Block rsaOriginDataSize)
    (seed : List UInt8) (mfp : Block 4) :
    Block.ofBytes rsaDataSize ((primesImage lib env seed mfp data).take rsaDataSize)
        = Bytes.Cbc.encryptPadded (env.crypto.aes (primesKeyIv lib seed).1) 32
          (primesKeyIv lib seed).2 data ∧
      (primesImage lib env seed mfp data).drop rsaDataSize
        = (hashWithSalt env data.bytes (fingerPrintText mfp)).bytes := by
  unfold primesImage
  constructor
  · rw [List.take_left' (Block.size_eq _)]
    exact Block.ofBytes_bytes _
  · exact List.drop_left' (Block.size_eq _)

theorem flashRead_same (hcur : s.device.currentAccountIndex = some i)
    (h : loadPrimesSeed env s = (.ok (.ok seed), s'))
    (hholds : HoldsPrimes lib env i seed (mfpOf i s.device) data t)
    (hsame : SameAccount env i s t) :
    (flashReadRsaPrimes lib env t).1 = .ok (some (RsaPrimes.ofData data)) := by
  obtain ⟨hagrees, hmfp, n, hload⟩ := loadPrimesSeed_same hcur h hsame
  obtain ⟨hcipher, hhash⟩ := primesImage_parts lib env data seed (mfpOf i s.device)
  have hplain := aes256DecryptPrimes_encrypt lib env (aes256EncryptPrimes_eq lib env seed data)
  let t' : RsaDevice := { t with device := t.device.countReads n }
  have hmatch : onDevice (hasMatchingPrimesHash env (RsaPrimes.ofData data)
      (hashWithSalt env data.bytes (fingerPrintText (mfpOf i s.device))).bytes) t'
        = (.ok true, t') := by
    refine onPart_eq (s := t'.device) ?_
    unfold hasMatchingPrimesHash
    have hcompute := rsaHashWithSalt_eq env data (d := t.device.countReads n) hsame.current hagrees
    have hmfp' : mfpOf i (t.device.countReads n) = mfpOf i s.device := hmfp
    rw [hmfp'] at hcompute
    rw [RsaPrimes.data_ofData, bind_ok hcompute, beq_self_eq_true]
    rfl
  unfold HoldsPrimes at hholds
  unfold flashReadRsaPrimes
  rw [get_bind, rsaAddress_eq hsame.current, hholds, hhash, bind_ok hload]
  dsimp only
  rw [hcipher, hplain]
  show (bindOutcome _ (onDevice _ t')).1 = _
  rw [hmatch]
  rfl

end

/-- What the ideal cipher and the ideal hash are taken to do for the primes of a seed. -/
structure PrimesIdeal (lib : Ed25519Lib) (env : Env) (seed : List UInt8)
    (data : Block rsaOriginDataSize) : Prop where
  key : ∀ seed', primesKeyIv lib seed' = primesKeyIv lib seed → seed' = seed
  cipher : ∀ seed', Bytes.Cbc.decryptPadded (env.crypto.aes (primesKeyIv lib seed').1) 33
    (primesKeyIv lib seed').2 (Bytes.Cbc.encryptPadded (env.crypto.aes (primesKeyIv lib seed).1) 32
      (primesKeyIv lib seed).2 data) = some data.bytes → primesKeyIv lib seed' = primesKeyIv lib seed
  hash : ∀ (data' : Block rsaOriginDataSize) (mfp' mfp : Block 4),
    hashWithSalt env data'.bytes (fingerPrintText mfp')
      = hashWithSalt env data.bytes (fingerPrintText mfp) → data' = data

section

variable {lib : Ed25519Lib} {env : Env} {i : AccountIndex} {t t' : RsaDevice}
  {data : Block rsaOriginDataSize} {seed : List UInt8} {mfp : Block 4} {primes : RsaPrimes}

theorem flashRead_some (h : flashReadRsaPrimes lib env t = (.ok (some primes), t')) :
    ∃ seed t₁ data mfp, loadPrimesSeed env t = (.ok (.ok seed), t₁) ∧
      aes256DecryptPrimes lib env seed (Block.ofBytes rsaDataSize ((Flash.read
        (t.rsaData t.rsaAddress) 0 rsaDataFullSize).take rsaDataSize)) = .ok (some data) ∧
      (hashWithSalt env data.bytes (fingerPrintText mfp)).bytes
        = (Flash.read (t.rsaData t.rsaAddress) 0 rsaDataFullSize).drop rsaDataSize ∧
      primes = RsaPrimes.ofData data := by
  unfold flashReadRsaPrimes at h
  rw [get_bind] at h
  obtain ⟨r, t₁, hload, h⟩ := bind_eq_ok h
  cases r with
  | error e => cases h
  | ok seed =>
    obtain ⟨plain, t₂, hplain, h⟩ := bind_eq_ok h
    cases plain with
    | none => cases h
    | some data =>
      obtain ⟨found, t₃, hmatch, h⟩ := bind_eq_ok h
      cases found with
      | false => cases h
      | true =>
        have hval : (hasMatchingPrimesHash env (RsaPrimes.ofData data) _ t₂.device).1 = .ok true :=
          congrArg Prod.fst hmatch
        obtain ⟨hash, d₁, hcompute, htarget⟩ := bind_eq_ok (run_eq hval)
        obtain ⟨mfp, d₂, -, hcompute⟩ := bind_eq_ok hcompute
        rw [RsaPrimes.data_ofData] at hcompute
        obtain rfl : hashWithSalt env data.bytes (fingerPrintText mfp) = hash :=
          Outcome.ok.inj (congrArg Prod.fst hcompute)
        exact ⟨seed, t₁, data, mfp, hload, (ofOutcome_eq hplain).1,
          eq_of_beq (Outcome.ok.inj (congrArg Prod.fst htarget)),
          (Option.some.inj (Outcome.ok.inj (congrArg Prod.fst h))).symm⟩

theorem flashRead_found (hideal : PrimesIdeal lib env seed data)
    (hholds : HoldsPrimes lib env i seed mfp data t) (haddress : t.rsaAddress = i)
    (h : flashReadRsaPrimes lib env t = (.ok (some primes), t')) :
    primes = RsaPrimes.ofData data ∧ ∃ t₁, loadPrimesSeed env t = (.ok (.ok seed), t₁) := by
  obtain ⟨hcipher, hhash⟩ := primesImage_parts lib env data seed mfp
  obtain ⟨seed', t₁, data', mfp', hload, hplain, htarget, rfl⟩ := flashRead_some h
  unfold HoldsPrimes at hholds
  rw [haddress, hholds] at hplain htarget
  -- the hash that was computed is the one that is stored
  rw [hhash] at htarget
  obtain rfl := hideal.hash data' mfp' mfp (Block.ext htarget)
  -- and the key that deciphers the primes is the one they were enciphered under
  rw [aes256DecryptPrimes_eq_some, hcipher] at hplain
  obtain rfl := hideal.key seed' (hideal.cipher seed' hplain)
  exact ⟨rfl, t₁, hload⟩

theorem flashRead_erased (hones : ∀ (data : Block rsaOriginDataSize) mfp,
      hashWithSalt env data.bytes (fingerPrintText mfp) ≠ Block.fill 32 erased)
    (h : ∀ x, x < rsaDataFullSize → t.rsaData t.rsaAddress x = erased) :
    (flashReadRsaPrimes lib env t).1 ≠ .ok (some primes) := by
  intro hfound
  obtain ⟨-, -, data, mfp, -, -, htarget, -⟩ := flashRead_some (run_eq hfound)
  have hread : Flash.read (t.rsaData t.rsaAddress) 0 rsaDataFullSize
      = List.replicate rsaDataFullSize erased := by
    unfold Flash.read
    refine List.eq_replicate_iff.mpr ⟨by rw [List.length_map, List.length_range], fun b hb => ?_⟩
    obtain ⟨x, hx, rfl⟩ := List.mem_map.mp hb
    rw [Nat.zero_add]
    exact h x (List.mem_range.mp hx)
  rw [hread, List.drop_replicate] at htarget
  exact hones data mfp (Block.ext htarget)

end

/-- What can happen to the primes: the three routines, a change of the secret cache, and
anything at all to the accounts. -/
inductive RsaOp where
  | hasGenerated
  | read
  | write (data : Block rsaOriginDataSize)
  | setPassword (password : Option CString)
  | setPassphrase (passphrase : Option CString)
  | account (x : Account Unit)

namespace RsaOp

/-- A write to the sector of account `i`. -/
def Writes (i : AccountIndex) : RsaOp → RsaDevice → Prop
  | .write _, s => s.rsaAddress = i
  | _, _ => False

/-- A query for the primes in the sector of account `i`. -/
def Queries (i : AccountIndex) : RsaOp → RsaDevice → Prop
  | .hasGenerated, s => s.rsaAddress = i
  | _, _ => False

end RsaOp

def rsaStep (lib : Ed25519Lib) (env : Env) : RsaOp → RsaDevice → RsaDevice
  | .hasGenerated, s => (hasGeneratedRsaPrimes lib env s).2
  | .read, s => (flashReadRsaPrimes lib env s).2
  | .write data, s => (flashWriteRsaPrimes lib env data s).2
  | .setPassword password, s => { s with passwordCache := password }
  | .setPassphrase passphrase, s => { s with passphraseCache := passphrase }
  | .account x, s => (onDevice x s).2

section

variable {lib : Ed25519Lib} {env : Env} {i : AccountIndex}

def OnlySeRead (s t : RsaDevice) : Prop := ∃ n, t = { s with device := s.device.countReads n }

theorem onlySeRead_preorder : Preorder OnlySeRead where
  refl _ := ⟨0, rfl⟩
  trans := by
    rintro s _ _ ⟨m, rfl⟩ ⟨n, rfl⟩
    obtain ⟨k, hk⟩ := reading_onlyRead.trans ⟨m, rfl⟩ ⟨n, rfl⟩
    exact ⟨k, congrArg (fun d => { s with device := d }) hk⟩

theorem frame_onDevice {α : Type} {x : Account α} (hx : Frame OnlyRead x) :
    Frame OnlySeRead (onDevice x) := by
  intro s
  obtain ⟨n, hn⟩ := hx s.device
  exact ⟨n, congrArg (fun d => { s with device := d }) hn⟩

theorem frame_readPassword : Frame OnlySeRead getPassword := by
  have hR := onlySeRead_preorder
  have hread := reading_onlyRead.toPreorder
  refine frame_bind hR (frame_onDevice (frame_bind hread (frame_get hread) fun d => ?_)) fun _ =>
    frame_bind hR (frame_get hR) fun _ => frame_pure hR _
  cases d.currentAccountIndex with
  | none => exact frame_pure hread _
  | some j => exact frame_readPassphraseExist j

theorem frame_rsaHashWithSalt {data : Block rsaOriginDataSize} :
    Frame OnlyRead (rsaHashWithSalt env data) := by
  have hread := reading_onlyRead.toPreorder
  refine frame_bind hread (frame_bind hread (frame_get hread) fun d => ?_) fun _ =>
    frame_pure hread _
  cases d.currentAccountIndex with
  | none => exact frame_pure hread _
  | some j => exact frame_bind hread (frame_readPassphraseExist j) fun _ => frame_pure hread _

theorem frame_loadPrimesSeed : Frame OnlySeRead (loadPrimesSeed env) := by
  have hR := onlySeRead_preorder
  refine frame_bind hR (frame_get hR) fun s => frame_bind hR frame_readPassword fun password => ?_
  cases s.device.currentAccountIndex with
  | none => exact frame_halt hR
  | some j =>
    exact frame_bind hR (frame_attempt (frame_onDevice (frame_readAccountSeed env j password)))
      fun _ => frame_pure hR _

theorem frame_ofOutcome {α : Type} (o : Outcome ErrCode α) : Frame OnlySeRead (ofOutcome o) :=
  fun s => onlySeRead_preorder.refl s

theorem frame_flashRead (lib : Ed25519Lib) (env : Env) :
    Frame OnlySeRead (flashReadRsaPrimes lib env) := by
  have hR := onlySeRead_preorder
  have hread := reading_onlyRead.toPreorder
  refine frame_bind hR (frame_get hR) fun s => frame_bind hR frame_loadPrimesSeed fun r => ?_
  cases r with
  | error e => exact frame_pure hR _
  | ok seed =>
    refine frame_bind hR (frame_ofOutcome _) fun plain => ?_
    cases plain with
    | none => exact frame_pure hR _
    | some data =>
      refine frame_bind hR (frame_onDevice (frame_bind hread frame_rsaHashWithSalt fun _ =>
        frame_pure hread _)) fun found => ?_
      cases found with
      | false => exact frame_pure hR _
      | true => exact frame_pure hR _

theorem hasGenerated_left (lib : Ed25519Lib) (env : Env) (s : RsaDevice) :
    OnlySeRead (s.setRsaData s.rsaAddress (eraseSector 0x1000 0))
      (hasGeneratedRsaPrimes lib env s).2 := by
  have hR := onlySeRead_preorder
  have hrun : Frame OnlySeRead (flashReadRsaPrimes lib env >>= fun primes => pure primes.isSome) :=
    frame_bind hR (frame_flashRead lib env) fun _ => frame_pure hR _
  exact hrun _

theorem hasGenerated_erased (lib : Ed25519Lib) (env : Env) (s : RsaDevice) {x : Nat}
    (hx : x < 0x1000) :
    (hasGeneratedRsaPrimes lib env s).2.rsaData (hasGeneratedRsaPrimes lib env s).2.rsaAddress x
      = erased := by
  obtain ⟨n, hn⟩ := hasGenerated_left lib env s
  rw [hn]
  have hend : x < 0 + 0x1000 := by omega
  exact (congrFun (if_pos rfl) x).trans (Flash.eraseSector_in _ ⟨Nat.zero_le x, hend⟩)

theorem hasGenerated_lost {lib : Ed25519Lib} {env : Env} {s : RsaDevice} {primes : RsaPrimes}
    (hones : ∀ (data : Block rsaOriginDataSize) mfp,
      hashWithSalt env data.bytes (fingerPrintText mfp) ≠ Block.fill 32 erased) :
    (flashReadRsaPrimes lib env (rsaStep lib env .hasGenerated s)).1 ≠ .ok (some primes) :=
  flashRead_erased hones fun _ hx => hasGenerated_erased lib env s (Nat.lt_trans hx (by decide))

/-- The cells of the sector of account `i`, and whose sector the routines use. -/
def sectorView (i : AccountIndex) (s : RsaDevice) : Cells × AccountIndex :=
  (s.rsaData i, s.rsaAddress)

theorem OnlySeRead.sectorView {s t : RsaDevice} (h : OnlySeRead s t) :
    sectorView i t = sectorView i s := by
  obtain ⟨n, rfl⟩ := h
  rfl

theorem triple_setRsaData {j : AccountIndex} (hj : j ≠ i) {view : Cells × AccountIndex}
    (f : Cells → Cells) :
    Triple (fun s => sectorView i s = view) (modify fun s => s.setRsaData j f : Rsa Unit)
      (fun _ s => sectorView i s = view) (fun _ s => sectorView i s = view)
      (fun s => sectorView i s = view) := by
  refine triple_modify fun s hs => ?_
  rw [← hs]
  exact Prod.ext (if_neg hj.symm) rfl

theorem triple_flashWriteRsaPrimes {data : Block rsaOriginDataSize} {v : Cells × AccountIndex}
    (h : v.2 ≠ i) :
    Triple (fun s => sectorView i s = v) (flashWriteRsaPrimes lib env data)
      (fun _ s => sectorView i s = v) (fun _ s => sectorView i s = v)
      (fun s => sectorView i s = v) := by
  have hkeep : ∀ {α : Type} {x : Rsa α}, Frame OnlySeRead x →
      Triple (fun s => sectorView i s = v) x (fun _ s => sectorView i s = v)
        (fun _ s => sectorView i s = v) (fun s => sectorView i s = v) :=
    fun hx => triple_of_frame hx fun _ _ hst hs => hst.sectorView.trans hs
  refine triple_bind (hkeep frame_loadPrimesSeed) fun r => ?_
  cases r with
  | error e => exact triple_halt fun _ hs => hs
  | ok seed =>
    refine triple_bind (hkeep (frame_ofOutcome _)) fun c => ?_
    refine triple_bind (hkeep (frame_onDevice frame_rsaHashWithSalt)) fun hash => ?_
    refine triple_bind (Q := fun s t => sectorView i t = v ∧ s.rsaAddress = v.2)
      (triple_get fun s hs => ⟨hs, congrArg Prod.snd hs⟩) fun s => ?_
    -- the address was read before anything was written, and it is still that of the other account
    by_cases haddress : s.rsaAddress = v.2
    · have hj : s.rsaAddress ≠ i := haddress ▸ h
      refine triple_bind (triple_conseq (triple_setRsaData hj _) (fun _ hs => hs.1)
        (fun _ _ hs => hs) (fun _ _ hs => hs) fun _ hs => hs) fun _ => ?_
      refine triple_bind (Q := fun _ s => sectorView i s = v)
        (triple_bind (triple_setRsaData hj _) fun _ => triple_pure fun _ hs => hs) fun ret => ?_
      split
      · exact triple_pure fun _ hs => hs
      · exact triple_pure fun _ hs => hs
    · exact fun _ hs => absurd hs.2 haddress

/-- **One step.** Only a write and a query change the sector of an account. -/
theorem step_rsaData {op : RsaOp} {s : RsaDevice} (hw : ¬op.Writes i s) (hq : ¬op.Queries i s) :
    (rsaStep lib env op s).rsaData i = s.rsaData i := by
  cases op with
  | hasGenerated =>
    have hj : s.rsaAddress ≠ i := hq
    exact (congrArg Prod.fst (hasGenerated_left lib env s).sectorView).trans (if_neg hj.symm)
  | read => exact congrArg Prod.fst (frame_flashRead lib env s).sectorView
  | write data =>
    exact congrArg Prod.fst (triple_snd (triple_flashWriteRsaPrimes (v := sectorView i s) hw) rfl)
  | setPassword password => rfl
  | setPassphrase passphrase => rfl
  | account x => rfl

/-- What is promised of the primes that account `i` has written in the state `s`, in a state
after it: the account finds them, and nothing is found with another seed. -/
structure PrimesKept (lib : Ed25519Lib) (env : Env) (i : AccountIndex)
    (data : Block rsaOriginDataSize) (s t : RsaDevice) : Prop where
  found : SameAccount env i s t →
    (flashReadRsaPrimes lib env t).1 = .ok (some (RsaPrimes.ofData data))
  absent : t.rsaAddress = i → ∀ primes, (flashReadRsaPrimes lib env t).1 = .ok (some primes) →
    primes = RsaPrimes.ofData data ∧ (loadPrimesSeed env t).1 = (loadPrimesSeed env s).1

/-- **The primes over a run.** After a write that succeeded, in every run in which they are
neither written again nor queried, the primes are kept in every state. -/
theorem primes_kept (lib : Ed25519Lib) (env : Env) (i : AccountIndex)
    (data : Block rsaOriginDataSize) (s s' : RsaDevice) (ret : Int)
    (hcur : s.device.currentAccountIndex = some i)
    (hideal : ∀ seed, (loadPrimesSeed env s).1 = .ok (.ok seed) → PrimesIdeal lib env seed data)
    (hwrite : flashWriteRsaPrimes lib env data s = (.ok ret, s')) (ops : List RsaOp)
    (hsteps : AllSteps (rsaStep lib env) (fun op t => ¬op.Writes i t ∧ ¬op.Queries i t) ops s') :
    PrimesKept lib env i data s (runSteps (rsaStep lib env) ops s') := by
  obtain ⟨j, seed, s₁, hj, hload, hholds⟩ := flashWrite_holds hwrite
  obtain rfl : i = j := Option.some.inj (hcur.symm.trans hj)
  have hrun : HoldsPrimes lib env i seed (mfpOf i s.device) data
      (runSteps (rsaStep lib env) ops s') := by
    refine runSteps_inv_of (fun op t hop hheld => ?_) ops s' hsteps hholds
    unfold HoldsPrimes at hheld ⊢
    rw [step_rsaData hop.1 hop.2]
    exact hheld
  have hseed : (loadPrimesSeed env s).1 = .ok (.ok seed) := congrArg Prod.fst hload
  -- the same account loads the seed again; where primes are found at all, their seed is this one
  refine ⟨fun hsame => flashRead_same hcur hload hrun hsame, fun haddress primes hfound => ?_⟩
  obtain ⟨hprimes, t₁, hload'⟩ := flashRead_found (hideal seed hseed) hrun haddress (run_eq hfound)
  refine ⟨hprimes, ?_⟩
  rw [hload', hseed]

end

def samplePrimes : Block rsaOriginDataSize := Block.fill rsaOriginDataSize 7

/-- The seed of the account of `sessionDevice`. -/
def samplePrimesSeed : List UInt8 := List.replicate 16 5 ++ List.replicate 48 0

def primesLib : Ed25519Lib where
  hmacSha512 := fun k m =>
    Block.fill 64 (if k = Keys.masterSecret then if m = samplePrimesSeed then 1 else 0
      else m.getD 1 0)
  publicKey := id

/-- The ciphers of the sample, with a hash that tells the primes from everything else of their
length and a block cipher that adds the key. -/
def primesEnv : Env :=
  { sessionEnv fun _ => false with
    crypto := { Crypto.sample with
      hmacSha256 := fun k m =>
        if m.length = rsaOriginDataSize then
          Block.fill 32 (if m = samplePrimes.bytes then 0xAA else 0xAB)
        else if m = (Block.fill 32 0xAA).bytes ∨ m = (Block.fill 32 0xAB).bytes then
          Block.ofBytes 32 m
        else sampleHash k m
      aes := fun key =>
        { encrypt := Block.xor (Block.front (m := 16) (n := 16) key)
          decrypt := Block.xor (Block.front (m := 16) (n := 16) key)
          decrypt_encrypt := Block.xor_xor_cancel _ } } }

def primesDevice : RsaDevice where
  device := sessionDevice primesEnv
  rsaData := fun _ _ => erased
  passwordCache := some sessionPassword
  passphraseCache := none

section

theorem primesKeyIv_sample (seed : List UInt8) : primesKeyIv primesLib seed
    = if seed = samplePrimesSeed then (Block.fill 32 1, Block.fill 16 1)
      else (Block.fill 32 0, Block.fill 16 0) := by
  have hmaster : primesLib.hmacSha512 Keys.masterSecret seed
      = Block.fill 64 (if seed = samplePrimesSeed then 1 else 0) := rfl
  unfold primesKeyIv Keys.keyAtIndexes
  rw [hmaster]
  by_cases h : seed = samplePrimesSeed
  · rw [if_pos h, if_pos h]
    decide
  · rw [if_neg h, if_neg h]
    decide

theorem hashWithSalt_sample (data : Block rsaOriginDataSize) (salt : String) :
    hashWithSalt primesEnv data.bytes salt
      = Block.fill 32 (if data.bytes = samplePrimes.bytes then 0xAA else 0xAB) := by
  have hinner : primesEnv.crypto.hmacSha256 primesEnv.otp.salt.bytes data.bytes
      = Block.fill 32 (if data.bytes = samplePrimes.bytes then 0xAA else 0xAB) :=
    if_pos data.size_eq
  have houter : ∀ (k : List UInt8) (hash : Page),
      hash = Block.fill 32 0xAA ∨ hash = Block.fill 32 0xAB →
      primesEnv.crypto.hmacSha256 k hash.bytes = hash := by
    intro k hash h
    refine (if_neg ?_).trans ((if_pos ?_).trans (Block.ofBytes_bytes hash))
    · rw [hash.size_eq]
      decide
    · rcases h with rfl | rfl
      · exact .inl rfl
      · exact .inr rfl
  unfold hashWithSalt
  rw [hinner]
  apply houter
  split
  · exact .inl rfl
  · exact .inr rfl

theorem primesIdeal_sample : PrimesIdeal primesLib primesEnv samplePrimesSeed samplePrimes := by
  have hkey := primesKeyIv_sample samplePrimesSeed
  rw [if_pos rfl] at hkey
  refine ⟨fun seed' h => ?_, fun seed' h => ?_, fun data' mfp' mfp h => ?_⟩
  · by_contra hne
    rw [hkey, primesKeyIv_sample, if_neg hne] at h
    cases h
  · by_cases hseed : seed' = samplePrimesSeed
    · rw [hseed]
    · rw [hkey, primesKeyIv_sample, if_neg hseed] at h
      exact absurd h (by decide +kernel)
  · rw [hashWithSalt_sample, hashWithSalt_sample, if_pos rfl] at h
    by_contra hne
    rw [if_neg fun hbytes => hne (Block.ext hbytes)] at h
    cases h

def accountLeft (t : RsaDevice) : Bool :=
  decide (t.device.currentAccountIndex = some 0) &&
    decide (∀ k, t.device.page (accountPage 0 k) = primesDevice.device.page (accountPage 0 k)) &&
    decide (pieceCells 0 t.device = pieceCells 0 primesDevice.device) &&
    decide (t.device.currentAccountInfo = primesDevice.device.currentAccountInfo) &&
    decide (t.device.passphraseInfo 0 = primesDevice.device.passphraseInfo 0) &&
    decide ((t.passwordCache, t.passphraseCache) = (some sessionPassword, none))

theorem OnlySeRead.accountLeft {s t : RsaDevice} (h : OnlySeRead s t) :
    accountLeft t = accountLeft s := by
  obtain ⟨n, rfl⟩ := h
  rfl

theorem accountLeft_hasGenerated (s : RsaDevice) :
    accountLeft (rsaStep primesLib primesEnv .hasGenerated s) = accountLeft s :=
  (hasGenerated_left _ _ s).accountLeft

theorem accountLeft_read (s : RsaDevice) :
    accountLeft (rsaStep primesLib primesEnv .read s) = accountLeft s :=
  (frame_flashRead _ _ s).accountLeft

def sampleWritten : RsaDevice :=
  primesWritten primesLib primesEnv 0 samplePrimesSeed samplePrimes
    (loadPrimesSeed primesEnv primesDevice).2

def sampleRsaOps : List RsaOp :=
  [.setPassword none, .read, .setPassword (some sessionPassword), .read]

-- one evaluation of the sample for all that is read off it
theorem primesDevice_runs :
    (loadPrimesSeed primesEnv primesDevice).1 = .ok (.ok samplePrimesSeed) ∧
      primesDevice.device.currentAccountIndex = some 0 ∧
      Authorized primesEnv primesDevice.device 0 (passwordOf 0 primesDevice) ∧
      accountLeft sampleWritten = true ∧
      accountLeft (rsaStep primesLib primesEnv (.setPassword (some sessionPassword))
        (rsaStep primesLib primesEnv .read
          (rsaStep primesLib primesEnv (.setPassword none) sampleWritten))) = true := by
  decide +kernel

theorem loadPrimesSeed_sample :
    (loadPrimesSeed primesEnv primesDevice).1 = .ok (.ok samplePrimesSeed) :=
  primesDevice_runs.1

theorem current_sample : primesDevice.device.currentAccountIndex = some 0 := primesDevice_runs.2.1

theorem primesIdeal_loaded {seed : List UInt8}
    (h : (loadPrimesSeed primesEnv primesDevice).1 = .ok (.ok seed)) :
    PrimesIdeal primesLib primesEnv seed samplePrimes := by
  obtain rfl := Except.ok.inj (Outcome.ok.inj (loadPrimesSeed_sample.symm.trans h))
  exact primesIdeal_sample

theorem sameAccount_sample {t : RsaDevice} (h : accountLeft t = true) :
    SameAccount primesEnv 0 primesDevice t := by
  simp only [accountLeft, Bool.and_eq_true, decide_eq_true_eq] at h
  obtain ⟨⟨⟨⟨⟨hcur, hpages⟩, hpieces⟩, hinfo⟩, hpass⟩, hcache⟩ := h
  obtain ⟨i, full, d', hi, -, hseed, -, -⟩ := loadPrimesSeed_returned (run_eq loadPrimesSeed_sample)
  obtain rfl : 0 = i := Option.some.inj (current_sample.symm.trans hi)
  obtain ⟨-, a, hloads, -⟩ := getAccountSeed_returned (fun _ => rfl) primesDevice_runs.2.2.1 hseed
  refine sameAccount_of_cells hloads hcur ?_ hinfo hpass hcache fun _ => rfl
  simp only [pieceCells, Prod.mk.injEq] at hpieces
  obtain ⟨hauth, hroll, hhost, -⟩ := hpieces
  unfold cellsOf
  rw [hauth, hroll, hhost]
  exact congrArg (fun p => AccountCells.mk p _ _ _) (funext hpages)

theorem write_sample :
    flashWriteRsaPrimes primesLib primesEnv samplePrimes primesDevice = (.ok 0, sampleWritten) := by
  obtain ⟨i, n, hcur, -, hwrite⟩ := flashWrite_eq primesLib samplePrimes
    (run_eq loadPrimesSeed_sample)
  obtain rfl : 0 = i := Option.some.inj (current_sample.symm.trans hcur)
  exact hwrite

theorem primes_kept_sample :
    flashWriteRsaPrimes primesLib primesEnv samplePrimes primesDevice = (.ok 0, sampleWritten) ∧
      (flashReadRsaPrimes primesLib primesEnv (runSteps (rsaStep primesLib primesEnv) sampleRsaOps
        sampleWritten)).1 = .ok (some (RsaPrimes.ofData samplePrimes)) := by
  have hleft : accountLeft (runSteps (rsaStep primesLib primesEnv) sampleRsaOps sampleWritten)
      = true := by
    unfold sampleRsaOps
    rw [runSteps, runSteps, runSteps, runSteps, runSteps]
    exact (accountLeft_read _).trans primesDevice_runs.2.2.2.2
  exact ⟨write_sample, (primes_kept primesLib primesEnv 0 samplePrimes primesDevice sampleWritten 0
    current_sample (fun _ => primesIdeal_loaded) write_sample sampleRsaOps
    ⟨⟨id, id⟩, ⟨id, id⟩, ⟨id, id⟩, ⟨id, id⟩, trivial⟩).found (sameAccount_sample hleft)⟩

/-- A query erases the primes that it asks for. -/
theorem primes_lost_by_query : ¬∀ (lib : Ed25519Lib) (env : Env) (i : AccountIndex)
    (data : Block rsaOriginDataSize) (s s' : RsaDevice) (ret : Int),
    s.device.currentAccountIndex = some i →
    (∀ seed, (loadPrimesSeed env s).1 = .ok (.ok seed) → PrimesIdeal lib env seed data) →
    flashWriteRsaPrimes lib env data s = (.ok ret, s') → ∀ ops : List RsaOp,
    AllSteps (rsaStep lib env) (fun op t => ¬op.Writes i t) ops s' →
    PrimesKept lib env i data s (runSteps (rsaStep lib env) ops s') := by
  intro claim
  have hleft : accountLeft (runSteps (rsaStep primesLib primesEnv) [.hasGenerated] sampleWritten)
      = true := by
    rw [runSteps, runSteps]
    exact (accountLeft_hasGenerated _).trans primesDevice_runs.2.2.2.1
  have hfound := (claim primesLib primesEnv 0 samplePrimes primesDevice sampleWritten 0
    current_sample (fun _ => primesIdeal_loaded) write_sample [.hasGenerated] ⟨id, trivial⟩).found
    (sameAccount_sample hleft)
  rw [runSteps, runSteps] at hfound
  refine hasGenerated_lost (fun data mfp => ?_) hfound
  rw [hashWithSalt_sample]
  split <;> decide

end

end Keystone3
