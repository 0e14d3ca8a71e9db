import Keystone3.Account.ChangePassword

/-!
# The keys an account has

The public keys of an account are a function of its secret, its parameters and its
passphrase: the secret gives a seed (`seedOf`), and the seed a key for every row of the
chain table, unless a derivation fails (`derivation`).
-/

namespace Keystone3

open Logic (Outcome)
open Logic.Prog
open Bytes (Block)

/-- The record of account `i` opens to the secret. -/
def Opens (env : Env) (i : AccountIndex) (s : AccountSecret) (d : Device) : Prop :=
  ∃ pieces, openAccount env pieces (recordOf d i) (paramOf d i).entropyLen = .ok s

def entropyOf (a : AccountInfo) (s : AccountSecret) : List UInt8 :=
  match a.mnemonicType with
  | .ton => s.entropy.bytes ++ s.slip39EmsOrTonEntropyL32.bytes
  | _ => s.entropy.bytes.take s.entropyLen.toNat

def seedOf (env : Env) (a : AccountInfo) (passphrase : CString) (s : AccountSecret) :
    Except ErrCode (List UInt8) :=
  if passphrase.isEmpty then
    .ok (s.seed.bytes.take (if a.mnemonicType = .slip39 then s.entropyLen.toNat else 64))
  else
    match a.mnemonicType with
    | .slip39 =>
      (env.wallet.slip39GetSeed (s.slip39EmsOrTonEntropyL32.bytes.take a.entropyLen.toNat)
        passphrase a.slip39Ie a.slip39Eb a.slip39Id).mapError .external
    | _ => do
      let mnemonic ← (env.wallet.bip39MnemonicFromBytes (entropyOf a s)).mapError .external
      let seed ← (env.wallet.bip39MnemonicToSeed mnemonic passphrase).mapError .external
      return seed.bytes

def seedLen (a : AccountInfo) : Nat := if a.mnemonicType = .slip39 then a.entropyLen.toNat else 64

/-- How a derivation goes: a key for every row that has one, a row that fails, a master
key that fails, or a null response. -/
inductive Derivation where
  | derived (keys : List (Option CString))
  | rowFailed
  | masterFailed
  | null

def rowDerivation (env : Env) (mnemonicType : MnemonicType) (seed : List UInt8)
    (icarusMasterKey ledgerBitbox02Key : Option CString) : Derivation :=
  match deriveChainKeys env mnemonicType seed icarusMasterKey ledgerBitbox02Key
    env.wallet.chainTable with
  | none => .null
  | some (keys, none) => .derived keys
  | some (_, some _) => .rowFailed

def derivation (env : Env) (mnemonicType : MnemonicType) (seed entropy : List UInt8)
    (passphrase : CString) : Derivation :=
  match mnemonicType with
  | .ton =>
    match env.wallet.processKeyType seed { cryptoKey := .tonNative, path := [] } none none with
    | none => .null
    | some (.error _) => .masterFailed
    | some (.ok xPub) => .derived (env.wallet.chainTable.map fun item =>
        if item.cryptoKey = .tonNative then some xPub
        else if item.cryptoKey = .tonChecksum then
          some (hexOfBytes (env.crypto.sha256 entropy).bytes)
        else none)
  | .slip39 => rowDerivation env .slip39 seed none none
  | .bip39 =>
    match bip39MasterKeys env entropy passphrase with
    | (some (.ok icarus), some (.ok ledger)) =>
      rowDerivation env .bip39 seed (some icarus) (some ledger)
    | (some (.error _), _) => .masterFailed
    | (some (.ok _), some (.error _)) => .masterFailed
    | _ => .null

/-- The derivation for an account with these parameters, this passphrase and this
secret, from its seed. -/
def derivationFrom (env : Env) (a : AccountInfo) (passphrase : CString) (s : AccountSecret)
    (seed : List UInt8) : Derivation :=
  derivation env a.mnemonicType (seed.take (seedLen a)) (entropyOf a s) passphrase

/-- The keys are those of the account, under the passphrase: every derivation from its
seed succeeds, and these come out. -/
def HasKeys (env : Env) (i : AccountIndex) (passphrase : CString) (keys : List (Option CString))
    (d : Device) : Prop :=
  ∃ s seed, Opens env i s d ∧ seedOf env (paramOf d i) passphrase s = .ok seed ∧
    derivationFrom env (paramOf d i) passphrase s seed = .derived keys

def OnlyRead (d d' : Device) : Prop := ∃ n, d' = d.countReads n

theorem reading_onlyRead : Reading OnlyRead where
  refl _ := ⟨0, rfl⟩
  trans := by
    rintro d _ _ ⟨m, rfl⟩ ⟨n, rfl⟩
    refine ⟨m + n, ?_⟩
    show ({ d with reads := d.reads + m + n } : Device) = { d with reads := d.reads + (m + n) }
    rw [Nat.add_assoc]
  read _ := ⟨1, rfl⟩

theorem frame_readPassphraseExist (i : AccountIndex) : Frame OnlyRead (passphraseExist i) := by
  have hR := reading_onlyRead.toPreorder
  exact frame_bind hR (frame_get hR) fun _ => frame_bind hR (frame_assert hR _) fun _ =>
    frame_pure hR _

theorem frame_readMnemonicType : Frame OnlyRead getMnemonicType :=
  frame_bind reading_onlyRead.toPreorder (frame_get reading_onlyRead.toPreorder) fun _ =>
    frame_pure reading_onlyRead.toPreorder _

theorem frame_readAccountEntropy (env : Env) (i : AccountIndex) (password : CString) :
    Frame OnlyRead (getAccountEntropy env i password) := by
  have hR := reading_onlyRead.toPreorder
  refine frame_bind hR (frame_loadAccountSecret env reading_onlyRead i password) fun _ =>
    frame_bind hR frame_readMnemonicType fun t => ?_
  split <;> exact frame_pure hR _

theorem frame_readPassphraseSeed (env : Env) (i : AccountIndex) (passphrase password : CString) :
    Frame OnlyRead (getPassphraseSeed env i passphrase password) := by
  have hR := reading_onlyRead.toPreorder
  refine frame_bind hR frame_readMnemonicType fun t => frame_bind hR (frame_assert hR _) fun _ => ?_
  split
  · exact frame_bind hR (frame_stackGarbage env hR) fun _ =>
      frame_bind hR (frame_attempt (frame_bind hR (frame_loadAccountSecret env reading_onlyRead i
        password) fun _ => frame_pure hR _)) fun _ =>
      frame_bind hR (frame_get hR) fun _ => frame_ofExcept hR _
  · exact frame_bind hR (frame_readAccountEntropy env i password) fun _ =>
      frame_bind hR (frame_ofExcept hR _) fun _ => frame_bind hR (frame_ofExcept hR _) fun _ =>
      frame_pure hR _

theorem frame_readAccountSeed (env : Env) (i : AccountIndex) (password : CString) :
    Frame OnlyRead (getAccountSeed env i password) := by
  have hR := reading_onlyRead.toPreorder
  refine frame_bind hR (frame_loadAccountSecret env reading_onlyRead i password) fun s =>
    frame_bind hR (frame_readPassphraseExist i) fun e => ?_
  split
  · exact frame_bind hR (frame_get hR) fun _ => frame_readPassphraseSeed env i _ _
  · exact frame_bind hR frame_readMnemonicType fun _ => frame_pure hR _

section

variable {env : Env} {i : AccountIndex} {password : CString} {d d' : Device}

theorem loadAccountSecret_ok {s : AccountSecret}
    (h : loadAccountSecret env i password d = (.ok s, d')) :
    Opens env i s d ∧ ∃ n, d' = d.countReads n := by
  have hload : Triple (fun t => recordOf t i = recordOf d i ∧ paramOf t i = paramOf d i)
      (loadAccountSecret env i password) (fun s _ => Opens env i s d) (fun _ _ => True)
      (fun _ => True) := triple_loadAccountSecret password
  have hopen := hload d ⟨rfl, rfl⟩
  have hread := frame_loadAccountSecret env reading_onlyRead i password d
  rw [h] at hopen hread
  exact ⟨hopen, hread⟩

theorem getAccountEntropy_ok {entropy : List UInt8}
    (h : getAccountEntropy env i password d = (.ok entropy, d')) :
    ∃ s, Opens env i s d ∧ entropy = entropyOf d.currentAccountInfo s := by
  unfold getAccountEntropy at h
  obtain ⟨s, d₁, hload, h⟩ := bind_eq_ok h
  obtain ⟨hopen, n, rfl⟩ := loadAccountSecret_ok hload
  refine ⟨s, hopen, ?_⟩
  obtain ⟨t, d₂, ht, h⟩ := bind_eq_ok h
  have hinfo : t = d.currentAccountInfo.mnemonicType := (Outcome.ok.inj (congrArg Prod.fst ht)).symm
  unfold entropyOf
  rw [← hinfo]
  cases t with
  | ton => exact (Outcome.ok.inj (congrArg Prod.fst h)).symm
  | bip39 => exact (Outcome.ok.inj (congrArg Prod.fst h)).symm
  | slip39 => exact (Outcome.ok.inj (congrArg Prod.fst h)).symm

/-- `GetPassphraseSeed` loads the secret of a SLIP39 account once more and goes on with
what is on the stack when the load fails. After a first load that returned, this one
does. -/
def LoadsAgain (env : Env) (i : AccountIndex) (password : CString) (d : Device) : Prop :=
  ∀ s d₁, loadAccountSecret env i password d = (.ok s, d₁) →
    ∃ s' d₂, loadAccountSecret env i password d₁ = (.ok s', d₂)

theorem passphraseExist_ok {b : Bool} (h : passphraseExist i d = (.ok b, d')) :
    d' = d ∧ b = !(d.passphraseInfo i).passphrase.isEmpty := by
  unfold passphraseExist at h
  rw [get_bind] at h
  obtain ⟨u, d₁, hassert, h⟩ := bind_eq_ok h
  unfold assert at hassert
  split at hassert
  · cases hassert
    cases h
    exact ⟨rfl, rfl⟩
  · cases hassert

variable {seed : List UInt8}

theorem getPassphraseSeed_slip39_ok {passphrase : CString}
    (ht : d.currentAccountInfo.mnemonicType = .slip39)
    (hload : ∃ s d₁, loadAccountSecret env i password d = (.ok s, d₁))
    (h : getPassphraseSeed env i passphrase password d = (.ok seed, d')) :
    ∃ s, Opens env i s d ∧ (env.wallet.slip39GetSeed
      (s.slip39EmsOrTonEntropyL32.bytes.take d.currentAccountInfo.entropyLen.toNat) passphrase
        d.currentAccountInfo.slip39Ie d.currentAccountInfo.slip39Eb
        d.currentAccountInfo.slip39Id).mapError ErrCode.external = .ok seed := by
  obtain ⟨s, d₁, hload⟩ := hload
  obtain ⟨hopen, n, rfl⟩ := loadAccountSecret_ok hload
  refine ⟨s, hopen, ?_⟩
  have hems : attempt (getAccountSlip39Ems env i password) d
      = (.ok (.ok s.slip39EmsOrTonEntropyL32), d.countReads n) :=
    attempt_ok (bind_ok hload)
  unfold getPassphraseSeed at h
  obtain ⟨t, d₂, hmt, h⟩ := bind_eq_ok h
  cases hmt
  rw [ht] at h
  obtain ⟨_, d₃, hassert, h⟩ := bind_eq_ok h
  cases hassert
  simp only at h
  obtain ⟨garbage, d₄, hgarbage, h⟩ := bind_eq_ok h
  cases hgarbage
  rw [bind_ok hems, get_bind] at h
  simp only at h
  exact (ofExcept_eq_ok h).1

theorem getPassphraseSeed_bip39_ok {passphrase : CString}
    (ht : d.currentAccountInfo.mnemonicType ≠ .slip39)
    (h : getPassphraseSeed env i passphrase password d = (.ok seed, d')) :
    ∃ s, Opens env i s d ∧ (do
      let mnemonic ← (env.wallet.bip39MnemonicFromBytes
        (entropyOf d.currentAccountInfo s)).mapError .external
      let seed ← (env.wallet.bip39MnemonicToSeed mnemonic passphrase).mapError .external
      return seed.bytes : Except ErrCode (List UInt8)) = .ok seed := by
  unfold getPassphraseSeed at h
  obtain ⟨t, d₂, hmt, h⟩ := bind_eq_ok h
  cases hmt
  obtain ⟨_, d₃, hassert, h⟩ := bind_eq_ok h
  have hd₃ : d₃ = d := by
    unfold assert at hassert
    split at hassert
    · cases hassert
      rfl
    · cases hassert
  subst hd₃
  have hrest : (do
      let entropy ← getAccountEntropy env i password
      let mnemonic ← ofExcept ((env.wallet.bip39MnemonicFromBytes entropy).mapError .external)
      let seed ← ofExcept ((env.wallet.bip39MnemonicToSeed mnemonic passphrase).mapError .external)
      return seed.bytes : Account (List UInt8)) d₃ = (.ok seed, d') := by
    cases hcase : d₃.currentAccountInfo.mnemonicType with
    | slip39 => exact absurd hcase ht
    | bip39 =>
      rw [hcase] at h
      exact h
    | ton =>
      rw [hcase] at h
      exact h
  obtain ⟨entropy, d₄, hentropy, hrest⟩ := bind_eq_ok hrest
  obtain ⟨s, hopen, rfl⟩ := getAccountEntropy_ok hentropy
  refine ⟨s, hopen, ?_⟩
  obtain ⟨mnemonic, d₅, hmnemonic, hrest⟩ := bind_eq_ok hrest
  obtain ⟨seed', d₆, hseed, hrest⟩ := bind_eq_ok hrest
  rw [(ofExcept_eq_ok hmnemonic).1]
  show ((env.wallet.bip39MnemonicToSeed mnemonic passphrase).mapError ErrCode.external >>= _) = _
  rw [(ofExcept_eq_ok hseed).1]
  exact congrArg Except.ok (Outcome.ok.inj (congrArg Prod.fst hrest))

theorem getAccountSeed_ok
    (hagain : d.currentAccountInfo.mnemonicType = .slip39 →
      (d.passphraseInfo i).passphrase ≠ [] → LoadsAgain env i password d)
    (h : getAccountSeed env i password d = (.ok seed, d')) :
    ∃ s, Opens env i s d ∧
      seedOf env d.currentAccountInfo (d.passphraseInfo i).passphrase s = .ok seed := by
  unfold getAccountSeed at h
  obtain ⟨s, d₁, hload, h⟩ := bind_eq_ok h
  obtain ⟨hopen, n, rfl⟩ := loadAccountSecret_ok hload
  obtain ⟨b, d₂, hexist, h⟩ := bind_eq_ok h
  obtain ⟨rfl, hb⟩ := passphraseExist_ok hexist
  have hpassphrase : ((d.countReads n).passphraseInfo i).passphrase
      = (d.passphraseInfo i).passphrase := rfl
  rw [hpassphrase] at hb
  unfold seedOf
  cases hempty : (d.passphraseInfo i).passphrase.isEmpty with
  | true =>
    rw [hb, hempty] at h
    refine ⟨s, hopen, ?_⟩
    exact congrArg Except.ok (Outcome.ok.inj (congrArg Prod.fst h))
  | false =>
    rw [hb, hempty] at h
    have hseed : getPassphraseSeed env i (d.passphraseInfo i).passphrase password
        (d.countReads n) = (.ok seed, d') := h
    have hne : (d.passphraseInfo i).passphrase ≠ [] := by
      rintro he
      rw [he] at hempty
      cases hempty
    have hother (hnot : d.currentAccountInfo.mnemonicType ≠ .slip39) :=
      getPassphraseSeed_bip39_ok (d := d.countReads n) hnot hseed
    cases ht : d.currentAccountInfo.mnemonicType with
    | slip39 =>
      exact getPassphraseSeed_slip39_ok (d := d.countReads n) ht (hagain ht hne s _ hload) hseed
    | bip39 => exact hother fun hslip39 => MnemonicType.noConfusion (ht.symm.trans hslip39)
    | ton => exact hother fun hslip39 => MnemonicType.noConfusion (ht.symm.trans hslip39)

theorem checkXPub_ok {r : Option (Except Int CString)} {x : CString}
    (h : checkXPub r d = (.ok x, d')) : r = some (.ok x) ∧ d' = d := by
  cases r with
  | none => cases h
  | some r =>
    obtain ⟨hr, hd⟩ := ofExcept_eq_ok h
    cases r with
    | error code => cases hr
    | ok y =>
      cases hr
      exact ⟨rfl, hd⟩

def DerivedAs (x : Derivation) (keys : List (Option CString) × Option Int) : Prop :=
  match keys.2 with
  | none => x = .derived keys.1
  | some _ => x = .rowFailed

variable {keys : List (Option CString) × Option Int} {t : MnemonicType}

theorem matches_rowDerivation {a b : Option CString}
    (h : deriveChainKeys env t seed a b env.wallet.chainTable = some keys) :
    DerivedAs (rowDerivation env t seed a b) keys := by
  unfold DerivedAs rowDerivation
  rw [h]
  obtain ⟨ks, code⟩ := keys
  cases code with
  | none => rfl
  | some c => rfl

theorem chainKeys_ok {a b : Option CString}
    (h : derivePublicKeys.chainKeys env t seed a b d = (.ok keys, d')) :
    DerivedAs (rowDerivation env t seed a b) keys := by
  unfold derivePublicKeys.chainKeys at h
  cases hr : deriveChainKeys env t seed a b env.wallet.chainTable with
  | none =>
    rw [hr] at h
    cases h
  | some r =>
    rw [hr] at h
    cases h
    exact matches_rowDerivation hr

theorem derivePublicKeys_ok {seed entropy : List UInt8}
    {passphrase : CString}
    (h : derivePublicKeys env t seed entropy passphrase d = (.ok keys, d')) :
    DerivedAs (derivation env t seed entropy passphrase) keys := by
  unfold derivePublicKeys at h
  unfold derivation
  cases t with
  | ton =>
    obtain ⟨xPub, d₁, hx, h⟩ := bind_eq_ok h
    obtain ⟨hx, -⟩ := checkXPub_ok hx
    simp only
    rw [hx]
    cases h
    rfl
  | slip39 => exact chainKeys_ok h
  | bip39 =>
    obtain ⟨icarus, d₁, hicarus, h⟩ := bind_eq_ok h
    obtain ⟨hicarus, -⟩ := checkXPub_ok hicarus
    obtain ⟨ledger, d₂, hledger, h⟩ := bind_eq_ok h
    obtain ⟨hledger, -⟩ := checkXPub_ok hledger
    have hmaster : bip39MasterKeys env entropy passphrase
        = (some (.ok icarus), some (.ok ledger)) := Prod.ext hicarus hledger
    simp only
    rw [hmaster]
    exact chainKeys_ok h

theorem tempKeys_ok {a b : Option CString}
    {ret : Option Int}
    (h : deriveTempKeys.tempKeys env t seed a b ret d = (.ok keys, d'))
    (hrow : rowDerivation env t seed a b ≠ .rowFailed) :
    rowDerivation env t seed a b = .derived keys.1 ∧ keys.2 = ret := by
  unfold deriveTempKeys.tempKeys at h
  unfold rowDerivation at hrow ⊢
  cases hr : deriveChainKeys env t seed a b env.wallet.chainTable with
  | none =>
    rw [hr] at h
    cases h
  | some r =>
    rw [hr] at h
    obtain ⟨ks, code⟩ := r
    cases code with
    | none =>
      cases h
      exact ⟨rfl, rfl⟩
    | some c =>
      rw [hr] at hrow
      exact absurd rfl hrow

theorem deriveTempKeys_ok {seed entropy : List UInt8}
    {passphrase : CString}
    (h : deriveTempKeys env t seed entropy passphrase d = (.ok keys, d'))
    (hrow : derivation env t seed entropy passphrase ≠ .rowFailed)
    (hmaster : derivation env t seed entropy passphrase ≠ .masterFailed) :
    derivation env t seed entropy passphrase = .derived keys.1 ∧ keys.2 = none := by
  unfold deriveTempKeys at h
  unfold derivation at hrow hmaster ⊢
  cases t with
  | ton => cases h
  | slip39 => exact tempKeys_ok h hrow
  | bip39 =>
    simp only at h hrow hmaster ⊢
    generalize bip39MasterKeys env entropy passphrase = masters at h hrow hmaster ⊢
    rcases masters with ⟨_ | code | x, ledger⟩
    · cases h
    · exact absurd rfl hmaster
    · rcases ledger with _ | code | y
      · cases h
      · exact absurd rfl hmaster
      · exact tempKeys_ok h hrow

end

theorem Opens.congr {env : Env} {i : AccountIndex} {s : AccountSecret} {d d' : Device}
    (hrecord : recordOf d' i = recordOf d i)
    (hlen : (paramOf d' i).entropyLen = (paramOf d i).entropyLen) (h : Opens env i s d) :
    Opens env i s d' := by
  unfold Opens at h ⊢
  rw [hrecord, hlen]
  exact h

def keyParams (a : AccountInfo) : UInt8 × MnemonicType × Block 2 × Block 1 :=
  (a.entropyLen, a.mnemonicType, a.slip39Id, a.slip39IeEb)

section

variable {env : Env} {a b : AccountInfo}

theorem keyParams_eq (h : keyParams a = keyParams b) : a.entropyLen = b.entropyLen ∧
    a.mnemonicType = b.mnemonicType ∧ a.slip39Id = b.slip39Id ∧ a.slip39IeEb = b.slip39IeEb := by
  simpa only [keyParams, Prod.mk.injEq] using h

theorem entropyOf_congr (h : keyParams a = keyParams b) (s : AccountSecret) :
    entropyOf a s = entropyOf b s := by
  unfold entropyOf
  rw [(keyParams_eq h).2.1]

theorem seedOf_congr (h : keyParams a = keyParams b) (passphrase : CString) (s : AccountSecret) :
    seedOf env a passphrase s = seedOf env b passphrase s := by
  obtain ⟨hlen, htype, hid, hie⟩ := keyParams_eq h
  unfold seedOf AccountInfo.slip39Ie AccountInfo.slip39Eb
  rw [entropyOf_congr h, hlen, htype, hid, hie]

theorem derivationFrom_congr (h : keyParams a = keyParams b) (passphrase : CString)
    (s : AccountSecret) (seed : List UInt8) :
    derivationFrom env a passphrase s seed = derivationFrom env b passphrase s seed := by
  obtain ⟨hlen, htype, -, -⟩ := keyParams_eq h
  unfold derivationFrom seedLen
  rw [entropyOf_congr h, hlen, htype]

theorem derivation_of_keyParams (env : Env) (h : keyParams a = keyParams b) (passphrase : CString)
    (s : AccountSecret) (seed : List UInt8) :
    derivation env a.mnemonicType (seed.take (seedLen a)) (entropyOf b s) passphrase
      = derivationFrom env b passphrase s seed := by
  rw [← derivationFrom_congr h, ← entropyOf_congr h]
  rfl

end

theorem hasKeys_congr {env : Env} {i : AccountIndex} {passphrase : CString}
    {keys : List (Option CString)} {d d' : Device} (hrecord : recordOf d' i = recordOf d i)
    (hparam : keyParams (paramOf d' i) = keyParams (paramOf d i))
    (h : HasKeys env i passphrase keys d) : HasKeys env i passphrase keys d' := by
  obtain ⟨s, seed, hopen, hseed, hkeys⟩ := h
  refine ⟨s, seed, hopen.congr hrecord (keyParams_eq hparam).1, ?_, ?_⟩
  · rw [seedOf_congr hparam, hseed]
  · rw [derivationFrom_congr hparam, hkeys]

end Keystone3
