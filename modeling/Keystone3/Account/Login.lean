import Keystone3.Account.DataHash
import Keystone3.Account.Steady

/-!
# Logging in to a complete account

A login makes the account current, reads its parameters and then its public keys. The
keys are read from the flash; a text whose size word is out of range or that does not
parse is made afresh from the secret, but one that differs from the hash in the secure
element is refused, and with it the login (`TextRefused`).
-/

namespace Keystone3

open Logic (Outcome)
open Logic.Prog

/-- Account `i` is complete: the secret, the password hash, which no other account
has, and the parameters `a`. -/
structure Stored (env : Env) (i : AccountIndex) (password : CString) (s : AccountSecret)
    (a : AccountInfo) (d : Device) : Prop where
  secret : Sealed env d i password s
  hash : passwordHashes d i = passwordHashOf env password
  others : ∀ j, j ≠ i → passwordHashes d j ≠ passwordHashOf env password
  param : paramOf d i = a

/-- The seed of a secret, for an account of kind `t`. -/
def AccountSecret.seedBytes (s : AccountSecret) (t : MnemonicType) : List UInt8 :=
  s.seed.bytes.take (if t = .slip39 then s.entropyLen.toNat else 64)

/-- The entropy of a secret, for an account of kind `t`. -/
def AccountSecret.entropyBytes (s : AccountSecret) (t : MnemonicType) : List UInt8 :=
  match t with
  | .ton => s.entropy.bytes ++ s.slip39EmsOrTonEntropyL32.bytes
  | _ => s.entropy.bytes.take s.entropyLen.toNat

/-- The public keys of the secret, as a text that the reader takes: the key
derivation and the JSON code do their part. -/
structure DerivesKeys (env : Env) (t : MnemonicType) (s : AccountSecret) (json : CString) :
    Prop where
  keys : ∃ ks, env.wallet.jsonOfPublicKeys ks = json ∧
    ∀ d, derivePublicKeys env t (s.seedBytes t) (s.entropyBytes t) [] d = (.ok (ks, none), d)
  parses : (env.wallet.publicKeysOfJson json).isSome
  fits : json.length ≤ UserArea.data.size - 4

theorem deriveChainKeys_congr {env env' : Env} (h : env'.wallet = env.wallet) (t : MnemonicType)
    (seed : List UInt8) (a b : Option CString) : ∀ items,
    deriveChainKeys env' t seed a b items = deriveChainKeys env t seed a b items
  | [] => rfl
  | item :: items => by
    unfold deriveChainKeys
    rw [h, deriveChainKeys_congr h t seed a b items]

theorem derivePublicKeys_congr {env env' : Env} (hw : env'.wallet = env.wallet)
    (hc : env'.crypto = env.crypto) (t : MnemonicType) (seed entropy : List UInt8)
    (passphrase : CString) : derivePublicKeys env' t seed entropy passphrase
      = derivePublicKeys env t seed entropy passphrase := by
  unfold derivePublicKeys derivePublicKeys.chainKeys bip39MasterKeys
  cases t <;> simp only [hw, hc, deriveChainKeys_congr hw]

theorem DerivesKeys.congr {env : Env} {t : MnemonicType} {s : AccountSecret} {json : CString}
    (h : DerivesKeys env t s json) (env' : Env) (hw : env'.wallet = env.wallet)
    (hc : env'.crypto = env.crypto) : DerivesKeys env' t s json := by
  obtain ⟨ks, hjson, hderive⟩ := h.keys
  refine ⟨⟨ks, by rw [hw]; exact hjson, fun d => ?_⟩, by rw [hw]; exact h.parses, h.fits⟩
  rw [derivePublicKeys_congr hw hc]
  exact hderive d

section

variable {env : Env} {i : AccountIndex} {password : CString} {s : AccountSecret} {d : Device}

theorem loadAccountSecret_sealed (hr : AnswersReads env d.writes) (hs : Sealed env d i password s)
    (hlen : (paramOf d i).entropyLen = s.entropyLen) (hne : s.entropyLen ≠ 0) :
    ∃ n, loadAccountSecret env i password d = (.ok s, d.countReads n) := by
  obtain ⟨n, hrun⟩ := loadAccountSecret_answered hr i password
  refine ⟨n, ?_⟩
  rw [hrun, loaded_sealed _ hs, hlen, if_neg hne]
  rfl

theorem getAccountEntropy_sealed (hr : AnswersReads env d.writes) (hs : Sealed env d i password s)
    (hlen : (paramOf d i).entropyLen = s.entropyLen) (hne : s.entropyLen ≠ 0) :
    ∃ n, getAccountEntropy env i password d
      = (.ok (s.entropyBytes d.currentAccountInfo.mnemonicType), d.countReads n) := by
  obtain ⟨n, hload⟩ := loadAccountSecret_sealed hr hs hlen hne
  have htype : getMnemonicType (d.countReads n)
      = (.ok d.currentAccountInfo.mnemonicType, d.countReads n) := rfl
  refine ⟨n, ?_⟩
  unfold getAccountEntropy
  rw [bind_ok hload, bind_ok htype]
  unfold AccountSecret.entropyBytes
  cases d.currentAccountInfo.mnemonicType <;> rfl

theorem passphraseExist_cleared (hp : d.passphraseInfo i = PassphraseInfo.cleared) :
    passphraseExist i d = (.ok false, d) := by
  unfold passphraseExist
  rw [get_bind, hp]
  rfl

theorem getAccountSeed_sealed (hr : AnswersReads env d.writes) (hs : Sealed env d i password s)
    (hlen : (paramOf d i).entropyLen = s.entropyLen) (hne : s.entropyLen ≠ 0)
    (hp : d.passphraseInfo i = PassphraseInfo.cleared) :
    ∃ n, getAccountSeed env i password d
      = (.ok (s.seedBytes d.currentAccountInfo.mnemonicType), d.countReads n) := by
  obtain ⟨n, hload⟩ := loadAccountSecret_sealed hr hs hlen hne
  have hexist : passphraseExist i (d.countReads n) = (.ok false, d.countReads n) :=
    passphraseExist_cleared (d := d.countReads n) hp
  refine ⟨n, ?_⟩
  unfold getAccountSeed
  rw [bind_ok hload, bind_ok hexist, if_neg Bool.false_ne_true]
  rfl

/-- What the parameters in RAM must say for the public keys to be made. -/
structure SessionParams (i : AccountIndex) (t : MnemonicType) (s : AccountSecret) (d : Device) :
    Prop where
  mnemonicType : d.currentAccountInfo.mnemonicType = t
  entropyLen : d.currentAccountInfo.entropyLen = s.entropyLen
  passphrase : d.passphraseInfo i = PassphraseInfo.cleared

def Device.setKeys (d : Device) (ks : List (Option CString)) : Device :=
  { d with tempPublicKeyAccountIndex := none, accountPublicInfo := ks }

theorem accountPublicSavePublicInfo_sealed {t : MnemonicType} {json : CString}
    (hr : AnswersReads env d.writes) (hs : Sealed env d i password s)
    (hlen : (paramOf d i).entropyLen = s.entropyLen) (hne : s.entropyLen ≠ 0)
    (hsession : SessionParams i t s d) (hk : DerivesKeys env t s json) :
    ∃ n ks, accountPublicSavePublicInfo env i password d
      = writePublicInfo env i json ((d.countReads n).setKeys ks) := by
  obtain ⟨ks, hjson, hderive⟩ := hk.keys
  let freed : Device := d.setKeys (env.wallet.chainTable.map fun _ => none)
  obtain ⟨n, hseed⟩ := getAccountSeed_sealed (d := freed) hr hs hlen hne hsession.passphrase
  obtain ⟨m, hentropy⟩ := getAccountEntropy_sealed (d := freed.countReads n) hr hs hlen hne
  have htype : freed.currentAccountInfo.mnemonicType = t := hsession.mnemonicType
  rw [htype] at hseed
  rw [show (freed.countReads n).currentAccountInfo.mnemonicType = t from htype] at hentropy
  -- the length taken of the seed is the one it already has
  have htake : (s.seedBytes t).take (if t = .slip39 then d.currentAccountInfo.entropyLen.toNat
      else 64) = s.seedBytes t := by
    unfold AccountSecret.seedBytes
    rw [hsession.entropyLen, List.take_take, Nat.min_self]
  have hget : getMnemonicType d = (.ok t, d) := by
    rw [← hsession.mnemonicType]
    rfl
  have hfree : freePublicKeyRam env d = (.ok (), freed) := rfl
  have hset : setAccountPublicInfo ks ((freed.countReads n).countReads m)
      = (.ok (), (d.countReads (n + m)).setKeys ks) := by
    unfold Device.countReads
    rw [← Nat.add_assoc]
    rfl
  refine ⟨n + m, ks, ?_⟩
  unfold accountPublicSavePublicInfo
  rw [bind_ok hget, get_bind, bind_ok hfree, bind_ok hseed, bind_ok hentropy, hsession.passphrase, htake]
  refine (bind_ok (hderive _)).trans ((bind_ok hset).trans ?_)
  rw [hjson]
  -- no row of the chain table failed
  exact bind_pure_unit _ _

end

/-- The text of the public keys is there and differs from its hash. -/
def TextRefused (env : Env) (i : AccountIndex) (d : Device) : Prop :=
  publicInfoInRange i d ∧ d.page (walletHashPage i) ≠ publicInfoHash env i d ∧
    blankPage (d.page (walletHashPage i)) = false

/-- What of the device a login to account `i` needs and its public keys are no
part of. -/
def loginView (i : AccountIndex) (d : Device) :
    AccountCells × Option AccountIndex × AccountInfo × PassphraseInfo :=
  (cellsOf i d, d.currentAccountIndex, d.currentAccountInfo, d.passphraseInfo i)

theorem ignoresPublicInfo_loginView (i : AccountIndex) : IgnoresPublicInfo i (loginView i) where
  writes _ := rfl
  reads _ := rfl
  draws _ _ := rfl
  hash d x := congrArg (·, d.currentAccountIndex, d.currentAccountInfo, d.passphraseInfo i)
    (cellsOf_setPage (fun k => accountPage_ne_walletHashPage i i k) d x)
  flash _ _ _ := rfl
  keys _ _ := rfl
  temp _ _ := rfl
  isTemp _ _ := rfl

section

variable (env : Env) {i : AccountIndex} {password : CString} {s : AccountSecret}
  {t : MnemonicType} {json : CString} {d : Device}

theorem verifyDataHash_ideal (page : Nat) (info : Page) (d : Device) :
    ∃ d', verifyDataHash env.ideal page info d
      = (.ok (d.page page == info || blankPage (d.page page)), d') := by
  have hgarbage : stackGarbage env.ideal d = (.ok (env.stack d.writes d.reads), d) := rfl
  have hread : seHmacEncryptRead env.ideal page d = (.ok (d.page page), d.countRead) :=
    seRead_answered rfl
  unfold verifyDataHash
  rw [bind_ok hgarbage, bind_ok (attempt_ok hread)]
  dsimp only
  cases heq : d.page page == info with
  | true => exact ⟨_, rfl⟩
  | false =>
    cases hblank : blankPage (d.page page) with
    | false => exact ⟨_, rfl⟩
    | true =>
      have hset : setDataHash env.ideal page (d.page page) d.countRead
          = (.ok (), d.countRead.countWrite.setPage page (d.page page)) := by
        unfold setDataHash seHmacEncryptWrite
        exact seWrite_answered (d := d.countRead) rfl
      refine ⟨d.countRead.countWrite.setPage page (d.page page), ?_⟩
      rw [if_neg (by rw [Bool.and_false]; decide), if_pos rfl, bind_ok (ignore_ok hset)]
      rfl

theorem readPublicInfo_ideal (i : AccountIndex) (d : Device) :
    (TextRefused env i d ∧ (accountPublicInfoReadFromFlash env.ideal i d).1
        = .error .keystoreExtendPublicKeyNotMatch) ∨
      ¬TextRefused env i d ∧ ((accountPublicInfoReadFromFlash env.ideal i d).1 = .ok () ∨
        (accountPublicInfoReadFromFlash env.ideal i d).1 = .error .generalFail) := by
  unfold accountPublicInfoReadFromFlash
  rw [get_bind]
  by_cases hsize : publicInfoInRange i d
  · obtain ⟨d', hverify⟩ := verifyDataHash_ideal env (walletHashPage i) (publicInfoHash env i d) d
    have hrun : verifyWalletDataHash env.ideal i (env.ideal.crypto.sha256 (publicInfoText d i)) d
        = _ := hverify
    rw [if_neg (Nat.not_lt.mpr hsize), bind_ok hrun]
    unfold TextRefused
    cases heq : d.page (walletHashPage i) == publicInfoHash env i d with
    | true =>
      refine .inr ⟨fun h => h.2.1 (eq_of_beq heq), ?_⟩
      rw [Bool.true_or, if_pos rfl]
      cases env.ideal.wallet.publicKeysOfJson (publicInfoText d i) with
      | none => exact .inr rfl
      | some ks => exact .inl rfl
    | false =>
      cases hblank : blankPage (d.page (walletHashPage i)) with
      | true =>
        refine .inr ⟨fun h => Bool.false_ne_true h.2.2.symm, ?_⟩
        rw [Bool.or_true, if_pos rfl]
        cases env.ideal.wallet.publicKeysOfJson (publicInfoText d i) with
        | none => exact .inr rfl
        | some ks => exact .inl rfl
      | false =>
        refine .inl ⟨⟨hsize, fun he => ?_, rfl⟩, rfl⟩
        rw [he, beq_self_eq_true] at heq
        exact nomatch heq
  · rw [if_pos (Nat.lt_of_not_le hsize)]
    exact .inr ⟨fun h => hsize h.1, .inr rfl⟩

theorem writePublicInfo_ideal (i : AccountIndex) (json : CString) (d : Device) :
    (writePublicInfo env.ideal i json d).1 = .ok () := by
  have hs := steady_ideal env
  have hflash : ∀ effect, Triple (fun _ => True) (flashWrite env.ideal effect)
      (fun _ _ => True) (fun _ _ => False) (fun _ => False) := fun effect =>
    triple_flashWrite_steady hs (fun _ _ _ => trivial) fun _ _ h => h rfl
  have hse : ∀ effect, Triple (fun _ => True) (seWrite env.ideal effect)
      (fun _ _ => True) (fun _ _ => True) (fun _ => False) := fun effect =>
    triple_seWrite_steady hs (fun _ _ _ => trivial) fun _ _ h => h rfl
  have hall : Triple (fun _ => True) (writePublicInfo env.ideal i json) (fun _ _ => True)
      (fun _ _ => False) (fun _ => False) := by
    refine triple_bind (triple_each _ fun _ _ => hflash _) fun _ => ?_
    refine triple_bind (Q := fun _ _ => True) (triple_ignore
      (hse fun t => t.setPage (walletHashPage i) (env.crypto.sha256 json))) fun _ => ?_
    exact triple_bind (triple_each _ fun _ _ => hflash _) fun _ =>
      triple_each _ fun _ _ => hflash _
  have h := hall d trivial
  match hrun : writePublicInfo env.ideal i json d with
  | (.ok (), _) => rfl
  | (.error e, _) =>
    rw [hrun] at h
    exact False.elim h
  | (.halted, _) =>
    rw [hrun] at h
    exact False.elim h

theorem accountPublicInfoSwitch_ideal (hs : Sealed env.ideal d i password s)
    (hlen : (paramOf d i).entropyLen = s.entropyLen) (hne : s.entropyLen ≠ 0)
    (hsession : SessionParams i t s d) (hk : DerivesKeys env t s json) :
    (TextRefused env i d ∧ (accountPublicInfoSwitch env.ideal i password false d).1
        = .error .keystoreExtendPublicKeyNotMatch) ∨
      ¬TextRefused env i d ∧
        (accountPublicInfoSwitch env.ideal i password false d).1 = .ok () := by
  let d₁ : Device := { d with isTempAccount := false }.setKeys
    (env.ideal.wallet.chainTable.map fun _ => none)
  have htemp : setIsTempAccount false d = (.ok (), { d with isTempAccount := false }) := rfl
  have hfree : freePublicKeyRam env.ideal { d with isTempAccount := false } = (.ok (), d₁) := rfl
  have hview : loginView i (accountPublicInfoReadFromFlash env.ideal i d₁).2 = loginView i d :=
    frame_accountPublicInfoReadFromFlash env.ideal (ignoresPublicInfo_loginView i).toBlind
      (ignoresPublicInfo_loginView i).hash (ignoresPublicInfo_loginView i).keys d₁
  have hresult := readPublicInfo_ideal env i d₁
  unfold accountPublicInfoSwitch
  rw [bind_ok htemp, bind_ok hfree, if_neg Bool.false_ne_true]
  match hrun : accountPublicInfoReadFromFlash env.ideal i d₁ with
  | (.ok (), d₂) =>
    rw [hrun] at hresult
    rw [bind_ok (attempt_ok hrun)]
    rcases hresult with ⟨_, h⟩ | ⟨h, _⟩
    · exact nomatch h
    · exact .inr ⟨h, rfl⟩
  | (.halted, d₂) =>
    rw [hrun] at hresult
    rcases hresult with ⟨_, h⟩ | ⟨_, h | h⟩ <;> exact nomatch h
  | (.error e, d₂) =>
    rw [hrun] at hresult hview
    rw [bind_ok (attempt_error hrun)]
    rcases hresult with ⟨h, he⟩ | ⟨h, he | he⟩
    · obtain rfl : e = .keystoreExtendPublicKeyNotMatch := Outcome.error.inj he
      exact .inl ⟨h, rfl⟩
    · exact nomatch he
    · obtain rfl : e = .generalFail := Outcome.error.inj he
      have hcells : cellsOf i d₂ = cellsOf i d := congrArg Prod.fst hview
      have hinfo : d₂.currentAccountInfo = d.currentAccountInfo := congrArg (fun x => x.2.2.1) hview
      have hpass : d₂.passphraseInfo i = d.passphraseInfo i := congrArg (fun x => x.2.2.2) hview
      obtain ⟨n, ks, hsave⟩ := accountPublicSavePublicInfo_sealed (d := d₂) (fun _ => rfl)
        (sealed_congr hcells hs) (by rw [paramOf_congr hcells, hlen]) hne
        ⟨by rw [hinfo, hsession.mnemonicType], by rw [hinfo, hsession.entropyLen],
          hpass.trans hsession.passphrase⟩ (hk.congr env.ideal rfl rfl)
      refine .inr ⟨h, ?_⟩
      show (accountPublicSavePublicInfo env.ideal i password d₂).1 = _
      rw [hsave]
      exact writePublicInfo_ideal env i json _

theorem enterAccount_ideal {a : AccountInfo} (hs : Sealed env.ideal d i password s)
    (hparam : paramOf d i = a) (hlen : a.entropyLen = s.entropyLen) (hne : s.entropyLen ≠ 0)
    (hpass : d.passphraseInfo i = PassphraseInfo.cleared) (hcur : d.currentAccountIndex = some i)
    (hk : DerivesKeys env a.mnemonicType s json) :
    ∃ ret d', enterAccount env.ideal i password d = (.ok ret, d') ∧
      (ret = .ok () ↔ ¬TextRefused env i d) ∧
      cellsOf i d' = cellsOf i d ∧ d'.currentAccountIndex = some i ∧ d'.currentAccountInfo = a := by
  let d₁ : Device := { d.countRead with
    currentAccountInfo := a
    publicInfo := d.publicInfo.clearErrorCounts }
  have hread : readCurrentAccountInfo env.ideal d
      = (.ok (), { d.countRead with currentAccountInfo := a }) := by
    unfold readCurrentAccountInfo
    rw [get_bind, hcur]
    have hpage : seHmacEncryptRead env.ideal (accountPage i pageIndexParam) d
        = (.ok (d.page (accountPage i pageIndexParam)), d.countRead) := seRead_answered rfl
    refine (bind_ok hpage).trans ?_
    rw [← hparam]
    rfl
  have hexist : passphraseExist i d₁ = (.ok false, d₁) := passphraseExist_cleared hpass
  have hstart : enterAccount env.ideal i password d
      = attempt (accountPublicInfoSwitch env.ideal i password false) d₁ := by
    unfold enterAccount
    rw [bind_ok (attempt_ok hread)]
    refine (bind_ok (show setPublicInfo PublicInfo.clearErrorCounts _ = (.ok (), d₁) from rfl)).trans
      ?_
    rw [bind_ok hexist, if_neg Bool.false_ne_true]
  have hview : loginView i (accountPublicInfoSwitch env.ideal i password false d₁).2
      = loginView i d₁ :=
    frame_accountPublicInfoSwitch env.ideal (ignoresPublicInfo_loginView i) password false d₁
  have hresult := accountPublicInfoSwitch_ideal env
    (show Sealed env.ideal d₁ i password s from hs) (by rw [show paramOf d₁ i = a from hparam]; exact hlen) hne
    ⟨rfl, hlen, hpass⟩ hk
  rw [hstart]
  have hkept : ∀ d₂, loginView i d₂ = loginView i d₁ → cellsOf i d₂ = cellsOf i d ∧
      d₂.currentAccountIndex = some i ∧ d₂.currentAccountInfo = a := fun d₂ h =>
    ⟨congrArg Prod.fst h, (congrArg (fun x => x.2.1) h).trans hcur, congrArg (fun x => x.2.2.1) h⟩
  rcases hresult with ⟨h, hret⟩ | ⟨h, hret⟩
  · refine ⟨.error .keystoreExtendPublicKeyNotMatch, _, attempt_error (run_eq hret),
      ⟨nofun, fun h' => absurd h h'⟩, hkept _ hview⟩
  · exact ⟨.ok (), _, attempt_ok (run_eq hret), ⟨fun _ => h, fun _ => rfl⟩, hkept _ hview⟩

/-- **Logging in to a complete account** succeeds unless the text of its public
keys is refused; either way the session is that of the account. -/
theorem login_stored {a : AccountInfo} (h : Stored env i password s a d)
    (hlen : a.entropyLen = s.entropyLen) (hne : s.entropyLen ≠ 0)
    (hpass : d.passphraseInfo i = PassphraseInfo.cleared)
    (hk : DerivesKeys env a.mnemonicType s json) :
    ((verifyPasswordAndLogin env.ideal password d).1 = .ok () ↔ ¬TextRefused env i d) ∧
      cellsOf i (verifyPasswordAndLogin env.ideal password d).2 = cellsOf i d ∧
      (verifyPasswordAndLogin env.ideal password d).2.currentAccountIndex = some i ∧
      (verifyPasswordAndLogin env.ideal password d).2.currentAccountInfo = a := by
  obtain ⟨m, hverify⟩ := verifyPassword_ideal env h.hash h.others
  let d₁ : Device := { d.countReads m with
    currentAccountIndex := some i
    lastAccountIndex := some i }
  have hsealed : Sealed env.ideal d₁ i password s := h.secret
  obtain ⟨ret, d₂, henter, hret, hcells, hcur, hinfo⟩ :=
    enterAccount_ideal env (d := d₁) hsealed h.param hlen hne hpass rfl hk
  have hlogin : login env.ideal i password (d.countReads m) = (.ok ret, d₂) := henter
  -- storing the counters touches neither the account nor the session
  let kept := fun t : Device => (cellsOf i t, t.currentAccountIndex, t.currentAccountInfo)
  have hsave : Frame (Keeps kept) (do ignore (savePublicInfo env.ideal); ofExcept ret) := by
    have hR := keeps_preorder kept
    refine frame_bind hR (frame_ignore (frame_savePublicInfo env.ideal
      ⟨fun _ => rfl, fun _ => rfl, fun _ _ => rfl⟩ fun t x => ?_)) fun _ => frame_ofExcept hR ret
    exact congrArg (·, t.currentAccountIndex, t.currentAccountInfo)
      (cellsOf_setPage (fun k => accountPage_ne_pagePublicInfo i k) t x)
  have hkept : kept _ = kept d₂ := hsave d₂
  have hstored : ∃ t, ignore (savePublicInfo env.ideal) d₂ = (.ok (), t) := by
    have hw : seHmacEncryptWrite env.ideal d₂.publicInfo.toPage pagePublicInfo d₂
        = (.ok (), _) := seWrite_answered rfl
    exact ⟨_, ignore_ok hw⟩
  obtain ⟨t, hstored⟩ := hstored
  have hrun : verifyPasswordAndLogin env.ideal password d
      = (do ignore (savePublicInfo env.ideal); ofExcept ret : Account Unit) d₂ := by
    unfold verifyPasswordAndLogin
    rw [bind_ok (attempt_ok hverify)]
    exact bind_ok hlogin
  rw [hrun]
  refine ⟨?_, (congrArg Prod.fst hkept).trans hcells, (congrArg (fun x => x.2.1) hkept).trans hcur,
    (congrArg (fun x => x.2.2) hkept).trans hinfo⟩
  rw [bind_ok hstored]
  refine Iff.trans ?_ hret
  cases ret with
  | ok _ => exact ⟨fun _ => rfl, fun _ => rfl⟩
  | error e => exact ⟨nofun, nofun⟩

end

end Keystone3
