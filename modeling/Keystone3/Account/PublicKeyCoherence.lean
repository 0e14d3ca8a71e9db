import Keystone3.Account.PublicKeyCache

/-!
# The two caches of public keys agree with the account

A switching call frees the keys in RAM first, so an error on the way leaves the cache
empty; a call that derives keys derives them from the secret the account's record opens to
(`triple_save_derives`, `triple_temp_derives`), unless one of the failures happens that
nothing reports (`SwitchCall.NoSilentFailure`).
-/

namespace Keystone3

open Logic.Prog

/-- The JSON code keeps the keys of a derivation: their text fits into its area, and a
text that parses gives the same keys. -/
def JsonKeeps (env : Env) : Prop :=
  ∀ t seed entropy passphrase keys, derivation env t seed entropy passphrase = .derived keys →
    (env.wallet.jsonOfPublicKeys keys).length ≤ UserArea.data.size - 4 ∧
    ∀ keys', env.wallet.publicKeysOfJson (env.wallet.jsonOfPublicKeys keys) = some keys' →
      ∀ chain, keyText keys' chain = keyText keys chain

section

variable {env : Env} {i : AccountIndex} {d d' : Device}

theorem flashKeys_congr (h : d'.flash i .data = d.flash i .data) :
    flashKeys env i d' = flashKeys env i d := by
  unfold flashKeys publicInfoText publicInfoSize
  rw [h]

theorem flashDerived_congr (hrecord : recordOf d' i = recordOf d i)
    (hparam : keyParams (paramOf d' i) = keyParams (paramOf d i))
    (hflash : d'.flash i .data = d.flash i .data) (h : FlashDerived env i d) :
    FlashDerived env i d' := by
  intro keys hkeys
  rw [flashKeys_congr hflash] at hkeys
  obtain ⟨ks, hks, htext⟩ := h keys hkeys
  exact ⟨ks, hasKeys_congr hrecord hparam hks, htext⟩

theorem flashDerived_of_slotOf (hslot : slotOf i d' = slotOf i d) (h : FlashDerived env i d) :
    FlashDerived env i d' := by
  have hcells := cellsOf_of_slotOf hslot
  refine flashDerived_congr (recordOf_congr hcells) (by rw [paramOf_congr hcells]) ?_ h
  exact congrFun (congrArg (fun x => x.2.2) hslot) _

theorem flashDerived_erased (h : AreaErased i .data d) : FlashDerived env i d := by
  intro keys hkeys
  unfold flashKeys at hkeys
  rw [if_pos (Nat.lt_of_not_le (not_inRange_of_erased h))] at hkeys
  cases hkeys

theorem flashDerived_text (hj : JsonKeeps env) {ks : List (Option CString)}
    (hks : HasKeys env i [] ks d)
    (hsize : publicInfoSize d i = (env.wallet.jsonOfPublicKeys ks).length)
    (htext : publicInfoText d i = env.wallet.jsonOfPublicKeys ks) : FlashDerived env i d := by
  intro keys hkeys
  obtain ⟨s, seed, -, -, hderived⟩ := id hks
  obtain ⟨hfits, hparse⟩ := hj _ _ _ _ _ hderived
  unfold flashKeys at hkeys
  rw [hsize, if_neg (Nat.not_lt.mpr hfits), htext] at hkeys
  exact ⟨ks, hks, hparse keys hkeys⟩

end

theorem triple_writePublicInfo_carried {env : Env} {i : AccountIndex} {P : Device → Prop}
    {w : Nat} {json : CString} (hc : TextCarriedOut env w)
    (hskip : ∀ d, P d → P d.countWrite)
    (hhash : ∀ d x, P d → P (d.setPage (walletHashPage i) x))
    (hflash : ∀ d (g : Flash.Cells → Flash.Cells), P d → P (d.setFlash i .data g))
    (hfits : json.length ≤ UserArea.data.size - 4) :
    Triple (fun d => d.writes = w ∧ P d) (writePublicInfo env i json)
      (fun _ d => P d ∧ publicInfoSize d i = json.length ∧ publicInfoText d i = json)
      (fun _ _ => False) (fun _ => True) := by
  refine triple_bind (Q := fun _ d => d.writes = w + 16 ∧ P d ∧ AreaErased i .data d)
    (triple_eraseArea_carried rfl hc.1 hskip (fun d a hd => hflash d _ hd)
      fun _ _ _ _ _ _ => trivial) fun _ => ?_
  let hashed := fun d : Device => d.writes = w + 17 ∧ P d ∧ AreaErased i .data d
  have hset : Triple (fun d => d.writes = w + 16 ∧ P d ∧ AreaErased i .data d)
      (setWalletDataHash env i (env.crypto.sha256 json)) (fun _ => hashed) (fun _ => hashed)
      (fun _ => True) := by
    show Triple _ (seWrite env fun d => d.setPage (walletHashPage i) (env.crypto.sha256 json)) _ _ _
    have hdone : ∀ d (b : Bool), d.writes = w + 16 ∧ P d ∧ AreaErased i .data d →
        hashed (if b then d.countWrite.setPage (walletHashPage i) (env.crypto.sha256 json)
          else d.countWrite) := by
      rintro d b ⟨hw, hd, herased⟩
      cases b with
      | true => exact ⟨congrArg (· + 1) hw, hhash _ _ (hskip d hd), herased⟩
      | false => exact ⟨congrArg (· + 1) hw, hskip d hd, herased⟩
    exact triple_seWrite (fun d hd _ => hdone d true hd) (fun d _ b hd _ => hdone d b hd)
      fun _ _ _ _ => trivial
  refine triple_bind (Q := fun _ => hashed) (triple_ignore hset) fun _ => ?_
  refine triple_bind (triple_writeSize_carried (v := w + 17) (P := P) ?_ hskip hflash hfits
    fun _ _ _ _ _ _ => trivial) fun _ => ?_
  · exact hc.2.mono (by decide)
  refine triple_conseq (triple_writeText_carried (v := w + 18) (P := P) (H := fun _ => True) ?_
    hskip hflash hfits fun _ _ _ _ _ _ _ _ => trivial) ?_ ?_ (fun _ _ h => h) fun _ h => h
  · -- a text that fits has at most 256 pages
    intro j hj k hk
    have hwritten : Flash.written gd25qxxPageSize 4 j = (4 / 256 + j) * 256 - 4 := rfl
    have hsize : UserArea.data.size = 65536 := rfl
    have hpage := hc.2 (k + 1) (by omega)
    rw [show w + 17 + (k + 1) = w + 18 + k from by omega] at hpage
    exact hpage
  · exact fun d hd => ⟨hd.1, hd.2.2⟩
  · rintro _ d ⟨n, hd, hsize, hprog, hall⟩
    refine ⟨hd, hsize, ?_⟩
    unfold publicInfoText
    rw [hsize]
    exact Flash.holds_read_all hprog.holds hall

section

variable {α : Type} {env : Env} {i : AccountIndex} {password : CString} {d : Device}

/-- What the secret of account `i` gives: the seed under the passphrase, and the entropy. -/
def Gives (env : Env) (i : AccountIndex) (d : Device) (seed entropy : List UInt8) : Prop :=
  ∃ s, Opens env i s d ∧
    seedOf env (paramOf d i) (d.passphraseInfo i).passphrase s = .ok seed ∧
    entropy = entropyOf (paramOf d i) s

theorem triple_loadSeed (ha : Authentic env) {d : Device}
    (hparams : keyParams d.currentAccountInfo = keyParams (paramOf d i))
    (hagain : d.currentAccountInfo.mnemonicType = .slip39 →
      (d.passphraseInfo i).passphrase ≠ [] → LoadsAgain env i password d)
    {k : List UInt8 → List UInt8 → Account α} {Q : α → Device → Prop}
    {E : ErrCode → Device → Prop}
    (herror : ∀ e t, OnlyRead d t → E e t)
    (hk : ∀ seed entropy, Gives env i d seed entropy →
      Triple (OnlyRead d) (k seed entropy) Q E fun _ => True) :
    Triple (fun t => t = d) (do
      let seed ← getAccountSeed env i password
      let entropy ← getAccountEntropy env i password
      k seed entropy) Q E fun _ => True := by
  have hR := reading_onlyRead.toPreorder
  refine triple_bind (triple_conseq (triple_of_ok (s := d) (frame_readAccountSeed env i password)
    fun seed t h => getAccountSeed_ok hagain h) (fun _ h => h) (fun _ _ h => h)
    (fun e t h => herror e t h) fun _ _ => trivial) fun seed t ht => ?_
  obtain ⟨hread, s, hopen, hseed⟩ := ht
  have hentropy : Triple (fun t' => t' = t) (getAccountEntropy env i password)
      (fun entropy t' => OnlyRead d t' ∧ Gives env i d seed entropy) E fun _ => True := by
    refine triple_conseq (triple_of_ok (s := t) (frame_readAccountEntropy env i password)
      fun entropy t' h => getAccountEntropy_ok h) (fun _ h => h) ?_
      (fun e t' h => herror e t' (hR.trans hread h)) fun _ _ => trivial
    rintro entropy t' ⟨hread', s', hopen', rfl⟩
    obtain ⟨n, rfl⟩ := hread
    refine ⟨hR.trans ⟨n, rfl⟩ hread', s, hopen, ?_, ?_⟩
    · rw [← seedOf_congr hparams, hseed]
    · -- the record authenticates one secret only
      obtain ⟨pieces, hpieces⟩ := hopen
      obtain ⟨pieces', hpieces'⟩ := hopen'
      have hsame : s' = s := ha _ _ _ _ _ _ hpieces hpieces'
      rw [hsame]
      exact entropyOf_congr hparams s
  refine triple_bind hentropy (fun entropy t' ht' => ?_) t rfl
  exact hk seed entropy ht'.2 t' ht'.1

theorem triple_save_derives (ha : Authentic env) (hj : JsonKeeps env)
    (hparams : keyParams d.currentAccountInfo = keyParams (paramOf d i))
    (hpass : (d.passphraseInfo i).passphrase = [])
    (hrows : ∀ s seed, Opens env i s d → seedOf env (paramOf d i) [] s = .ok seed →
      derivationFrom env (paramOf d i) [] s seed ≠ .rowFailed)
    (htext : TextCarriedOut env d.writes) :
    Triple (fun t => t = d) (accountPublicSavePublicInfo env i password)
      (fun _ t => t.tempPublicKeyAccountIndex = none ∧ ∃ ks, HasKeys env i [] ks d ∧
        t.accountPublicInfo = ks ∧
        publicInfoSize t i = (env.wallet.jsonOfPublicKeys ks).length ∧
        publicInfoText t i = env.wallet.jsonOfPublicKeys ks)
      (fun _ t => t.tempPublicKeyAccountIndex = none ∧ t.flash = d.flash) (fun _ => True) := by
  intro t ht
  rw [ht]
  let freed : Device := d.setKeys (env.wallet.chainTable.map fun _ => none)
  have hkind : getMnemonicType d = (.ok d.currentAccountInfo.mnemonicType, d) := rfl
  have hfree : freePublicKeyRam env d = (.ok (), freed) := rfl
  unfold accountPublicSavePublicInfo
  rw [bind_ok hkind, get_bind, bind_ok hfree]
  refine triple_loadSeed (d := freed) ha hparams (fun _ h => absurd hpass h) ?_ ?_ freed rfl
  · rintro e _ ⟨n, rfl⟩
    exact ⟨rfl, rfl⟩
  rintro seed entropy ⟨s, hopen, hseed, rfl⟩ t ⟨n, rfl⟩
  have hpass' : (freed.passphraseInfo i).passphrase = [] := hpass
  rw [hpass'] at hseed
  have hfrom := derivation_of_keyParams env hparams [] s seed
  rw [hpass]
  have hderive : Triple (fun t => t = freed.countReads n)
      (derivePublicKeys env d.currentAccountInfo.mnemonicType
        (seed.take (seedLen d.currentAccountInfo)) (entropyOf (paramOf freed i) s) [])
      (fun keys t => t = freed.countReads n ∧
        DerivedAs (derivationFrom env (paramOf d i) [] s seed) keys)
      (fun _ t => t.tempPublicKeyAccountIndex = none ∧ t.flash = d.flash) (fun _ => True) := by
    refine triple_conseq (triple_of_ok (frame_derivePublicKeys (f := id) env _ _ _ _)
      fun keys t h => derivePublicKeys_ok h) (fun _ h => h) ?_ ?_ fun _ _ => trivial
    · rintro keys t ⟨hkeep, hderived⟩
      exact ⟨hkeep, hfrom ▸ hderived⟩
    · rintro e t hkeep
      obtain rfl : t = freed.countReads n := hkeep
      exact ⟨rfl, rfl⟩
  refine triple_bind hderive (fun keys t ht => ?_) _ rfl
  obtain ⟨ks, code⟩ := keys
  obtain ⟨rfl, hderived⟩ := ht
  cases code with
  | some code => exact absurd hderived (hrows s seed hopen hseed)
  | none =>
    have hks : HasKeys env i [] ks d := ⟨s, seed, hopen, hseed, hderived⟩
    have hfits := (hj _ _ _ _ _ hderived).1
    have hset : setAccountPublicInfo ks (freed.countReads n)
        = (.ok (), (d.countReads n).setKeys ks) := rfl
    rw [bind_ok hset]
    refine triple_bind (triple_conseq (triple_writePublicInfo_carried (w := d.writes)
      (P := fun t => t.tempPublicKeyAccountIndex = none ∧ t.accountPublicInfo = ks) htext
      (fun _ h => h) (fun _ _ h => h) (fun _ _ h => h) hfits) (fun _ h => h) (fun _ _ h => h)
      (fun _ _ h => h.elim) fun _ h => h) (fun _ => ?_) ((d.countReads n).setKeys ks)
      ⟨rfl, rfl, rfl⟩
    exact triple_pure fun t h => ⟨h.1.1, ks, hks, h.1.2, h.2⟩

theorem triple_temp_derives (ha : Authentic env) {set : Bool}
    (hkept : d.tempPublicKeyAccountIndex = some i → set = false →
      HasKeys env i (d.passphraseInfo i).passphrase d.accountPublicInfo d)
    (hno : (SwitchCall.temp i password set).Derives env d →
      (SwitchCall.temp i password set).NoSilentFailure env d) :
    Triple (fun t => t = d) (tempAccountPublicInfo env i password set)
      (fun _ t => t.tempPublicKeyAccountIndex = some i ∧
        HasKeys env i (d.passphraseInfo i).passphrase t.accountPublicInfo d)
      (fun _ t => t.tempPublicKeyAccountIndex = none) (fun _ => True) := by
  intro t ht
  rw [ht]
  let flagged : Device := { d with isTempAccount := !(d.passphraseInfo i).passphrase.isEmpty }
  let freed : Device := flagged.setKeys (env.wallet.chainTable.map fun _ => none)
  have hkind : getMnemonicType d = (.ok d.currentAccountInfo.mnemonicType, d) := rfl
  have hflag : setIsTempAccount (!(d.passphraseInfo i).passphrase.isEmpty) d
      = (.ok (), flagged) := rfl
  have hfree : freePublicKeyRam env flagged = (.ok (), freed) := rfl
  unfold tempAccountPublicInfo
  rw [bind_ok hkind]
  refine triple_bind (Q := fun _ t => t = d) (P := fun t => t = d) ?_ (fun _ t ht => ?_) d rfl
  · unfold assert
    split
    · exact triple_pure fun _ h => h
    · exact triple_halt fun _ _ => trivial
  rw [ht, get_bind, bind_ok hflag]
  by_cases hlook : d.tempPublicKeyAccountIndex = some i ∧ set = false
  · rw [if_pos hlook]
    exact ⟨hlook.1, hkept hlook.1 hlook.2⟩
  rw [if_neg hlook, bind_ok hfree]
  obtain ⟨hparams, hrows, hmasters, hloads, -⟩ := hno hlook
  refine triple_loadSeed (d := freed) ha hparams hloads (fun e t h => ?_) ?_ freed rfl
  · obtain ⟨n, rfl⟩ := h
    rfl
  rintro seed entropy ⟨s, hopen, hseed, rfl⟩ t ⟨n, rfl⟩
  have hfrom := derivation_of_keyParams env hparams (d.passphraseInfo i).passphrase s seed
  have hderive : Triple (fun t => t = freed.countReads n)
      (deriveTempKeys env d.currentAccountInfo.mnemonicType
        (seed.take (seedLen d.currentAccountInfo)) (entropyOf (paramOf freed i) s)
        (d.passphraseInfo i).passphrase)
      (fun keys t => t = freed.countReads n ∧ keys.2 = none ∧
        derivationFrom env (paramOf d i) (d.passphraseInfo i).passphrase s seed = .derived keys.1)
      (fun _ t => t.tempPublicKeyAccountIndex = none) (fun _ => True) := by
    refine triple_conseq (triple_of_ok (frame_deriveTempKeys (f := id) env _ _ _ _)
      fun keys t h => deriveTempKeys_ok h ?_ ?_) (fun _ h => h) ?_ ?_ fun _ _ => trivial
    · exact fun h => hrows s seed hopen hseed (hfrom ▸ h)
    · exact fun h => hmasters i password set rfl s seed hopen hseed (hfrom ▸ h)
    · rintro keys t ⟨hkeep, hderived, hcode⟩
      exact ⟨hkeep, hcode, hfrom ▸ hderived⟩
    · rintro e t hkeep
      obtain rfl : t = freed.countReads n := hkeep
      rfl
  refine triple_bind hderive (fun keys t ht => ?_) _ rfl
  obtain ⟨ks, code⟩ := keys
  obtain ⟨rfl, rfl, hderived⟩ := ht
  exact ⟨rfl, s, seed, hopen, hseed, hderived⟩

end

section

variable {env : Env} {i : AccountIndex}

theorem triple_verifyDataHash_returns (page : Nat) (info : Page) :
    Triple (fun _ => True) (verifyDataHash env page info) (fun _ _ => True) (fun _ _ => False)
      (fun _ => True) := by
  have hany : ∀ {α : Type} (x : Account α), Triple (fun _ => True) (attempt x) (fun _ _ => True)
      (fun _ _ => False) (fun _ => True) := fun x => triple_attempt
    (triple_of_frame (R := fun _ _ => True) (fun _ => trivial) fun _ _ _ _ => trivial)
  have hrest : ∀ (c : Bool) (data : Page), Triple (fun _ => True)
      (if c && data == info then pure true else if blankPage data then do
        ignore (setDataHash env page data)
        return true
      else return false) (fun _ _ => True) (fun _ _ => False) (fun _ => True) := by
    intro c data
    split
    · exact triple_pure fun _ h => h
    · split
      · exact triple_bind (triple_bind (hany _) fun _ => triple_pure fun _ h => h) fun _ =>
          triple_pure fun _ h => h
      · exact triple_pure fun _ h => h
  refine triple_bind (Q := fun _ _ => True) (fun _ _ => trivial) fun g => ?_
  refine triple_bind (hany _) fun r => ?_
  cases r with
  | ok data => exact hrest true data
  | error e => exact hrest false _

theorem triple_readFromFlash (d : Device) :
    Triple (fun t => t = d) (accountPublicInfoReadFromFlash env i)
      (fun _ t => flashKeys env i d = some t.accountPublicInfo)
      (fun e _ => e = .generalFail → flashKeys env i d = none) (fun _ => True) := by
  refine triple_bind (Q := fun a _ => a = d) (triple_get fun _ h => h) fun a t ht => ?_
  rw [ht]
  unfold flashKeys
  by_cases hsize : publicInfoSize d i > UserArea.data.size - 4
  · rw [if_pos hsize, if_pos hsize]
    exact fun _ => rfl
  · rw [if_neg hsize, if_neg hsize]
    refine triple_bind (P := fun _ => True) (Q := fun _ _ => True)
      (triple_conseq (triple_verifyDataHash_returns _ _) (fun _ h => h) (fun _ _ h => h)
        (fun _ _ h => h.elim) fun _ h => h) (fun b => ?_) t trivial
    cases b with
    | false => exact triple_throw fun _ _ h => ErrCode.noConfusion h
    | true =>
      rw [if_pos rfl]
      cases env.wallet.publicKeysOfJson (publicInfoText d i) with
      | none => exact triple_throw fun _ _ _ => rfl
      | some keys => exact triple_modify fun _ _ => rfl

end

section

variable {env : Env} {i : AccountIndex} {password : CString} {d : Device}

/-- The flash of an account holds what it held, or the text of the account's keys. -/
def TextOrKept (env : Env) (i : AccountIndex) (d t : Device) : Prop :=
  t.flash i .data = d.flash i .data ∨
    ∃ ks, HasKeys env i [] ks d ∧
      publicInfoSize t i = (env.wallet.jsonOfPublicKeys ks).length ∧
      publicInfoText t i = env.wallet.jsonOfPublicKeys ks

def switchView (i : AccountIndex) (d : Device) :
    (AccountCells × Option AccountIndex × AccountInfo × PassphraseInfo) ×
      Option AccountIndex × (AccountIndex → UserArea → Flash.Cells) :=
  (loginView i d, d.tempPublicKeyAccountIndex, d.flash)

theorem triple_info_derives (ha : Authentic env) (hj : JsonKeeps env) {newKey : Bool}
    (hpass : (d.passphraseInfo i).passphrase = []) (hflash : FlashDerived env i d)
    (hno : (SwitchCall.info i password newKey).Derives env d →
      (SwitchCall.info i password newKey).NoSilentFailure env d) :
    Triple (fun t => t = d) (accountPublicInfoSwitch env i password newKey)
      (fun _ t => (t.tempPublicKeyAccountIndex = none ∧ TextOrKept env i d t) ∧
        ∃ ks, HasKeys env i [] ks d ∧ ∀ chain, keyText t.accountPublicInfo chain = keyText ks chain)
      (fun _ t => t.tempPublicKeyAccountIndex = none ∧ TextOrKept env i d t)
      (fun _ => True) := by
  intro t ht
  rw [ht]
  let freed : Device := (SwitchCall.info i password newKey).freed env d
  have htemp : setIsTempAccount false d = (.ok (), { d with isTempAccount := false }) := rfl
  have hfree : freePublicKeyRam env { d with isTempAccount := false } = (.ok (), freed) := rfl
  -- from a state that differs in the caches only, the keys are made afresh
  have hsave : ∀ t, switchView i t = switchView i freed →
      t.writes = ((SwitchCall.info i password newKey).loading env d).writes →
      (SwitchCall.info i password newKey).NoSilentFailure env d →
      Sat (fun _ t => (t.tempPublicKeyAccountIndex = none ∧ TextOrKept env i d t) ∧
          ∃ ks, HasKeys env i [] ks d ∧
            ∀ chain, keyText t.accountPublicInfo chain = keyText ks chain)
        (fun _ t => t.tempPublicKeyAccountIndex = none ∧ TextOrKept env i d t)
        (fun _ => True) (accountPublicSavePublicInfo env i password t) := by
    rintro t hview hwrites ⟨hparams, hrows, -, -, htext⟩
    have hcells : cellsOf i t = cellsOf i d := congrArg (fun x => x.1.1) hview
    have hinfo : t.currentAccountInfo = d.currentAccountInfo := congrArg (fun x => x.1.2.2.1) hview
    have hpass' : t.passphraseInfo i = d.passphraseInfo i := congrArg (fun x => x.1.2.2.2) hview
    have hflash' : t.flash = d.flash := congrArg (fun x => x.2.2) hview
    have hrecord := recordOf_congr hcells
    have hparam := paramOf_congr hcells
    rw [SwitchCall.index, hpass] at hrows
    refine triple_conseq (triple_save_derives ha hj (d := t) ?_ ?_ ?_ ?_) (fun _ h => h) ?_ ?_
      (fun _ h => h) t rfl
    · rw [hinfo, hparam]
      exact hparams
    · rw [hpass', hpass]
    · intro s seed hopen hseed
      rw [hparam] at hseed ⊢
      exact hrows s seed (hopen.congr hrecord.symm (by rw [hparam])) hseed
    · rw [hwrites]
      exact htext i password newKey rfl
    · rintro _ t' ⟨hnone, ks, hks, hram, hsize, htext'⟩
      have hks' : HasKeys env i [] ks d := hasKeys_congr hrecord.symm (by rw [hparam]) hks
      exact ⟨⟨hnone, .inr ⟨ks, hks', hsize, htext'⟩⟩, ks, hks', fun _ => by rw [hram]⟩
    · rintro e t' ⟨hnone, hsame⟩
      exact ⟨hnone, .inl (by rw [hsame, hflash'])⟩
  unfold accountPublicInfoSwitch
  rw [bind_ok htemp, bind_ok hfree]
  cases newKey with
  | true => exact hsave freed rfl rfl (hno (.inl rfl))
  | false =>
    have hview : switchView i (accountPublicInfoReadFromFlash env i freed).2 = switchView i freed :=
      frame_accountPublicInfoReadFromFlash env ⟨fun _ => rfl, fun _ => rfl, fun _ _ => rfl⟩
        (fun t x => congrArg (·, t.tempPublicKeyAccountIndex, t.flash)
          ((ignoresPublicInfo_loginView i).hash t x)) (fun _ _ => rfl) freed
    have hreads : Triple (fun t => t = freed) (accountPublicInfoReadFromFlash env i)
        (fun _ t => flashKeys env i freed = some t.accountPublicInfo)
        (fun e _ => e = .generalFail → flashKeys env i freed = none) (fun _ => True) :=
      triple_readFromFlash freed
    have hread := hreads freed rfl
    rw [if_neg Bool.false_ne_true]
    match hrun : accountPublicInfoReadFromFlash env i freed with
    | (.halted, t) =>
      rw [bind_halted (attempt_halted hrun)]
      trivial
    | (.ok (), t) =>
      rw [hrun] at hread hview
      rw [bind_ok (attempt_ok hrun)]
      obtain ⟨ks, hks, htext⟩ := hflash _ hread
      exact ⟨⟨congrArg (fun x => x.2.1) hview,
        .inl (congrFun (congrFun (congrArg (fun x => x.2.2) hview) i) _)⟩, ks, hks, htext⟩
    | (.error e, t) =>
      rw [hrun] at hread hview
      rw [bind_ok (attempt_error hrun)]
      by_cases he : e = .generalFail
      · subst he
        have hloading : (accountPublicInfoReadFromFlash env i freed).2 = t := by rw [hrun]
        exact hsave t hview (congrArg Device.writes hloading.symm) (hno (.inr (hread rfl)))
      · -- the hash differs: no keys at all
        have hlast : t.tempPublicKeyAccountIndex = none ∧ TextOrKept env i d t :=
          ⟨congrArg (fun x => x.2.1) hview,
            .inl (congrFun (congrFun (congrArg (fun x => x.2.2) hview) i) _)⟩
        cases e <;> first | exact hlast | exact absurd rfl he

/-- Nothing of the other accounts has changed, and of account `i` the public keys only. -/
structure KeysOnly (i : AccountIndex) (d t : Device) : Prop where
  own : loginView i t = loginView i d
  others : ∀ j, j ≠ i → slotOf j t = slotOf j d

theorem KeysOnly.hasKeys {t : Device} (h : KeysOnly i d t) {passphrase : CString}
    {ks : List (Option CString)} (hks : HasKeys env i passphrase ks d) :
    HasKeys env i passphrase ks t := by
  have hcells : cellsOf i t = cellsOf i d := congrArg Prod.fst h.own
  exact hasKeys_congr (recordOf_congr hcells) (by rw [paramOf_congr hcells]) hks

theorem KeysOnly.passphrase {t : Device} (h : KeysOnly i d t) :
    t.passphraseInfo i = d.passphraseInfo i := congrArg (fun x => x.2.2.2) h.own

theorem KeysOnly.cachesDerived {t : Device} (hj : JsonKeeps env) (h : KeysOnly i d t)
    (hflash : ∀ j, FlashDerived env j d) (htext : TextOrKept env i d t)
    (htemp : ∀ j, t.tempPublicKeyAccountIndex = some j →
      j = i ∧ HasKeys env i (d.passphraseInfo i).passphrase t.accountPublicInfo d) :
    CachesDerived env t := by
  refine ⟨fun j hjt => ?_, fun j => ?_⟩
  · obtain ⟨rfl, hks⟩ := htemp j hjt
    rw [h.passphrase]
    exact h.hasKeys hks
  · by_cases hji : j = i
    · subst hji
      rcases htext with hsame | ⟨ks, hks, hsize, htext⟩
      · have hcells : cellsOf j t = cellsOf j d := congrArg Prod.fst h.own
        exact flashDerived_congr (recordOf_congr hcells) (by rw [paramOf_congr hcells]) hsame
          (hflash j)
      · exact flashDerived_text hj (h.hasKeys hks) hsize htext
    · exact flashDerived_of_slotOf (h.others j hji) (hflash j)

theorem KeysOnly.currentKeys {t : Device} (h : KeysOnly i d t)
    (hcur : d.currentAccountIndex = some i) {ks : List (Option CString)}
    (hks : HasKeys env i (d.passphraseInfo i).passphrase ks d)
    (hram : ∀ chain, keyText t.accountPublicInfo chain = keyText ks chain) :
    CurrentKeys env i t := by
  have hcur' : t.currentAccountIndex = some i := (congrArg (fun x => x.2.1) h.own).trans hcur
  refine ⟨hcur', ks, ?_, fun chain => ?_⟩
  · rw [h.passphrase]
    exact h.hasKeys hks
  · unfold getCurrentAccountPublicKey
    rw [hcur']
    exact hram chain

theorem keysOnly_switch (env : Env) (c : SwitchCall) : Frame (KeysOnly c.index) (c.prog env) := by
  intro t
  cases c with
  | info i p newKey =>
    exact ⟨frame_accountPublicInfoSwitch env (ignoresPublicInfo_loginView i) p newKey t,
      fun j hji => frame_accountPublicInfoSwitch env
        (ignoresAccount_slotOf hji).toIgnoresPublicInfo p newKey t⟩
  | temp i p set =>
    exact ⟨frame_tempAccountPublicInfo env (ignoresPublicInfo_loginView i).toIgnoresKeyRam i p
      set t, fun j hji => frame_tempAccountPublicInfo env
        (ignoresAccount_slotOf hji).toIgnoresKeyRam i p set t⟩

/-- What a switching call needs: its account is the current one, the flash caches are
right, and so is the one in RAM if it is looked at. -/
structure SwitchCall.Ready (env : Env) (c : SwitchCall) (d : Device) : Prop where
  current : d.currentAccountIndex = some c.index
  flash : ∀ i, FlashDerived env i d
  plain : ∀ i p newKey, c = .info i p newKey → (d.passphraseInfo i).passphrase = []
  temp : ∀ i p, c = .temp i p false → TempDerived env d

theorem triple_switch (ha : Authentic env) (hj : JsonKeeps env) {c : SwitchCall}
    (hready : c.Ready env d) (hno : c.Derives env d → c.NoSilentFailure env d) :
    Triple (fun t => t = d) (c.prog env)
      (fun _ t => CachesDerived env t ∧ CurrentKeys env c.index t)
      (fun _ t => CachesDerived env t) (fun _ => True) := by
  obtain ⟨hcur, hflash, hplain, htemp⟩ := hready
  have hkeep : Triple (fun t => t = d) (c.prog env) (fun _ => KeysOnly c.index d)
      (fun _ => KeysOnly c.index d) (KeysOnly c.index d) :=
    triple_frame (keysOnly_switch env c) d
  cases c with
  | info i p newKey =>
    have hpass := hplain i p newKey rfl
    refine triple_conseq (triple_and (triple_info_derives ha hj hpass (hflash i) hno) hkeep)
      (fun _ h => ⟨h, h⟩) ?_ ?_ fun _ _ => trivial
    · rintro _ t ⟨⟨⟨hnone, htext⟩, ks, hks, hram⟩, honly⟩
      refine ⟨honly.cachesDerived hj hflash htext fun j h => ?_, honly.currentKeys hcur ?_ hram⟩
      · exact nomatch hnone.symm.trans h
      · show HasKeys env i (d.passphraseInfo i).passphrase ks d
        rw [hpass]
        exact hks
    · rintro _ t ⟨⟨hnone, htext⟩, honly⟩
      exact honly.cachesDerived hj hflash htext fun j h => nomatch hnone.symm.trans h
  | temp i p set =>
    have hsame : Triple (fun t => t = d) (tempAccountPublicInfo env i p set)
        (fun _ t => t.flash = d.flash) (fun _ t => t.flash = d.flash)
        (fun t => t.flash = d.flash) :=
      triple_frame (frame_tempAccountPublicInfo (f := Device.flash) env ⟨⟨fun _ => rfl,
        fun _ => rfl, fun _ _ => rfl⟩, fun _ _ => rfl, fun _ _ => rfl, fun _ _ => rfl⟩ i p set) d
    have hkept : d.tempPublicKeyAccountIndex = some i → set = false →
        HasKeys env i (d.passphraseInfo i).passphrase d.accountPublicInfo d := by
      rintro hi rfl
      exact htemp i p rfl i hi
    refine triple_conseq (triple_and (triple_and (triple_temp_derives ha hkept hno) hsame) hkeep)
      (fun _ h => ⟨⟨h, h⟩, h⟩) ?_ ?_ fun _ _ => trivial
    · rintro _ t ⟨⟨⟨hsome, hks⟩, hflash'⟩, honly⟩
      refine ⟨honly.cachesDerived hj hflash (.inl (by rw [hflash'])) fun j h => ?_,
        honly.currentKeys hcur hks fun _ => rfl⟩
      exact ⟨Option.some.inj (h.symm.trans hsome), hks⟩
    · rintro _ t ⟨⟨hnone, hflash'⟩, honly⟩
      exact honly.cachesDerived hj hflash (.inl (by rw [hflash'])) fun j h =>
        nomatch hnone.symm.trans h

end

end Keystone3
