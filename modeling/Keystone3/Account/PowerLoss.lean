import Keystone3.Account.CreateFailure

/-!
# A power loss while an account is made

The rest of a creation, from the password hash on, and what the next boot finds.

* Without the last parameters the account opens with those it started from.
* Without a size word the text is made afresh at login. With one, and with just a part
  of the text behind it, the text is refused and the account does not open.
-/

namespace Keystone3

open Logic.Prog
open Bytes (Block toLe ofLe)
open Flash (Cells eraseSector written)

/-- The text of the public keys is there up to its `n`-th piece. -/
structure TextAt (env : Env) (i : AccountIndex) (json : CString) (n : Nat) (d : Device) : Prop where
  hash : d.page (walletHashPage i) = env.crypto.sha256 json
  size : publicInfoSize d i = json.length
  holds : Flash.Holds (d.flash i .data) 4 json (written gd25qxxPageSize 4 n)

def tornText (json : CString) (n : Nat) : CString := Flash.torn json (written gd25qxxPageSize 4 n)

/-- The hash does not tell the piece that is there from the text. -/
def TextPasses (env : Env) (json : CString) (n : Nat) : Prop :=
  env.crypto.sha256 (tornText json n) = env.crypto.sha256 json ∨
    blankPage (env.crypto.sha256 json) = true

theorem textRefused_iff {env : Env} {i : AccountIndex} {json : CString} {n : Nat} {d : Device}
    (h : TextAt env i json n d) (hfits : json.length ≤ UserArea.data.size - 4) :
    TextRefused env i d ↔ ¬TextPasses env json n := by
  have htext : publicInfoHash env i d = env.crypto.sha256 (tornText json n) := by
    unfold publicInfoHash publicInfoText tornText
    rw [h.size, Flash.holds_read h.holds]
  have hrange : publicInfoInRange i d := by
    unfold publicInfoInRange
    rw [h.size]
    exact hfits
  unfold TextRefused TextPasses
  rw [htext, h.hash, not_or, Bool.not_eq_true]
  exact ⟨fun ⟨_, hne, hblank⟩ => ⟨fun he => hne he.symm, hblank⟩,
    fun ⟨hne, hblank⟩ => ⟨hrange, fun he => hne he.symm, hblank⟩⟩

/-- Where a power loss can leave the text, whose writes start at `v`. -/
inductive TextStop (env : Env) (i : AccountIndex) (json : CString) (v : Nat) (P : Device → Prop)
    (d : Device) : Prop
  | erased (hcut : env.writeReply (v + 17) ≠ .answered) (hP : P d) (h : AreaErased i .data d)
  | text (n : Nat) (hsize : env.writeReply (v + 17) = .answered)
      (hpieces : ∀ k, k < n → env.writeReply (v + 18 + k) = .answered)
      (hcut : env.writeReply (v + 18 + n) ≠ .answered ∨ json.length ≤ written gd25qxxPageSize 4 n)
      (hP : P d) (h : TextAt env i json n d)

section

variable {env : Env} (hs : Steady env) {i : AccountIndex} {json : CString} {v : Nat}
  {P : Device → Prop}

include hs

theorem triple_writeSize_steady (hskip : ∀ d, P d → P d.countWrite)
    (hflash : ∀ d (g : Cells → Cells), P d → P (d.setFlash i .data g))
    (hfits : json.length ≤ UserArea.data.size - 4) :
    Triple (fun d => d.writes = v ∧ P d ∧ AreaErased i .data d)
      (gd25FlashWriteBuffer env i .data 0 (toLe 4 json.length))
      (fun _ d => d.writes = v + 1 ∧ env.writeReply v = .answered ∧ P d ∧
        publicInfoSize d i = json.length ∧
        ∀ x, 4 ≤ x → x < UserArea.data.size → d.flash i .data x = Flash.erased)
      (fun _ _ => False)
      (fun d => env.writeReply v ≠ .answered ∧ P d ∧ AreaErased i .data d) := by
  refine triple_writeSize_carried (carriedOut_steady hs v 1) hskip hflash hfits ?_
  intro d applied e hd herased hr
  obtain ⟨hnot, rfl⟩ := not_answered_of_stopped hs hr
  exact ⟨hnot, hskip d hd, herased⟩

theorem triple_writeText_steady (hskip : ∀ d, P d → P d.countWrite)
    (hflash : ∀ d (g : Cells → Cells), P d → P (d.setFlash i .data g))
    (hfits : json.length ≤ UserArea.data.size - 4) :
    Triple (fun d => (d.writes = v + 18 ∧ env.writeReply (v + 17) = .answered ∧ P d ∧
        publicInfoSize d i = json.length ∧
        ∀ x, 4 ≤ x → x < UserArea.data.size → d.flash i .data x = Flash.erased) ∧
        d.page (walletHashPage i) = env.crypto.sha256 json)
      (gd25FlashWriteBuffer env i .data 4 json) (fun _ => TextStop env i json v P)
      (fun _ _ => False) (TextStop env i json v P) := by
  let R := fun d : Device => (env.writeReply (v + 17) = .answered ∧ P d) ∧
    d.page (walletHashPage i) = env.crypto.sha256 json
  refine triple_conseq (triple_writeText_carried (P := R) (v := v + 18)
    (H := TextStop env i json v P) (fun j _ => carriedOut_steady hs _ (j + 1))
    (fun d hd => ⟨⟨hd.1.1, hskip d hd.1.2⟩, hd.2⟩) (fun d g hd => ⟨⟨hd.1.1, hflash d g hd.1.2⟩, hd.2⟩)
    hfits ?_) ?_ ?_ (fun _ _ h => h) fun _ h => h
  · rintro n d applied e ⟨⟨hr, hd⟩, hhash⟩ hsize hprog hcut
    obtain ⟨hnot, rfl⟩ := not_answered_of_stopped hs hcut
    exact TextStop.text n hr hprog.answered (.inl hnot) (hskip d hd) ⟨hhash, hsize, hprog.holds⟩
  · rintro d ⟨⟨hw, hr, hd, hrest⟩, hhash⟩
    exact ⟨hw, ⟨⟨hr, hd⟩, hhash⟩, hrest⟩
  · rintro _ d ⟨n, ⟨⟨hr, hd⟩, hhash⟩, hsize, hprog, hall⟩
    exact TextStop.text n hr hprog.answered (.inr hall) hd ⟨hhash, hsize, hprog.holds⟩

theorem triple_writePublicInfo_steady (hskip : ∀ d, P d → P d.countWrite)
    (hflash : ∀ d (g : Cells → Cells), P d → P (d.setFlash i .data g))
    (hhash : ∀ d x, P d → P (d.setPage (walletHashPage i) x))
    (hfits : json.length ≤ UserArea.data.size - 4) :
    Triple (fun d => d.writes = v ∧ P d ∧ AreaErased i .data d) (writePublicInfo env i json)
      (fun _ => TextStop env i json v P) (fun _ _ => False) (TextStop env i json v P) := by
  have hstop : ∀ k, k ≤ 17 → env.writeReply (v + k) ≠ .answered →
      env.writeReply (v + 17) ≠ .answered := fun k hk h hl => h (hs.final _ _ (by omega) hl)
  -- erasing again leaves erased cells erased
  have herase : ∀ d a, (P d ∧ AreaErased i .data d) →
      P (d.setFlash i .data (eraseSector gd25qxxSectorSize a)) ∧
        AreaErased i .data (d.setFlash i .data (eraseSector gd25qxxSectorSize a)) := by
    rintro d a ⟨hd, herased⟩
    refine ⟨hflash d _ hd, fun x hx => ?_⟩
    rw [Device.setFlash_self]
    unfold eraseSector
    split
    · rfl
    · exact herased x hx
  refine triple_bind (triple_conseq (triple_eraseArea_steady hs (n := 15) (w := v)
    (P := fun d => P d ∧ AreaErased i .data d) (fun d hd => ⟨hskip d hd.1, hd.2⟩) herase rfl)
    (fun _ h => h) (fun _ _ h => (⟨h.1, h.2.1⟩ : _ ∧ _)) (fun _ _ h => h)
    fun _ h => .erased (hstop 15 (by omega) h.1) h.2.1 h.2.2) fun _ => ?_
  let hashed := fun d : Device => (d.writes = v + 17 ∧ P d ∧ AreaErased i .data d) ∧
    d.page (walletHashPage i) = env.crypto.sha256 json
  have hset : Triple (fun d => d.writes = v + 16 ∧ P d ∧ AreaErased i .data d)
      (setWalletDataHash env i (env.crypto.sha256 json)) (fun _ => hashed) (fun _ => hashed)
      (TextStop env i json v P) := by
    show Triple _ (seWrite env fun d => d.setPage (walletHashPage i) (env.crypto.sha256 json)) _ _ _
    refine triple_seWrite_steady hs ?_ ?_
    · rintro d ⟨hw, hd, herased⟩ _
      exact ⟨⟨congrArg (· + 1) hw, hhash _ _ (hskip d hd), herased⟩, Device.setPage_self _ _ _⟩
    · rintro d ⟨hw, hd, herased⟩ hr
      rw [hw] at hr
      exact .erased (hstop 16 (by omega) hr) (hskip d hd) herased
  refine triple_bind (Q := fun _ => hashed) (triple_ignore hset) fun _ => ?_
  -- the flash driver does not touch the hash
  have hkeep : Triple (fun d => d.page (walletHashPage i) = env.crypto.sha256 json)
      (gd25FlashWriteBuffer env i .data 0 (toLe 4 json.length))
      (fun _ d => d.page (walletHashPage i) = env.crypto.sha256 json)
      (fun _ d => d.page (walletHashPage i) = env.crypto.sha256 json)
      (fun d => d.page (walletHashPage i) = env.crypto.sha256 json) :=
    triple_of_frame (frame_gd25FlashWriteBuffer env (f := Device.page)
      ⟨fun _ => rfl, fun _ => rfl, fun _ _ => rfl⟩ (fun _ _ => rfl) _ _)
      fun _ _ h hd => (congrFun h _).trans hd
  refine triple_bind (triple_conseq (triple_and
    (triple_writeSize_steady hs (v := v + 17) hskip hflash hfits) hkeep) (fun _ h => h)
    (fun _ _ h => h) (fun _ _ h => h.1) fun _ h => .erased h.1.1 h.1.2.1 h.1.2.2) fun _ => ?_
  exact triple_writeText_steady hs hskip hflash hfits

end

structure NewParams (c : Creation) (s : AccountSecret) (a : AccountInfo) : Prop where
  mnemonicType : a.mnemonicType = c.mnemonicType
  entropyLen : a.entropyLen = s.entropyLen
  slip39Id : a.slip39Id = Block.zero 2
  slip39IeEb : a.slip39IeEb = Block.zero 1

theorem newParams_start (env : Env) (c : Creation) (s : AccountSecret) (x : Block 17)
    (y : UInt8) :
    NewParams c s (newAccountInfo env s { c.info with walletName := x, iconIndex := y }) := by
  have hfields : ∀ a : AccountInfo, (newAccountInfo env s a).entropyLen = s.entropyLen ∧
      (newAccountInfo env s a).slip39Id = a.slip39Id ∧
      (newAccountInfo env s a).slip39IeEb = a.slip39IeEb := by
    intro a
    unfold newAccountInfo
    dsimp only
    split
    · exact ⟨rfl, rfl, rfl⟩
    · split <;> exact ⟨rfl, rfl, rfl⟩
  obtain ⟨hlen, hid, hieEb⟩ := hfields { c.info with walletName := x, iconIndex := y }
  refine ⟨mnemonicType_newAccountInfo env s _, hlen, hid.trans ?_, hieEb.trans ?_⟩
  · cases c <;> rfl
  · cases c <;> rfl

theorem entropyLen_last (c : Creation) (a : AccountInfo) : (c.last a).entropyLen = a.entropyLen := by
  cases c <;> rfl

theorem Stored.of_cells {env : Env} {i : AccountIndex} {password : CString} {s : AccountSecret}
    {a : AccountInfo} {d d' : Device} (h : Stored env i password s a d)
    (hcells : cellsOf i d' = cellsOf i d)
    (hothers : ∀ j, j ≠ i → passwordHashes d' j ≠ passwordHashOf env password) :
    Stored env i password s a d' where
  secret := sealed_congr hcells h.secret
  hash := (congrFun (congrArg AccountCells.page hcells) pageIndexPasswordHash).trans h.hash
  others := hothers
  param := (paramOf_congr hcells).trans h.param

/-- Where a creation of account `i` can stop, when its writes start at `w`, the
slot held `c₀` and the other accounts the password hashes `g`. -/
inductive Reached (env : Env) (i : AccountIndex) (password : CString) (c : Creation)
    (s : AccountSecret) (json : CString) (w : Nat) (g : AccountIndex → Page)
    (c₀ : AccountCells × Page × (UserArea → Cells)) (d : Device) : Prop
  | unfilled (hcut : env.writeReply (w + 50) ≠ .answered)
      (h : env.writeReply w ≠ .answered ∧ slotOf i d = c₀ ∨ ¬Full i d)
  | repeated (h : ¬Full i d) (hj : ∃ j, j ≠ i ∧ g j = passwordHashOf env password)
  | params (a : AccountInfo) (ha : NewParams c s a)
      (hnew : ∀ j, j ≠ i → g j ≠ passwordHashOf env password)
      (hreply : env.writeReply (w + 50) = .answered) (hcut : env.writeReply (w + 51) ≠ .answered)
      (h : Stored env i password s a d) (herased : AreaErased i .data d)
  | text (a : AccountInfo) (ha : NewParams c s a)
      (hnew : ∀ j, j ≠ i → g j ≠ passwordHashOf env password)
      (hreply : env.writeReply (w + 51) = .answered)
      (h : TextStop env i json (w + 52) (Stored env i password s (c.last a)) d)

section

variable {env : Env} (hs : Steady env) {i : AccountIndex} {password : CString} {c : Creation}
  {s : AccountSecret} {json : CString} {w : Nat} {g : AccountIndex → Page}
  {c₀ : AccountCells × Page × (UserArea → Cells)}

include hs

theorem triple_newPublicInfo_steady {v : Nat} {a : AccountInfo}
    (hlen : a.entropyLen = s.entropyLen) (hne : s.entropyLen ≠ 0)
    (hk : DerivesKeys env a.mnemonicType s json) :
    Triple (Created env i password s v a) (accountPublicInfoSwitch env i password true)
      (fun _ => TextStop env i json v (Stored env i password s a)) (fun _ _ => False)
      (TextStop env i json v (Stored env i password s a)) := by
  rintro d ⟨hw, hstored, hcur, hinfo, hpass, herased⟩
  let d₁ : Device := { d with isTempAccount := false }.setKeys (env.wallet.chainTable.map fun _ => none)
  have htemp : setIsTempAccount false d = (.ok (), { d with isTempAccount := false }) := rfl
  have hfree : freePublicKeyRam env { d with isTempAccount := false } = (.ok (), d₁) := rfl
  obtain ⟨n, ks, hsave⟩ := accountPublicSavePublicInfo_sealed (d := d₁) (fun r => hs.reads _ r)
    (sealed_congr rfl hstored.secret) (by rw [show paramOf d₁ i = a from hstored.param, hlen]) hne
    ⟨congrArg AccountInfo.mnemonicType hinfo, (congrArg AccountInfo.entropyLen hinfo).trans hlen,
      hpass⟩ hk
  have hkept : ∀ t t' : Device, Stored env i password s a t → cellsOf i t' = cellsOf i t →
      passwordHashes t' = passwordHashes t → Stored env i password s a t' := by
    intro t t' ht hcells hhashes
    refine ht.of_cells hcells fun j hj => ?_
    rw [hhashes]
    exact ht.others j hj
  unfold accountPublicInfoSwitch
  rw [bind_ok htemp, bind_ok hfree, if_pos rfl, hsave]
  refine triple_writePublicInfo_steady hs (fun t ht => hkept t _ ht rfl rfl)
    (fun t f ht => hkept t _ ht rfl rfl) (fun t x ht => hkept t _ ht ?_ ?_) hk.fits _
    ⟨hw, hkept d _ hstored rfl rfl, herased⟩
  · exact cellsOf_setPage (fun k => accountPage_ne_walletHashPage i i k) t x
  · exact (ignoresPublicInfo_passwordHashes i).hash t x

theorem triple_finish_steady {a : AccountInfo} (ha : NewParams c s a)
    (hnew : ∀ j, j ≠ i → g j ≠ passwordHashOf env password) (hne : s.entropyLen ≠ 0)
    (hk : DerivesKeys env c.mnemonicType s json) :
    Triple (fun d => Created env i password s (w + 51) a d ∧ env.writeReply (w + 50) = .answered)
      (do setInfo c.last; saveCurrentAccountInfo env; accountPublicInfoSwitch env i password true)
      (fun _ => Reached env i password c s json w g c₀)
      (fun _ => Reached env i password c s json w g c₀)
      (Reached env i password c s json w g c₀) := by
  have htype : (c.last a).mnemonicType = c.mnemonicType :=
    (mnemonicType_last c a).trans ha.mnemonicType
  have hlen : (c.last a).entropyLen = s.entropyLen := (entropyLen_last c a).trans ha.entropyLen
  have hcells : ∀ t t' : Device, Stored env i password s a t → cellsOf i t' = cellsOf i t →
      passwordHashes t' = passwordHashes t → Stored env i password s a t' := by
    intro t t' ht hc hh
    refine ht.of_cells hc fun j hj => ?_
    rw [hh]
    exact ht.others j hj
  let named := fun d : Device => (d.writes = w + 51 ∧ Stored env i password s a d ∧
    d.passphraseInfo i = PassphraseInfo.cleared ∧ AreaErased i .data d) ∧
    d.currentAccountIndex = some i ∧ d.currentAccountInfo = c.last a ∧
    env.writeReply (w + 50) = .answered
  refine triple_bind (Q := fun _ => named) (triple_modify ?_) fun _ => ?_
  · rintro d ⟨⟨hw, hstored, hcur, hinfo, hpass, herased⟩, hreply⟩
    exact ⟨⟨hw, hcells d _ hstored rfl rfl, hpass, herased⟩, hcur, congrArg c.last hinfo, hreply⟩
  refine triple_bind (Q := fun _ d => Created env i password s (w + 52) (c.last a) d ∧
    env.writeReply (w + 51) = .answered) (triple_saveCurrentAccountInfo_steady hs
      (fun d hd => hd.2.1) ?_ ?_) fun _ => ?_
  · rintro d ⟨⟨hw, hstored, hpass, herased⟩, hcur, hinfo, _⟩ hr
    rw [hw] at hr
    refine ⟨⟨congrArg (· + 1) hw, ⟨?_, ?_, ?_, ?_⟩, hcur, hinfo, hpass, herased⟩, hr⟩
    · exact sealed_setPage (d := d.countWrite) i (by decide) _ hstored.secret
    · exact (congrFun (passwordHashes_setPage_other (by decide) i d.countWrite _) i).trans
        hstored.hash
    · intro j hj
      rw [passwordHashes_setPage_other (by decide) i d.countWrite]
      exact hstored.others j hj
    · show AccountInfo.ofPage ((d.countWrite.setPage _ _).page _) = _
      rw [Device.setPage_self, AccountInfo.ofPage_toPage, hinfo]
  · rintro d ⟨⟨hw, hstored, hpass, herased⟩, hcur, hinfo, hreply⟩ hr
    rw [hw] at hr
    exact .params a ha hnew hreply hr (hcells d _ hstored rfl rfl) herased
  · rintro d ⟨hd, hr⟩
    rw [← htype] at hk
    exact triple_conseq (triple_newPublicInfo_steady hs hlen hne hk) (fun _ h => h)
      (fun _ _ h => .text a ha hnew hr h) (fun _ _ h => h.elim) (fun _ h => .text a ha hnew hr h)
      d hd

/-- **Every write of a creation**: a run on steady hardware stops where `Reached`
says. -/
theorem triple_create_steady (hsecret : c.secret env = .ok (some s))
    (hhash : checkEntropy (passwordHashOf env password) = true) (hne : s.entropyLen ≠ 0)
    (hk : DerivesKeys env c.mnemonicType s json) :
    Triple (fun d => (d.writes = w ∧ slotOf i d = c₀) ∧ ∀ j, j ≠ i → passwordHashes d j = g j)
      (c.create env i password) (fun _ => Reached env i password c s json w g c₀)
      (fun _ => Reached env i password c s json w g c₀)
      (Reached env i password c s json w g c₀) := by
  have hstop : ∀ k, k ≤ 50 → env.writeReply (w + k) ≠ .answered →
      env.writeReply (w + 50) ≠ .answered := fun k hk h hl => h (hs.final _ _ (by omega) hl)
  have hfull : ∀ d, hashWritten i d = false → ¬Full i d :=
    fun d h hf => Bool.false_ne_true (h.symm.trans hf.2)
  rw [c.create_eq, hsecret]
  refine triple_bind (triple_conseq (triple_takeSlot_steady hs) (fun _ h => h)
    (fun _ d h => (h : Taken i g (w + 36) c.info d)) (fun _ _ h => h.elim)
    fun _ h => .unfilled (hstop 35 (by omega) h.1) h.2) fun _ => ?_
  refine triple_bind (triple_conseq (triple_storeWalletName_steady hs) (fun _ h => h)
    (fun _ _ h => h) (fun _ _ h => h.elim)
    fun d h => .unfilled (hstop 37 (by omega) h.1) (.inr (hfull d h.2))) fun _ => ?_
  rintro d ⟨x, y, hd⟩
  refine triple_bind (triple_conseq (triple_saveNewSecret_steady hs hhash) (fun _ h => h)
    (fun _ _ h => h) (fun _ d h => .repeated (hfull d h.1) h.2)
    fun d h => .unfilled h.1 (.inr (hfull d h.2))) (fun _ => ?_) d hd
  rintro t ⟨ht, hnew⟩
  exact triple_finish_steady hs (newParams_start env c s x y) hnew hne hk t ht

end

namespace Creation

def entropy (env : Env) : Creation → List UInt8
  | bip39 entropy => entropy.bytes
  | slip39 _ entropy _ _ _ => entropy.bytes
  | ton mnemonic => (env.wallet.tonMnemonicToEntropy mnemonic).bytes

/-- The parameters have the identifier, the exponent and the extendable flag. -/
def Slip39Saved (a : AccountInfo) : Creation → Prop
  | slip39 _ _ id eb ie =>
    ofLe a.slip39Id.bytes = id.toNat ∧ a.slip39Ie = ie ∧ a.slip39Eb = if eb then 1 else 0
  | _ => True

def Slip39Default : Creation → Prop
  | slip39 _ _ id eb ie => id = 0 ∧ ie = 0 ∧ eb = false
  | _ => True

def ExponentFits : Creation → Prop
  | slip39 _ _ _ _ ie => ie < 16
  | _ => True

instance (a : AccountInfo) (c : Creation) : Decidable (c.Slip39Saved a) := by
  unfold Slip39Saved
  split <;> infer_instance

end Creation

theorem entropy_take (e : Entropy) : (Block.ofBytes 32 e.bytes).bytes.take e.len.toNat = e.bytes := by
  have hmem := e.supported
  simp only [List.mem_cons, List.not_mem_nil, or_false] at hmem
  have hlen : e.len.toNat = e.bytes.length := by
    unfold Entropy.len
    rw [UInt8.toNat_ofNat']
    omega
  rw [hlen]
  exact Block.ofBytes_take (by omega)

theorem secret_saved {env : Env} {c : Creation} {s : AccountSecret}
    (h : c.secret env = .ok (some s)) :
    s.entropyBytes c.mnemonicType = c.entropy env ∧ s.entropyLen ≠ 0 := by
  cases c with
  | bip39 e =>
    have h : bip39Secret env e = .ok (some s) := h
    unfold bip39Secret at h
    cases hm : env.wallet.bip39MnemonicFromBytes e.bytes with
    | error code =>
      rw [hm] at h
      cases h
    | ok mnemonic =>
      rw [hm] at h
      change ((env.wallet.bip39MnemonicToSeed mnemonic []).mapError ErrCode.external >>= _) = _ at h
      cases hseed : env.wallet.bip39MnemonicToSeed mnemonic [] with
      | error code =>
        rw [hseed] at h
        cases h
      | ok seed =>
        rw [hseed] at h
        cases Except.ok.inj h
        exact ⟨entropy_take e, e.len_ne_zero⟩
  | slip39 ems e id eb ie =>
    cases Except.ok.inj h
    exact ⟨entropy_take e, e.len_ne_zero⟩
  | ton mnemonic =>
    have h : tonSecret env mnemonic = some s := Except.ok.inj h
    unfold tonSecret at h
    dsimp only at h
    split at h
    · cases h
    · cases h
      refine ⟨?_, (by decide : (32 : UInt8) ≠ 0)⟩
      exact congrArg Block.bytes (Block.append_front_back (m := 32) (n := 32) _)

private theorem ieEb_decode {ie : UInt8} (h : ie < 16) (eb : Bool) :
    (ie ||| ((if eb then (1 : UInt8) else 0) <<< 4)) &&& 0x0F = ie ∧
      (ie ||| ((if eb then (1 : UInt8) else 0) <<< 4)) >>> 4 = if eb then 1 else 0 := by
  have hall : ∀ n, n < 16 → ∀ eb : Bool,
      (UInt8.ofNat n ||| ((if eb then (1 : UInt8) else 0) <<< 4)) &&& 0x0F = UInt8.ofNat n ∧
      (UInt8.ofNat n ||| ((if eb then (1 : UInt8) else 0) <<< 4)) >>> 4
        = if eb then 1 else 0 := by decide
  have hie : ie = UInt8.ofNat ie.toNat := UInt8.ofNat_toNat.symm
  rw [hie]
  exact hall ie.toNat (UInt8.lt_iff_toNat_lt.mp h) eb

theorem slip39Saved_last {c : Creation} (h : c.ExponentFits) (a : AccountInfo) :
    c.Slip39Saved (c.last a) := by
  cases c with
  | bip39 e => trivial
  | ton mnemonic => trivial
  | slip39 ems e id eb ie =>
    obtain ⟨hie, heb⟩ := ieEb_decode h eb
    refine ⟨?_, hie, heb⟩
    have hid : (Block.ofBytes 2 (toLe 2 id.toNat)).bytes = toLe 2 id.toNat :=
      congrArg Block.bytes (Block.ofBytes_bytes (n := 2)
        ⟨toLe 2 id.toNat, Bytes.length_toLe 2 id.toNat⟩)
    show ofLe (Block.ofBytes 2 (toLe 2 id.toNat)).bytes = id.toNat
    rw [hid]
    exact Bytes.ofLe_toLe 2 _ id.toNat_lt

theorem slip39Saved_new {c : Creation} {s : AccountSecret} {a : AccountInfo}
    (h : NewParams c s a) : c.Slip39Saved a ↔ c.Slip39Default := by
  cases c with
  | bip39 e => exact Iff.rfl
  | ton mnemonic => exact Iff.rfl
  | slip39 ems e id eb ie =>
    unfold Creation.Slip39Saved Creation.Slip39Default AccountInfo.slip39Ie AccountInfo.slip39Eb
    dsimp only
    rw [h.slip39Id, h.slip39IeEb]
    have hid : ofLe (Block.zero 2).bytes = id.toNat ↔ id = 0 := by
      rw [← UInt16.toNat_inj]
      exact eq_comm
    have hie : (Block.zero 1).byte &&& 0x0F = ie ↔ ie = 0 := eq_comm
    have heb : (Block.zero 1).byte >>> 4 = (if eb then (1 : UInt8) else 0) ↔ eb = false := by
      cases eb <;> decide
    rw [hid, hie, heb]

/-- The device after the routine was cut short at its `m`-th write and the check at
the next boot has run. -/
def afterPowerLoss (env : Env) (m : Nat) (x : Env → Account Unit) (d : Device) : Device :=
  (accountsDataCheck env.ideal (x (env.cutAt (d.writes + m)) d).2.restart).2

/-- The account opens with its password and is the one that was being saved. -/
def Usable (env : Env) (i : AccountIndex) (password : CString) (c : Creation) (d : Device) :
    Prop :=
  let r := verifyPasswordAndLogin env.ideal password d
  r.1 = .ok () ∧ r.2.currentAccountIndex = some i ∧
    r.2.currentAccountInfo.mnemonicType = c.mnemonicType ∧
    (getAccountEntropy env.ideal i password r.2).1 = .ok (c.entropy env) ∧
    c.Slip39Saved r.2.currentAccountInfo

/-- Every other slot is blank or as it was, and so is slot `i`, or it holds the new account. -/
def Recovered (i : AccountIndex) (m : Nat) (d d' : Device) (new : Prop) : Prop :=
  (∀ j, j ≠ i → BlankSlot j d' ∨ slotOf j d' = slotOf j d) ∧
    (BlankSlot i d' ∨ (m = 0 ∧ slotOf i d' = slotOf i d) ∨ new)

def Creation.PowerLossSafe (env : Env) (i : AccountIndex) (password : CString) (json : CString)
    (m : Nat) (d : Device) (c : Creation) : Prop :=
  (∃ j, j ≠ i ∧ passwordHashes d j = passwordHashOf env password) ∨
    (∀ s, c.secret env ≠ .ok (some s)) ∨
    ((m = 51 → c.Slip39Default) ∧ ∀ n, m = 70 + n → TextPasses env json n)

section

variable {env : Env} {i : AccountIndex} {password : CString} {c : Creation} {s : AccountSecret}
  {json : CString} {a : AccountInfo} {d : Device}

theorem usable_iff (h : Stored env i password s a d) (hsecret : c.secret env = .ok (some s))
    (htype : a.mnemonicType = c.mnemonicType) (hlen : a.entropyLen = s.entropyLen)
    (hpass : d.passphraseInfo i = PassphraseInfo.cleared)
    (hk : DerivesKeys env c.mnemonicType s json) :
    Usable env i password c d ↔ ¬TextRefused env i d ∧ c.Slip39Saved a := by
  obtain ⟨hentropy, hne⟩ := secret_saved hsecret
  rw [← htype] at hk
  obtain ⟨hret, hcells, hcur, hinfo⟩ := login_stored env h hlen hne hpass hk
  have hload : (getAccountEntropy env.ideal i password
      (verifyPasswordAndLogin env.ideal password d).2).1 = .ok (c.entropy env) := by
    obtain ⟨n, hrun⟩ := getAccountEntropy_sealed
      (show AnswersReads env.ideal (verifyPasswordAndLogin env.ideal password d).2.writes from
        fun _ => rfl)
      (sealed_congr hcells h.secret) (by rw [paramOf_congr hcells, h.param, hlen]) hne
    rw [hrun, hinfo, htype, hentropy]
  unfold Usable
  dsimp only
  rw [hret, hinfo]
  exact ⟨fun hu => ⟨hu.1, hu.2.2.2.2⟩, fun hu => ⟨hu.1, hcur, htype, hload, hu.2⟩⟩

theorem boot_passphrase (env : Env) (i : AccountIndex) (d : Device) :
    (accountsDataCheck env.ideal d.restart).2.passphraseInfo i = PassphraseInfo.cleared := by
  have hframe : Frame (Keeps Device.passphraseInfo) (accountsDataCheck env.ideal) :=
    frame_ignore (frame_each (keeps_preorder _) accountIndices fun j _ =>
      frame_accountDataCheck env.ideal (i := j) ⟨fun _ => rfl, fun _ => rfl, fun _ _ => rfl⟩
        fun _ _ => rfl)
  exact congrFun (hframe d.restart) i

theorem boot_stored (h : Stored env i password s a d) (hfull : Full i d)
    (hhash : checkEntropy (passwordHashOf env password) = true) :
    Stored env i password s a (accountsDataCheck env.ideal d.restart).2 := by
  have hrestart : Stored env i password s a d.restart := ⟨h.secret, h.hash, h.others, h.param⟩
  refine hrestart.of_cells (cellsOf_of_slotOf (slotOf_of_full env (d := d.restart) hfull)) ?_
  intro j hj
  rcases (accountsDataCheck_slot env j d.restart).1 with hsame | ⟨_, hblank⟩
  · rw [show passwordHashes _ j = passwordHashes d j from page_of_slotOf hsame _]
    exact h.others j hj
  · intro he
    have hwritten := congrArg checkEntropy he
    rw [hhash] at hwritten
    cases hblank.2.symm.trans hwritten

theorem full_of_stored (h : Stored env i password s a d)
    (hdraw : ∀ k, checkEntropy (env.trng k) = true)
    (hhash : checkEntropy (passwordHashOf env password) = true) : Full i d := by
  obtain ⟨_, k, hrecord⟩ := h.secret
  have hiv : d.page (accountPage i pageIndexIv) = env.trng k := congrArg AccountRecord.iv hrecord
  exact ⟨(congrArg checkEntropy hiv).trans (hdraw k), (congrArg checkEntropy h.hash).trans hhash⟩

theorem boot_unfilled (env : Env) {m : Nat} {d d₁ : Device}
    (h : m = 0 ∧ slotOf i d₁ = slotOf i d ∨ ¬Full i d₁) :
    BlankSlot i (accountsDataCheck env.ideal d₁.restart).2 ∨
      m = 0 ∧ slotOf i (accountsDataCheck env.ideal d₁.restart).2 = slotOf i d := by
  by_cases hfull : Full i d₁
  · have hsame := slotOf_of_full env (d := d₁.restart) hfull
    rcases h with ⟨hm, hd⟩ | h
    · exact .inr ⟨hm, hsame.trans hd⟩
    · exact absurd hfull h
  · exact .inl (blankSlot_of_not_full env (d := d₁.restart) hfull)

theorem boot_complete {m : Nat} {d d₁ : Device} (h : Stored env i password s a d₁)
    (hsecret : c.secret env = .ok (some s)) (htype : a.mnemonicType = c.mnemonicType)
    (hlen : a.entropyLen = s.entropyLen) (hk : DerivesKeys env c.mnemonicType s json)
    (hdraw : ∀ k, checkEntropy (env.trng k) = true)
    (hhash : checkEntropy (passwordHashOf env password) = true) (hm : m ≠ 0) :
    (BlankSlot i (accountsDataCheck env.ideal d₁.restart).2 ∨
      (m = 0 ∧ slotOf i (accountsDataCheck env.ideal d₁.restart).2 = slotOf i d) ∨
      Usable env i password c (accountsDataCheck env.ideal d₁.restart).2) ↔
    ¬TextRefused env i d₁ ∧ c.Slip39Saved a := by
  have hfull := full_of_stored h hdraw hhash
  have hsame := slotOf_of_full env (d := d₁.restart) hfull
  have hstored := boot_stored h hfull hhash
  have htext : TextRefused env i (accountsDataCheck env.ideal d₁.restart).2 ↔
      TextRefused env i d₁ := by
    have hpage : (accountsDataCheck env.ideal d₁.restart).2.page (walletHashPage i)
        = d₁.page (walletHashPage i) := congrArg (fun x => x.2.1) hsame
    have hflash : (accountsDataCheck env.ideal d₁.restart).2.flash i = d₁.flash i :=
      congrArg (fun x => x.2.2) hsame
    unfold TextRefused publicInfoInRange publicInfoHash publicInfoText publicInfoSize
    rw [hpage, hflash]
  rw [← htext, ← usable_iff hstored hsecret htype hlen (boot_passphrase env i d₁) hk]
  constructor
  · rintro (hblank | ⟨h0, _⟩ | h)
    · have hwritten := (written_of_slotOf hsame).2
      cases hblank.2.symm.trans (hwritten.trans hfull.2)
    · exact absurd h0 hm
    · exact h
  · exact fun h => .inr (.inr h)

theorem create_unfilled {m : Nat} (hsecret : ∀ s, c.secret env ≠ .ok (some s))
    (password : CString) (d : Device) :
    let d₁ := (c.create (env.cutAt (d.writes + m)) i password d).2
    m = 0 ∧ slotOf i d₁ = slotOf i d ∨ ¬Full i d₁ := by
  have hs := steady_cutAt env (d.writes + m)
  have hgone : ∀ t, GoneOrNew (env.cutAt (d.writes + m)) i c password t → ¬Full i t := by
    rintro t (h | ⟨s, h, _⟩) hf
    · cases h.symm.trans hf.2
    · refine hsecret s ?_
      rw [← h]
      cases c <;> rfl
  have hzero : (env.cutAt (d.writes + m)).writeReply d.writes ≠ .answered → m = 0 := by
    rw [Ne, cutAt_answered]
    omega
  dsimp only
  rw [c.create_eq]
  refine triple_snd (P := fun t => (t.writes = d.writes ∧ slotOf i t = slotOf i d) ∧
    ∀ j, j ≠ i → passwordHashes t j = passwordHashes d j)
    (I := fun t => m = 0 ∧ slotOf i t = slotOf i d ∨ ¬Full i t) ?_ ⟨⟨rfl, rfl⟩, fun _ _ => rfl⟩
  refine triple_bind (triple_conseq (triple_takeSlot_steady hs) (fun _ h => h)
    (fun _ d h => (⟨h.2.1.hash, h.2.2.1⟩ : _ ∧ _)) (fun _ _ h => h.elim)
    fun _ h => h.2.imp (fun h => ⟨hzero h.1, h.2⟩) id) fun _ => ?_
  exact triple_conseq triple_fillSlot_goneOrNew (fun _ h => h) (fun _ t h => .inr (hgone t h))
    (fun _ t h => .inr (hgone t h)) fun t h => .inr (hgone t h)

theorem reached_recovered {m : Nat} {d d₁ : Device} (hsecret : c.secret env = .ok (some s))
    (h : Reached (env.cutAt (d.writes + m)) i password c s json d.writes (passwordHashes d)
      (slotOf i d) d₁) (hexp : c.ExponentFits) (hk : DerivesKeys env c.mnemonicType s json)
    (hdraw : ∀ k, checkEntropy (env.trng k) = true)
    (hhash : checkEntropy (passwordHashOf env password) = true) :
    (BlankSlot i (accountsDataCheck env.ideal d₁.restart).2 ∨
      (m = 0 ∧ slotOf i (accountsDataCheck env.ideal d₁.restart).2 = slotOf i d) ∨
      Usable env i password c (accountsDataCheck env.ideal d₁.restart).2) ↔
    c.PowerLossSafe env i password json m d := by
  have hreply : ∀ k, (env.cutAt (d.writes + m)).writeReply (d.writes + k) = .answered ↔ k < m :=
    fun k => (cutAt_answered env).trans Nat.add_lt_add_iff_left
  -- a complete account leaves just the last part of the condition
  have hsafe : (∀ j, j ≠ i → passwordHashes d j ≠ passwordHashOf env password) →
      (c.PowerLossSafe env i password json m d ↔
        (m = 51 → c.Slip39Default) ∧ ∀ n, m = 70 + n → TextPasses env json n) := by
    intro hnew
    unfold Creation.PowerLossSafe
    constructor
    · rintro (⟨j, hj, he⟩ | hnone | h)
      · exact absurd he (hnew j hj)
      · exact absurd hsecret (hnone s)
      · exact h
    · exact fun h => .inr (.inr h)
  cases h with
  | unfilled hcut h =>
    rw [Ne, hreply] at hcut
    have h : m = 0 ∧ slotOf i d₁ = slotOf i d ∨ ¬Full i d₁ := by
      rcases h with ⟨h0, hd⟩ | h
      · have hm : ¬0 < m := fun hlt => h0 ((hreply 0).mpr hlt)
        exact .inl ⟨by omega, hd⟩
      · exact .inr h
    refine ⟨fun _ => .inr (.inr ⟨fun he => absurd he (by omega), fun n he => absurd he
      (by omega)⟩), fun _ => ?_⟩
    rcases boot_unfilled env h with hblank | hsame
    · exact .inl hblank
    · exact .inr (.inl hsame)
  | repeated h hj =>
    refine ⟨fun _ => .inl hj, fun _ => ?_⟩
    exact .inl (blankSlot_of_not_full env (d := d₁.restart) h)
  | params a ha hnew hdone hcut h herased =>
    rw [hreply] at hdone
    rw [Ne, hreply] at hcut
    have hstored : Stored env i password s a d₁ := ⟨h.secret, h.hash, h.others, h.param⟩
    rw [boot_complete hstored hsecret ha.mnemonicType ha.entropyLen hk hdraw hhash (by omega),
      hsafe hnew, slip39Saved_new ha]
    constructor
    · exact fun h => ⟨fun _ => h.2, fun n he => absurd he (by omega)⟩
    · exact fun h => ⟨fun ht => not_inRange_of_erased herased ht.1, h.1 (by omega)⟩
  | text a ha hnew hdone h =>
    rw [hreply] at hdone
    have hcomplete : ∀ hstored : Stored (env.cutAt (d.writes + m)) i password s (c.last a) d₁, _ :=
      fun hstored => boot_complete (m := m) (d := d)
        (⟨hstored.secret, hstored.hash, hstored.others, hstored.param⟩ :
          Stored env i password s (c.last a) d₁) hsecret
        ((mnemonicType_last c a).trans ha.mnemonicType)
        ((entropyLen_last c a).trans ha.entropyLen) hk hdraw hhash (by omega)
    have hlast := slip39Saved_last hexp a
    cases h with
    | erased hcut hstored herased =>
      rw [Nat.add_assoc, Ne, hreply] at hcut
      rw [hcomplete hstored, hsafe hnew]
      constructor
      · exact fun _ => ⟨fun he => absurd he (by omega), fun n he => absurd he (by omega)⟩
      · exact fun _ => ⟨fun ht => not_inRange_of_erased herased ht.1, hlast⟩
    | text n hsize hpieces hcut hstored htext =>
      rw [Nat.add_assoc, hreply] at hsize
      have hn : 70 + n ≤ m := by
        by_cases h0 : n = 0
        · omega
        · have hprev := hpieces (n - 1) (by omega)
          rw [Nat.add_assoc, Nat.add_assoc, hreply] at hprev
          omega
      have htext : TextAt env i json n d₁ := ⟨htext.hash, htext.size, htext.holds⟩
      rw [hcomplete hstored, hsafe hnew, textRefused_iff htext hk.fits, not_not]
      refine ⟨fun h => ⟨fun he => absurd he (by omega), fun k he => ?_⟩, fun h => ⟨?_, hlast⟩⟩
      · -- either the power went at this piece, or all of the text is there
        rcases hcut with hcut | hall
        · rw [Nat.add_assoc, Nat.add_assoc, Ne, hreply] at hcut
          obtain rfl : k = n := by omega
          exact h.1
        · refine .inl (congrArg env.crypto.sha256 (Flash.torn_of_le (Nat.le_trans hall ?_)))
          unfold written
          exact Nat.sub_le_sub_right (Nat.mul_le_mul_right _ (by omega)) _
      · rcases hcut with hcut | hall
        · rw [Nat.add_assoc, Nat.add_assoc, Ne, hreply] at hcut
          exact h.2 n (by omega)
        · exact .inl (congrArg env.crypto.sha256 (Flash.torn_of_le hall))

theorem boot_others (env : Env) {d d₁ : Device} (h : ∀ j, j ≠ i → slotOf j d₁ = slotOf j d) :
    ∀ j, j ≠ i → BlankSlot j (accountsDataCheck env.ideal d₁.restart).2 ∨
      slotOf j (accountsDataCheck env.ideal d₁.restart).2 = slotOf j d := by
  intro j hj
  rcases (accountsDataCheck_slot env j d₁.restart).1 with hsame | ⟨_, hblank⟩
  · exact .inr (hsame.trans (h j hj))
  · exact .inl hblank

end

/-- **A power loss at any write.** After a power loss at the `m`-th write of a
creation and the check at the next boot, each slot is blank, or as it was, or
holds the account that was being saved, if and only if the power did not go
between the password hash and the last parameters of a SLIP39 account nor in the
text of the public keys. After one at any write of a destruction it is blank or
as it was. -/
theorem power_loss_recovered (env : Env) (i : AccountIndex) (c : Creation) (password json : CString)
    (m : Nat) (d : Device) (hdraw : ∀ k, checkEntropy (env.trng k) = true)
    (hhash : checkEntropy (passwordHashOf env password) = true) (hexp : c.ExponentFits)
    (hk : ∀ s, c.secret env = .ok (some s) → DerivesKeys env c.mnemonicType s json) :
    (Recovered i m d (afterPowerLoss env m (fun e => c.create e i password) d)
        (Usable env i password c (afterPowerLoss env m (fun e => c.create e i password) d)) ↔
      c.PowerLossSafe env i password json m d) ∧
    Recovered i m d (afterPowerLoss env m (fun e => destroyAccount e i) d) False := by
  have hs := steady_cutAt env (d.writes + m)
  constructor
  · have hslots : ∀ j, j ≠ i →
        slotOf j (c.create (env.cutAt (d.writes + m)) i password d).2 = slotOf j d := fun j hj =>
      frame_create _ (ignoresAccount_slotOf hj) (ignoresSession_slotOf j) c password d
    have hothers := boot_others env hslots
    unfold Recovered afterPowerLoss
    rw [and_iff_right hothers]
    by_cases hsecret : ∃ s, c.secret env = .ok (some s)
    · obtain ⟨s, hsecret⟩ := hsecret
      have hcut : c.secret (env.cutAt (d.writes + m)) = .ok (some s) := by
        rw [← hsecret]
        cases c <;> rfl
      refine reached_recovered hsecret (triple_snd (triple_create_steady hs hcut hhash
        (secret_saved hsecret).2 ((hk s hsecret).congr _ rfl rfl)) ⟨⟨rfl, rfl⟩, fun _ _ => rfl⟩)
        hexp (hk s hsecret) hdraw hhash
    · have hnone : ∀ s, c.secret env ≠ .ok (some s) := fun s h => hsecret ⟨s, h⟩
      refine ⟨fun _ => .inr (.inl hnone), fun _ => ?_⟩
      rcases boot_unfilled env (create_unfilled hnone password d) with
        hblank | hsame
      · exact .inl hblank
      · exact .inr (.inl hsame)
  · have hstop : Triple (fun t => t.writes = d.writes ∧ slotOf i t = slotOf i d)
        (destroyAccount (env.cutAt (d.writes + m)) i)
        (fun _ t => m = 0 ∧ slotOf i t = slotOf i d ∨ ¬Full i t)
        (fun _ t => m = 0 ∧ slotOf i t = slotOf i d ∨ ¬Full i t)
        (fun t => m = 0 ∧ slotOf i t = slotOf i d ∨ ¬Full i t) := by
      refine triple_conseq (triple_destroyAccount_steady hs) (fun _ h => h)
        (fun _ t h => .inr fun hf => ?_) (fun _ _ h => h.elim)
        fun _ h => h.2.imp (fun h => ⟨?_, h.2⟩) id
      · cases h.2.1.2.symm.trans hf.2
      · have h0 := h.1
        rw [Ne, cutAt_answered] at h0
        omega
    refine ⟨boot_others env fun j hj => ?_, ?_⟩
    · have hf := ignoresAccount_slotOf hj
      exact frame_destroyAccount _ hf.toIgnoresPublicInfo (fun k d => hf.pages k d _)
        hf.passphrase (ignoresSession_slotOf j) d
    · rcases boot_unfilled env (triple_snd hstop ⟨rfl, rfl⟩) with hblank | hsame
      · exact .inl hblank
      · exact .inr (.inl hsame)

def sampleSlip39 : Creation :=
  .slip39 ⟨List.replicate 16 9, by decide⟩ ⟨List.replicate 16 9, by decide⟩ 7 true 2

/-- Its creation, cut while the area of the public keys is erased. -/
theorem power_loss_recovered_erased :
    Recovered 0 60 Device.blank
      (afterPowerLoss Env.sample 60 (fun e => sampleSlip39.create e 0 [1]) Device.blank)
      (Usable Env.sample 0 [1] sampleSlip39
        (afterPowerLoss Env.sample 60 (fun e => sampleSlip39.create e 0 [1]) Device.blank)) := by
  have hdraw : ∀ k, checkEntropy (Env.sample.trng k) = true := by
    have hall : ∀ r, r < 16 → checkEntropy (Block.fill 32 (UInt8.ofNat (3 + r))) = true := by
      decide
    exact fun k => hall (k % 16) (Nat.mod_lt k (by decide))
  refine (power_loss_recovered Env.sample 0 sampleSlip39 [1] [9, 9, 9, 9] 60 Device.blank hdraw
    (by decide +kernel) (by decide : (2 : UInt8) < 16) fun s hs => ?_).1.mpr
    (.inr (.inr ⟨fun h => absurd h (by decide), fun n h => absurd h (by omega)⟩))
  cases Except.ok.inj hs
  exact ⟨⟨[some [9, 9, 9, 9]], rfl, fun _ => rfl⟩, rfl, by decide⟩

/-- It is not true of every write: cut between the password hash and the last
parameters, the account opens with the identifier zero. -/
theorem power_loss_loses_identifier :
    ¬∀ (env : Env) (i : AccountIndex) (c : Creation) (password : CString) (m : Nat) (d : Device),
      Recovered i m d (afterPowerLoss env m (fun e => c.create e i password) d)
        (Usable env i password c (afterPowerLoss env m (fun e => c.create e i password) d)) := by
  intro h
  obtain ⟨_, hblank | ⟨hm, _⟩ | husable⟩ := h Env.sample 0 sampleSlip39 [1] 51 Device.blank
  · have hwritten := hblank.2
    revert hwritten
    decide +kernel
  · cases hm
  · have hsaved := husable.2.2.2.2
    revert hsaved
    decide +kernel

end Keystone3
