import Keystone3.Account.PublicKeyCoherence

/-!
# Public keys over a session

Every operation keeps both caches of public keys right (`step_cachesDerived`), so a
switching call that succeeds, after any run of logins, logouts, passphrases, creations and
destructions, leaves the keys of the current account on the device (`keys_of_session`).
The condition is that no failure happens that nothing reports; a row of the chain table
that fails under a passphrase is one (`failed_row_reported_as_success`).
-/

namespace Keystone3

open Logic (Outcome AllSteps runSteps runSteps_inv_of)
open Logic.Prog
open Bytes (Block)

def cacheView (d : Device) : (AccountIndex → AccountCells × Flash.Cells × CString) ×
    Option AccountIndex × List (Option CString) :=
  (fun j => (cellsOf j d, d.flash j .data, (d.passphraseInfo j).passphrase),
    d.tempPublicKeyAccountIndex, d.accountPublicInfo)

section

variable {env : Env} {d d' : Device}

theorem cachesDerived_of_view (h : cacheView d' = cacheView d) (hd : CachesDerived env d) :
    CachesDerived env d' := by
  have hown : ∀ j, (cellsOf j d', d'.flash j .data, (d'.passphraseInfo j).passphrase)
      = (cellsOf j d, d.flash j .data, (d.passphraseInfo j).passphrase) :=
    fun j => congrFun (congrArg Prod.fst h) j
  have htemp : d'.tempPublicKeyAccountIndex = d.tempPublicKeyAccountIndex :=
    congrArg (fun x => x.2.1) h
  have hram : d'.accountPublicInfo = d.accountPublicInfo := congrArg (fun x => x.2.2) h
  have hcells : ∀ j, cellsOf j d' = cellsOf j d := fun j => congrArg Prod.fst (hown j)
  refine ⟨fun j hj => ?_, fun j => ?_⟩
  · have hpass : (d'.passphraseInfo j).passphrase = (d.passphraseInfo j).passphrase :=
      congrArg (fun x => x.2.2) (hown j)
    rw [hpass, hram]
    exact hasKeys_congr (recordOf_congr (hcells j)) (by rw [paramOf_congr (hcells j)])
      (hd.temp j (htemp.symm.trans hj))
  · exact flashDerived_congr (recordOf_congr (hcells j)) (by rw [paramOf_congr (hcells j)])
      (congrArg (fun x => x.2.1) (hown j)) (hd.flash j)

theorem blind_cacheView : Blind cacheView := ⟨fun _ => rfl, fun _ => rfl, fun _ _ => rfl⟩

theorem cacheView_counterPage (d : Device) (x : Page) :
    cacheView (d.setPage pagePublicInfo x) = cacheView d := by
  have hcells : ∀ j, cellsOf j (d.setPage pagePublicInfo x) = cellsOf j d :=
    fun j => (ignoresLogin_cellsOf j).counterPage d x
  unfold cacheView
  simp only [hcells]
  rfl

theorem frame_saveCounters (env : Env) : Frame (Keeps cacheView) (savePublicInfo env) :=
  frame_savePublicInfo env blind_cacheView cacheView_counterPage

end

/-- Account `i` has no keys any more, and no other account has changed. -/
structure Emptied (i : AccountIndex) (d t : Device) : Prop where
  temp : t.tempPublicKeyAccountIndex = none
  erased : AreaErased i .data t
  passphrase : t.passphraseInfo i = PassphraseInfo.cleared
  others : ∀ j, j ≠ i → slotOf j t = slotOf j d

section

variable {env : Env} {i : AccountIndex} {d : Device}

theorem Emptied.flash {t : Device} (h : Emptied i d t) (hd : CachesDerived env d)
    (j : AccountIndex) : FlashDerived env j t := by
  by_cases hji : j = i
  · subst hji
    exact flashDerived_erased h.erased
  · exact flashDerived_of_slotOf (h.others j hji) (hd.flash j)

theorem Emptied.cachesDerived {t : Device} (h : Emptied i d t) (hd : CachesDerived env d) :
    CachesDerived env t :=
  ⟨fun _ hj => (nomatch h.temp.symm.trans hj), h.flash hd⟩

theorem triple_destroyAccount_emptied
    (hc : CarriedOut env (writePages env i zeroPages d).2.writes 16) :
    Triple (fun t => t = d) (destroyAccount env i) (fun _ => Emptied i d) (fun _ => Emptied i d)
      (fun _ => True) := by
  have hothers : Frame (fun d t => ∀ j, j ≠ i → slotOf j t = slotOf j d) (destroyAccount env i) := by
    intro t j hj
    have hf := ignoresAccount_slotOf hj
    exact frame_destroyAccount env hf.toIgnoresPublicInfo (fun k d => hf.pages k d _)
      hf.passphrase (ignoresSession_slotOf j) t
  have herase : ∀ area, area ≠ UserArea.data → Triple (AreaErased i .data)
      (eraseArea env i area) (fun _ => AreaErased i .data) (fun _ _ => False) (fun _ => True) := by
    intro area harea
    have hsame : ∀ (t : Device) g, (t.setFlash i area g).flash i .data = t.flash i .data :=
      fun t g => if_neg fun he => harea he.2.symm
    have hkeep : ∀ (t : Device) (b : Bool) g, AreaErased i .data t →
        AreaErased i .data (if b then t.countWrite.setFlash i area g else t.countWrite) := by
      intro t b g ht x hx
      cases b with
      | true => exact (congrFun (hsame t.countWrite g) x).trans (ht x hx)
      | false => exact ht x hx
    exact triple_each _ fun a _ => triple_flashWrite (fun t ht _ => hkeep t true _ ht)
      (fun t _ b ht _ => hkeep t b _ ht) fun _ _ _ _ => trivial
  let keyCells := fun t : Device =>
    (t.tempPublicKeyAccountIndex, t.flash i .data, t.passphraseInfo i)
  let emptied := fun t : Device => t.tempPublicKeyAccountIndex = none ∧ AreaErased i .data t ∧
    t.passphraseInfo i = PassphraseInfo.cleared
  have hkeep : ∀ s t : Device, keyCells t = keyCells s → emptied s → emptied t := by
    rintro s t h ⟨htemp, herased, hpass⟩
    have hflash : t.flash i .data = s.flash i .data := congrArg (fun x => x.2.1) h
    refine ⟨(congrArg Prod.fst h).trans htemp, fun x hx => ?_, (congrArg (fun x => x.2.2) h).trans hpass⟩
    rw [hflash]
    exact herased x hx
  have hown : Triple (fun t => t = d) (destroyAccount env i) (fun _ => emptied) (fun _ => emptied)
      (fun _ => True) := by
    refine triple_bind (Q := fun _ t => t.writes = (writePages env i zeroPages d).2.writes)
      (triple_attempt (triple_conseq (triple_frame (R := fun s t =>
        t.writes = (writePages env i zeroPages s).2.writes) (fun _ => rfl) d) (fun _ h => h)
        (fun _ _ h => h) (fun _ _ h => h) fun _ _ => trivial)) fun ret => ?_
    refine triple_bind (Q := fun _ t => t.tempPublicKeyAccountIndex = none ∧
      AreaErased i .data t) ?_ fun _ => ?_
    · refine triple_bind (Q := fun _ => AreaErased i .data) (triple_conseq
        (triple_eraseArea_carried (P := fun _ => True) rfl hc (fun _ h => h) (fun _ _ h => h)
          fun _ _ _ _ _ _ => trivial) (fun _ h => ⟨h, trivial⟩) (fun _ _ h => h.2.2)
        (fun _ _ h => h.elim) fun _ h => h) fun _ => ?_
      refine triple_bind (triple_conseq (herase .mutableData (by decide)) (fun _ h => h)
        (fun _ _ h => h) (fun _ _ h => h.elim) fun _ h => h) fun _ => ?_
      refine triple_bind (triple_conseq (herase .multiSigData (by decide)) (fun _ h => h)
        (fun _ _ h => h) (fun _ _ h => h.elim) fun _ h => h) fun _ => ?_
      exact triple_modify fun t h => ⟨rfl, h⟩
    refine triple_bind (Q := fun _ => emptied) (triple_modify fun t h =>
      ⟨h.1, h.2, if_pos rfl⟩) fun _ => ?_
    refine triple_bind (Q := fun _ => emptied) (triple_ignore (triple_conseq (triple_of_frame
      (frame_seHmacEncryptWrite (f := keyCells) env ⟨fun _ => rfl, fun _ => rfl, fun _ _ => rfl⟩
        fun _ => rfl) hkeep) (fun _ h => h) (fun _ _ h => h) (fun _ _ h => h)
      fun _ _ => trivial)) fun _ => ?_
    refine triple_bind (Q := fun _ => emptied) (triple_modify fun _ h => h) fun _ => ?_
    refine triple_bind (Q := fun _ => emptied) (triple_modify fun _ h => h) fun _ => ?_
    cases ret with
    | ok => exact triple_pure fun _ h => h
    | error e => exact triple_throw fun _ h => h
  exact triple_conseq (triple_and hown (triple_frame hothers d)) (fun _ h => ⟨h, h⟩)
    (fun _ t h => ⟨h.1.1, h.1.2.1, h.1.2.2, h.2⟩) (fun _ t h => ⟨h.1.1, h.1.2.1, h.1.2.2, h.2⟩)
    fun _ _ => trivial

end

section

variable {env : Env} {i : AccountIndex} {d : Device}

theorem triple_takeSlot_emptied {a : AccountInfo}
    (hc : CarriedOut env (writePages env i zeroPages d).2.writes 16) :
    Triple (fun t => t = d) (takeSlot env i a)
      (fun _ t => Emptied i d t ∧ t.currentAccountIndex = some i) (fun _ _ => False)
      (fun _ => True) := by
  refine triple_bind (Q := fun _ => Emptied i d) (triple_ignore (triple_destroyAccount_emptied hc))
    fun _ => ?_
  refine triple_bind (Q := fun _ => Emptied i d) (triple_modify fun t h =>
    ⟨h.temp, h.erased, h.passphrase, h.others⟩) fun _ => ?_
  exact triple_modify fun t h => ⟨⟨h.temp, h.erased, h.passphrase, h.others⟩, rfl⟩

theorem frame_readySlot {β : Type} {f : Device → β} (env : Env) (hi : IgnoresInfo f)
    {save : Account Unit} (hsave : Frame (Keeps f) save) (last : AccountInfo → AccountInfo) :
    Frame (Keeps f) (readySlot env save last) :=
  frame_bind (keeps_preorder f) (frame_storeWalletName env hi) fun _ =>
    frame_bind (keeps_preorder f) hsave fun _ =>
    frame_bind (keeps_preorder f) (frame_setInfo hi.info _) fun _ =>
    frame_saveCurrentAccountInfo env hi.toBlind hi.param

theorem triple_readySlot_emptied (c : Creation) (password : CString) :
    Triple (fun t => Emptied i d t ∧ t.currentAccountIndex = some i)
      (readySlot env (saveNewSecret env i password (c.secret env)) c.last)
      (fun _ t => Emptied i d t ∧ t.currentAccountIndex = some i)
      (fun _ t => Emptied i d t ∧ t.currentAccountIndex = some i)
      (fun t => Emptied i d t ∧ t.currentAccountIndex = some i) := by
  let keyCells := fun t : Device => (t.tempPublicKeyAccountIndex, t.flash i .data,
    t.passphraseInfo i, t.currentAccountIndex)
  have hmisses : Misses i secretPages keyCells :=
    { writes := fun _ => rfl, reads := fun _ => rfl, draws := fun _ _ => rfl
      page := fun _ _ _ _ => rfl, slot := fun _ _ _ _ => rfl }
  have hinfo : IgnoresInfo keyCells :=
    { toBlind := hmisses.toBlind, info := fun _ _ => rfl, param := fun _ _ _ _ => rfl }
  have hframe : Frame (fun s t => s.currentAccountIndex = some i →
      keyCells t = keyCells s ∧ ∀ j, j ≠ i → slotOf j t = slotOf j s)
      (readySlot env (saveNewSecret env i password (c.secret env)) c.last) := by
    intro s hcur
    refine ⟨frame_readySlot env hinfo (frame_saveNewSecret env hmisses hinfo (fun _ _ => rfl) _ _)
      _ s, fun j hji => ?_⟩
    have hc := (ignoresAccount_slotOf hji).creation (ignoresSession_slotOf j)
    exact (keeps_of_whileCurrent hcur (frame_readySlot env hc.toIgnoresInfo
      (frame_saveNewSecret env (hc.misses _) hc.toIgnoresInfo (hc.pages pageIndexPasswordHash) _ _)
      _ s)).2
  refine triple_of_frame hframe ?_
  rintro s t h ⟨⟨htemp, herased, hpass, hothers⟩, hcur⟩
  obtain ⟨hkeep, hslots⟩ := h hcur
  have hflash : t.flash i .data = s.flash i .data := congrArg (fun x => x.2.1) hkeep
  refine ⟨⟨(congrArg Prod.fst hkeep).trans htemp, fun x hx => ?_,
    (congrArg (fun x => x.2.2.1) hkeep).trans hpass, fun j hji => (hslots j hji).trans
    (hothers j hji)⟩, (congrArg (fun x => x.2.2.2) hkeep).trans hcur⟩
  rw [hflash]
  exact herased x hx

end

/-- Where an operation is when it comes to its switching call, or ends without one. -/
def Reaches (env : Env) (op : SessionOp) : Option SwitchCall → Device → Prop
  | none, t => CachesDerived env t
  | some c, t => c.Ready env t ∧ ∀ x y, op = .setPassphrase x y →
    keyParams t.currentAccountInfo = keyParams (paramOf t c.index)

section

variable {env : Env} {d : Device}

theorem triple_createCall (hd : CachesDerived env d) (i : AccountIndex) (c : Creation)
    (password : CString) (hc : CarriedOut env (writePages env i zeroPages d).2.writes 16) :
    Triple (fun t => t = d) ((SessionOp.create i c password).call env)
      (Reaches env (.create i c password)) (fun _ => CachesDerived env) (fun _ => True) := by
  refine triple_bind (triple_conseq (triple_takeSlot_emptied hc) (fun _ h => h) (fun _ _ h => h)
    (fun _ _ h => h.elim) fun _ h => h) fun _ => ?_
  refine triple_bind (triple_conseq (triple_readySlot_emptied c password) (fun _ h => h)
    (fun _ _ h => h) (fun _ _ h => h.1.cachesDerived hd) fun _ _ => trivial) fun _ => ?_
  refine triple_pure fun t h => ⟨⟨h.2, h.1.flash hd, ?_, ?_⟩, ?_⟩
  · rintro j p newKey he
    cases he
    rw [h.1.passphrase]
    rfl
  · exact nofun
  · exact nofun

theorem triple_passphraseExist {P : Device → Prop} {E : ErrCode → Device → Prop}
    (i : AccountIndex) :
    Triple P (passphraseExist i)
      (fun b t => P t ∧ b = !(t.passphraseInfo i).passphrase.isEmpty) E (fun _ => True) := by
  intro t ht
  unfold passphraseExist
  rw [get_bind]
  refine triple_bind (P := fun s => s = t) (Q := fun _ s => s = t) ?_ (fun _ s hs => ?_) t rfl
  · unfold assert
    split
    · exact triple_pure fun _ h => h
    · exact triple_halt fun _ _ => trivial
  · rw [hs]
    exact ⟨ht, rfl⟩

theorem triple_loginCall (hd : CachesDerived env d) (password : CString) :
    Triple (fun t => t = d) ((SessionOp.login password).call env)
      (Reaches env (.login password)) (fun _ => CachesDerived env) (fun _ => True) := by
  have hview : ∀ {s t : Device}, cacheView t = cacheView s → CachesDerived env s →
      CachesDerived env t := fun h hs => cachesDerived_of_view h hs
  refine triple_bind (Q := fun _ => CachesDerived env) (triple_conseq (triple_attempt
    (triple_of_frame (frame_verifyPassword env blind_cacheView.reading password)
      fun _ _ => hview)) (fun t h => by rw [h]; exact hd) (fun _ _ h => h) (fun _ _ h => h)
    fun _ _ => trivial) fun r => ?_
  cases r with
  | error e =>
    refine triple_bind (Q := fun _ => CachesDerived env) (triple_modify fun t h =>
      hview (s := t) rfl h) fun _ => ?_
    refine triple_bind (Q := fun _ => CachesDerived env) (triple_ignore (triple_conseq
      (triple_of_frame (frame_saveCounters env) fun _ _ => hview) (fun _ h => h)
      (fun _ _ h => h) (fun _ _ h => h) fun _ _ => trivial)) fun _ => ?_
    exact triple_pure fun _ h => h
  | ok i =>
    let entered := fun t : Device => CachesDerived env t ∧ t.currentAccountIndex = some i
    have hread : Frame (Keeps fun t => (cacheView t, t.currentAccountIndex))
        (readCurrentAccountInfo env) :=
      frame_readCurrentAccountInfo env ⟨fun _ => rfl, fun _ => rfl, fun _ _ => rfl⟩ fun _ _ => rfl
    refine triple_bind (Q := fun _ => entered) (triple_modify fun t h => ⟨hview (s := t) rfl h, rfl⟩)
      fun _ => ?_
    refine triple_bind (Q := fun _ => entered) (triple_ignore (triple_conseq
      (triple_of_frame hread fun s t h hs => ?_) (fun _ h => h) (fun _ _ h => h)
      (fun _ _ h => h) fun _ _ => trivial)) fun _ => ?_
    · exact ⟨hview (congrArg Prod.fst h) hs.1, (congrArg Prod.snd h).trans hs.2⟩
    refine triple_bind (Q := fun _ => entered) (triple_modify fun t h => ⟨hview (s := t) rfl h.1, h.2⟩)
      fun _ => ?_
    refine triple_bind (triple_passphraseExist i) fun b => ?_
    cases b with
    | true =>
      refine triple_pure fun t h => ⟨⟨h.1.2, h.1.1.flash, ?_, ?_⟩, ?_⟩
      · exact nofun
      · exact fun j p _ => h.1.1.temp
      · exact nofun
    | false =>
      refine triple_pure fun t h => ⟨⟨h.1.2, h.1.1.flash, ?_, ?_⟩, ?_⟩
      · rintro j p newKey he
        cases he
        have hempty : (t.passphraseInfo i).passphrase.isEmpty = true := by
          simpa using h.2
        exact List.isEmpty_iff.mp hempty
      · exact nofun
      · exact nofun

theorem triple_storePassphrase (i : AccountIndex) (passphrase password : CString) :
    Triple (fun t => t = d) (storePassphrase env i passphrase password)
      (fun b t => ∃ n g, t = { d.countReads n with passphraseInfo := g } ∧
        (b = false → g = d.passphraseInfo) ∧
        (passphrase.isEmpty = true → b = true → (g i).passphrase = []))
      (fun _ => OnlyRead d) (fun _ => True) := by
  intro t ht
  rw [ht]
  unfold storePassphrase
  rw [get_bind]
  refine triple_bind (P := fun t => t = d) (Q := fun _ t => t = d) ?_ (fun _ => ?_) d rfl
  · unfold assert
    split
    · exact triple_pure fun _ h => h
    · exact triple_halt fun _ _ => trivial
  refine triple_bind (triple_conseq (triple_frame (frame_readPassphraseSeed env i passphrase
    password) d) (fun _ h => h) (fun _ _ h => h) (fun _ _ h => h) fun _ _ => trivial)
    fun seed => ?_
  split
  · rintro t ⟨n, rfl⟩
    cases hempty : passphrase.isEmpty with
    | true => exact ⟨n, _, rfl, fun h => (nomatch h), fun _ _ => congrArg _ (if_pos rfl)⟩
    | false => exact ⟨n, _, rfl, fun h => (nomatch h), fun h => (nomatch h)⟩
  · rintro t ⟨n, rfl⟩
    exact ⟨n, _, rfl, fun _ => rfl, fun _ h => (nomatch h)⟩

theorem triple_passphraseCall (hd : CachesDerived env d) (passphrase password : CString)
    (hno : (SessionOp.setPassphrase passphrase password).NoSilentFailure env d) :
    Triple (fun t => t = d) ((SessionOp.setPassphrase passphrase password).call env)
      (Reaches env (.setPassphrase passphrase password)) (fun _ => CachesDerived env)
      (fun _ => True) := by
  refine triple_bind (Q := fun a t => a = d ∧ t = d) (triple_get fun _ h => ⟨h, h⟩) fun a t ht => ?_
  rw [ht.1, ht.2]
  cases hcur : d.currentAccountIndex with
  | none => trivial
  | some i =>
    refine triple_bind (triple_conseq (triple_storePassphrase i passphrase password) (fun _ h => h)
      (fun _ _ h => h) ?_ fun _ h => h) (fun b => ?_) d rfl
    · rintro e t ⟨n, rfl⟩
      exact cachesDerived_of_view (d := d) rfl hd
    · rintro t ⟨n, g, rfl, hkept, hclear⟩
      cases b with
      | false =>
        obtain rfl := hkept rfl
        exact cachesDerived_of_view (d := d) rfl hd
      | true =>
        have hflash : ∀ j, FlashDerived env j { d.countReads n with passphraseInfo := g } :=
          fun j => flashDerived_congr (d := d) rfl rfl rfl (hd.flash j)
        cases hempty : passphrase.isEmpty with
        | true =>
          refine ⟨⟨hcur, hflash, ?_, nofun⟩, fun _ _ _ => hno i hcur⟩
          rintro j p newKey he
          cases he
          exact hclear hempty rfl
        | false =>
          exact ⟨⟨hcur, hflash, fun j p newKey he => (nomatch he), fun j p he => (nomatch he)⟩,
            fun _ _ _ => hno i hcur⟩

theorem triple_call (hd : CachesDerived env d) {op : SessionOp} (hno : op.NoSilentFailure env d) :
    Triple (fun t => t = d) (op.call env) (Reaches env op) (fun _ => CachesDerived env)
      (fun _ => True) := by
  cases op with
  | login password => exact triple_loginCall hd password
  | logout =>
    intro t ht
    rw [ht]
    exact cachesDerived_of_view (d := d) rfl hd
  | setPassphrase passphrase password => exact triple_passphraseCall hd passphrase password hno
  | create i c password => exact triple_createCall hd i c password hno
  | destroy i =>
    refine triple_bind (Q := fun _ => Emptied i d) (triple_ignore
      (triple_destroyAccount_emptied hno)) fun _ => ?_
    exact triple_pure fun t h => h.cachesDerived hd

end

section

variable {env : Env} {i : AccountIndex} {d : Device}

theorem cachesDerived_setParam (hd : CachesDerived env d) (hcur : d.currentAccountIndex = some i)
    {a : AccountInfo} (hparams : keyParams a = keyParams (paramOf d i)) :
    CachesDerived env (d.setPage (accountPage i pageIndexParam) a.toPage) := by
  let d' := d.setPage (accountPage i pageIndexParam) a.toPage
  have hrecord : ∀ j, recordOf d' j = recordOf d j := fun j =>
    congrArg Prod.fst ((ignoresInfo_secretOf j).param d i a.toPage hcur)
  have hparam : ∀ j, keyParams (paramOf d' j) = keyParams (paramOf d j) := by
    intro j
    by_cases hji : j = i
    · subst hji
      have hpage : paramOf d' j = a := by
        show AccountInfo.ofPage (d'.page (accountPage j pageIndexParam)) = a
        rw [show d'.page (accountPage j pageIndexParam) = a.toPage from Device.setPage_self _ _ _,
          AccountInfo.ofPage_toPage]
      rw [hpage, hparams]
    · have hpage : d'.page (accountPage j pageIndexParam) = d.page (accountPage j pageIndexParam) :=
        Device.setPage_ne d _ fun he => hji (accountPage_inj.mp he).1
      unfold paramOf
      rw [hpage]
  exact ⟨fun j hj => hasKeys_congr (hrecord j) (hparam j) (hd.temp j hj),
    fun j => flashDerived_congr (hrecord j) (hparam j) rfl (hd.flash j)⟩

theorem triple_setPassphraseMark {enable : Bool} :
    Triple (fun t => CachesDerived env t ∧ t.currentAccountIndex = some i ∧
        keyParams t.currentAccountInfo = keyParams (paramOf t i))
      (setPassphraseMark env enable) (fun _ => CachesDerived env) (fun _ _ => False)
      (fun _ => True) := by
  refine triple_bind (Q := fun _ t => CachesDerived env t ∧ t.currentAccountIndex = some i ∧
    keyParams t.currentAccountInfo = keyParams (paramOf t i)) (triple_modify fun t h =>
      ⟨cachesDerived_of_view (d := t) rfl h.1, h.2.1, h.2.2⟩) fun _ => ?_
  refine triple_ignore ?_
  rintro t ⟨ht, hcur, hparams⟩
  unfold saveCurrentAccountInfo
  rw [get_bind, hcur]
  have hstored : ∀ b : Bool, CachesDerived env (if b then t.countWrite.setPage
      (accountPage i pageIndexParam) t.currentAccountInfo.toPage else t.countWrite) := by
    intro b
    have hcount : CachesDerived env t.countWrite := cachesDerived_of_view (d := t) rfl ht
    cases b with
    | true => exact cachesDerived_setParam hcount hcur hparams
    | false => exact hcount
  refine triple_seWrite (P := fun s => s = t) ?_ ?_ (fun _ _ _ _ => trivial) t rfl
  · rintro _ rfl _
    exact hstored true
  · rintro _ _ b rfl _
    exact hstored b

theorem triple_after {op : SessionOp} :
    Triple (fun t => CachesDerived env t ∧ t.currentAccountIndex = some i ∧
        ∀ x y, op = .setPassphrase x y → keyParams t.currentAccountInfo = keyParams (paramOf t i))
      (op.after env) (fun _ => CachesDerived env) (fun _ _ => False) (fun _ => True) := by
  cases op with
  | login password =>
    refine triple_ignore (triple_conseq (triple_of_frame (frame_saveCounters env) fun s t h hs =>
      cachesDerived_of_view h hs) (fun _ h => h.1) (fun _ _ h => h) (fun _ _ h => h)
      fun _ _ => trivial)
  | setPassphrase passphrase password =>
    exact triple_conseq triple_setPassphraseMark (fun t h => ⟨h.1, h.2.1, h.2.2 _ _ rfl⟩)
      (fun _ _ h => h) (fun _ _ h => h) fun _ h => h
  | logout => exact triple_pure fun _ h => h.1
  | create i c password => exact triple_pure fun _ h => h.1
  | destroy i => exact triple_pure fun _ h => h.1

end

section

variable {env : Env}

theorem step_cachesDerived (ha : Authentic env) (hj : JsonKeeps env) {op : SessionOp}
    {o : Option Device} (hsound : op.Sound env o) (ho : ∀ d, o = some d → CachesDerived env d) :
    ∀ d', sessionStep env op o = some d' → CachesDerived env d' := by
  cases o with
  | none => exact nofun
  | some d =>
    obtain ⟨hno, hcalls⟩ := hsound d rfl
    have hcall := triple_call (ho d rfl) hno d rfl
    have hprog : Sat (fun _ => CachesDerived env) (fun _ => CachesDerived env) (fun _ => True)
        (op.prog env d) := by
      unfold SessionOp.prog
      match hrun : op.call env d with
      | (.halted, t) =>
        rw [bind_halted hrun]
        trivial
      | (.error e, t) =>
        rw [hrun] at hcall
        rw [bind_error hrun]
        exact hcall
      | (.ok none, t) =>
        rw [hrun] at hcall
        rw [bind_ok hrun]
        exact hcall
      | (.ok (some c), t) =>
        rw [hrun] at hcall
        rw [bind_ok hrun]
        obtain ⟨hready, hparams⟩ := hcall
        have hswitch := triple_and (triple_switch ha hj hready (hcalls c t hrun))
          (triple_frame (keysOnly_switch env c) t)
        let switched := fun s : Device => CachesDerived env s ∧
          s.currentAccountIndex = some c.index ∧ ∀ x y, op = .setPassphrase x y →
            keyParams s.currentAccountInfo = keyParams (paramOf s c.index)
        have hkeep : ∀ s, CachesDerived env s → KeysOnly c.index t s → switched s := by
          intro s hs honly
          have hcells : cellsOf c.index s = cellsOf c.index t := congrArg Prod.fst honly.own
          refine ⟨hs, (congrArg (fun x => x.2.1) honly.own).trans hready.current, fun x y he => ?_⟩
          have hinfo : s.currentAccountInfo = t.currentAccountInfo :=
            congrArg (fun x => x.2.2.1) honly.own
          rw [hinfo, paramOf_congr hcells]
          exact hparams x y he
        refine triple_bind (Q := fun _ => switched) (triple_ignore (triple_conseq hswitch
          (fun _ h => ⟨h, h⟩) (fun _ s h => hkeep s h.1.1 h.2) (fun _ s h => hkeep s h.1 h.2)
          fun _ _ => trivial)) (fun _ => ?_) t rfl
        exact triple_conseq triple_after (fun _ h => h) (fun _ _ h => h) (fun _ _ h => h.elim)
          fun _ h => h
    intro d' hd'
    have hleft : left (op.prog env d) = some d' := (routine_left env op d).symm.trans hd'
    match hrun : op.prog env d with
    | (.halted, t) =>
      rw [hrun] at hleft
      exact nomatch hleft
    | (.error e, t) =>
      rw [hrun] at hleft hprog
      cases hleft
      exact hprog
    | (.ok (), t) =>
      rw [hrun] at hleft hprog
      cases hleft
      exact hprog

/-- In a session in which no failure happens that nothing reports, both caches hold keys
of the account they are for, also after a switching call that fails; and after one that
succeeds the device shows the keys of the current account, under its passphrase. -/
theorem keys_of_session (env : Env) (ha : Authentic env) (hj : JsonKeeps env)
    (ops : List SessionOp) (d₀ : Device) (h₀ : CachesDerived env d₀)
    (hsound : AllSteps (sessionStep env) (SessionOp.Sound env) ops (some d₀)) :
    ∀ d, runSteps (sessionStep env) ops (some d₀) = some d →
      CachesDerived env d ∧
        ∀ (op : SessionOp) (c : SwitchCall) (d₁ d₂ : Device) (r : Outcome ErrCode Unit),
          op.Sound env (some d) → op.call env d = (.ok (some c), d₁) →
          c.prog env d₁ = (r, d₂) → r ≠ .halted →
          CachesDerived env d₂ ∧ (r = .ok () → CurrentKeys env c.index d₂) := by
  have hrun : ∀ d, runSteps (sessionStep env) ops (some d₀) = some d → CachesDerived env d :=
    runSteps_inv_of (I := fun o => ∀ d, o = some d → CachesDerived env d)
      (fun op o hsound ho => step_cachesDerived ha hj hsound ho) ops (some d₀) hsound
      fun d h => Option.some.inj h ▸ h₀
  intro d hd
  refine ⟨hrun d hd, fun op c d₁ d₂ r hop hcall hprog hr => ?_⟩
  obtain ⟨hno, hcalls⟩ := hop d rfl
  have hreach := triple_call (hrun d hd) hno d rfl
  rw [hcall] at hreach
  have hswitch := triple_switch ha hj hreach.1 (hcalls c d₁ hcall) d₁ rfl
  rw [hprog] at hswitch
  match r with
  | .ok () => exact ⟨hswitch.1, fun _ => hswitch.2⟩
  | .error e => exact ⟨hswitch, nofun⟩
  | .halted => exact absurd rfl hr

end

def sessionEnv (fails : List UInt8 → Bool) : Env :=
  { Env.sample with wallet := { Wallet.sample with
      bip39MnemonicToSeed := fun m p => .ok (Block.ofBytes 64 (p ++ m))
      processKeyType := fun seed _ _ _ => some (if fails seed then .error 1 else .ok (seed.take 4))
      jsonOfPublicKeys := fun ks => ks.flatMap fun k => k.getD [] } }

section

variable {fails : List UInt8 → Bool}

theorem rowDerivation_session (t : MnemonicType) (seed : List UInt8) (a b : Option CString) :
    rowDerivation (sessionEnv fails) t seed a b
      = if fails seed then .rowFailed else .derived [some (seed.take 4)] := by
  have hitem : skipChainItem t { cryptoKey := .secp256k1, path := [] } = false := by
    cases t <;> rfl
  have hchain : deriveChainKeys (sessionEnv fails) t seed a b
      (sessionEnv fails).wallet.chainTable
      = if fails seed then some ([none], some 1) else some ([some (seed.take 4)], none) := by
    show deriveChainKeys (sessionEnv fails) t seed a b [{ cryptoKey := .secp256k1, path := [] }] = _
    unfold deriveChainKeys
    rw [hitem]
    cases hfail : fails seed with
    | true => simp [sessionEnv, hfail]
    | false => simp [sessionEnv, hfail, deriveChainKeys]
  unfold rowDerivation
  rw [hchain]
  cases fails seed <;> rfl

theorem derivation_session {t : MnemonicType} {seed entropy : List UInt8} {passphrase : CString}
    (ht : t ≠ .ton) :
    derivation (sessionEnv fails) t seed entropy passphrase
      = if fails seed then .rowFailed else .derived [some (seed.take 4)] := by
  cases t with
  | ton => exact absurd rfl ht
  | bip39 => exact rowDerivation_session .bip39 seed _ _
  | slip39 => exact rowDerivation_session .slip39 seed none none

theorem jsonKeeps_session : JsonKeeps (sessionEnv fails) := by
  intro t seed entropy passphrase keys h
  -- one key of at most four bytes, or none for a TON account
  have hkeys : keys = [none] ∨ ∃ x : CString, keys = [some x] ∧ x.length ≤ 4 := by
    by_cases ht : t = .ton
    · subst ht
      have hton : derivation (sessionEnv fails) .ton seed entropy passphrase
          = if fails seed then .masterFailed else .derived [none] := by
        unfold derivation
        simp only [sessionEnv]
        cases fails seed <;> rfl
      rw [hton] at h
      split at h
      · cases h
      · cases h
        exact .inl rfl
    · rw [derivation_session ht] at h
      split at h
      · cases h
      · cases h
        exact .inr ⟨_, rfl, List.length_take_le _ _⟩
  rcases hkeys with rfl | ⟨x, rfl, hx⟩
  · refine ⟨Nat.zero_le _, fun keys' h chain => ?_⟩
    cases h
    cases chain <;> rfl
  · have hjson : (sessionEnv fails).wallet.jsonOfPublicKeys [some x] = x := List.append_nil x
    rw [hjson]
    refine ⟨Nat.le_trans hx (by decide), fun keys' h chain => ?_⟩
    cases h
    rfl

theorem authentic_session : Authentic (sessionEnv fails) := fun r => authentic_sample r

theorem cachesDerived_blank {env : Env} : CachesDerived env Device.blank :=
  ⟨fun _ h => (nomatch h), fun _ => flashDerived_erased fun _ _ => rfl⟩

def sessionPassword : CString := [1, 1, 1, 1, 1, 1]

def sessionOps : List SessionOp :=
  [.create firstAccount (.bip39 ⟨List.replicate 16 5, by decide⟩) sessionPassword]

def sessionDevice (env : Env) : Device :=
  (runSteps (sessionStep env) sessionOps (some Device.blank)).getD Device.blank

def agrees (env : Env) (op : SessionOp) (d : Device) : Bool :=
  match op.call env d with
  | (.ok (some c), t) => t.currentAccountInfo.mnemonicType == .bip39 &&
    keyParams t.currentAccountInfo == keyParams (paramOf t c.index)
  | _ => true

theorem sound_session {op : SessionOp} {d : Device}
    (hno : op.NoSilentFailure (sessionEnv fun _ => false) d)
    (h : agrees (sessionEnv fun _ => false) op d = true) :
    op.Sound (sessionEnv fun _ => false) (some d) := by
  have hcarried : ∀ w n, CarriedOut (sessionEnv fun _ => false) w n := nofun
  rintro _ ⟨⟩
  refine ⟨hno, fun c t hcall _ => ?_⟩
  unfold agrees at h
  rw [hcall] at h
  obtain ⟨hkind, hparams⟩ := Bool.and_eq_true_iff.mp h
  have hkind := eq_of_beq hkind
  have hparams := eq_of_beq hparams
  have hstored : (paramOf t c.index).mnemonicType = .bip39 :=
    (keyParams_eq hparams).2.1.symm.trans hkind
  have hderived : ∀ passphrase s seed,
      derivationFrom (sessionEnv fun _ => false) (paramOf t c.index) passphrase s seed
        = .derived [some ((seed.take (seedLen (paramOf t c.index))).take 4)] := by
    intro passphrase s seed
    unfold derivationFrom
    exact derivation_session (by rw [hstored]; exact MnemonicType.noConfusion)
  refine ⟨hparams, fun s seed _ _ he => ?_, fun i p set hc s seed _ _ he => ?_, fun hslip => ?_,
    fun i p newKey _ => ⟨hcarried _ _, hcarried _ _⟩⟩
  · rw [hderived] at he
    cases he
  · subst hc
    have hd := hderived (t.passphraseInfo i).passphrase s seed
    exact nomatch hd.symm.trans he
  · rw [hkind] at hslip
    cases hslip

theorem sessionDevice_eq {env : Env}
    (h : (runSteps (sessionStep env) sessionOps (some Device.blank)).isSome = true) :
    runSteps (sessionStep env) sessionOps (some Device.blank) = some (sessionDevice env) := by
  obtain ⟨d, hd⟩ := Option.isSome_iff_exists.mp h
  unfold sessionDevice
  rw [hd]
  rfl

/-- An account is created and a passphrase set. -/
theorem keys_of_session_sample : CurrentKeys (sessionEnv fun _ => false) 0
    ((SwitchCall.temp 0 sessionPassword true).prog (sessionEnv fun _ => false)
      ((SessionOp.setPassphrase [9] sessionPassword).call (sessionEnv fun _ => false)
        (sessionDevice (sessionEnv fun _ => false))).2).2 := by
  have hparams : (SessionOp.setPassphrase [9] sessionPassword).NoSilentFailure
      (sessionEnv fun _ => false) (sessionDevice (sessionEnv fun _ => false)) := by
    have hcur : (sessionDevice (sessionEnv fun _ => false)).currentAccountIndex = some 0 := by
      decide +kernel
    rintro i hi
    cases hcur.symm.trans hi
    decide +kernel
  have hreturns : (Outcome.ok () : Outcome ErrCode Unit) ≠ .halted := by
    nofun
  have hcarried : ∀ op ∈ sessionOps, op.NoSilentFailure (sessionEnv fun _ => false) Device.blank := by
    intro op hop
    obtain rfl := List.mem_singleton.mp hop
    intro k _ status applied hr
    cases hr
  exact ((keys_of_session (sessionEnv fun _ => false) authentic_session jsonKeeps_session
    sessionOps Device.blank cachesDerived_blank
    ⟨sound_session (hcarried _ (.head _)) (by decide +kernel), trivial⟩ _
    (sessionDevice_eq (by decide +kernel))).2 (.setPassphrase [9] sessionPassword)
    (.temp 0 sessionPassword true) _ _ (.ok ()) (sound_session hparams (by decide +kernel))
    (run_eq (by decide +kernel)) (run_eq (by decide +kernel)) hreturns).2 rfl

/-- A row that fails under a passphrase is no error: the call succeeds, without the key, and
what is in RAM is noted as the account's keys. -/
theorem failed_row_reported_as_success : ¬∀ (env : Env), Authentic env → JsonKeeps env →
    ∀ (ops : List SessionOp) (d : Device),
      runSteps (sessionStep env) ops (some Device.blank) = some d →
      CachesDerived env d ∧
        ∀ (op : SessionOp) (c : SwitchCall) (d₁ d₂ : Device) (r : Outcome ErrCode Unit),
          op.call env d = (.ok (some c), d₁) → c.prog env d₁ = (r, d₂) → r ≠ .halted →
          CachesDerived env d₂ ∧ (r = .ok () → CurrentKeys env c.index d₂) := by
  intro claim
  let env := sessionEnv fun seed => seed.head? == some 9
  let d₁ := ((SessionOp.setPassphrase [9] sessionPassword).call env (sessionDevice env)).2
  have h := ((claim env authentic_session jsonKeeps_session sessionOps _
    (sessionDevice_eq (by decide +kernel))).2 (.setPassphrase [9] sessionPassword)
    (.temp 0 sessionPassword true) d₁ _ (.ok ()) (run_eq (by decide +kernel))
    (run_eq (by decide +kernel)) nofun).2 rfl
  obtain ⟨ks, ⟨s, seed, -, hseed, hderived⟩, -⟩ := h.keys
  generalize hd₂ : ((SwitchCall.temp 0 sessionPassword true).prog env d₁).2 = d₂ at hseed hderived
  obtain ⟨hkind, hpass⟩ : (paramOf d₂ 0).mnemonicType = .bip39 ∧
      (d₂.passphraseInfo 0).passphrase = [9] := by
    rw [← hd₂]
    decide +kernel
  -- the seed begins with the passphrase
  have hseed' : seed = (Block.ofBytes 64 ([9] ++ entropyOf (paramOf d₂ 0) s)).bytes := by
    change seedOf env (paramOf d₂ 0) (d₂.passphraseInfo 0).passphrase s = _ at hseed
    unfold seedOf at hseed
    rw [hpass, hkind] at hseed
    exact (Except.ok.inj hseed).symm
  have hfails : (seed.take (seedLen (paramOf d₂ 0))).head? = some 9 := by
    unfold seedLen
    rw [hkind, hseed']
    rfl
  change derivationFrom env (paramOf d₂ 0) _ s seed = _ at hderived
  unfold derivationFrom at hderived
  rw [derivation_session (by rw [hkind]; exact MnemonicType.noConfusion), hfails] at hderived
  exact nomatch hderived

end

end Keystone3
