import Keystone3.Account.PublicKeyRun

/-!
# The passphrase record of an account

`g_passphraseInfo` keeps, for each account, the passphrase in use, a flag that says
whether there is one, and the master fingerprint of the wallet under it.

The passphrase is copied with one byte of room less than the record has, so one of 128
characters leaves an empty string beside a flag that is set, and the assertion in
`PassphraseExist` stops the device.
-/

namespace Keystone3

open Logic (Outcome AllSteps runSteps runSteps_inv_of)
open Logic.Prog
open Bytes (Block)

/-- What is done with passphrases, and logging in and out between. -/
inductive PassphraseOp where
  | login (password : CString)
  | logout
  | set (passphrase password : CString)
  | clear (i : AccountIndex)
  | destroy (i : AccountIndex)

def PassphraseOp.routine (env : Env) : PassphraseOp → Account Unit
  | login password => verifyPasswordAndLogin env password
  | logout => logoutCurrentAccount
  | set passphrase password => onCurrent fun i => setPassphrase env i passphrase password
  | clear i => clearAccountPassphrase i
  | destroy i => destroyAccount env i

def setAt {α : Type} (g : AccountIndex → α) (i : AccountIndex) (a : α) : AccountIndex → α :=
  fun j => if j = i then a else g j

theorem setAt_self {α : Type} (g : AccountIndex → α) (i : AccountIndex) (a : α) :
    setAt g i a i = a := if_pos rfl

theorem setAt_ne {α : Type} (g : AccountIndex → α) {i j : AccountIndex} (a : α) (h : j ≠ i) :
    setAt g i a j = g j := if_neg h

/-- A device in use, the passphrase last set for each account, and whether an assertion
or a power loss has stopped it. -/
structure PassphraseRun where
  device : Device
  lastSet : AccountIndex → CString
  stopped : Bool

def PassphraseOp.noted (op : PassphraseOp) (success : Bool) (t : PassphraseRun) :
    AccountIndex → CString :=
  match op with
  | set passphrase _ =>
    match t.device.currentAccountIndex with
    | some i => if success then setAt t.lastSet i passphrase else t.lastSet
    | none => t.lastSet
  | clear i => setAt t.lastSet i []
  | destroy i => setAt t.lastSet i []
  | login _ => t.lastSet
  | logout => t.lastSet

def PassphraseOp.ended (op : PassphraseOp) (t : PassphraseRun) :
    Outcome ErrCode Unit × Device → PassphraseRun
  | (.ok _, d) => ⟨d, op.noted true t, false⟩
  | (.error _, d) => ⟨d, op.noted false t, false⟩
  | (.halted, d) => ⟨d, t.lastSet, true⟩

def passphraseStep (env : Env) (op : PassphraseOp) (t : PassphraseRun) : PassphraseRun :=
  if t.stopped then t else op.ended t (op.routine env t.device)

/-- What `PassphraseExist` asserts. -/
def PassphraseInfo.Agrees (p : PassphraseInfo) : Prop := p.passphraseExist = !p.passphrase.isEmpty

theorem PassphraseInfo.agrees_cleared : PassphraseInfo.cleared.Agrees := rfl

theorem passphraseExist_returns_iff {i : AccountIndex} {d : Device} :
    (∃ b, passphraseExist i d = (.ok b, d)) ↔ (d.passphraseInfo i).Agrees := by
  unfold passphraseExist PassphraseInfo.Agrees
  rw [get_bind]
  constructor
  · intro h
    obtain ⟨b, hb⟩ := h
    obtain ⟨_, _, hassert, _⟩ := bind_eq_ok hb
    unfold assert at hassert
    split at hassert
    next hc => exact eq_of_beq hc
    · cases hassert
  · intro h
    rw [h]
    unfold assert
    rw [beq_self_eq_true]
    exact ⟨_, rfl⟩

theorem passphraseExist_agrees {i : AccountIndex} {d : Device} (h : (d.passphraseInfo i).Agrees) :
    passphraseExist i d = (.ok (!(d.passphraseInfo i).passphrase.isEmpty), d) := by
  unfold passphraseExist
  rw [get_bind]
  exact bind_ok (assert_true (beq_iff_eq.mpr h) d)

/-- The fingerprint of the seed of account `i` under the passphrase. -/
def FingerprintOf (env : Env) (i : AccountIndex) (passphrase : CString) (mfp : Block 4)
    (d : Device) : Prop :=
  ∃ s seed, Opens env i s d ∧ seedOf env (paramOf d i) passphrase s = .ok seed ∧
    env.wallet.getMasterFingerprint (seed.take (seedLen (paramOf d i))) = some (.ok mfp)

/-- The records are right: flag and string agree, and while the device runs the
passphrase is the one last set, with the fingerprint of the seed under it. -/
structure RecordsRight (env : Env) (t : PassphraseRun) : Prop where
  agrees : ∀ i, (t.device.passphraseInfo i).Agrees
  last : t.stopped = false → ∀ i, (t.device.passphraseInfo i).passphrase = t.lastSet i
  mfp : t.stopped = false → ∀ i, (t.device.passphraseInfo i).passphrase ≠ [] →
    FingerprintOf env i (t.device.passphraseInfo i).passphrase (t.device.passphraseInfo i).mfp
      t.device

/-- No secret has changed, nor the parameters that the keys depend on. -/
def SecretsKept (d t : Device) : Prop :=
  ∀ j, recordOf t j = recordOf d j ∧ keyParams (paramOf t j) = keyParams (paramOf d j)

theorem secretsKept_refl (d : Device) : SecretsKept d d := fun _ => ⟨rfl, rfl⟩

theorem SecretsKept.trans {d s t : Device} (h : SecretsKept d s) (k : SecretsKept s t) :
    SecretsKept d t := fun j => ⟨(k j).1.trans (h j).1, (k j).2.trans (h j).2⟩

theorem secretsKept_of_cells {d t : Device} (h : ∀ j, cellsOf j t = cellsOf j d) :
    SecretsKept d t := by
  intro j
  refine ⟨recordOf_congr (h j), ?_⟩
  rw [paramOf_congr (h j)]

theorem seedLen_congr {a b : AccountInfo} (h : keyParams a = keyParams b) :
    seedLen a = seedLen b := by
  obtain ⟨hlen, htype, -, -⟩ := keyParams_eq h
  unfold seedLen
  rw [hlen, htype]

theorem FingerprintOf.congr {env : Env} {i : AccountIndex} {passphrase : CString} {mfp : Block 4}
    {d t : Device} (hrecord : recordOf t i = recordOf d i)
    (hparam : keyParams (paramOf t i) = keyParams (paramOf d i))
    (h : FingerprintOf env i passphrase mfp d) : FingerprintOf env i passphrase mfp t := by
  obtain ⟨s, seed, hopen, hseed, hmfp⟩ := h
  refine ⟨s, seed, hopen.congr hrecord (keyParams_eq hparam).1, ?_, ?_⟩
  · rw [seedOf_congr hparam, hseed]
  · rw [seedLen_congr hparam, hmfp]

def Device.setPassphrases (d : Device) (g : AccountIndex → PassphraseInfo) : Device :=
  { d with passphraseInfo := g }

def recordedPassphrase (passphrase : CString) (mfp : Block 4) : PassphraseInfo :=
  if passphrase.isEmpty then .cleared else ⟨copyPassphrase passphrase, true, mfp⟩

theorem agrees_recorded {passphrase : CString} {mfp : Block 4}
    (h : passphrase.length < passphraseMaxLen) : (recordedPassphrase passphrase mfp).Agrees := by
  unfold recordedPassphrase
  cases hempty : passphrase.isEmpty with
  | true => rfl
  | false =>
    show true = !(copyPassphrase passphrase).isEmpty
    unfold copyPassphrase
    rw [if_pos h, hempty]
    rfl

theorem passphrase_recorded {passphrase : CString} {mfp : Block 4}
    (h : passphrase.length < passphraseMaxLen) :
    (recordedPassphrase passphrase mfp).passphrase = passphrase := by
  unfold recordedPassphrase
  cases hempty : passphrase.isEmpty with
  | true => exact (List.isEmpty_iff.mp hempty).symm
  | false =>
    show copyPassphrase passphrase = passphrase
    unfold copyPassphrase
    rw [if_pos h]

def passphraseSwitch (i : AccountIndex) (passphrase password : CString) : SwitchCall :=
  if passphrase.isEmpty then .info i password false else .temp i password true

/-- The passphrase fits, and nothing fails after it is recorded or without being reported. -/
structure GoesThrough (env : Env) (i : AccountIndex) (passphrase password : CString)
    (d : Device) : Prop where
  fits : passphrase.length < passphraseMaxLen
  params : keyParams d.currentAccountInfo = keyParams (paramOf d i)
  loads : d.currentAccountInfo.mnemonicType = .slip39 → passphrase ≠ [] →
    ∃ s d₁, loadAccountSecret env i password d = (.ok s, d₁)
  fingerprint : ∀ t, storePassphrase env i passphrase password d ≠ (.ok false, t)
  switches : ∀ t, storePassphrase env i passphrase password d = (.ok true, t) →
    ∀ e t', (passphraseSwitch i passphrase password).prog env t ≠ (.error e, t')

section

variable {env : Env} {i : AccountIndex} {passphrase password : CString} {d : Device}

theorem getPassphraseSeed_not_ton {seed : List UInt8} {t : Device}
    (h : getPassphraseSeed env i passphrase password d = (.ok seed, t)) :
    d.currentAccountInfo.mnemonicType ≠ .ton := by
  intro hton
  unfold getPassphraseSeed at h
  obtain ⟨m, d₁, hm, h⟩ := bind_eq_ok h
  cases hm
  rw [hton] at h
  obtain ⟨_, _, hassert, _⟩ := bind_eq_ok h
  cases hassert

theorem getPassphraseSeed_ok {seed : List UInt8} {t : Device} (hne : passphrase ≠ [])
    (hloads : d.currentAccountInfo.mnemonicType = .slip39 →
      ∃ s d₁, loadAccountSecret env i password d = (.ok s, d₁))
    (h : getPassphraseSeed env i passphrase password d = (.ok seed, t)) :
    ∃ s, Opens env i s d ∧ seedOf env d.currentAccountInfo passphrase s = .ok seed := by
  have hempty : passphrase.isEmpty = false := by
    cases passphrase with
    | nil => exact absurd rfl hne
    | cons _ _ => rfl
  have hton := getPassphraseSeed_not_ton h
  unfold seedOf
  rw [hempty]
  cases ht : d.currentAccountInfo.mnemonicType with
  | slip39 => exact getPassphraseSeed_slip39_ok ht (hloads ht) h
  | bip39 => exact getPassphraseSeed_bip39_ok (by rw [ht]; exact MnemonicType.noConfusion) h
  | ton => exact absurd ht hton

private theorem writeRecord_eq (mfp : Block 4) (t : Device) :
    (do
      setPassphraseInfo i fun p => { p with mfp := mfp }
      if passphrase.isEmpty then clearAccountPassphrase i
      else setPassphraseInfo i fun p =>
        { p with passphrase := copyPassphrase passphrase, passphraseExist := true }
      return true : Account Bool) t =
      (.ok true, t.setPassphrases
        (setAt t.passphraseInfo i (recordedPassphrase passphrase mfp))) := by
  have hinfo : ∀ g : AccountIndex → PassphraseInfo,
      (∀ j, g j = setAt t.passphraseInfo i (recordedPassphrase passphrase mfp) j) →
      t.setPassphrases g =
        t.setPassphrases (setAt t.passphraseInfo i (recordedPassphrase passphrase mfp)) := by
    intro g hg
    rw [funext hg]
  unfold recordedPassphrase at hinfo ⊢
  cases hempty : passphrase.isEmpty with
  | true =>
    rw [hempty] at hinfo
    refine congrArg (Prod.mk _) (hinfo _ ?_)
    intro j
    unfold setAt
    by_cases hj : j = i
    · rw [if_pos hj, if_pos hj]
      rfl
    · rw [if_neg hj, if_neg hj]
      exact if_neg hj
  | false =>
    rw [hempty] at hinfo
    refine congrArg (Prod.mk _) (hinfo _ ?_)
    intro j
    unfold setAt
    by_cases hj : j = i
    · rw [if_pos hj, if_pos hj]
      show PassphraseInfo.mk _ _ (if j = i then _ else _ : PassphraseInfo).mfp = _
      rw [if_pos hj]
      rfl
    · rw [if_neg hj, if_neg hj]
      exact if_neg hj

theorem storePassphrase_recorded {t : Device}
    (h : storePassphrase env i passphrase password d = (.ok true, t)) :
    ∃ n mfp, t = (d.countReads n).setPassphrases
        (setAt d.passphraseInfo i (recordedPassphrase passphrase mfp)) ∧
      ∃ seed t', getPassphraseSeed env i passphrase password d = (.ok seed, t') ∧
        env.wallet.getMasterFingerprint (seed.take (seedLen d.currentAccountInfo)) =
          some (.ok mfp) := by
  unfold storePassphrase at h
  rw [get_bind] at h
  obtain ⟨_, d₁, hassert, h⟩ := bind_eq_ok h
  have hd₁ : d₁ = d := by
    unfold assert at hassert
    split at hassert
    · cases hassert
      rfl
    · cases hassert
  subst hd₁
  obtain ⟨seed, d₂, hseed, h⟩ := bind_eq_ok h
  have hread := frame_readPassphraseSeed env i passphrase password d₁
  rw [hseed] at hread
  obtain ⟨n, hn⟩ := hread
  have hn : d₂ = d₁.countReads n := hn
  subst hn
  have hlen : (if d₁.currentAccountInfo.mnemonicType = .bip39 then 64
      else d₁.currentAccountInfo.entropyLen.toNat) = seedLen d₁.currentAccountInfo := by
    have hton := getPassphraseSeed_not_ton hseed
    unfold seedLen
    cases hm : d₁.currentAccountInfo.mnemonicType with
    | bip39 => rfl
    | slip39 => rfl
    | ton => exact absurd hm hton
  rw [hlen] at h
  cases hmfp : env.wallet.getMasterFingerprint (seed.take (seedLen d₁.currentAccountInfo)) with
  | none =>
    rw [hmfp] at h
    cases h
  | some r =>
    rw [hmfp] at h
    cases r with
    | error e => cases h
    | ok mfp =>
      have hwrite := (writeRecord_eq mfp (d₁.countReads n)).symm.trans h
      cases hwrite
      exact ⟨n, mfp, rfl, seed, _, hseed, hmfp⟩

theorem triple_storePassphrase_reads :
    Triple (fun t => t = d) (storePassphrase env i passphrase password)
      (fun b t => b = true ∨ OnlyRead d t) (fun _ => OnlyRead d) (OnlyRead d) := by
  have hR := reading_onlyRead.toPreorder
  intro t ht
  rw [ht]
  unfold storePassphrase
  rw [get_bind]
  refine triple_bind (P := fun t => t = d) (Q := fun _ => OnlyRead d) (triple_frame
    (frame_assert hR _) d) (fun _ => ?_) d rfl
  refine triple_bind (Q := fun _ => OnlyRead d) (triple_of_frame (frame_readPassphraseSeed env i
    passphrase password) fun _ _ h hs => hR.trans hs h) fun seed => ?_
  split
  · intro t ht
    rw [writeRecord_eq]
    exact .inl rfl
  · exact triple_pure fun _ h => .inr h

theorem secretsKept_setParam {a : AccountInfo} (hcur : d.currentAccountIndex = some i)
    (hparams : keyParams a = keyParams (paramOf d i)) :
    SecretsKept d (d.setPage (accountPage i pageIndexParam) a.toPage) := by
  intro j
  refine ⟨congrArg Prod.fst ((ignoresInfo_secretOf j).param d i a.toPage hcur), ?_⟩
  by_cases hji : j = i
  · rw [hji]
    have hpage : paramOf (d.setPage (accountPage i pageIndexParam) a.toPage) i = a := by
      unfold paramOf
      rw [Device.setPage_self, AccountInfo.ofPage_toPage]
    rw [hpage, hparams]
  · have hpage : paramOf (d.setPage (accountPage i pageIndexParam) a.toPage) j = paramOf d j := by
      unfold paramOf
      rw [Device.setPage_ne d _ fun he => hji (accountPage_inj.mp he).1]
    rw [hpage]

theorem triple_setPassphraseMark_kept {enable : Bool} (hcur : d.currentAccountIndex = some i)
    (hparams : keyParams d.currentAccountInfo = keyParams (paramOf d i)) :
    Triple (fun t => t = d) (setPassphraseMark env enable)
      (fun _ t => t.passphraseInfo = d.passphraseInfo ∧ SecretsKept d t) (fun _ _ => False)
      (fun t => t.passphraseInfo = d.passphraseInfo) := by
  refine triple_bind (Q := fun _ t => t.passphraseInfo = d.passphraseInfo ∧ SecretsKept d t ∧
    t.currentAccountIndex = some i ∧
    keyParams t.currentAccountInfo = keyParams (paramOf t i)) (triple_modify fun t h => ?_)
    fun _ => ?_
  · rw [h]
    exact ⟨rfl, secretsKept_refl d, hcur, hparams⟩
  refine triple_ignore ?_
  intro t ht
  obtain ⟨hpass, hkept, hcur', hparams'⟩ := ht
  unfold saveCurrentAccountInfo
  rw [get_bind, hcur']
  have hstored : ∀ b : Bool, SecretsKept d (if b then t.countWrite.setPage
      (accountPage i pageIndexParam) t.currentAccountInfo.toPage else t.countWrite) := by
    intro b
    have hcount : SecretsKept d t.countWrite := hkept
    cases b with
    | true => exact hcount.trans (secretsKept_setParam (d := t.countWrite) hcur' hparams')
    | false => exact hcount
  have hrecords : ∀ b : Bool, (if b then t.countWrite.setPage
      (accountPage i pageIndexParam) t.currentAccountInfo.toPage
      else t.countWrite).passphraseInfo = d.passphraseInfo := by
    intro b
    cases b with
    | true => exact hpass
    | false => exact hpass
  refine triple_seWrite (P := fun s => s = t) ?_ ?_ ?_ t rfl
  · intro s hs _
    rw [hs]
    exact ⟨hrecords true, hstored true⟩
  · intro s _ b hs _
    rw [hs]
    exact ⟨hrecords b, hstored b⟩
  · intro s b hs _
    rw [hs]
    exact hrecords b

def passphraseView (d : Device) : (AccountIndex → PassphraseInfo) × AccountInfo ×
    Option AccountIndex :=
  (d.passphraseInfo, d.currentAccountInfo, d.currentAccountIndex)

theorem ignoresPublicInfo_passphraseView (j : AccountIndex) : IgnoresPublicInfo j passphraseView where
  writes _ := rfl
  reads _ := rfl
  draws _ _ := rfl
  keys _ _ := rfl
  temp _ _ := rfl
  isTemp _ _ := rfl
  hash _ _ := rfl
  flash _ _ _ := rfl

theorem frame_switch {β : Type} {f : Device → β} (hf : ∀ j, IgnoresPublicInfo j f) (c : SwitchCall) :
    Frame (Keeps f) (c.prog env) := by
  cases c with
  | info j p newKey => exact frame_accountPublicInfoSwitch env (hf j) p newKey
  | temp j p set => exact frame_tempAccountPublicInfo env (hf j).toIgnoresKeyRam j p set

theorem switch_kept (c : SwitchCall) (t : Device) :
    passphraseView (c.prog env t).2 = passphraseView t ∧ SecretsKept t (c.prog env t).2 :=
  ⟨frame_switch ignoresPublicInfo_passphraseView c t,
    secretsKept_of_cells fun j => frame_switch (ignoresLogin_cellsOf j).publicKeys c t⟩

def Recorded (i : AccountIndex) (passphrase : CString) (mfp : Block 4) (d t : Device) : Prop :=
  t.passphraseInfo = setAt d.passphraseInfo i (recordedPassphrase passphrase mfp)

theorem triple_finishPassphrase {mfp : Block 4} (h : GoesThrough env i passphrase password d)
    (hcur : d.currentAccountIndex = some i) {t : Device}
    (hstore : storePassphrase env i passphrase password d = (.ok true, t))
    (ht : ∃ n, t = (d.countReads n).setPassphrases
      (setAt d.passphraseInfo i (recordedPassphrase passphrase mfp))) :
    Triple (fun s => s = t) (do
      let ret ← attempt (if passphrase.isEmpty then accountPublicInfoSwitch env i password false
        else tempAccountPublicInfo env i password true)
      setPassphraseMark env (!passphrase.isEmpty)
      ofExcept ret)
      (fun _ s => Recorded i passphrase mfp d s ∧ SecretsKept d s) (fun _ _ => False)
      (Recorded i passphrase mfp d) := by
  obtain ⟨n, hn⟩ := ht
  have hprog : (if passphrase.isEmpty then accountPublicInfoSwitch env i password false
      else tempAccountPublicInfo env i password true) =
      (passphraseSwitch i passphrase password).prog env := by
    unfold passphraseSwitch
    cases passphrase.isEmpty <;> rfl
  obtain ⟨hview, hkept⟩ := @switch_kept env (passphraseSwitch i passphrase password) t
  rw [hprog]
  intro s hs
  rw [hs]
  have hnot := h.switches t hstore
  have hrecorded : ∀ s', passphraseView s' = passphraseView t → Recorded i passphrase mfp d s' := by
    intro s' hs'
    have hpass : s'.passphraseInfo = t.passphraseInfo := congrArg Prod.fst hs'
    unfold Recorded
    rw [hpass, hn]
    rfl
  cases hrun : (passphraseSwitch i passphrase password).prog env t with
  | mk r t₁ =>
    rw [hrun] at hview hkept
    have hinfo : t₁.currentAccountInfo = d.currentAccountInfo := by
      have hinfo := congrArg (fun x => x.2.1) hview
      rw [show t₁.currentAccountInfo = t.currentAccountInfo from hinfo, hn]
      rfl
    have hcur₁ : t₁.currentAccountIndex = some i := by
      have hcurrent := congrArg (fun x => x.2.2) hview
      rw [show t₁.currentAccountIndex = t.currentAccountIndex from hcurrent, hn]
      exact hcur
    have hsecrets : SecretsKept d t₁ := by
      refine SecretsKept.trans (s := t) ?_ hkept
      rw [hn]
      exact secretsKept_of_cells fun _ => rfl
    cases r with
    | halted =>
      rw [bind_halted (attempt_halted hrun)]
      exact hrecorded t₁ hview
    | error e => exact absurd hrun (hnot e t₁)
    | ok u =>
      rw [bind_ok (attempt_ok hrun)]
      have hparams : keyParams t₁.currentAccountInfo = keyParams (paramOf t₁ i) := by
        rw [hinfo, (hsecrets i).2]
        exact h.params
      have hsame : ∀ s' : Device, s'.passphraseInfo = t₁.passphraseInfo →
          Recorded i passphrase mfp d s' := fun s' hs' => hs'.trans (hrecorded t₁ hview)
      have hmark : Triple (fun s => s = t₁) (setPassphraseMark env (!passphrase.isEmpty))
          (fun _ s => Recorded i passphrase mfp d s ∧ SecretsKept d s) (fun _ _ => False)
          (Recorded i passphrase mfp d) :=
        triple_conseq (triple_setPassphraseMark_kept hcur₁ hparams) (fun _ h => h)
          (fun _ s' hs' => ⟨hsame s' hs'.1, hsecrets.trans hs'.2⟩) (fun _ _ h => h) hsame
      exact triple_bind hmark (fun _ => triple_pure fun _ h => h) t₁ rfl

/-- **Setting a passphrase that fits, with nothing failing on the way, records it and the
fingerprint of the seed under it, or changes no record.** -/
theorem triple_setPassphrase (h : GoesThrough env i passphrase password d)
    (hcur : d.currentAccountIndex = some i) :
    Triple (fun t => t = d) (setPassphrase env i passphrase password)
      (fun _ t => SecretsKept d t ∧ ∃ mfp, Recorded i passphrase mfp d t ∧
        (passphrase ≠ [] → FingerprintOf env i passphrase mfp d))
      (fun _ => OnlyRead d)
      (fun t => t.passphraseInfo = d.passphraseInfo ∨ ∃ mfp, Recorded i passphrase mfp d t) := by
  intro t ht
  rw [ht]
  have hreads := @triple_storePassphrase_reads env i passphrase password d d rfl
  unfold setPassphrase
  cases hrun : storePassphrase env i passphrase password d with
  | mk r t₁ =>
    rw [hrun] at hreads
    cases r with
    | halted =>
      rw [bind_halted hrun]
      obtain ⟨n, hn⟩ := hreads
      left
      rw [hn]
      rfl
    | error e =>
      rw [bind_error hrun]
      exact hreads
    | ok b =>
      rw [bind_ok hrun]
      cases b with
      | false => exact absurd hrun (h.fingerprint t₁)
      | true =>
        obtain ⟨n, mfp, ht₁, seed, t', hseed, hmfp⟩ := storePassphrase_recorded hrun
        have hfingerprint : passphrase ≠ [] → FingerprintOf env i passphrase mfp d := by
          intro hne
          obtain ⟨s, hopen, hs⟩ := getPassphraseSeed_ok hne (fun ht => h.loads ht hne) hseed
          refine ⟨s, seed, hopen, ?_, ?_⟩
          · rw [← seedOf_congr h.params, hs]
          · rw [← seedLen_congr h.params, hmfp]
        exact triple_conseq (triple_finishPassphrase h hcur hrun ⟨n, ht₁⟩) (fun _ h => h)
          (fun _ s hs => ⟨hs.2, mfp, hs.1, hfingerprint⟩) (fun _ _ h => h.elim)
          (fun s hs => .inr ⟨mfp, hs⟩) t₁ rfl

end

section

variable {env : Env} {i : AccountIndex} {d : Device}

theorem ignoresLogin_passphraseInfo : IgnoresLogin fun d : Device => d.passphraseInfo where
  info _ _ := rfl
  current _ _ := rfl
  publicKeys _ :=
    { writes := fun _ => rfl, reads := fun _ => rfl, draws := fun _ _ => rfl
      hash := fun _ _ => rfl, flash := fun _ _ _ => rfl, keys := fun _ _ => rfl
      temp := fun _ _ => rfl, isTemp := fun _ _ => rfl }
  last _ _ := rfl
  counters _ _ := rfl
  counterPage _ _ := rfl

theorem login_kept (password : CString) (d : Device) :
    (verifyPasswordAndLogin env password d).2.passphraseInfo = d.passphraseInfo ∧
      SecretsKept d (verifyPasswordAndLogin env password d).2 :=
  ⟨frame_verifyPasswordAndLogin env ignoresLogin_passphraseInfo password d,
    secretsKept_of_cells fun j =>
      frame_verifyPasswordAndLogin env (ignoresLogin_cellsOf j) password d⟩

theorem triple_destroyAccount_records :
    Triple (fun t => t.passphraseInfo = d.passphraseInfo) (destroyAccount env i)
      (fun _ t => t.passphraseInfo = setAt d.passphraseInfo i .cleared)
      (fun _ t => t.passphraseInfo = setAt d.passphraseInfo i .cleared)
      (fun t => t.passphraseInfo = d.passphraseInfo ∨
        t.passphraseInfo = setAt d.passphraseInfo i .cleared) := by
  let before := fun t : Device => t.passphraseInfo = d.passphraseInfo
  let cleared := fun t : Device => t.passphraseInfo = setAt d.passphraseInfo i .cleared
  have hblind : Blind fun t : Device => t.passphraseInfo :=
    ⟨fun _ => rfl, fun _ => rfl, fun _ _ => rfl⟩
  have hkeep : ∀ g : AccountIndex → PassphraseInfo, ∀ s t : Device,
      Keeps (fun t => t.passphraseInfo) s t → s.passphraseInfo = g → t.passphraseInfo = g :=
    fun g s t h hs => h.trans hs
  have herase : ∀ area, Triple before (eraseArea env i area) (fun _ => before) (fun _ _ => False)
      before := by
    intro area
    have hwrite : ∀ (t : Device) (b : Bool) g, before t →
        before (if b then t.countWrite.setFlash i area g else t.countWrite) := by
      intro t b g ht
      cases b with
      | true => exact ht
      | false => exact ht
    exact triple_each _ fun a _ => triple_flashWrite (fun t ht _ => hwrite t true _ ht)
      (fun t _ b ht _ => hwrite t b _ ht) fun t b ht _ => hwrite t b _ ht
  refine triple_bind (Q := fun _ => before) (triple_attempt (triple_conseq (triple_of_frame
    (frame_zeroPages env hblind fun _ _ => rfl) (hkeep _)) (fun _ h => h) (fun _ _ h => h)
    (fun _ _ h => h) fun _ h => .inl h)) fun ret => ?_
  have hdelete : Triple before (deleteAccountPublicInfo env i) (fun _ => before)
      (fun _ _ => False) before :=
    triple_bind (herase _) fun _ => triple_bind (herase _) fun _ =>
      triple_bind (herase _) fun _ => triple_modify fun _ h => h
  refine triple_bind (triple_conseq hdelete (fun _ h => h) (fun _ _ h => h) (fun _ _ h => h.elim)
    fun _ h => .inl h) fun _ => ?_
  refine triple_bind (Q := fun _ => cleared) (triple_modify fun t h => ?_) fun _ => ?_
  · funext j
    show (if j = i then PassphraseInfo.cleared else t.passphraseInfo j) = _
    rw [h]
    rfl
  refine triple_bind (Q := fun _ => cleared) (triple_ignore (triple_conseq (triple_of_frame
    (frame_seHmacEncryptWrite env hblind fun _ => rfl) (hkeep _)) (fun _ h => h)
    (fun _ _ h => h) (fun _ _ h => h) fun _ h => .inr h)) fun _ => ?_
  refine triple_bind (Q := fun _ => cleared) (triple_modify fun _ h => h) fun _ => ?_
  refine triple_bind (Q := fun _ => cleared) (triple_modify fun _ h => h) fun _ => ?_
  cases ret with
  | ok => exact triple_pure fun _ h => h
  | error e => exact triple_throw fun _ h => h

theorem destroyAccount_others (d : Device) {j : AccountIndex} (h : j ≠ i) :
    recordOf (destroyAccount env i d).2 j = recordOf d j ∧
      keyParams (paramOf (destroyAccount env i d).2 j) = keyParams (paramOf d j) := by
  have hf := ignoresAccount_cellsOf h
  have hcells : cellsOf j (destroyAccount env i d).2 = cellsOf j d :=
    frame_destroyAccount env hf.toIgnoresPublicInfo (fun k d => hf.pages k d _) hf.passphrase
      (ignoresLogin_cellsOf j).toIgnoresSession d
  refine ⟨recordOf_congr hcells, ?_⟩
  rw [paramOf_congr hcells]

end

/-- A passphrase that is set fits, and nothing fails unnoticed or after it is recorded. -/
def PassphraseOp.GoesThrough (env : Env) (op : PassphraseOp) (t : PassphraseRun) : Prop :=
  ∀ passphrase password, op = .set passphrase password → t.stopped = false →
    ∀ i, t.device.currentAccountIndex = some i →
      Keystone3.GoesThrough env i passphrase password t.device

section

variable {env : Env} {t : PassphraseRun}

theorem RecordsRight.kept (h : RecordsRight env t) (hrun : t.stopped = false) {d : Device}
    (hpass : d.passphraseInfo = t.device.passphraseInfo) (hsecrets : SecretsKept t.device d)
    (b : Bool) : RecordsRight env ⟨d, t.lastSet, b⟩ := by
  refine ⟨?_, ?_, ?_⟩
  · intro i
    show (d.passphraseInfo i).Agrees
    rw [hpass]
    exact h.agrees i
  · intro _ i
    show (d.passphraseInfo i).passphrase = _
    rw [hpass]
    exact h.last hrun i
  · intro _ i hne
    change (d.passphraseInfo i).passphrase ≠ [] at hne
    show FingerprintOf env i (d.passphraseInfo i).passphrase (d.passphraseInfo i).mfp d
    rw [hpass] at hne ⊢
    exact (h.mfp hrun i hne).congr (hsecrets i).1 (hsecrets i).2

theorem RecordsRight.write (h : RecordsRight env t) (hrun : t.stopped = false) {d : Device}
    {i : AccountIndex} {p : PassphraseInfo} {x : CString}
    (hpass : d.passphraseInfo = setAt t.device.passphraseInfo i p) (hagrees : p.Agrees)
    (hx : p.passphrase = x) (hmfp : x ≠ [] → FingerprintOf env i x p.mfp d)
    (hothers : ∀ j, j ≠ i → recordOf d j = recordOf t.device j ∧
      keyParams (paramOf d j) = keyParams (paramOf t.device j)) :
    RecordsRight env ⟨d, setAt t.lastSet i x, false⟩ := by
  refine ⟨?_, ?_, ?_⟩
  · intro j
    show (d.passphraseInfo j).Agrees
    rw [hpass]
    by_cases hj : j = i
    · rw [hj, setAt_self]
      exact hagrees
    · rw [setAt_ne _ _ hj]
      exact h.agrees j
  · intro _ j
    show (d.passphraseInfo j).passphrase = setAt t.lastSet i x j
    rw [hpass]
    by_cases hj : j = i
    · rw [hj, setAt_self, setAt_self]
      exact hx
    · rw [setAt_ne _ _ hj, setAt_ne _ _ hj]
      exact h.last hrun j
  · intro _ j hne
    change (d.passphraseInfo j).passphrase ≠ [] at hne
    show FingerprintOf env j (d.passphraseInfo j).passphrase (d.passphraseInfo j).mfp d
    rw [hpass] at hne ⊢
    by_cases hj : j = i
    · rw [hj, setAt_self] at hne ⊢
      rw [hx] at hne ⊢
      exact hmfp hne
    · rw [setAt_ne _ _ hj] at hne ⊢
      exact (h.mfp hrun j hne).congr (hothers j hj).1 (hothers j hj).2

theorem recordsRight_stopped {d : Device} {g : AccountIndex → CString}
    (h : ∀ i, (d.passphraseInfo i).Agrees) : RecordsRight env ⟨d, g, true⟩ :=
  ⟨h, fun hrun => (by cases hrun), fun hrun => (by cases hrun)⟩

theorem agrees_setAt {g g' : AccountIndex → PassphraseInfo} {i : AccountIndex} {p : PassphraseInfo}
    (h : ∀ j, (g j).Agrees) (hp : p.Agrees) (hg : g' = g ∨ g' = setAt g i p) :
    ∀ j, (g' j).Agrees := by
  intro j
  rcases hg with hg | hg
  · rw [hg]
    exact h j
  · rw [hg]
    by_cases hj : j = i
    · rw [hj, setAt_self]
      exact hp
    · rw [setAt_ne _ _ hj]
      exact h j

theorem passphraseStep_running (op : PassphraseOp) (hrun : t.stopped = false) :
    passphraseStep env op t = op.ended t (op.routine env t.device) := by
  unfold passphraseStep
  rw [hrun]
  rfl

private theorem step_login (h : RecordsRight env t) (hrun : t.stopped = false)
    (password : CString) : RecordsRight env (passphraseStep env (.login password) t) := by
  obtain ⟨hpass, hsecrets⟩ := @login_kept env password t.device
  rw [passphraseStep_running _ hrun]
  show RecordsRight env (PassphraseOp.ended _ t (verifyPasswordAndLogin env password t.device))
  cases hlogin : verifyPasswordAndLogin env password t.device with
  | mk r d =>
    rw [hlogin] at hpass hsecrets
    cases r with
    | ok _ => exact h.kept hrun hpass hsecrets false
    | error _ => exact h.kept hrun hpass hsecrets false
    | halted => exact h.kept hrun hpass hsecrets true

private theorem step_set (h : RecordsRight env t) (hrun : t.stopped = false)
    (passphrase password : CString)
    (hthrough : (PassphraseOp.set passphrase password).GoesThrough env t) :
    RecordsRight env (passphraseStep env (.set passphrase password) t) := by
  rw [passphraseStep_running _ hrun]
  show RecordsRight env (PassphraseOp.ended _ t
    (onCurrent (fun i => setPassphrase env i passphrase password) t.device))
  unfold onCurrent
  rw [get_bind]
  cases hcur : t.device.currentAccountIndex with
  | none => exact recordsRight_stopped h.agrees
  | some i =>
    have hi := hthrough passphrase password rfl hrun i hcur
    have hset := triple_setPassphrase hi hcur t.device rfl
    have hagrees : ∀ mfp, (recordedPassphrase passphrase mfp).Agrees :=
      fun mfp => agrees_recorded hi.fits
    show RecordsRight env (PassphraseOp.ended _ t (setPassphrase env i passphrase password t.device))
    cases hend : setPassphrase env i passphrase password t.device with
    | mk r d =>
      rw [hend] at hset
      cases r with
      | ok _ =>
        obtain ⟨hsecrets, mfp, hrecorded, hmfp⟩ := hset
        have hright := h.write hrun hrecorded (hagrees mfp) (passphrase_recorded hi.fits)
          (fun hne => ?_) fun j _ => hsecrets j
        · show RecordsRight env ⟨d, PassphraseOp.noted _ true t, false⟩
          have hnoted : (PassphraseOp.set passphrase password).noted true t =
              setAt t.lastSet i passphrase := by
            unfold PassphraseOp.noted
            rw [hcur]
            rfl
          rw [hnoted]
          exact hright
        · have hempty : passphrase.isEmpty = false := by
            cases passphrase with
            | nil => exact absurd rfl hne
            | cons _ _ => rfl
          have hrec : (recordedPassphrase passphrase mfp).mfp = mfp := by
            unfold recordedPassphrase
            rw [hempty]
            rfl
          rw [hrec]
          exact (hmfp hne).congr (hsecrets i).1 (hsecrets i).2
      | error e =>
        obtain ⟨n, hn⟩ := hset
        show RecordsRight env ⟨d, PassphraseOp.noted _ false t, false⟩
        have hnoted : (PassphraseOp.set passphrase password).noted false t = t.lastSet := by
          unfold PassphraseOp.noted
          rw [hcur]
          rfl
        rw [hnoted, hn]
        exact h.kept (d := t.device.countReads n) hrun rfl (secretsKept_of_cells fun _ => rfl) false
      | halted =>
        refine recordsRight_stopped ?_
        rcases hset with hsame | hset
        · exact agrees_setAt (i := i) h.agrees (hagrees (Block.zero 4)) (.inl hsame)
        · obtain ⟨mfp, hrecorded⟩ := hset
          exact agrees_setAt h.agrees (hagrees mfp) (.inr hrecorded)

private theorem step_destroy (h : RecordsRight env t) (hrun : t.stopped = false)
    (i : AccountIndex) : RecordsRight env (passphraseStep env (.destroy i) t) := by
  have hrecords := @triple_destroyAccount_records env i t.device t.device rfl
  have hothers : ∀ j, j ≠ i → _ := fun j hj => @destroyAccount_others env i t.device j hj
  rw [passphraseStep_running _ hrun]
  show RecordsRight env (PassphraseOp.ended _ t (destroyAccount env i t.device))
  cases hend : destroyAccount env i t.device with
  | mk r d =>
    rw [hend] at hrecords hothers
    cases r with
    | ok _ =>
      exact h.write hrun hrecords PassphraseInfo.agrees_cleared rfl (fun hne => absurd rfl hne)
        hothers
    | error _ =>
      exact h.write hrun hrecords PassphraseInfo.agrees_cleared rfl (fun hne => absurd rfl hne)
        hothers
    | halted =>
      exact recordsRight_stopped (agrees_setAt h.agrees PassphraseInfo.agrees_cleared hrecords)

theorem step_right (op : PassphraseOp) (t : PassphraseRun) (hthrough : op.GoesThrough env t)
    (h : RecordsRight env t) : RecordsRight env (passphraseStep env op t) := by
  cases hrun : t.stopped with
  | true =>
    unfold passphraseStep
    rw [hrun]
    exact h
  | false =>
    cases op with
    | login password => exact step_login h hrun password
    | logout =>
      rw [passphraseStep_running _ hrun]
      exact h.kept (d := { t.device with currentAccountIndex := none }) hrun rfl
        (secretsKept_of_cells fun _ => rfl) false
    | set passphrase password => exact step_set h hrun passphrase password hthrough
    | clear i =>
      rw [passphraseStep_running _ hrun]
      exact h.write hrun rfl PassphraseInfo.agrees_cleared rfl (fun hne => absurd rfl hne)
        fun _ _ => ⟨rfl, rfl⟩
    | destroy i => exact step_destroy h hrun i

def poweredOn (d : Device) : PassphraseRun := ⟨d, fun _ => [], false⟩

theorem recordsRight_poweredOn {d : Device}
    (h : ∀ i, d.passphraseInfo i = PassphraseInfo.cleared) : RecordsRight env (poweredOn d) := by
  refine ⟨?_, ?_, ?_⟩
  · intro i
    show (d.passphraseInfo i).Agrees
    rw [h i]
    exact PassphraseInfo.agrees_cleared
  · intro _ i
    show (d.passphraseInfo i).passphrase = []
    rw [h i]
    rfl
  · intro _ i hne
    refine absurd ?_ hne
    show (d.passphraseInfo i).passphrase = []
    rw [h i]
    rfl

/-- **In every run whose passphrases are shorter than 128 characters and whose settings go
through, the flag says whether there is a passphrase, the passphrase is the one last set,
its fingerprint is that of the seed under it, and `PassphraseExist` returns.** -/
theorem passphrases_right (env : Env) (ops : List PassphraseOp) (d : Device)
    (hclear : ∀ i, d.passphraseInfo i = PassphraseInfo.cleared)
    (hthrough : AllSteps (passphraseStep env) (PassphraseOp.GoesThrough env) ops (poweredOn d)) :
    RecordsRight env (runSteps (passphraseStep env) ops (poweredOn d)) ∧
      ∀ i, ∃ b, passphraseExist i (runSteps (passphraseStep env) ops (poweredOn d)).device =
        (.ok b, (runSteps (passphraseStep env) ops (poweredOn d)).device) := by
  have hright := runSteps_inv_of step_right ops (poweredOn d) hthrough (recordsRight_poweredOn hclear)
  exact ⟨hright, fun i => passphraseExist_returns_iff.mpr (hright.agrees i)⟩

def setAndClear : List PassphraseOp := [.set [9] sessionPassword, .clear 0]

theorem passphrases_right_sample :
    RecordsRight (sessionEnv fun _ => false) (runSteps (passphraseStep (sessionEnv fun _ => false))
      setAndClear (poweredOn (sessionDevice (sessionEnv fun _ => false)))) := by
  have hcleared : ∀ i : AccountIndex, (sessionDevice (sessionEnv fun _ => false)).passphraseInfo i =
      PassphraseInfo.cleared := by decide +kernel
  have hcur : (sessionDevice (sessionEnv fun _ => false)).currentAccountIndex = some 0 := by
    decide +kernel
  have hstore : (storePassphrase (sessionEnv fun _ => false) 0 [9] sessionPassword
      (sessionDevice (sessionEnv fun _ => false))).1 = .ok true := by decide +kernel
  have hswitch : ((SwitchCall.temp 0 sessionPassword true).prog (sessionEnv fun _ => false)
      (storePassphrase (sessionEnv fun _ => false) 0 [9] sessionPassword
        (sessionDevice (sessionEnv fun _ => false))).2).1 = .ok () := by decide +kernel
  refine (passphrases_right _ setAndClear _ hcleared ⟨?_, ?_, trivial⟩).1
  · intro passphrase password hop _ i hi
    cases hop
    have hi : i = 0 := (Option.some.inj (hcur.symm.trans hi)).symm
    rw [hi]
    refine ⟨by decide, by decide +kernel, ?_, ?_, ?_⟩
    · intro hslip
      exact absurd hslip (by decide +kernel)
    · intro t ht
      rw [show (poweredOn (sessionDevice (sessionEnv fun _ => false))).device =
        sessionDevice (sessionEnv fun _ => false) from rfl] at ht
      rw [ht] at hstore
      cases hstore
    · intro t ht e t' hrun
      rw [show (poweredOn (sessionDevice (sessionEnv fun _ => false))).device =
        sessionDevice (sessionEnv fun _ => false) from rfl] at ht
      rw [ht] at hswitch
      rw [show (SwitchCall.temp 0 sessionPassword true).prog (sessionEnv fun _ => false) t =
        (.error e, t') from hrun] at hswitch
      cases hswitch
  · intro passphrase password hop
    cases hop

/-- A passphrase of 128 characters: the string is left empty, the flag is set, and the
assertion stops the device. -/
theorem long_passphrase_stops : ¬ RecordsRight (sessionEnv fun _ => false)
    (runSteps (passphraseStep (sessionEnv fun _ => false))
      [.set (List.replicate 128 9) sessionPassword]
      (poweredOn (sessionDevice (sessionEnv fun _ => false)))) := by
  intro h
  have hagrees : ((runSteps (passphraseStep (sessionEnv fun _ => false))
      [.set (List.replicate 128 9) sessionPassword]
      (poweredOn (sessionDevice (sessionEnv fun _ => false)))).device.passphraseInfo
        0).passphraseExist = _ := h.agrees 0
  exact absurd hagrees (by decide +kernel)

end

end Keystone3
