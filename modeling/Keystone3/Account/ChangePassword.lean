import Keystone3.Account.ErrorCount

/-!
# Changing a password

`changePassword` loads the secret with the old password and saves it again with the new
one, over the same pages and key slots. There is no second copy: from the moment the
first key slot is changed until the last page is written the device holds a mixture that
neither password opens.

In between the secret is lost (`changePassword_loses_secret`).
-/

namespace Keystone3

open Logic (AllSteps runSteps_inv_of)
open Logic.Prog
open Bytes (Block)

def Holds (env : Env) (d : Device) (i : AccountIndex) (password : CString)
    (s : AccountSecret) : Prop :=
  Authorized env d i password ∧
    openAccount env (storedPieces env d i password) (recordOf d i) (paramOf d i).entropyLen = .ok s

def openCells (i : AccountIndex) (d : Device) :
    (Page × Page × Page × Page) × AccountRecord × AccountInfo :=
  (pieceCells i d, recordOf d i, paramOf d i)

/-- Two sets of key pieces that authenticate one record open it to one secret. -/
def Authentic (env : Env) : Prop :=
  ∀ (r : AccountRecord) (entropyLen : UInt8) (pieces pieces' : Block 64) (s s' : AccountSecret),
    openAccount env pieces r entropyLen = .ok s → openAccount env pieces' r entropyLen = .ok s' →
      s' = s

section

variable {env : Env} {d d' : Device} {i : AccountIndex} {password : CString} {s : AccountSecret}

theorem holds_congr (h : openCells i d' = openCells i d) (hd : Holds env d i password s) :
    Holds env d' i password s := by
  have hpieces : pieceCells i d' = pieceCells i d := congrArg Prod.fst h
  have hrecord : recordOf d' i = recordOf d i := congrArg (fun x => x.2.1) h
  have hparam : paramOf d' i = paramOf d i := congrArg (fun x => x.2.2) h
  refine ⟨authorized_of_pieceCells hpieces hd.1, ?_⟩
  rw [storedPieces_of_pieceCells hpieces, hrecord, hparam]
  exact hd.2

theorem openCells_of_cellsOf (h : cellsOf i d' = cellsOf i d) : openCells i d' = openCells i d := by
  have hpage : ∀ k, d'.page (accountPage i k) = d.page (accountPage i k) :=
    fun k => congrFun (congrArg AccountCells.page h) k
  have hauth : d'.slot (getAccountSlot i).auth = d.slot (getAccountSlot i).auth :=
    congrArg AccountCells.auth h
  have hroll : d'.slot (getAccountSlot i).rollKdf = d.slot (getAccountSlot i).rollKdf :=
    congrArg AccountCells.rollKdf h
  have hhost : d'.slot (getAccountSlot i).hostKdf = d.slot (getAccountSlot i).hostKdf :=
    congrArg AccountCells.hostKdf h
  unfold openCells pieceCells
  rw [recordOf_congr h, paramOf_congr h, hauth, hroll, hhost, hpage]

theorem Holds.loads (h : Holds env d i password s) (g : Block 64) :
    loads env g i password d = .ok s := by
  have hloaded : loaded env g d i password = .ok s := by
    unfold loaded
    rw [if_pos h.1]
    exact h.2
  refine (loadAccountSecret_ideal (env.withStack g) i password d).trans ?_
  show ((ofExcept (loaded env g d i password) : Account AccountSecret) d).1 = .ok s
  rw [hloaded]
  rfl

theorem holds_of_sealed (hs : Sealed env d i password s)
    (hlen : effectiveEntropyLen (paramOf d i) = s.entropyLen) : Holds env d i password s := by
  obtain ⟨ha, k, hr⟩ := hs
  refine ⟨ha, ?_⟩
  have he : (if (paramOf d i).entropyLen = 0 then (32 : UInt8) else (paramOf d i).entropyLen)
      = s.entropyLen := hlen
  rw [hr, openAccount_sealAccount, he]

end

section

variable {env : Env} {i : AccountIndex} {r : AccountRecord} {a : AccountInfo}

private def Has (i : AccountIndex) (r : AccountRecord) (a : AccountInfo) (d : Device) : Prop :=
  recordOf d i = r ∧ paramOf d i = a

private theorem reading_has : Reading (Holding (Has i r a)) where
  toPreorder := holding_preorder _
  read _ h := h

private theorem triple_readPage {k : PageIndex} {x : Page}
    (h : ∀ d, Has i r a d → d.page (accountPage i k) = x) :
    Triple (Has i r a) (seHmacEncryptRead env (accountPage i k)) (fun y d => Has i r a d ∧ y = x)
      (fun _ _ => True) (fun _ => True) :=
  triple_seRead (fun d hd _ => ⟨hd, h d hd⟩) (fun _ _ _ _ _ => trivial) fun _ _ _ _ => trivial

theorem triple_readRecord :
    Triple (Has i r a) (readRecord env i) (fun r' d => Has i r a d ∧ r' = r)
      (fun _ _ => True) (fun _ => True) := by
  refine triple_bind_value (triple_readPage fun d hd => congrArg (·.iv) hd.1) ?_
  refine triple_bind_value (triple_readPage fun d hd => congrArg (·.encryptEntropy) hd.1) ?_
  refine triple_bind_value (triple_readPage fun d hd => congrArg (·.encryptSeedH32) hd.1) ?_
  refine triple_bind_value (triple_readPage fun d hd => congrArg (·.encryptSeedL32) hd.1) ?_
  refine triple_bind_value
    (triple_readPage fun d hd => congrArg (·.slip39EmsOrTonEntropyL32) hd.1) ?_
  refine triple_bind_value (triple_readPage fun d hd => congrArg (·.encryptReservedData) hd.1) ?_
  refine triple_bind_value (triple_readPage fun d hd => congrArg (·.hmac) hd.1) ?_
  exact triple_pure fun d hd => ⟨hd, rfl⟩

theorem triple_loadAccountSecret (password : CString) :
    Triple (Has i r a) (loadAccountSecret env i password)
      (fun s _ => ∃ pieces, openAccount env pieces r a.entropyLen = .ok s)
      (fun _ _ => True) (fun _ => True) := by
  have hkeep : ∀ {α : Type} {x : Account α}, Frame (Holding (Has i r a)) x →
      Triple (Has i r a) x (fun _ => Has i r a) (fun _ _ => True) (fun _ => True) := by
    intro α x hx
    exact triple_conseq (triple_of_frame (I := Has i r a) hx fun _ _ h hI => h hI)
      (fun _ h => h) (fun _ _ h => h) (fun _ _ _ => trivial) fun _ _ => trivial
  refine triple_bind (hkeep (frame_ignore (frame_getAccountInfo env reading_has i))) fun _ => ?_
  refine triple_bind (hkeep (frame_stackGarbage env reading_has.toPreorder)) fun g => ?_
  refine triple_bind (hkeep (frame_getKeyPieceFromSE reading_has g)) fun got => ?_
  refine triple_bind_value triple_readRecord ?_
  refine triple_bind (Q := fun x _ => AccountInfo.ofPage x = a)
    (triple_seRead (fun d hd _ => hd.2) (fun _ _ _ _ _ => trivial) fun _ _ _ _ => trivial)
    fun x => ?_
  rintro d rfl
  cases hopen : openAccount env got.2 r (AccountInfo.ofPage x).entropyLen with
  | ok s => exact ⟨got.2, hopen⟩
  | error e => exact trivial

end

def SeReply.untouched : SeReply → Bool
  | .answered => false
  | .refused _ applied => !applied
  | .stopped applied => !applied

/-- The call gets as far as writing: the new password is free and the secret
loads. -/
def Rekeys (env : Env) (i : AccountIndex) (newPassword password : CString) (d : Device) : Prop :=
  ∃ s, ((do
    checkPasswordExisted env newPassword (some i)
    loadAccountSecret env i password : Account AccountSecret) d).1 = .ok s

/-- The failures of a re-keying that lose nothing. -/
def SafeRekey (env : Env) (i : AccountIndex) (newPassword : CString) (d : Device) : Prop :=
  ¬Troubled env d.writes saveWrites ∨
    (env.writeReply d.writes).untouched = true ∨
    (Authorized env d i newPassword ∧ (env.writeReply d.writes ≠ .answered ∨
      (env.writeReply (d.writes + 1)).untouched = true))

def SafeChange (env : Env) (i : AccountIndex) (newPassword password : CString)
    (d : Device) : Prop :=
  Rekeys env i newPassword password d → SafeRekey env i newPassword d

section

variable {env : Env} {i : AccountIndex} {newPassword password : CString} {s : AccountSecret}
  {d : Device}

theorem setSlot_same {k : Nat} {x : Page} (h : d.slot k = x) : d.setSlot k x = d := by
  have hslot : (d.setSlot k x).slot = d.slot := by
    funext t
    by_cases ht : t = k
    · subst ht
      rw [Device.setSlot_self, h]
    · exact Device.setSlot_ne d x ht
  show ({ d with slot := (d.setSlot k x).slot } : Device) = d
  rw [hslot]

theorem triple_seWrite_untouched {P Q : Device → Prop} {effect : Device → Device}
    (hu : ∀ x, P x → (env.writeReply x.writes).untouched = true)
    (h : ∀ x : Device, P x → Q x.countWrite) :
    Triple P (seWrite env effect) (fun _ _ => False) (fun _ => Q) Q := by
  refine triple_seWrite (fun x hx hr => ?_) (fun x st applied hx hr => ?_) fun x applied hx hr => ?_
  · have hux := hu x hx
    rw [hr] at hux
    exact nomatch hux
  · have hux := hu x hx
    rw [hr] at hux
    cases applied with
    | true => exact nomatch hux
    | false => exact h x hx
  · have hux := hu x hx
    rw [hr] at hux
    cases applied with
    | true => exact nomatch hux
    | false => exact h x hx

theorem triple_writeSecret_harmless
    (h : (env.writeReply d.writes).untouched = true ∨
      (Authorized env d i newPassword ∧ (env.writeReply d.writes ≠ .answered ∨
        (env.writeReply (d.writes + 1)).untouched = true))) :
    Triple (fun x => x = d) (writeSecret env i s newPassword) (fun _ _ => False)
      (fun _ x => openCells i x = openCells i d) (fun x => openCells i x = openCells i d) := by
  let same := fun x : Device => openCells i x = openCells i d
  -- the first slot gets the key it has, or nothing
  have hauth : Authorized env d i newPassword →
      d.countWrite.setSlot (getAccountSlot i).auth (authKeyOf env newPassword)
        = d.countWrite := fun ha => setSlot_same ha
  have hfirst : Triple (fun x => x = d)
      (seEncryptWrite env (getAccountSlot i).auth (authKeyOf env newPassword))
      (fun _ x => (same x ∧ Authorized env x i newPassword) ∧
        (env.writeReply x.writes).untouched = true) (fun _ => same) same := by
    have hfail : ∀ applied, env.writeReply d.writes ≠ .answered →
        ((env.writeReply d.writes).untouched = true → applied = false) →
        same (if applied then
          d.countWrite.setSlot (getAccountSlot i).auth (authKeyOf env newPassword)
        else d.countWrite) := by
      intro applied hne hu
      cases applied with
      | false => exact rfl
      | true =>
        rcases h with h | ⟨ha, _⟩
        · exact absurd (hu h) Bool.noConfusion
        · rw [if_pos rfl, hauth ha]
          rfl
    refine triple_seWrite ?_ ?_ ?_
    · rintro x rfl hr
      rcases h with h | ⟨ha, h⟩
      · rw [hr] at h
        exact nomatch h
      · rw [hauth ha]
        exact ⟨⟨rfl, ha⟩, h.resolve_left fun hne => hne hr⟩
    · rintro x st applied rfl hr
      refine hfail applied (by rw [hr]; exact SeReply.noConfusion) fun hu => ?_
      rw [hr] at hu
      simpa [SeReply.untouched] using hu
    · rintro x applied rfl hr
      refine hfail applied (by rw [hr]; exact SeReply.noConfusion) fun hu => ?_
      rw [hr] at hu
      simpa [SeReply.untouched] using hu
  have hderive : Triple (fun x => (same x ∧ Authorized env x i newPassword) ∧
        (env.writeReply x.writes).untouched = true)
      (seDeriveKey env (getAccountSlot i).rollKdf (authKeyOf env newPassword))
      (fun _ _ => False) (fun _ => same) same := by
    let ready := fun x : Device => same x ∧ (env.writeReply x.writes).untouched = true
    refine triple_bind (Q := fun _ => ready)
      (triple_authorize (getAuthSlot_rollKdf i) (fun x hx _ => ⟨hx.1.1, hx.2⟩)
        fun x hx hne => absurd hx.1.2 hne) fun _ => ?_
    refine triple_bind (Q := fun _ => ready) (triple_trngGet fun x hx => hx) fun _ => ?_
    exact triple_seWrite_untouched (fun x hx => hx.2) fun x hx => hx.1
  have h608 : Triple (fun x => x = d) (setNewKeyPieceToAtecc608b env i newPassword)
      (fun _ _ => False) (fun _ => same) same :=
    triple_bind hfirst fun _ => triple_bind_never hderive
  exact triple_bind_never (triple_bind_never h608)

theorem openCells_writePasswordHash (j : AccountIndex) :
    Frame (Keeps (openCells i)) (writePasswordHash env j password) := by
  refine frame_seHmacEncryptWrite env ⟨fun _ => rfl, fun _ => rfl, fun _ _ => rfl⟩ fun d => ?_
  have hp : ∀ k, k ≠ pageIndexPasswordHash →
      (d.setPage (accountPage j pageIndexPasswordHash) (passwordHashOf env password)).page
        (accountPage i k) = d.page (accountPage i k) :=
    fun k hk => Device.setPage_ne d _ fun he => hk (accountPage_inj.mp he).2
  unfold openCells pieceCells recordOf paramOf
  rw [hp _ (by decide), hp _ (by decide), hp _ (by decide), hp _ (by decide), hp _ (by decide),
    hp _ (by decide), hp _ (by decide), hp _ (by decide), hp _ (by decide), Device.setPage_slot]

theorem triple_saveAccountSecret_safe (hs : Holds env d i password s)
    (hsafe : SafeRekey env i newPassword d) :
    Triple (fun x => x = d) (saveAccountSecret env i s newPassword false)
      (fun _ x => Holds env x i newPassword s) (fun _ x => Holds env x i password s)
      (fun x => Holds env x i password s) := by
  have hlen : effectiveEntropyLen (paramOf d i) = s.entropyLen := openAccount_entropyLen hs.2
  have hwrite : Triple (fun x => x = d) (writeSecret env i s newPassword)
      (fun _ x => Holds env x i newPassword s) (fun _ x => Holds env x i password s)
      (fun x => Holds env x i password s) := by
    rcases hsafe with hsafe | hsafe
    · have hsealed : Triple (fun x => x.writes = d.writes) (writeSecret env i s newPassword)
          _ _ _ := triple_writeSecret (Nat.le_refl saveWrites)
      have hdone := triple_and hsealed (triple_of_frame (I := fun x => paramOf x i = paramOf d i)
        (frame_writeSecret_param env i s newPassword) fun _ _ h hI => h.trans hI)
      refine triple_conseq hdone ?_ ?_ ?_ ?_
      · rintro x rfl
        exact ⟨rfl, rfl⟩
      · rintro _ x ⟨⟨_, hx⟩, hparam⟩
        exact holds_of_sealed hx (by rw [hparam]; exact hlen)
      · exact fun _ x hx => absurd hx.1.2 hsafe
      · exact fun x hx => absurd hx.1 hsafe
    · exact triple_conseq (triple_writeSecret_harmless hsafe) (fun _ h => h)
        (fun _ _ h => h.elim) (fun _ x hx => holds_congr hx hs) fun x hx => holds_congr hx hs
  exact triple_bind hwrite fun _ => triple_pure fun _ h => h

/-- **A password change that is safe** leaves the secret under the password it
was under, or under the new one. -/
theorem changePassword_holds (hauthentic : Authentic env) {old : CString}
    (hs : Holds env d i password s) (hsafe : SafeChange env i newPassword old d) :
    Holds env (changePassword env i newPassword old d).2 i password s ∨
      Holds env (changePassword env i newPassword old d).2 i newPassword s := by
  have hreading : Reading (Keeps fun d : Device => (cellsOf i d, d.writes)) :=
    reading_keeps fun _ => rfl
  have holds_same : ∀ {t}, cellsOf i t = cellsOf i d → Holds env t i password s :=
    fun h => holds_congr (openCells_of_cellsOf h) hs
  unfold changePassword
  have hcheck := frame_checkPasswordExisted env hreading newPassword (some i) d
  match hc : checkPasswordExisted env newPassword (some i) d with
  | (.error e, t) =>
    rw [hc] at hcheck
    rw [bind_error hc]
    exact .inl (holds_same (congrArg Prod.fst hcheck))
  | (.halted, t) =>
    rw [hc] at hcheck
    rw [bind_halted hc]
    exact .inl (holds_same (congrArg Prod.fst hcheck))
  | (.ok (), t) =>
    rw [hc] at hcheck
    rw [bind_ok hc]
    have hload := frame_loadAccountSecret env hreading i old t
    have hopened : Sat _ _ _ (loadAccountSecret env i old t) :=
      triple_loadAccountSecret old t ⟨rfl, rfl⟩
    match hl : loadAccountSecret env i old t with
    | (.error e, u) =>
      rw [hl] at hload
      rw [bind_error hl]
      exact .inl (holds_same (congrArg Prod.fst (hload.trans hcheck)))
    | (.halted, u) =>
      rw [hl] at hload
      rw [bind_halted hl]
      exact .inl (holds_same (congrArg Prod.fst (hload.trans hcheck)))
    | (.ok s', u) =>
      rw [hl] at hload hopened
      rw [bind_ok hl]
      have ht : Holds env t i password s := holds_same (congrArg Prod.fst hcheck)
      have hkept := hload.trans hcheck
      have hu : Holds env u i password s := holds_same (congrArg Prod.fst hkept)
      -- whatever pieces opened the record, they opened it to the same secret
      obtain ⟨pieces, hpieces⟩ := hopened
      obtain rfl : s' = s := hauthentic _ _ _ _ _ _ ht.2 hpieces
      have hrekey : SafeRekey env i newPassword d := by
        refine hsafe ⟨s', ?_⟩
        rw [bind_ok hc, hl]
      have hrekey' : SafeRekey env i newPassword u := by
        have hw : u.writes = d.writes := congrArg Prod.snd hkept
        have ha : Authorized env u i newPassword ↔ Authorized env d i newPassword :=
          authorized_congr (congrArg Prod.fst hkept)
        unfold SafeRekey
        rw [hw, ha]
        exact hrekey
      have hsave := triple_saveAccountSecret_safe hu hrekey' u rfl
      match hr : saveAccountSecret env i s' newPassword false u with
      | (.error e, v) =>
        rw [hr] at hsave
        rw [bind_error hr]
        exact .inl hsave
      | (.halted, v) =>
        rw [hr] at hsave
        rw [bind_halted hr]
        exact .inl hsave
      | (.ok (), v) =>
        rw [hr] at hsave
        rw [bind_ok hr]
        exact .inr (holds_congr (openCells_writePasswordHash i v) hsave)

end

section

variable {env : Env} {i : AccountIndex}

theorem ignoresLogin_cellsOf (i : AccountIndex) : IgnoresLogin (cellsOf i) where
  info _ _ := rfl
  current _ _ := rfl
  publicKeys j :=
    { writes := fun _ => rfl, reads := fun _ => rfl, draws := fun _ _ => rfl
      hash := cellsOf_setPage fun k => accountPage_ne_walletHashPage i j k
      flash := fun _ _ _ => rfl, keys := fun _ _ => rfl, temp := fun _ _ => rfl
      isTemp := fun _ _ => rfl }
  last _ _ := rfl
  counters _ _ := rfl
  counterPage := cellsOf_setPage fun k => accountPage_ne_pagePublicInfo i k

theorem setAndSave_cellsOf {f : AccountInfo → AccountInfo} {d : Device}
    (h : d.currentAccountIndex ≠ some i) :
    cellsOf i (setAndSave env f d).2 = cellsOf i d := by
  let elsewhere := fun d : Device => if d.currentAccountIndex = some i then none
    else some (d.currentAccountIndex, cellsOf i d)
  have hignores : IgnoresInfo elsewhere :=
    { writes := fun _ => rfl, reads := fun _ => rfl, draws := fun _ _ => rfl
      info := fun _ _ => rfl
      param := by
        intro d j x hj
        by_cases hji : j = i
        · subst hji
          exact (if_pos hj).trans (if_pos hj).symm
        · have hcells := cellsOf_setPage (j := i)
            (fun k => accountPage_other (Ne.symm hji) k pageIndexParam) d x
          show (if _ then none else some (_, cellsOf i (d.setPage _ x))) = _
          rw [hcells]
          rfl }
  have hkeep : elsewhere (setAndSave env f d).2 = elsewhere d := frame_setAndSave env hignores f d
  have hd : elsewhere d = some (d.currentAccountIndex, cellsOf i d) := if_neg h
  rw [hd] at hkeep
  by_cases hi : (setAndSave env f d).2.currentAccountIndex = some i
  · exact nomatch (if_pos hi).symm.trans hkeep
  · exact congrArg Prod.snd (Option.some.inj ((if_neg hi).symm.trans hkeep))

/-- Both or neither of the two pages that the boot check looks at are written. -/
def Consistent (i : AccountIndex) (d : Device) : Prop :=
  checkEntropy (d.page (accountPage i pageIndexIv))
    = checkEntropy (d.page (accountPage i pageIndexPasswordHash))

private def Quiet (i : AccountIndex) (c : AccountCells) (d : Device) : Prop :=
  cellsOf i d = c ∧ storedCount d < 10 ∧ ramCount d < 10

private theorem quiet_congr {c : AccountCells} {d d' : Device}
    (h : (cellsOf i d', counters d') = (cellsOf i d, counters d)) (hd : Quiet i c d) :
    Quiet i c d' := by
  have hcells : cellsOf i d' = cellsOf i d := congrArg Prod.fst h
  have hram : d'.publicInfo = d.publicInfo := congrArg (fun x => x.2.1) h
  have hpage : d'.page pagePublicInfo = d.page pagePublicInfo := congrArg (fun x => x.2.2) h
  unfold Quiet storedCount ramCount
  rw [hcells, hram, hpage]
  exact hd

private theorem quiet_accountDataCheck {c : AccountCells}
    (hc : checkEntropy (c.page pageIndexIv) = checkEntropy (c.page pageIndexPasswordHash))
    (j : AccountIndex) : Frame (Holding (Quiet i c)) (accountDataCheck env j) := by
  by_cases hj : j = i
  · subst hj
    have hread : ∀ k, Triple (Quiet j c) (seHmacEncryptRead env (accountPage j k))
        (fun x d => Quiet j c d ∧ x = c.page k) (fun _ => Quiet j c) (Quiet j c) := by
      intro k
      refine triple_seRead (fun d hd _ => ⟨hd, ?_⟩) (fun _ _ _ hd _ => hd) fun _ _ hd _ => hd
      exact congrFun (congrArg AccountCells.page hd.1) k
    have hcheck : Triple (Quiet j c) (accountDataCheck env j) (fun _ => Quiet j c)
        (fun _ => Quiet j c) (Quiet j c) := by
      refine triple_bind_value (hread pageIndexIv) ?_
      refine triple_bind_value (hread pageIndexPasswordHash) ?_
      rw [hc, bne_self_eq_false, if_neg Bool.false_ne_true]
      exact triple_pure fun _ hd => hd
    exact fun d hd => triple_snd hcheck hd
  · have hblind : Blind fun d : Device => (cellsOf i d, counters d) :=
      ⟨fun _ => rfl, fun _ => rfl, fun _ _ => rfl⟩
    refine frame_mono (fun d d' h hd => quiet_congr h hd)
      (frame_accountDataCheck env hblind fun k d => ?_)
    have hcells := (ignoresAccount_cellsOf (Ne.symm hj)).pages k d (Block.zero 32)
    have hcounters := counters_setPage (accountPage_ne_pagePublicInfo j k).symm d (Block.zero 32)
    rw [hcells, hcounters]

theorem powerOn_cellsOf {d : Device} (hconsistent : Consistent i d) (hcount : storedCount d < 10) :
    cellsOf i (powerOn env false d).2 = cellsOf i d := by
  have hR := holding_preorder (Quiet i (cellsOf i d))
  have hrest : Frame (Holding (Quiet i (cellsOf i d))) (do
      accountsDataCheck env
      ignore (accountManagerInit env)
      powerOnSelfCheck env false : Account Unit) := by
    refine frame_bind hR (frame_ignore (frame_each hR accountIndices fun j _ =>
      quiet_accountDataCheck (c := cellsOf i d) hconsistent j)) fun _ => ?_
    refine frame_bind hR (frame_ignore ?_) fun _ => ?_
    · have hinit : Triple (Quiet i (cellsOf i d)) (accountManagerInit env)
          (fun _ => Quiet i (cellsOf i d)) (fun _ => Quiet i (cellsOf i d))
          (Quiet i (cellsOf i d)) := by
        refine triple_bind (Q := fun x t => Quiet i (cellsOf i d) t ∧ x = t.page pagePublicInfo)
          (triple_seRead (fun t ht _ => ⟨ht, rfl⟩) (fun _ _ _ ht _ => ht) fun _ _ ht _ => ht)
          fun x => triple_modify fun t ht => ?_
        obtain ⟨ht, rfl⟩ := ht
        exact ⟨ht.1, ht.2.1, ht.2.1⟩
      exact fun t ht => triple_snd hinit ht
    · intro t ht
      have hlow : accountManagerIsNeedReset t = false := by
        unfold accountManagerIsNeedReset
        rw [Bool.not_eq_false', decide_eq_true_iff, UInt8.lt_iff_toNat_lt]
        exact ht.2.2
      unfold powerOnSelfCheck
      rw [get_bind, hlow, Bool.or_false, if_neg Bool.false_ne_true]
      exact ht
  have hstart : Quiet i (cellsOf i d) d.restart := ⟨rfl, hcount, Nat.zero_lt_succ 9⟩
  exact (hrest d.restart hstart).1

/-- A call of a run that leaves account `i` to its password changes: no other
call creates, destroys, sets or wipes it, and its password changes are safe. -/
def Undisturbed (env : Env) (i : AccountIndex) (op : KeystoreOp) (d : Device) : Prop :=
  match op with
  | .create j _ _ => j ≠ i
  | .destroy j => j ≠ i
  | .changePassword j newPassword password =>
    j = i → SafeChange env i newPassword password d
  | .store _ => d.currentAccountIndex ≠ some i
  | .powerOn wipeFlag => wipeFlag = false ∧ storedCount d < 10 ∧ Consistent i d
  | _ => True

theorem step_cellsOf {op : KeystoreOp} {d : Device} (h : Undisturbed env i op d)
    (hop : ∀ newPassword password, op ≠ .changePassword i newPassword password) :
    cellsOf i (op.step env d) = cellsOf i d := by
  have hf := ignoresLogin_cellsOf i
  cases op with
  | create j c password => exact createAccount_cellsOf (Ne.symm h) env c password d
  | changePassword j newPassword password =>
    refine changePassword_cellsOf (fun hj => ?_) env newPassword password d
    subst hj
    exact hop newPassword password rfl
  | destroy j => exact destroyAccount_cellsOf (Ne.symm h) env d
  | login password => exact frame_verifyPasswordAndLogin env hf password d
  | verifyCurrent password => exact frame_verifyCurrentAccountPassword env hf password d
  | clearErrorCounts => exact frame_clearCurrentPasswordErrorCount env hf d
  | setLastLockDeviceTime t => exact frame_setLastLockDeviceTime env hf t d
  | erasePublicInfo => exact frame_erasePublicInfo env hf d
  | setCurrentAccountIndex => rfl
  | logout => rfl
  | store f => exact setAndSave_cellsOf h
  | powerOn wipeFlag =>
    obtain ⟨rfl, hcount, hconsistent⟩ := h
    exact powerOn_cellsOf hconsistent hcount

end

/-- Each call of the run leaves account `i` to safe password changes. -/
def UndisturbedRun (env : Env) (i : AccountIndex) : List KeystoreOp → Device → Prop :=
  AllSteps (KeystoreOp.step env) (Undisturbed env i)

theorem step_holds {env : Env} (hauthentic : Authentic env) {i : AccountIndex} {s : AccountSecret}
    {op : KeystoreOp} {d : Device} (h : Undisturbed env i op d)
    (hd : ∃ p, Holds env d i p s) : ∃ p, Holds env (op.step env d) i p s := by
  obtain ⟨p, hd⟩ := hd
  by_cases hop : ∃ newPassword password, op = .changePassword i newPassword password
  · obtain ⟨newPassword, password, rfl⟩ := hop
    rcases changePassword_holds hauthentic hd (h rfl) with h' | h'
    · exact ⟨p, h'⟩
    · exact ⟨newPassword, h'⟩
  · have hcells := step_cellsOf h fun newPassword password he => hop ⟨_, _, he⟩
    exact ⟨p, holds_congr (openCells_of_cellsOf hcells) hd⟩

/-- **A password change loses no secret**, in any run whose password changes of
the account are safe. The account still has its secret, and a further safe
change from its password, at whatever operation it fails, leaves the secret
loading with the old password or with the new one. -/
theorem changePassword_keeps_secret (env : Env) (hauthentic : Authentic env)
    (ops : List KeystoreOp) (i : AccountIndex) (s : AccountSecret) (d : Device)
    (hd : ∃ p, Holds env d i p s) (hrun : UndisturbedRun env i ops d) :
    (∃ p, Holds env (runOps env ops d) i p s) ∧
    ∀ newPassword password, Holds env (runOps env ops d) i password s →
      SafeChange env i newPassword password (runOps env ops d) →
      let d' := (changePassword env i newPassword password (runOps env ops d)).2
      (∀ g, loads env g i password d' = .ok s) ∨ (∀ g, loads env g i newPassword d' = .ok s) := by
  refine ⟨runSteps_inv_of (I := fun t => ∃ p, Holds env t i p s)
    (fun _ _ hc h => step_holds hauthentic hc h) ops d hrun hd, ?_⟩
  intro newPassword password hold hsafe
  rcases changePassword_holds hauthentic hold hsafe with h | h
  · exact .inl h.loads
  · exact .inr h.loads

instance (env : Env) (d : Device) (i : AccountIndex) (password : CString) (s : AccountSecret) :
    Decidable (Holds env d i password s) :=
  inferInstanceAs (Decidable (_ ∧ _))

/-- A device with a TON account in slot 0, under the password `[1]`. -/
def sampleOps : List KeystoreOp := [.create firstAccount (.ton [5]) [1]]

def sampleSecret : AccountSecret :=
  { AccountSecret.cleared with
    entropy := Block.ofBytes 32 [5]
    seed := Block.ofBytes 64 [5]
    entropyLen := 32 }

/-- A refusal of the third write of a re-keying, the one of the host key, leaves
an account that neither password opens. -/
theorem changePassword_loses_secret : ¬∀ (env : Env) (ops : List KeystoreOp) (i : AccountIndex)
    (s : AccountSecret) (newPassword password : CString),
    Holds env (runOps env ops Device.blank) i password s →
    let d' := (changePassword env i newPassword password (runOps env ops Device.blank)).2
    (∀ g, loads env g i password d' = .ok s) ∨ ∀ g, loads env g i newPassword d' = .ok s := by
  intro claim
  have h := claim (Env.sample.refuseAt 73) sampleOps 0 sampleSecret [2] [1] (by decide +kernel)
  rcases h with h | h
  · exact absurd (h (Block.zero 64)) (by decide +kernel)
  · exact absurd (h (Block.zero 64)) (by decide +kernel)

theorem authentic_sample : Authentic Env.sample := by
  intro r entropyLen pieces pieces' s s' h h'
  -- both pairs of pieces give the authentication key that the record was made with
  have hmac : ∀ {x t}, openAccount Env.sample x r entropyLen = .ok t →
      sampleHash (accountKeys Env.sample x).2.bytes r.authenticated = r.hmac := by
    intro x t hx
    unfold openAccount at hx
    dsimp only at hx
    split at hx
    · next he => exact he
    · exact nomatch hx
  have hkey : (accountKeys Env.sample pieces).2 = (accountKeys Env.sample pieces').2 := by
    have he := (hmac h).trans (hmac h').symm
    unfold sampleHash at he
    have hcancel := congrArg (fun x => Block.xor x ((Block.ofBytes 32 r.authenticated).xor
      (Block.ofBytes 32 (r.authenticated.drop 32)))) he
    simpa only [Block.xor_xor_cancel_right, Block.ofBytes_bytes] using hcancel
  have hfirst : ∀ x, (accountKeys Env.sample x).1 = (accountKeys Env.sample x).2 := by
    intro x
    show Block.front (m := 32) (n := 32) (Block.append _ _) = Block.back (Block.append _ _)
    rw [Block.front_append, Block.back_append]
  have hkeys : accountKeys Env.sample pieces = accountKeys Env.sample pieces' :=
    Prod.ext ((hfirst _).trans (hkey.trans (hfirst _).symm)) hkey
  have hopen : openAccount Env.sample pieces r entropyLen
      = openAccount Env.sample pieces' r entropyLen := by
    unfold openAccount
    rw [hkeys]
  exact Except.ok.inj (h'.symm.trans (hopen.symm.trans h))

/-- A change that nothing disturbs, after a login. -/
theorem changePassword_keeps_secret_sample :
    let d := runOps Env.sample [.login [1]] (runOps Env.sample sampleOps Device.blank)
    let d' := (changePassword Env.sample 0 [2] [1] d).2
    (∀ g, loads Env.sample g 0 [1] d' = .ok sampleSecret) ∨
      ∀ g, loads Env.sample g 0 [2] d' = .ok sampleSecret :=
  (changePassword_keeps_secret Env.sample authentic_sample [.login [1]] 0 sampleSecret
    (runOps Env.sample sampleOps Device.blank) ⟨[1], by decide +kernel⟩ ⟨trivial, trivial⟩).2
    [2] [1] (by decide +kernel) fun _ => .inl (not_troubled_ideal Env.sample _ _)

end Keystone3
