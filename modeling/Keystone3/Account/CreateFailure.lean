import Keystone3.Account.Creation

/-!
# What a failed creation leaves

A creator destroys its slot before anything can go wrong, so a call that fails later has
nothing to go back to. What holds instead, with hardware that fails wherever it likes:

* the other accounts are as they were;
* once the zeroes of the destruction are written, the slot has no password hash or it
  has the new secret under the new password, and nothing in between;
* the session is moved to the slot, with the kind of account being created.
-/

namespace Keystone3

open Logic.Prog

def Creation.mnemonicType (c : Creation) : MnemonicType := c.info.mnemonicType

/-- The slot has no password hash, or the new secret under the new password. -/
def GoneOrNew (env : Env) (i : AccountIndex) (c : Creation) (password : CString) (d : Device) :
    Prop :=
  hashWritten i d = false ∨
    ∃ s, c.secret env = .ok (some s) ∧ Sealed env d i password s ∧
      passwordHashes d i = passwordHashOf env password

section

variable {env : Env} {i : AccountIndex} {c : Creation} {password : CString}

theorem hashWritten_of_secretOf {d d' : Device} (h : secretOf i d' = secretOf i d) :
    hashWritten i d' = hashWritten i d :=
  congrArg checkEntropy (congrArg (fun x => x.2.2) h)

theorem goneOrNew_of_secretOf {d d' : Device} (h : secretOf i d' = secretOf i d)
    (hd : GoneOrNew env i c password d) : GoneOrNew env i c password d' := by
  rcases hd with hd | ⟨s, hs, hsealed, hhash⟩
  · exact .inl ((hashWritten_of_secretOf h).trans hd)
  · exact .inr ⟨s, hs, sealed_of_secretOf h hsealed, (congrArg (fun x => x.2.2) h).trans hhash⟩

theorem triple_zeroPages_answered {w : Nat}
    (hw : ∀ k, k < 12 → env.writeReply (w + k) = .answered) :
    Triple (fun d => d.writes = w) (writePages env i zeroPages)
      (fun _ d => hashWritten i d = false) (fun _ _ => False) (fun _ => False) := by
  have hlt : ∀ {j b}, zeroPages[j]? = some b → j < 12 := by
    intro j b hb
    rw [← (zeroPages_get hb).1]
    exact b.1.isLt
  let I := fun (j : Nat) (d : Device) => d.writes = w + j ∧ Zeroed i j d
  have hround : ∀ j b, zeroPages[j]? = some b → Triple (I (0 + j))
      (seHmacEncryptWrite env b.2 (accountPage i b.1)) (fun _ => I (0 + j + 1))
      (fun _ _ => False) (fun _ => False) := by
    intro j b hb
    obtain ⟨hj, hzero⟩ := zeroPages_get hb
    rw [Nat.zero_add]
    refine triple_seWrite ?_ ?_ ?_
    · rintro d ⟨hd, hz⟩ _
      refine ⟨congrArg (· + 1) hd, fun k hk => ?_⟩
      rw [page_setPage]
      split
      · exact hzero
      · next hne =>
        have hkj : k.val ≠ j := fun he => hne ⟨rfl, Fin.ext (he.trans hj.symm)⟩
        exact hz k (by omega)
    · rintro d st applied ⟨hd, _⟩ hr
      rw [hd, hw j (hlt hb)] at hr
      exact nomatch hr
    · rintro d applied ⟨hd, _⟩ hr
      rw [hd, hw j (hlt hb)] at hr
      exact nomatch hr
  have hall := triple_each_indexed zeroPages 0 hround
  rw [zeroPages_length] at hall
  exact triple_conseq hall (fun d hd => ⟨hd, fun k hk => absurd hk (Nat.not_lt_zero _)⟩)
    (fun _ d hd => (blankSlot_zeroed hd.2).2) (fun _ _ h => h) fun _ h => h

theorem triple_takeSlot_answered {w : Nat} {info : AccountInfo}
    (hw : ∀ k, k < 12 → env.writeReply (w + k) = .answered) :
    Triple (fun d => d.writes = w) (takeSlot env i info)
      (fun _ d => hashWritten i d = false ∧ d.currentAccountIndex = some i)
      (fun _ _ => False) (fun d => hashWritten i d = false) := by
  let gone := fun d : Device => hashWritten i d = false
  have hf := ignoresPublicInfo_secretOf i i
  have hkeep : ∀ {α : Type} {x : Account α}, Frame (Keeps (secretOf i)) x →
      Triple gone x (fun _ => gone) (fun _ => gone) gone := fun hx =>
    triple_of_frame hx fun _ _ h hs => (hashWritten_of_secretOf h).trans hs
  have hdestroy : Triple (fun d => d.writes = w) (destroyAccount env i) (fun _ => gone)
      (fun _ => gone) gone := by
    refine triple_bind (Q := fun _ => gone) (triple_attempt (triple_conseq
      (triple_zeroPages_answered hw) (fun _ h => h) (fun _ _ h => h) (fun _ _ h => h.elim)
      fun _ h => h.elim)) fun _ => ?_
    refine triple_bind (hkeep (frame_deleteAccountPublicInfo env hf)) fun _ => ?_
    refine triple_bind (Q := fun _ => gone) (triple_modify fun _ h => h) fun _ => ?_
    refine triple_bind (hkeep (frame_ignore (frame_seHmacEncryptWrite env hf.toBlind fun d =>
      hf.hash d _))) fun _ => ?_
    refine triple_bind (Q := fun _ => gone) (triple_modify fun _ h => h) fun _ => ?_
    exact triple_bind (Q := fun _ => gone) (triple_modify fun _ h => h) fun _ =>
      hkeep (frame_ofExcept (keeps_preorder _) _)
  refine triple_bind (Q := fun _ => gone) (triple_ignore hdestroy) fun _ => ?_
  refine triple_bind (Q := fun _ => gone) (triple_modify fun _ h => h) fun _ => ?_
  exact triple_modify fun _ h => ⟨h, rfl⟩

theorem triple_writePasswordHash_goneOrNew {s : AccountSecret}
    (hs : c.secret env = .ok (some s)) :
    Triple (fun d => hashWritten i d = false ∧ Sealed env d i password s)
      (writePasswordHash env i password) (fun _ => GoneOrNew env i c password)
      (fun _ => GoneOrNew env i c password) (GoneOrNew env i c password) := by
  let effect := fun d : Device =>
    d.setPage (accountPage i pageIndexPasswordHash) (passwordHashOf env password)
  have heither : ∀ (d : Device) (applied : Bool),
      hashWritten i d = false ∧ Sealed env d i password s →
      GoneOrNew env i c password (if applied then effect d.countWrite else d.countWrite) := by
    rintro d applied ⟨hgone, hsealed⟩
    cases applied with
    | false => exact .inl hgone
    | true =>
      refine .inr ⟨s, hs, sealed_setPage (d := d.countWrite) i (by decide) _ hsealed, ?_⟩
      exact Device.setPage_self _ _ _
  show Triple _ (seWrite env effect) _ _ _
  refine triple_seWrite ?_ ?_ ?_
  · exact fun d hd _ => heither d true hd
  · exact fun d _ applied hd _ => heither d applied hd
  · exact fun d applied hd _ => heither d applied hd

theorem triple_saveNewSecret_goneOrNew :
    Triple (fun d => hashWritten i d = false ∧ d.currentAccountIndex = some i)
      (saveNewSecret env i password (c.secret env)) (fun _ => GoneOrNew env i c password)
      (fun _ => GoneOrNew env i c password) (GoneOrNew env i c password) := by
  let ready := fun d : Device => hashWritten i d = false ∧ d.currentAccountIndex = some i
  have hblind : Blind fun d : Device => (hashWritten i d, d.currentAccountIndex) :=
    ⟨fun _ => rfl, fun _ => rfl, fun _ _ => rfl⟩
  have hcheck : Triple ready (checkPasswordExisted env password none) (fun _ => ready)
      (fun _ => ready) ready :=
    triple_of_frame (frame_checkPasswordExisted env hblind.reading password none)
      fun _ _ h hd => ⟨(congrArg Prod.fst h).trans hd.1, (congrArg Prod.snd h).trans hd.2⟩
  have hgone : ∀ d, ready d → GoneOrNew env i c password d := fun d hd => .inl hd.1
  refine triple_bind (triple_conseq hcheck (fun _ h => h) (fun _ _ h => h)
    (fun _ d hd => hgone d hd) hgone) fun _ => ?_
  cases hsecret : c.secret env with
  | error e => exact triple_throw hgone
  | ok s =>
    refine triple_bind (Q := fun r d => ready d ∧ r = s)
      (triple_pure fun d hd => ⟨hd, rfl⟩) fun r => ?_
    cases r with
    | none => exact triple_pure fun d hd => hgone d hd.1
    | some s' =>
      rintro d ⟨hd, rfl⟩
      -- the parameters in RAM are whatever they are: only the secret matters here
      have hsave := triple_and
        (triple_saveAccountSecret_new (w := d.writes) (i := i) (s := s') (a := d.currentAccountInfo) :
          Triple _ (saveAccountSecret env i s' password true) _ _ _)
        (triple_of_frame (I := fun t => hashWritten i t = false)
          (frame_saveAccountSecret_new env (misses_passwordHashes i) ignoresInfo_passwordHashes
            s' password true)
          fun _ _ h hs => (congrArg checkEntropy (congrFun h i)).trans hs)
      exact triple_bind (triple_conseq hsave (fun _ h => h)
        (fun _ _ h => (⟨h.2, h.1.2.1⟩ : _ ∧ _)) (fun _ _ h => .inl h.2) fun _ h => .inl h.2)
        (fun _ => triple_writePasswordHash_goneOrNew hsecret) d ⟨⟨rfl, hd.2, rfl⟩, hd.1⟩

theorem triple_fillSlot_goneOrNew :
    Triple (fun d => hashWritten i d = false ∧ d.currentAccountIndex = some i)
      (fillSlot env i password (saveNewSecret env i password (c.secret env)) c.last)
      (fun _ => GoneOrNew env i c password) (fun _ => GoneOrNew env i c password)
      (GoneOrNew env i c password) := by
  let after := GoneOrNew env i c password
  have hinfo := ignoresInfo_secretOf i
  have hkeep : ∀ {α : Type} {x : Account α}, Frame (Keeps (secretOf i)) x →
      Triple after x (fun _ => after) (fun _ => after) after := fun hx =>
    triple_of_frame hx fun _ _ h hs => goneOrNew_of_secretOf h hs
  have hname : Triple (fun d => hashWritten i d = false ∧ d.currentAccountIndex = some i)
      (storeWalletName env)
      (fun _ d => hashWritten i d = false ∧ d.currentAccountIndex = some i)
      (fun _ => after) after := by
    have hboth : IgnoresInfo fun d : Device => (secretOf i d, d.currentAccountIndex) :=
      { toBlind := ⟨fun _ => rfl, fun _ => rfl, fun _ _ => rfl⟩
        info := fun _ _ => rfl
        param := fun d j x hj => congrArg (·, d.currentAccountIndex) (hinfo.param d j x hj) }
    refine triple_conseq (triple_of_frame (frame_storeWalletName env hboth) fun _ _ h hd =>
      (⟨(hashWritten_of_secretOf (congrArg Prod.fst h)).trans hd.1,
        (congrArg Prod.snd h).trans hd.2⟩ : _ ∧ _)) (fun _ h => h) (fun _ _ h => h) ?_ ?_
    · exact fun _ _ hd => .inl hd.1
    · exact fun _ hd => .inl hd.1
  refine triple_bind hname fun _ => ?_
  refine triple_bind triple_saveNewSecret_goneOrNew fun _ => hkeep ?_
  have hR := keeps_preorder (secretOf i)
  exact frame_bind hR (frame_setInfo hinfo.info _) fun _ =>
    frame_bind hR (frame_saveCurrentAccountInfo env hinfo.toBlind hinfo.param) fun _ =>
    frame_accountPublicInfoSwitch env (ignoresPublicInfo_secretOf i i) password true

theorem goneOrNew_create {d : Device}
    (hw : ∀ k, k < 12 → env.writeReply (d.writes + k) = .answered) :
    GoneOrNew env i c password (c.create env i password d).2 := by
  rw [c.create_eq]
  refine triple_snd (P := fun t => t.writes = d.writes) ?_ rfl
  exact triple_bind (triple_conseq (triple_takeSlot_answered hw) (fun _ h => h) (fun _ _ h => h)
    (fun _ _ h => h.elim) fun _ h => .inl h) fun _ => triple_fillSlot_goneOrNew

end

/-- Account `i` is the current one, and of kind `t`. -/
def SessionOf (i : AccountIndex) (t : MnemonicType) (d : Device) : Prop :=
  d.currentAccountIndex = some i ∧ d.currentAccountInfo.mnemonicType = t

theorem mnemonicType_newAccountInfo (env : Env) (s : AccountSecret) (a : AccountInfo) :
    (newAccountInfo env s a).mnemonicType = a.mnemonicType := by
  unfold newAccountInfo
  dsimp only
  split
  · rfl
  · split <;> rfl

theorem mnemonicType_last (c : Creation) (a : AccountInfo) :
    (c.last a).mnemonicType = a.mnemonicType := by
  cases c <;> rfl

section

variable (env : Env) {i : AccountIndex} {t : MnemonicType}

theorem holding_of_session {α : Type} {x : Account α}
    (h : Frame (Keeps fun d : Device => (d.currentAccountIndex, d.currentAccountInfo)) x) :
    Frame (Holding (SessionOf i t)) x :=
  frame_mono (fun _ _ hst hs => ⟨(congrArg Prod.fst hst).trans hs.1,
    (congrArg (fun x => x.2.mnemonicType) hst).trans hs.2⟩) h

theorem holding_setInfo {g : AccountInfo → AccountInfo}
    (h : ∀ a, (g a).mnemonicType = a.mnemonicType) : Frame (Holding (SessionOf i t)) (setInfo g) :=
  fun _ hs => ⟨hs.1, (h _).trans hs.2⟩

private theorem blind_session :
    Blind fun d : Device => (d.currentAccountIndex, d.currentAccountInfo) :=
  ⟨fun _ => rfl, fun _ => rfl, fun _ _ => rfl⟩

theorem holding_saveCurrentAccountInfo :
    Frame (Holding (SessionOf i t)) (saveCurrentAccountInfo env) :=
  holding_of_session (frame_saveCurrentAccountInfo env blind_session fun _ _ _ _ => rfl)

theorem holding_setAndSave {g : AccountInfo → AccountInfo}
    (h : ∀ a, (g a).mnemonicType = a.mnemonicType) :
    Frame (Holding (SessionOf i t)) (setAndSave env g) :=
  frame_bind (holding_preorder _) (holding_setInfo h) fun _ =>
    frame_ignore (holding_saveCurrentAccountInfo env)

theorem holding_saveNewSecret_session (password : CString)
    (secret : Except ErrCode (Option AccountSecret)) :
    Frame (Holding (SessionOf i t)) (saveNewSecret env i password secret) := by
  have hR := holding_preorder (SessionOf i t)
  refine frame_bind hR (holding_of_session
    (frame_checkPasswordExisted env blind_session.reading password none)) fun _ => ?_
  refine frame_bind hR (frame_ofExcept hR _) fun s => ?_
  split
  · exact frame_pure hR _
  · refine frame_bind hR (frame_bind hR (holding_of_session (frame_writeSecret env ?_ _ _))
      fun _ => ?_) fun _ => holding_of_session
        (frame_writePasswordHash env blind_session (fun _ _ => rfl) password)
    · exact ⟨blind_session, fun _ _ _ _ => rfl, fun _ _ _ _ => rfl⟩
    · exact frame_bind hR (holding_setInfo (mnemonicType_newAccountInfo env _)) fun _ =>
        frame_ignore (holding_saveCurrentAccountInfo env)

theorem triple_create_session (c : Creation) (password : CString) :
    Triple (fun _ => True) (c.create env i password) (fun _ => SessionOf i c.mnemonicType)
      (fun _ => SessionOf i c.mnemonicType) (fun _ => True) := by
  have hR := holding_preorder (SessionOf i c.mnemonicType)
  rw [c.create_eq]
  refine triple_bind (Q := fun _ => SessionOf i c.mnemonicType) (triple_conseq
    (triple_takeSlot env (triple_destroyAccount_any env)) (fun _ h => h)
    (fun _ _ h => ⟨h.1, congrArg AccountInfo.mnemonicType h.2⟩) (fun _ _ h => h.elim)
    fun _ h => h) fun _ => ?_
  have hrest : Frame (Holding (SessionOf i c.mnemonicType))
      (fillSlot env i password (saveNewSecret env i password (c.secret env)) c.last) := by
    refine frame_bind hR (frame_bind hR (frame_get hR) fun _ =>
      frame_bind hR (holding_setAndSave env fun _ => rfl) fun _ =>
      holding_setAndSave env fun _ => rfl) fun _ => ?_
    refine frame_bind hR (holding_saveNewSecret_session env password _) fun _ => ?_
    refine frame_bind hR (holding_setInfo (mnemonicType_last c)) fun _ => ?_
    refine frame_bind hR (holding_saveCurrentAccountInfo env) fun _ => ?_
    refine holding_of_session (frame_accountPublicInfoSwitch env ?_ password true)
    exact
      { toBlind := blind_session
        hash := fun _ _ => rfl, flash := fun _ _ _ => rfl, keys := fun _ _ => rfl
        temp := fun _ _ => rfl, isTemp := fun _ _ => rfl }
  exact triple_conseq (triple_of_frame hrest fun _ _ h hs => h hs) (fun _ h => h)
    (fun _ _ h => h) (fun _ _ h => h) fun _ _ => trivial

end

/-- **What a creation leaves**, however the hardware behaves and however it
ends: the other accounts as they were, a slot that is gone or new once the
zeroes of its destruction are written, and, if it ends at all, the session of
the new account. -/
theorem create_destroys_first (env : Env) (i : AccountIndex) (c : Creation) (password : CString)
    (d : Device) :
    (∀ j, j ≠ i → slotOf j (c.create env i password d).2 = slotOf j d) ∧
      ((∀ k, k < 12 → env.writeReply (d.writes + k) = .answered) →
        GoneOrNew env i c password (c.create env i password d).2) ∧
      ∀ e, (c.create env i password d).1 = .error e →
        SessionOf i c.mnemonicType (c.create env i password d).2 := by
  refine ⟨fun j hj => ?_, goneOrNew_create, fun e he => ?_⟩
  · exact frame_create env (ignoresAccount_slotOf hj) (ignoresSession_slotOf j) c password d
  · have h := triple_create_session env c password (i := i) d trivial
    match hrun : c.create env i password d with
    | (.error e', d') =>
      rw [hrun] at h
      exact h
    | (.ok (), d') =>
      rw [hrun] at he
      exact nomatch he
    | (.halted, d') =>
      rw [hrun] at he
      exact nomatch he

/-- A second account created over the first, under the password of a third: the
call fails, the slot is gone, the other account is still there. -/
theorem create_destroys_first_repeated :
    let d := runOps Env.sample [.create 0 (.ton [5]) [1], .create 1 (.ton [6]) [2]] Device.blank
    slotOf 1 ((Creation.ton [7]).create Env.sample 0 [2] d).2 = slotOf 1 d ∧
      GoneOrNew Env.sample 0 (.ton [7]) [2] ((Creation.ton [7]).create Env.sample 0 [2] d).2 ∧
      SessionOf 0 .ton ((Creation.ton [7]).create Env.sample 0 [2] d).2 :=
  have h := create_destroys_first Env.sample 0 (.ton [7]) [2]
    (runOps Env.sample [.create 0 (.ton [5]) [1], .create 1 (.ton [6]) [2]] Device.blank)
  ⟨h.1 1 (by decide), h.2.1 fun _ _ => rfl, h.2.2 .keystoreRepeatPassword (by decide +kernel)⟩

/-- It is not true that a creation that fails leaves the account of its slot and
the session alone: a repeated password is found out after the destruction. -/
theorem create_failure_keeps_nothing :
    ¬∀ (env : Env) (ops : List KeystoreOp) (i : AccountIndex) (c : Creation) (password : CString)
      (e : ErrCode), (c.create env i password (runOps env ops Device.blank)).1 = .error e →
      cellsOf i (c.create env i password (runOps env ops Device.blank)).2
          = cellsOf i (runOps env ops Device.blank) ∧
        (c.create env i password (runOps env ops Device.blank)).2.currentAccountInfo
          = (runOps env ops Device.blank).currentAccountInfo := by
  intro h
  have hcells := (h Env.sample [.create 0 (.ton [5]) [1], .create 1 (.ton [6]) [2]] 0 (.ton [7])
    [2] .keystoreRepeatPassword (by decide +kernel)).1
  have hpage := congrFun (congrArg AccountCells.page hcells) pageIndexPasswordHash
  revert hpage
  decide +kernel

end Keystone3
