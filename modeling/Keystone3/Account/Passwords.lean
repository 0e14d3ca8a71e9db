import Keystone3.Account.Run
import Mathlib.Logic.Function.Basic

/-!
# A password belongs to one account

An account is found by the hash of its password, so two accounts with the same hash
would hide one of them. The keystore never gives two accounts one hash: it checks a new
password against all three pages before it writes one, with the account's own page left
out when it is a password change.

`UniqueHashes` is the invariant: two accounts whose password-hash pages agree both have
a blank page.
-/

namespace Keystone3

open Logic.Prog
open Bytes (Block)
open Function (forall_update_iff update_of_ne update_self)

def UniqueHashes (g : AccountIndex → Page) : Prop :=
  ∀ i j, i ≠ j → g i = g j → checkEntropy (g i) = false

def HashesHold (P : (AccountIndex → Page) → Prop) (d : Device) : Prop := P (passwordHashes d)

def HashesUnique (d : Device) : Prop := UniqueHashes (passwordHashes d)

/-- What the hashes of the accounts keep, if the passwords that are set are in `N`: a page is
zeroed, or gets a hash that no page has. -/
structure HashInvariant (env : Env) (N : CString → Prop) (P : (AccountIndex → Page) → Prop) :
    Prop where
  zero : ∀ g i, P g → P (Function.update g i (Block.zero 32))
  set : ∀ g i password, N password → P g → (∀ j, g j ≠ passwordHashOf env password) →
    P (Function.update g i (passwordHashOf env password))

/-- The password that the operation sets. -/
def KeystoreOp.newPassword? : KeystoreOp → Option CString
  | create _ _ password => some password
  | changePassword _ newPassword _ => some newPassword
  | _ => none

theorem uniqueHashes_update {g : AccountIndex → Page} {i : AccountIndex} {x : Page}
    (h : UniqueHashes g) (hx : checkEntropy x = false ∨ ∀ j, g j ≠ x) :
    UniqueHashes (Function.update g i x) := by
  intro j k hjk heq
  by_cases hj : j = i
  · subst hj
    rw [update_self, update_of_ne hjk.symm] at heq
    rw [update_self]
    rcases hx with hx | hx
    · exact hx
    · exact absurd heq.symm (hx k)
  · by_cases hk : k = i
    · subst hk
      rw [update_self, update_of_ne hj] at heq
      rw [update_of_ne hj]
      rcases hx with hx | hx
      · rw [heq]
        exact hx
      · exact absurd heq (hx j)
    · rw [update_of_ne hj, update_of_ne hk] at heq
      rw [update_of_ne hj]
      exact h j k hjk heq

theorem passwordHashes_setHash (d : Device) (i : AccountIndex) (x : Page) :
    passwordHashes (d.setPage (accountPage i pageIndexPasswordHash) x)
      = Function.update (passwordHashes d) i x := by
  funext j
  by_cases h : j = i
  · subst h
    rw [update_self]
    exact Device.setPage_self d _ x
  · rw [update_of_ne h]
    exact Device.setPage_ne d x fun he => h (accountPage_inj.mp he).1

theorem passwordHashes_setPage {p : Nat} (h : ∀ i, accountPage i pageIndexPasswordHash ≠ p)
    (d : Device) (x : Page) : passwordHashes (d.setPage p x) = passwordHashes d := by
  funext i
  exact Device.setPage_ne d x (h i)

theorem passwordHashes_setPage_other {k : PageIndex} (h : k ≠ pageIndexPasswordHash)
    (i : AccountIndex) (d : Device) (x : Page) :
    passwordHashes (d.setPage (accountPage i k) x) = passwordHashes d :=
  passwordHashes_setPage (fun _ he => h (accountPage_inj.mp he).2.symm) d x

theorem misses_passwordHashes (i : AccountIndex) : Misses i secretPages passwordHashes where
  toBlind := blind_passwordHashes
  page := by
    intro k hk d x
    have hne : ∀ k ∈ secretPages, k ≠ pageIndexPasswordHash := by decide
    exact passwordHashes_setPage_other (hne k hk) i d x
  slot _ _ _ _ := rfl

theorem ignoresInfo_passwordHashes : IgnoresInfo passwordHashes where
  toBlind := blind_passwordHashes
  info _ _ := rfl
  param d i x _ := passwordHashes_setPage_other (by decide) i d x

theorem ignoresPublicInfo_passwordHashes (i : AccountIndex) :
    IgnoresPublicInfo i passwordHashes where
  toBlind := blind_passwordHashes
  hash := passwordHashes_setPage fun j => accountPage_ne_walletHashPage j i _
  flash _ _ _ := rfl
  keys _ _ := rfl
  temp _ _ := rfl
  isTemp _ _ := rfl

theorem ignoresLogin_passwordHashes : IgnoresLogin passwordHashes where
  info _ _ := rfl
  current _ _ := rfl
  publicKeys := ignoresPublicInfo_passwordHashes
  last _ _ := rfl
  counters _ _ := rfl
  counterPage := passwordHashes_setPage fun j => accountPage_ne_pagePublicInfo j _

section

variable (env : Env) {N : CString → Prop} {P : (AccountIndex → Page) → Prop}

theorem holding_of_keeps {α : Type} {x : Account α} (h : Frame (Keeps passwordHashes) x) :
    Frame (Holding (HashesHold P)) x :=
  frame_mono (fun s t hst hs => by
    have hst : passwordHashes t = passwordHashes s := hst
    unfold HashesHold
    rw [hst]
    exact hs) h

variable (hP : HashInvariant env N P) (i : AccountIndex)

include hP

theorem holding_zeroPages :
    Frame (Holding (HashesHold P)) (writePages env i zeroPages) := by
  refine frame_each (holding_preorder _) zeroPages fun p hp =>
    frame_seWrite_rel env (fun d hd => hd) fun d hd => ?_
  obtain ⟨k, _, rfl⟩ := List.mem_map.mp hp
  show P (passwordHashes (d.countWrite.setPage (accountPage i k) (Block.zero 32)))
  by_cases hk : k = pageIndexPasswordHash
  · rw [hk, passwordHashes_setHash]
    exact hP.zero _ i hd
  · rw [passwordHashes_setPage_other hk]
    exact hd

theorem holding_destroyAccount :
    Frame (Holding (HashesHold P)) (destroyAccount env i) := by
  have hR := holding_preorder (HashesHold P)
  have hf := ignoresPublicInfo_passwordHashes i
  refine frame_bind hR (frame_attempt (holding_zeroPages env hP i)) fun r => ?_
  refine frame_bind hR (holding_of_keeps (frame_deleteAccountPublicInfo env hf)) fun _ => ?_
  refine frame_bind hR (frame_modify fun _ hd => hd) fun _ => ?_
  refine frame_bind hR (holding_of_keeps
    (frame_ignore (frame_seHmacEncryptWrite env hf.toBlind fun d => hf.hash d _))) fun _ => ?_
  refine frame_bind hR (frame_modify fun _ hd => hd) fun _ => ?_
  exact frame_bind hR (frame_modify fun _ hd => hd) fun _ => frame_ofExcept hR r

theorem triple_writePasswordHash_checked {g : AccountIndex → Page} {i : AccountIndex}
    {password : CString} (hN : N password) (hg : P g)
    (hnew : (∀ j, g j ≠ passwordHashOf env password) ∨ g i = passwordHashOf env password) :
    Triple (fun d => passwordHashes d = g) (writePasswordHash env i password)
      (fun _ => HashesHold P) (fun _ => HashesHold P) (HashesHold P) := by
  have hsame : ∀ d, passwordHashes d = g → HashesHold P d := by
    rintro d rfl
    exact hg
  have hwritten : ∀ d, passwordHashes d = g →
      HashesHold P (d.setPage (accountPage i pageIndexPasswordHash)
        (passwordHashOf env password)) := by
    intro d hd
    unfold HashesHold
    rw [passwordHashes_setHash, hd]
    rcases hnew with hnew | hnew
    · exact hP.set g i password hN hg hnew
    · -- the account keeps the password it has
      rw [← hnew, Function.update_eq_self]
      exact hg
  let effect := fun d : Device =>
    d.setPage (accountPage i pageIndexPasswordHash) (passwordHashOf env password)
  have heither : ∀ (d : Device) (applied : Bool), passwordHashes d = g →
      HashesHold P (if applied then effect d.countWrite else d.countWrite) := by
    intro d applied hd
    cases applied with
    | false => exact hsame d.countWrite hd
    | true => exact hwritten d.countWrite hd
  show Triple _ (seWrite env effect) _ _ _
  refine triple_seWrite ?_ ?_ ?_
  · exact fun d hd _ => hwritten d.countWrite hd
  · exact fun d _ applied hd _ => heither d applied hd
  · exact fun d applied hd _ => heither d applied hd

omit hP in
theorem holding_checked {password : CString} {excludeIndex : Option AccountIndex}
    {rest : Unit → Account Unit}
    (hrest : ∀ g, P g →
      ((∀ j, g j ≠ passwordHashOf env password) ∨
        ∃ j, excludeIndex = some j ∧ g j = passwordHashOf env password) →
      Triple (fun d => passwordHashes d = g) (rest ()) (fun _ => HashesHold P)
        (fun _ => HashesHold P) (HashesHold P)) :
    Frame (Holding (HashesHold P)) (checkPasswordExisted env password excludeIndex >>= rest) := by
  intro d hd
  have hcheck : Sat _ _ _ (checkPasswordExisted env password excludeIndex d) :=
    triple_checkPasswordExisted d rfl
  have hkeep : HashesHold P (checkPasswordExisted env password excludeIndex d).2 :=
    holding_of_keeps (frame_checkPasswordExisted env blind_passwordHashes.reading _ _) d hd
  match hrun : checkPasswordExisted env password excludeIndex d with
  | (.ok (), t) =>
    rw [hrun] at hcheck
    rw [bind_ok hrun]
    exact triple_snd (hrest _ hd hcheck.2) hcheck.1
  | (.error e, t) =>
    rw [hrun] at hkeep
    rw [bind_error hrun]
    exact hkeep
  | (.halted, t) =>
    rw [hrun] at hkeep
    rw [bind_halted hrun]
    exact hkeep

theorem triple_save_then_hash {g : AccountIndex → Page} {i : AccountIndex}
    {password : CString} {save : Account Unit} (hsave : Frame (Keeps passwordHashes) save)
    (hN : N password) (hg : P g)
    (hnew : (∀ j, g j ≠ passwordHashOf env password) ∨ g i = passwordHashOf env password) :
    Triple (fun d => passwordHashes d = g) (do save; writePasswordHash env i password)
      (fun _ => HashesHold P) (fun _ => HashesHold P) (HashesHold P) := by
  have hsame : ∀ d, passwordHashes d = g → HashesHold P d := by
    rintro d rfl
    exact hg
  have hkeep : Triple (fun d => passwordHashes d = g) save (fun _ d => passwordHashes d = g)
      (fun _ d => passwordHashes d = g) (fun d => passwordHashes d = g) :=
    triple_of_frame hsave fun _ _ h hI => h.trans hI
  refine triple_bind (triple_conseq hkeep (fun _ h => h) (fun _ _ h => h)
    (fun _ d hd => hsame d hd) fun d hd => hsame d hd) fun _ => ?_
  exact triple_writePasswordHash_checked env hP hN hg hnew

theorem holding_changePassword {newPassword password : CString} (hN : N newPassword) :
    Frame (Holding (HashesHold P)) (changePassword env i newPassword password) := by
  refine holding_checked env fun g hg hseen => ?_
  have hnew : (∀ j, g j ≠ passwordHashOf env newPassword) ∨
      g i = passwordHashOf env newPassword := by
    rcases hseen with h | ⟨j, hj, h⟩
    · exact .inl h
    · cases hj
      exact .inr h
  have hload : Triple (fun d => passwordHashes d = g) (loadAccountSecret env i password)
      (fun _ d => passwordHashes d = g) (fun _ => HashesHold P) (HashesHold P) := by
    refine triple_conseq (triple_of_frame (I := fun d => passwordHashes d = g)
      (frame_loadAccountSecret env blind_passwordHashes.reading i password) fun _ _ h hI => h.trans hI)
      (fun _ h => h) (fun _ _ h => h) ?_ ?_
    · rintro _ d rfl
      exact hg
    · rintro d rfl
      exact hg
  refine triple_bind hload fun s => triple_save_then_hash env hP ?_ hN hg hnew
  exact frame_saveAccountSecret env (misses_passwordHashes i) s newPassword

theorem holding_saveNewSecret {password : CString} (hN : N password)
    (secret : Except ErrCode (Option AccountSecret)) :
    Frame (Holding (HashesHold P)) (saveNewSecret env i password secret) := by
  refine holding_checked env fun g hg hseen => ?_
  have hnew : ∀ j, g j ≠ passwordHashOf env password := by
    rcases hseen with h | ⟨j, hj, _⟩
    · exact h
    · exact nomatch hj
  have hsame : ∀ d, passwordHashes d = g → HashesHold P d := by
    rintro d rfl
    exact hg
  cases secret with
  | error e => exact triple_throw hsame
  | ok s =>
    refine triple_bind (Q := fun _ d => passwordHashes d = g) (triple_pure fun _ hd => hd)
      fun s => ?_
    cases s with
    | none => exact triple_pure hsame
    | some s =>
      refine triple_save_then_hash env hP ?_ hN hg (.inl hnew)
      exact frame_saveAccountSecret_new env (misses_passwordHashes i)
        ignoresInfo_passwordHashes s password true

theorem holding_create (c : Creation) {password : CString} (hN : N password) :
    Frame (Holding (HashesHold P)) (c.create env i password) := by
  rw [c.create_eq]
  have hR := holding_preorder (HashesHold P)
  have hi := ignoresInfo_passwordHashes
  refine frame_bind hR (frame_bind hR (frame_ignore (holding_destroyAccount env hP i)) fun _ =>
    frame_bind hR (frame_modify fun _ hd => hd) fun _ => frame_modify fun _ hd => hd) fun _ => ?_
  refine frame_bind hR (holding_of_keeps (frame_storeWalletName env hi)) fun _ => ?_
  refine frame_bind hR (holding_saveNewSecret env hP i hN _) fun _ => ?_
  refine frame_bind hR (frame_modify fun _ hd => hd) fun _ => ?_
  refine frame_bind hR (holding_of_keeps
    (frame_saveCurrentAccountInfo env hi.toBlind hi.param)) fun _ => ?_
  exact holding_of_keeps
    (frame_accountPublicInfoSwitch env (ignoresPublicInfo_passwordHashes i) _ _)

theorem holding_accountsDataCheck : Frame (Holding (HashesHold P)) (accountsDataCheck env) := by
  have hR := holding_preorder (HashesHold P)
  refine frame_ignore (frame_each hR accountIndices fun i _ => ?_)
  refine frame_bind hR (holding_of_keeps
    (frame_seHmacEncryptRead env blind_passwordHashes.reading _)) fun _ => ?_
  refine frame_bind hR (holding_of_keeps
    (frame_seHmacEncryptRead env blind_passwordHashes.reading _)) fun _ => ?_
  split
  · exact frame_ignore (holding_zeroPages env hP i)
  · exact frame_pure hR _

theorem holding_powerOn (wipeFlag : Bool) :
    Frame (Holding (HashesHold P)) (powerOn env wipeFlag) := by
  have hR := holding_preorder (HashesHold P)
  have hf := ignoresLogin_passwordHashes
  refine frame_bind hR (frame_modify fun _ hd => hd) fun _ => ?_
  refine frame_bind hR (holding_accountsDataCheck env hP) fun _ => ?_
  refine frame_bind hR (frame_ignore (holding_of_keeps
    (frame_bind (keeps_preorder _) (frame_seHmacEncryptRead env hf.blind.reading _) fun _ =>
      frame_setPublicInfo hf _))) fun _ => ?_
  refine frame_bind hR (frame_get hR) fun d => ?_
  split
  · refine frame_bind hR (frame_ignore (holding_of_keeps (frame_erasePublicInfo env hf)))
      fun _ => ?_
    refine frame_bind hR (frame_each hR accountIndices fun i _ =>
      frame_ignore (holding_destroyAccount env hP i)) fun _ => ?_
    exact frame_bind hR (frame_flashWrite_rel env (fun _ hd => hd) fun _ hd => hd) fun _ =>
      frame_halt hR
  · exact frame_pure hR _

theorem frame_step_hashesHold (op : KeystoreOp) (hN : ∀ p ∈ op.newPassword?, N p) :
    Frame (Holding (HashesHold P)) (op.prog env) := by
  have hf := ignoresLogin_passwordHashes
  cases op with
  | create i c password => exact holding_create env hP i c (hN _ rfl)
  | changePassword i newPassword password => exact holding_changePassword env hP i (hN _ rfl)
  | destroy i => exact holding_destroyAccount env hP i
  | login password => exact holding_of_keeps (frame_verifyPasswordAndLogin env hf password)
  | verifyCurrent password =>
    exact holding_of_keeps (frame_verifyCurrentAccountPassword env hf password)
  | clearErrorCounts => exact holding_of_keeps (frame_clearCurrentPasswordErrorCount env hf)
  | setLastLockDeviceTime t => exact holding_of_keeps (frame_setLastLockDeviceTime env hf t)
  | erasePublicInfo => exact holding_of_keeps (frame_erasePublicInfo env hf)
  | setCurrentAccountIndex => exact frame_modify fun _ hd => hd
  | logout => exact frame_modify fun _ hd => hd
  | store f => exact holding_of_keeps (frame_setAndSave env ignoresInfo_passwordHashes f)
  | powerOn wipeFlag => exact holding_powerOn env hP wipeFlag

theorem runOps_hashesHold : ∀ (ops : List KeystoreOp) {d : Device},
    (∀ op ∈ ops, ∀ p ∈ op.newPassword?, N p) → HashesHold P d → HashesHold P (runOps env ops d)
  | [], _, _, hd => hd
  | op :: ops, d, hN, hd =>
    runOps_hashesHold ops (fun op hop => hN op (.tail _ hop))
      (frame_step_hashesHold env hP op (hN op (.head _)) d hd)

omit hP in
theorem runOps_hashesUnique (ops : List KeystoreOp) {d : Device} (hd : HashesUnique d) :
    HashesUnique (runOps env ops d) :=
  runOps_hashesHold env (N := fun _ => True)
    ⟨fun _ _ h => uniqueHashes_update h (.inl (by decide)),
      fun _ _ _ _ h hnew => uniqueHashes_update h (.inr hnew)⟩ ops (fun _ _ _ _ => trivial) hd

end

theorem verifyPasswordFrom_ideal (env : Env) {password : CString} {i : AccountIndex} {d : Device}
    (hi : passwordHashes d i = passwordHashOf env password)
    (honly : ∀ j, j ≠ i → passwordHashes d j ≠ passwordHashOf env password) :
    ∀ (is : List AccountIndex) (n : Nat), i ∈ is →
      ∃ m, verifyPasswordFrom env.ideal password is (d.countReads n) = (.ok i, d.countReads m)
  | [], _, h => absurd h List.not_mem_nil
  | j :: is, n, h => by
    have hread : seHmacEncryptRead env.ideal (accountPage j pageIndexPasswordHash)
        (d.countReads n) = (.ok (passwordHashes d j), d.countReads (n + 1)) :=
      seRead_answered rfl
    unfold verifyPasswordFrom
    by_cases hj : j = i
    · subst hj
      refine ⟨n + 1, (bind_ok hread).trans ?_⟩
      rw [if_pos (show passwordHashes d j = passwordHashOf env.ideal password from hi)]
      rfl
    · have hmem : i ∈ is := (List.mem_cons.mp h).resolve_left fun he => hj he.symm
      obtain ⟨m, hm⟩ := verifyPasswordFrom_ideal env hi honly is (n + 1) hmem
      refine ⟨m, (bind_ok hread).trans ?_⟩
      rw [if_neg (show ¬passwordHashes d j = passwordHashOf env.ideal password from honly j hj)]
      exact hm

theorem verifyPassword_ideal (env : Env) {password : CString} {i : AccountIndex} {d : Device}
    (hi : passwordHashes d i = passwordHashOf env password)
    (honly : ∀ j, j ≠ i → passwordHashes d j ≠ passwordHashOf env password) :
    ∃ m, verifyPassword env.ideal password d = (.ok i, d.countReads m) :=
  verifyPasswordFrom_ideal env hi honly accountIndices 0 (mem_accountIndices i)

theorem enterAccount_current (env : Env) (i : AccountIndex) (password : CString) (d : Device) :
    (enterAccount env i password d).2.currentAccountIndex = d.currentAccountIndex := by
  have hf : IgnoresPublicInfo i Device.currentAccountIndex :=
    { writes := fun _ => rfl, reads := fun _ => rfl, draws := fun _ _ => rfl
      hash := fun _ _ => rfl, flash := fun _ _ _ => rfl, keys := fun _ _ => rfl
      temp := fun _ _ => rfl, isTemp := fun _ _ => rfl }
  exact frame_enterAccount env hf (fun _ _ => rfl) (fun _ _ => rfl) password d

theorem login_selects {env : Env} {password : CString} {i : AccountIndex} {d d' : Device}
    (h : verifyPassword env password d = (.ok i, d')) :
    (verifyPasswordAndLogin env password d).2.currentAccountIndex = some i := by
  let t : Device := { d' with currentAccountIndex := some i, lastAccountIndex := some i }
  have hlogin : login env i password d' = enterAccount env i password t := rfl
  have henter : (enterAccount env i password t).2.currentAccountIndex = some i :=
    enterAccount_current env i password t
  have hsave : Frame (Keeps Device.currentAccountIndex) (savePublicInfo env) :=
    frame_savePublicInfo env ⟨fun _ => rfl, fun _ => rfl, fun _ _ => rfl⟩ fun _ _ => rfl
  unfold verifyPasswordAndLogin
  rw [bind_ok (attempt_ok h)]
  dsimp only
  have hrest : ∀ ret : Except ErrCode Unit, Frame (Keeps Device.currentAccountIndex)
      (do ignore (savePublicInfo env); ofExcept ret : Account Unit) := fun ret =>
    frame_bind (keeps_preorder _) (frame_ignore hsave) fun _ => frame_ofExcept (keeps_preorder _) ret
  match hrun : enterAccount env i password t with
  | (.ok ret, u) =>
    rw [hrun] at henter
    rw [bind_ok (hlogin.trans hrun)]
    exact (hrest ret u).trans henter
  | (.error e, u) =>
    rw [hrun] at henter
    rw [bind_error (hlogin.trans hrun)]
    exact henter
  | (.halted, u) =>
    rw [hrun] at henter
    rw [bind_halted (hlogin.trans hrun)]
    exact henter

/-- **A password selects its account.** After any run from a device without
accounts, with hardware that fails wherever it likes, no two accounts share a
password hash, and the password of an account selects that account, in
`VerifyPassword` and in `VerifyPasswordAndLogin`. -/
theorem password_selects_account (env : Env) (ops : List KeystoreOp) (d : Device)
    (hblank : ∀ i, checkEntropy (passwordHashes d i) = false) :
    (∀ i j, i ≠ j → checkEntropy (passwordHashes (runOps env ops d) i) = true →
      passwordHashes (runOps env ops d) i ≠ passwordHashes (runOps env ops d) j) ∧
    ∀ i password, checkEntropy (passwordHashes (runOps env ops d) i) = true →
      passwordHashes (runOps env ops d) i = passwordHashOf env password →
      (verifyPassword env.ideal password (runOps env ops d)).1 = .ok i ∧
        (verifyPasswordAndLogin env.ideal password (runOps env ops d)).2.currentAccountIndex
          = some i := by
  have huniq : HashesUnique (runOps env ops d) :=
    runOps_hashesUnique env ops fun i _ _ _ => hblank i
  have hdistinct : ∀ i j, i ≠ j → checkEntropy (passwordHashes (runOps env ops d) i) = true →
      passwordHashes (runOps env ops d) i ≠ passwordHashes (runOps env ops d) j := by
    intro i j hij hi heq
    rw [huniq i j hij heq] at hi
    cases hi
  refine ⟨hdistinct, fun i password hi hp => ?_⟩
  have honly : ∀ j, j ≠ i → passwordHashes (runOps env ops d) j ≠ passwordHashOf env password :=
    fun j hj he => hdistinct i j hj.symm hi (hp.trans he.symm)
  obtain ⟨m, hverify⟩ := verifyPassword_ideal env hp honly
  exact ⟨congrArg Prod.fst hverify, login_selects hverify⟩

/-- Two accounts on one device: the second is found by its password. -/
theorem password_selects_account_second :
    let ops := [KeystoreOp.create 0 (.ton [5]) [1], .create 1 (.ton [6]) [2]]
    let d := runOps Env.sample ops Device.blank
    (verifyPassword Env.sample.ideal [2] d).1 = .ok 1 ∧
      (verifyPasswordAndLogin Env.sample.ideal [2] d).2.currentAccountIndex = some 1 :=
  (password_selects_account Env.sample [.create 0 (.ton [5]) [1], .create 1 (.ton [6]) [2]]
    Device.blank (by decide)).2 1 [2] (by decide +kernel) (by decide +kernel)

theorem triple_changePassword_hash {env : Env} {g : AccountIndex → Page} {i : AccountIndex}
    (newPassword password : CString) :
    Triple (fun d => passwordHashes d = g) (changePassword env i newPassword password)
      (fun _ d => passwordHashes d = Function.update g i (passwordHashOf env newPassword))
      (fun _ _ => True) (fun _ => True) := by
  have hkeep : ∀ {α : Type} {x : Account α}, Frame (Keeps passwordHashes) x →
      Triple (fun d => passwordHashes d = g) x (fun _ d => passwordHashes d = g)
        (fun _ _ => True) (fun _ => True) := fun hframe =>
    triple_conseq (triple_of_frame hframe fun _ _ h hI => h.trans hI) (fun _ h => h)
      (fun _ _ h => h) (fun _ _ _ => trivial) fun _ _ => trivial
  refine triple_bind (hkeep (frame_checkPasswordExisted env blind_passwordHashes.reading _ _))
    fun _ => triple_bind (hkeep (frame_loadAccountSecret env blind_passwordHashes.reading i password))
      fun s => triple_bind
        (hkeep (frame_saveAccountSecret env (misses_passwordHashes i) s newPassword)) fun _ => ?_
  let effect := fun d : Device =>
    d.setPage (accountPage i pageIndexPasswordHash) (passwordHashOf env newPassword)
  show Triple _ (seWrite env effect) _ _ _
  refine triple_seWrite (fun d hd _ => ?_) (fun _ _ _ _ _ => trivial) fun _ _ _ _ => trivial
  exact (passwordHashes_setHash d.countWrite i _).trans (congrArg (Function.update · i _) hd)

theorem hashInvariant_ne (env : Env) {x : Page} (hx : checkEntropy x = true) :
    HashInvariant env (fun p => passwordHashOf env p ≠ x) fun g => ∀ j, g j ≠ x where
  zero g i hg := by
    refine (forall_update_iff g fun _ y => y ≠ x).mpr ⟨?_, fun j _ => hg j⟩
    rintro rfl
    cases hx
  set g i p hp hg _ := (forall_update_iff g fun _ y => y ≠ x).mpr ⟨hp, fun j _ => hg j⟩

/-- A password whose hash no account has selects none until it is set. -/
theorem not_selected (env : Env) {password : CString} {d : Device} {later : List KeystoreOp}
    (hset : checkEntropy (passwordHashOf env password) = true)
    (hgone : HashesHold (fun g => ∀ j, g j ≠ passwordHashOf env password) d)
    (hlater : ∀ op ∈ later, ∀ p ∈ op.newPassword?,
      passwordHashOf env p ≠ passwordHashOf env password) :
    ∀ j, (verifyPassword env password (runOps env later d)).1 ≠ .ok j := by
  intro j hj
  have hfound := @triple_verifyPasswordFrom env password _ accountIndices (runOps env later d) rfl
  rw [show verifyPasswordFrom env password accountIndices (runOps env later d) = (.ok j, _) from
    Prod.ext hj rfl] at hfound
  exact runOps_hashesHold env (hashInvariant_ne env hset) later hlater hgone j hfound

/-- **A changed password is revoked.** After any run from a device without accounts and a change
that returns, the password that the account had selects no account, as long as it is not set
again, however the hardware behaves. -/
theorem changedPassword_revoked (env : Env) (ops later : List KeystoreOp) (d d' : Device)
    {i : AccountIndex} {newPassword password : CString}
    (hblank : ∀ j, checkEntropy (passwordHashes d j) = false)
    (hheld : passwordHashes (runOps env ops d) i = passwordHashOf env password)
    (hset : checkEntropy (passwordHashOf env password) = true)
    (hother : passwordHashOf env newPassword ≠ passwordHashOf env password)
    (h : changePassword env i newPassword password (runOps env ops d) = (.ok (), d'))
    (hlater : ∀ op ∈ later, ∀ p ∈ op.newPassword?,
      passwordHashOf env p ≠ passwordHashOf env password) :
    ∀ j, (verifyPassword env password (runOps env later d')).1 ≠ .ok j := by
  have hunique : HashesUnique (runOps env ops d) :=
    runOps_hashesUnique env ops fun i _ _ _ => hblank i
  have hchanged := @triple_changePassword_hash env _ i newPassword password (runOps env ops d) rfl
  rw [h] at hchanged
  have hgone : HashesHold (fun g => ∀ j, g j ≠ passwordHashOf env password) d' := by
    show ∀ j, passwordHashes d' j ≠ _
    rw [show passwordHashes d' = _ from hchanged]
    refine (forall_update_iff _ fun _ x => x ≠ _).mpr ⟨hother, fun j hji hfound => ?_⟩
    -- no other account has the hash, as it is not blank
    have hnot := hunique j i hji (hfound.trans hheld.symm)
    rw [hfound, hset] at hnot
    cases hnot
  exact not_selected env hset hgone hlater

theorem changedPassword_revoked_sample :
    let d := runOps Env.sample [.create 0 (.ton [5]) [1]] Device.blank
    let d' := (changePassword Env.sample 0 [2] [1] d).2
    ∀ j, (verifyPassword Env.sample [1] (runOps Env.sample [.login [1], .destroy 0] d')).1
      ≠ .ok j :=
  changedPassword_revoked Env.sample [.create 0 (.ton [5]) [1]] [.login [1], .destroy 0]
    Device.blank _ (by decide) (by decide +kernel) (by decide +kernel) (by decide +kernel)
    (Prod.ext (by decide +kernel) rfl) (by decide)

end Keystone3
