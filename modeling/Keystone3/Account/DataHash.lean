import Keystone3.Account.RoundTrip

/-!
# The hashes of the data in flash

A verify routine that has accepted a hash should accept no other until the hash is set
again or the account is erased; that is what makes a change of the flash visible.

It does, as long as the verify routine sees a page that was set. On a blank page, all
`0xFF` or all zero, it returns true for whatever hash it is given and writes the blank
page back, where the hash was meant, so that the next call accepts another one.
-/

namespace Keystone3

open Logic (AllSteps runSteps runSteps_inv_of)
open Logic.Prog
open Bytes (Block)

inductive HashKind where
  | wallet
  | multisig
deriving DecidableEq

def HashKind.page (k : HashKind) (i : AccountIndex) : Nat :=
  match k with
  | .wallet => walletHashPage i
  | .multisig => accountPage i pageIndexMultisigConfigHash

def HashKind.set (env : Env) (k : HashKind) (i : AccountIndex) (info : Page) : Account Unit :=
  match k with
  | .wallet => setWalletDataHash env i info
  | .multisig => setMultisigDataHash env i info

def HashKind.verify (env : Env) (k : HashKind) (i : AccountIndex) (info : Page) : Account Bool :=
  match k with
  | .wallet => verifyWalletDataHash env i info
  | .multisig => verifyMultisigWalletDataHash env i info

theorem HashKind.page_inj {k l : HashKind} {i j : AccountIndex} (h : k.page i = l.page j) :
    k = l ∧ i = j := by
  cases k with
  | wallet =>
    cases l with
    | wallet =>
      have hij : 85 + i.val = 85 + j.val := h
      exact ⟨rfl, Fin.ext (by omega)⟩
    | multisig => exact absurd h.symm (accountPage_ne_walletHashPage j i _)
  | multisig =>
    cases l with
    | wallet => exact absurd h (accountPage_ne_walletHashPage i j _)
    | multisig => exact ⟨rfl, (accountPage_inj.mp h).1⟩

def verifySees (env : Env) (page : Nat) (d : Device) : Page :=
  match env.readReply d.writes d.reads with
  | .answered => d.page page
  | _ => Block.front (m := 32) (n := 32) (env.stack d.writes d.reads)

theorem verifyDataHash_nonblank {env : Env} {page : Nat} {info : Page} {d : Device}
    (h : blankPage (verifySees env page d) = false) :
    (verifyDataHash env page info d).2 = d.countRead ∧
      ((verifyDataHash env page info d).1 = .ok true → d.page page = info) := by
  unfold verifySees at h
  unfold verifyDataHash
  have hgarbage : stackGarbage env d = (.ok (env.stack d.writes d.reads), d) := rfl
  rw [bind_ok hgarbage]
  cases hr : env.readReply d.writes d.reads with
  | answered =>
    rw [hr] at h
    have hread : seHmacEncryptRead env page d = (.ok (d.page page), d.countRead) :=
      seRead_answered hr
    rw [bind_ok (attempt_ok hread)]
    dsimp only at h ⊢
    by_cases heq : d.page page = info
    · rw [if_pos (by rw [heq]; exact beq_self_eq_true info)]
      exact ⟨rfl, fun _ => heq⟩
    · rw [if_neg (by
        show ¬(true && d.page page == info) = true
        rw [beq_false_of_ne heq]
        decide), if_neg (by rw [h]; decide)]
      exact ⟨rfl, nofun⟩
  | refused status applied =>
    rw [hr] at h
    have hread : seHmacEncryptRead env page d = (.error (.se status), d.countRead) := by
      unfold seHmacEncryptRead seRead
      rw [hr]
    rw [bind_ok (attempt_error hread)]
    dsimp only at h ⊢
    rw [if_neg (by exact Bool.false_ne_true), if_neg (by rw [h]; decide)]
    exact ⟨rfl, nofun⟩
  | stopped applied =>
    have hread : seHmacEncryptRead env page d = (.halted, d.countRead) := by
      unfold seHmacEncryptRead seRead
      rw [hr]
    rw [bind_halted (attempt_halted hread)]
    exact ⟨rfl, nofun⟩

/-- What can happen to the hashes: the routines, the reader of the public keys,
a change of the flash from outside, and the erase of an account. -/
inductive HashOp where
  | set (k : HashKind) (i : AccountIndex) (info : Page)
  | verify (k : HashKind) (i : AccountIndex) (info : Page)
  | readPublicInfo (i : AccountIndex)
  | tamper (i : AccountIndex) (area : UserArea) (f : Flash.Cells → Flash.Cells)
  | erase (i : AccountIndex)

/-- A device, and the last hash accepted for each page since it was last set or
erased. -/
structure HashRun where
  device : Device
  accepted : HashKind → AccountIndex → Option Page

def HashRun.note (s : HashRun) (k : HashKind) (i : AccountIndex) (h : Option Page) :
    HashKind → AccountIndex → Option Page :=
  fun l j => if l = k ∧ j = i then h else s.accepted l j

def publicInfoHash (env : Env) (i : AccountIndex) (d : Device) : Page :=
  env.crypto.sha256 (publicInfoText d i)

/-- The reader gets as far as the verify: the size word is in range. -/
def publicInfoInRange (i : AccountIndex) (d : Device) : Prop :=
  publicInfoSize d i ≤ UserArea.data.size - 4

instance (i : AccountIndex) (d : Device) : Decidable (publicInfoInRange i d) :=
  inferInstanceAs (Decidable (_ ≤ _))

def HashRun.step (env : Env) (op : HashOp) (s : HashRun) : HashRun :=
  match op with
  | .set k i info => { device := (k.set env i info s.device).2, accepted := s.note k i none }
  | .verify k i info =>
    { device := (k.verify env i info s.device).2
      accepted := if (k.verify env i info s.device).1 = .ok true then s.note k i (some info)
        else s.accepted }
  | .readPublicInfo i =>
    { device := (accountPublicInfoReadFromFlash env i s.device).2
      accepted := if publicInfoInRange i s.device ∧
          (verifyWalletDataHash env i (publicInfoHash env i s.device) s.device).1 = .ok true
        then s.note .wallet i (some (publicInfoHash env i s.device)) else s.accepted }
  | .tamper i area f => { device := s.device.setFlash i area f, accepted := s.accepted }
  | .erase i =>
    { device := (destroyAccount env i s.device).2
      accepted := fun k j => if j = i then none else s.accepted k j }

def SeesHash (env : Env) (op : HashOp) (s : HashRun) : Prop :=
  match op with
  | .verify k i _ => blankPage (verifySees env (k.page i) s.device) = false
  | .readPublicInfo i =>
    publicInfoInRange i s.device → blankPage (verifySees env (walletHashPage i) s.device) = false
  | _ => True

instance (env : Env) (op : HashOp) (s : HashRun) : Decidable (SeesHash env op s) :=
  match op with
  | .set .. => inferInstanceAs (Decidable True)
  | .verify .. => inferInstanceAs (Decidable (_ = _))
  | .readPublicInfo _ => inferInstanceAs (Decidable (_ → _))
  | .tamper .. => inferInstanceAs (Decidable True)
  | .erase _ => inferInstanceAs (Decidable True)

def HashInv (s : HashRun) : Prop := ∀ k i h, s.accepted k i = some h → s.device.page (k.page i) = h

section

variable {env : Env} {s : HashRun}

theorem verify_eq (env : Env) (k : HashKind) (i : AccountIndex) (info : Page) :
    k.verify env i info = verifyDataHash env (k.page i) info := by
  cases k <;> rfl

theorem hashInv_note {k : HashKind} {i : AccountIndex} {info : Page} {d : Device}
    (h : HashInv s) (hd : d.page = s.device.page) (hinfo : s.device.page (k.page i) = info) :
    HashInv { device := d, accepted := s.note k i (some info) } := by
  intro l j x hx
  show d.page (l.page j) = x
  rw [hd]
  by_cases hlj : l = k ∧ j = i
  · have hnote : s.note k i (some info) l j = some info := if_pos hlj
    rw [hlj.1, hlj.2, hinfo]
    exact Option.some.inj (hnote.symm.trans hx)
  · have hnote : s.note k i (some info) l j = s.accepted l j := if_neg hlj
    exact h l j x (hnote.symm.trans hx)

theorem hashInv_verify {k : HashKind} {i : AccountIndex} {h info : Page} (hinv : HashInv s)
    (hacc : s.accepted k i = some h)
    (hsees : blankPage (verifySees env (k.page i) s.device) = false)
    (htrue : (k.verify env i info s.device).1 = .ok true) : info = h := by
  rw [verify_eq] at htrue
  exact ((verifyDataHash_nonblank hsees).2 htrue).symm.trans (hinv k i h hacc)

theorem readPublicInfo_page (env : Env) (i : AccountIndex) (d : Device)
    (hsees : publicInfoInRange i d → blankPage (verifySees env (walletHashPage i) d) = false) :
    (accountPublicInfoReadFromFlash env i d).2.page = d.page := by
  unfold accountPublicInfoReadFromFlash
  rw [get_bind]
  by_cases hsize : publicInfoInRange i d
  · rw [if_neg (Nat.not_lt.mpr hsize)]
    have hsame : (verifyWalletDataHash env i (env.crypto.sha256 (publicInfoText d i)) d).2
        = d.countRead := (verifyDataHash_nonblank (hsees hsize)).1
    match hrun : verifyWalletDataHash env i (env.crypto.sha256 (publicInfoText d i)) d with
    | (.error e, t) =>
      rw [hrun] at hsame
      rw [bind_error hrun, hsame]
      rfl
    | (.halted, t) =>
      rw [hrun] at hsame
      rw [bind_halted hrun, hsame]
      rfl
    | (.ok b, t) =>
      rw [hrun] at hsame
      rw [bind_ok hrun, show t = d.countRead from hsame]
      cases b with
      | false => rfl
      | true =>
        rw [if_pos rfl]
        cases env.wallet.publicKeysOfJson (publicInfoText d i) with
        | none => rfl
        | some keys => rfl
  · rw [if_pos (Nat.lt_of_not_le hsize)]
    rfl

theorem readPublicInfo_ok {i : AccountIndex} {d : Device}
    (h : (accountPublicInfoReadFromFlash env i d).1 = .ok ()) :
    publicInfoInRange i d ∧
      (verifyWalletDataHash env i (publicInfoHash env i d) d).1 = .ok true := by
  unfold accountPublicInfoReadFromFlash at h
  rw [get_bind] at h
  by_cases hsize : publicInfoInRange i d
  · rw [if_neg (Nat.not_lt.mpr hsize)] at h
    refine ⟨hsize, ?_⟩
    unfold publicInfoHash
    match hrun : verifyWalletDataHash env i (env.crypto.sha256 (publicInfoText d i)) d with
    | (.error e, t) =>
      rw [bind_error hrun] at h
      exact nomatch h
    | (.halted, t) =>
      rw [bind_halted hrun] at h
      exact nomatch h
    | (.ok b, t) =>
      rw [bind_ok hrun] at h
      cases b with
      | false => exact nomatch h
      | true => rfl
  · rw [if_pos (Nat.lt_of_not_le hsize)] at h
    exact nomatch h

theorem frame_erase_page {k : HashKind} {i j : AccountIndex} (h : j ≠ i) :
    Frame (Keeps fun d : Device => d.page (k.page j)) (destroyAccount env i) := by
  have hwallet : k.page j ≠ walletHashPage i := fun he => h (HashKind.page_inj (l := .wallet) he).2
  have hpages : ∀ l, k.page j ≠ accountPage i l := by
    intro l he
    cases k with
    | wallet => exact accountPage_ne_walletHashPage i j l he.symm
    | multisig => exact h (accountPage_inj.mp he).1
  refine frame_destroyAccount env ?_ (fun l d => Device.setPage_ne d _ (hpages l))
    (fun _ _ => rfl) ⟨fun _ _ => rfl, fun _ _ => rfl⟩
  exact { writes := fun _ => rfl, reads := fun _ => rfl, draws := fun _ _ => rfl
          hash := fun d x => Device.setPage_ne d x hwallet
          flash := fun _ _ _ => rfl, keys := fun _ _ => rfl, temp := fun _ _ => rfl
          isTemp := fun _ _ => rfl }

theorem frame_set_page {k l : HashKind} {i j : AccountIndex} (h : ¬(l = k ∧ j = i))
    (info : Page) : Frame (Keeps fun d : Device => d.page (l.page j)) (k.set env i info) := by
  have hne : l.page j ≠ k.page i := fun he => h (HashKind.page_inj he)
  have hset : k.set env i info = setDataHash env (k.page i) info := by cases k <;> rfl
  rw [hset]
  exact frame_seHmacEncryptWrite env ⟨fun _ => rfl, fun _ => rfl, fun _ _ => rfl⟩
    fun d => Device.setPage_ne d info hne

theorem hashInv_step {op : HashOp} (hsees : SeesHash env op s) (h : HashInv s) :
    HashInv (s.step env op) := by
  cases op with
  | set k i info =>
    intro l j x hx
    by_cases hlj : l = k ∧ j = i
    · have hnote : s.note k i none l j = none := if_pos hlj
      exact nomatch hnote.symm.trans hx
    · have hnote : s.note k i none l j = s.accepted l j := if_neg hlj
      have hpage : (k.set env i info s.device).2.page (l.page j) = s.device.page (l.page j) :=
        frame_set_page hlj info s.device
      exact hpage.trans (h l j x (hnote.symm.trans hx))
  | verify k i info =>
    have hsame : (k.verify env i info s.device).2 = s.device.countRead := by
      rw [verify_eq]
      exact (verifyDataHash_nonblank hsees).1
    have hpage : (k.verify env i info s.device).2.page = s.device.page := by
      rw [hsame]
      rfl
    by_cases htrue : (k.verify env i info s.device).1 = .ok true
    · have hinfo : s.device.page (k.page i) = info := by
        rw [verify_eq] at htrue
        exact (verifyDataHash_nonblank hsees).2 htrue
      unfold HashRun.step
      dsimp only
      rw [if_pos htrue]
      exact hashInv_note h hpage hinfo
    · unfold HashRun.step
      dsimp only
      rw [if_neg htrue]
      intro l j x hx
      exact (congrFun hpage _).trans (h l j x hx)
  | readPublicInfo i =>
    have hpage := readPublicInfo_page env i s.device hsees
    unfold HashRun.step
    dsimp only
    split
    · next hverify =>
      refine hashInv_note h hpage ?_
      exact (verifyDataHash_nonblank (hsees hverify.1)).2 hverify.2
    · intro l j x hx
      exact (congrFun hpage _).trans (h l j x hx)
  | tamper i area f => exact h
  | erase i =>
    intro k j x hx
    by_cases hj : j = i
    · have hnone : (s.step env (.erase i)).accepted k j = none := if_pos hj
      exact nomatch hnone.symm.trans hx
    · have hacc : (s.step env (.erase i)).accepted k j = s.accepted k j := if_neg hj
      have hpage : (destroyAccount env i s.device).2.page (k.page j)
          = s.device.page (k.page j) := frame_erase_page hj s.device
      exact hpage.trans (h k j x (hacc.symm.trans hx))

end

def runHashes (env : Env) : List HashOp → HashRun → HashRun := runSteps (HashRun.step env)

def SeesHashes (env : Env) : List HashOp → HashRun → Prop :=
  AllSteps (HashRun.step env) (SeesHash env)

def HashRun.start (d : Device) : HashRun := { device := d, accepted := fun _ _ => none }

/-- **An accepted hash stays the only one.** In every run whose verify steps see
no blank page, once a verify has returned true for a hash, the same verify
returns true for that hash only, until it is set again or the account is erased;
and the public keys in flash are accepted only with that hash. -/
theorem verify_only_accepted (env : Env) (ops : List HashOp) (d : Device) (k : HashKind)
    (i : AccountIndex) (h : Page) (hsees : SeesHashes env ops (HashRun.start d))
    (hacc : (runHashes env ops (HashRun.start d)).accepted k i = some h) :
    let s := runHashes env ops (HashRun.start d)
    (∀ h', SeesHash env (.verify k i h') s → (k.verify env i h' s.device).1 = .ok true → h' = h) ∧
    (k = .wallet → SeesHash env (.readPublicInfo i) s →
      (accountPublicInfoReadFromFlash env i s.device).1 = .ok () →
      publicInfoHash env i s.device = h) := by
  have hinv : HashInv (runHashes env ops (HashRun.start d)) :=
    runSteps_inv_of (fun _ _ hc h => hashInv_step hc h) ops _ hsees nofun
  refine ⟨fun h' hs htrue => hashInv_verify hinv hacc hs htrue, ?_⟩
  rintro rfl hs hok
  obtain ⟨hsize, htrue⟩ := readPublicInfo_ok hok
  exact hashInv_verify (k := .wallet) hinv hacc (hs hsize) htrue

/-- On a blank page a first hash is accepted, and then another one. -/
theorem verify_accepts_another : ¬∀ (env : Env) (ops : List HashOp) (d : Device) (k : HashKind)
    (i : AccountIndex) (h h' : Page),
    (runHashes env ops (HashRun.start d)).accepted k i = some h →
    (k.verify env i h' (runHashes env ops (HashRun.start d)).device).1 = .ok true → h' = h := by
  intro claim
  have h := claim Env.sample [.verify .wallet 0 (Block.fill 32 1)] Device.blank .wallet 0
    (Block.fill 32 1) (Block.fill 32 2) (by decide) (by decide)
  cases h

/-- A hash that was set before it was first verified. -/
theorem verify_only_accepted_set :
    let ops : List HashOp := [.set .wallet 0 (Block.fill 32 1), .verify .wallet 0 (Block.fill 32 1)]
    let s := runHashes Env.sample ops (HashRun.start Device.blank)
    (∀ h', SeesHash Env.sample (.verify .wallet 0 h') s →
      (HashKind.verify Env.sample .wallet 0 h' s.device).1 = .ok true → h' = Block.fill 32 1) ∧
    (HashKind.wallet = .wallet → SeesHash Env.sample (.readPublicInfo 0) s →
      (accountPublicInfoReadFromFlash Env.sample 0 s.device).1 = .ok () →
      publicInfoHash Env.sample 0 s.device = Block.fill 32 1) :=
  verify_only_accepted Env.sample
    [.set .wallet 0 (Block.fill 32 1), .verify .wallet 0 (Block.fill 32 1)] Device.blank .wallet 0
    (Block.fill 32 1) ⟨trivial, by decide, trivial⟩ (by decide)

end Keystone3
