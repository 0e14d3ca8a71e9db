import Keystone3.Account.Creation
import Keystone3.Account.ErrorCount

/-!
# The wipe at boot

Ten failed logins make the next boot erase the device. It erases the counters first and,
unlike `WipeDevice`, leaves no mark in the flash: a power loss right after that write keeps
the accounts and takes the lockout back (`powerLoss_escapes_wipe`).
-/

namespace Keystone3

open Logic (runSteps_inv_of)
open Logic.Prog
open Bytes (Block)

/-- Nothing is left of the accounts. -/
structure Wiped (d : Device) : Prop where
  counters : d.page pagePublicInfo = PublicInfo.cleared.toPage
  accounts : ∀ i, Zeroed i 12 d
  flash : d.flash = fun _ _ _ => Flash.erased

/-- The accounts of `d₀` are erased from write `w` on, the first `n` of them so far. One whose
first write is not answered is as it was. -/
structure Erasing (env : Env) (w : Nat) (d₀ : Device) (n : Nat) (d : Device) : Prop where
  counters : d.page pagePublicInfo = PublicInfo.cleared.toPage
  erased : ∀ i : AccountIndex, i.val < n → Zeroed i 12 d
  kept : ∀ i : AccountIndex, env.writeReply (w + 36 * i.val) ≠ .answered →
    slotOf i d = slotOf i d₀

theorem Erasing.start {env : Env} {w n : Nat} {d₀ d : Device} (h : Erasing env w d₀ n d) :
    Erasing env w d₀ 0 d :=
  ⟨h.counters, fun _ h => absurd h (Nat.not_lt_zero _), h.kept⟩

/-- Where a wipe ends, whose first write is answered. -/
def WipeEnds (env : Env) (d₀ d : Device) : Prop :=
  env.writeReply (d₀.writes + 1 + 36 * 3) = .answered ∧ Wiped d ∨
    (∃ v, env.writeReply v ≠ .answered) ∧ Erasing env (d₀.writes + 1) d₀ 0 d

theorem destroyAccount_stopped {env : Env} {d : Device} (i : AccountIndex)
    (h : env.writeReply d.writes = .stopped false) :
    destroyAccount env i d = (.halted, d.countWrite) := by
  have hwrite : ∀ x p, seHmacEncryptWrite env x p d = (.halted, d.countWrite) := by
    intro x p
    unfold seHmacEncryptWrite seWrite
    rw [h]
    rfl
  have hpages : writePages env i zeroPages d = (.halted, d.countWrite) := bind_halted (hwrite _ _)
  exact bind_halted (attempt_halted hpages)

theorem erasePublicInfo_answered {env : Env} {d : Device}
    (h : env.writeReply d.writes = .answered) :
    erasePublicInfo env d = (.ok (), Device.setPage
      (Device.countWrite { d with publicInfo := PublicInfo.cleared }) pagePublicInfo
      PublicInfo.cleared.toPage) := by
  show seWrite env (fun d => d.setPage pagePublicInfo PublicInfo.cleared.toPage) _ = _
  exact seWrite_answered h

section

variable {env : Env} (hs : Steady env)

include hs

theorem triple_destroyAccount_erasing {w : Nat} {d₀ : Device} (i : AccountIndex) :
    Triple (fun d => d.writes = w + 36 * i.val ∧ Erasing env w d₀ i.val d) (destroyAccount env i)
      (fun _ d => d.writes = w + 36 * (i.val + 1) ∧ Erasing env w d₀ (i.val + 1) d)
      (fun _ _ => False)
      (fun d => (∃ v, env.writeReply v ≠ .answered) ∧ Erasing env w d₀ 0 d) := by
  rintro d ⟨hw, h⟩
  by_cases hr : env.writeReply (w + 36 * i.val) = .answered
  · -- what is kept or erased is of other accounts
    have hkeep : Frame (Holding (Erasing env w d₀ i.val)) (destroyAccount env i) := by
      intro d h
      have hother : ∀ j, j ≠ i → slotOf j (destroyAccount env i d).2 = slotOf j d := fun j hj =>
        have hf := ignoresAccount_slotOf hj
        frame_destroyAccount env hf.toIgnoresPublicInfo (fun k d => hf.pages k d _)
          hf.passphrase (ignoresSession_slotOf j) d
      have hcounters := frame_destroyAccount_any env ignoresAccounts_counters i d
      refine ⟨(congrArg Prod.snd hcounters).trans h.counters, fun j hlt k hk => ?_,
        fun j hj => (hother j fun he => hj (he ▸ hr)).trans (h.kept j hj)⟩
      exact (page_of_slotOf (hother j (Fin.ne_of_lt hlt)) k).trans (h.erased j hlt k hk)
    refine triple_conseq (triple_and (triple_destroyAccount_zeroes hs)
      (triple_of_frame hkeep fun _ _ h => h)) (fun _ h => h) (fun _ d h => ?_)
      (fun _ _ h => h.1) (fun _ h => ⟨⟨_, h.1.1⟩, h.2.start⟩) d ⟨⟨hw, rfl⟩, h⟩
    obtain ⟨⟨hw, hzero, -⟩, h⟩ := h
    refine ⟨hw.trans (by omega), h.counters, fun j hlt => ?_, h.kept⟩
    refine (Nat.lt_succ_iff_lt_or_eq.mp hlt).elim (h.erased j) fun he => ?_
    rw [Fin.ext he]
    exact hzero
  · rw [← hw] at hr
    rw [destroyAccount_stopped i ((hs.writes _).resolve_left hr)]
    exact ⟨⟨_, hr⟩, h.counters, h.start.erased, h.kept⟩

theorem wipeDevice_ends {d₀ : Device} (h : env.writeReply d₀.writes = .answered) :
    WipeEnds env d₀ (wipeDevice env d₀).2 := by
  let w := d₀.writes + 1
  let d₁ := Device.setPage (Device.countWrite { d₀ with publicInfo := PublicInfo.cleared })
    pagePublicInfo PublicInfo.cleared.toPage
  have hslot : ∀ i, slotOf i d₁ = slotOf i d₀ := by
    intro i
    unfold slotOf
    rw [cellsOf_setPage (accountPage_ne_pagePublicInfo i),
      Device.setPage_ne _ _ (walletHashPage_ne_pagePublicInfo i)]
    rfl
  let I := fun (n : Nat) (d : Device) => d.writes = w + 36 * n ∧ Erasing env w d₀ n d
  have hround : ∀ j i, accountIndices[j]? = some i → Triple (I (0 + j))
      (ignore (destroyAccount env i)) (fun _ => I (0 + j + 1)) (fun _ _ => False)
      (WipeEnds env d₀) := by
    intro j i hi
    have hindex : ∀ j : Fin accountIndices.length, accountIndices[j].val = j.val := by decide
    obtain ⟨hlt, he⟩ := List.getElem?_eq_some_iff.mp hi
    rw [Nat.zero_add, show j = i.val from he ▸ (hindex ⟨j, hlt⟩).symm]
    exact triple_ignore (triple_conseq (triple_destroyAccount_erasing hs i) (fun _ h => h)
      (fun _ _ h => h) (fun _ _ h => h.elim) fun _ h => .inr h)
  have hrest : Triple (I 0) (do
        each (fun i => ignore (destroyAccount env i)) accountIndices
        flashWrite env fun d => { d with flash := fun _ _ _ => Flash.erased }
        halt : Account Unit)
      (fun _ _ => False) (fun _ _ => False) (WipeEnds env d₀) := by
    refine triple_bind (triple_each_indexed accountIndices 0 hround) fun _ =>
      triple_bind (Q := fun _ => WipeEnds env d₀) ?_ fun _ => triple_halt fun _ h => h
    refine triple_flashWrite_steady hs (fun d h hr => .inl ⟨?_, ?_⟩)
      fun d h hr => .inr ⟨⟨_, hr⟩, h.2.counters, h.2.start.erased, h.2.kept⟩
    · rw [← show d.writes = d₀.writes + 1 + 36 * 3 from h.1]
      exact hr
    · exact ⟨h.2.counters, fun i => h.2.erased i i.isLt, rfl⟩
  have hrun : wipeDevice env d₀ = _ := bind_ok (ignore_ok (erasePublicInfo_answered h))
  rw [hrun]
  refine triple_snd (triple_conseq hrest (fun _ h => h) (fun _ _ h => h.elim)
    (fun _ _ h => h.elim) fun _ h => h) ⟨rfl, Device.setPage_self _ _ _, ?_, fun i _ => hslot i⟩
  exact fun _ h => absurd h (Nat.not_lt_zero _)

end

variable (env : Env)

theorem powerOn_ideal (d : Device) :
    ∃ t, accountsDataCheck env.ideal d.restart = (.ok (), t) ∧
      ∀ wipeFlag, powerOn env.ideal wipeFlag d = powerOnSelfCheck env.ideal wipeFlag
        { t.countRead with publicInfo := PublicInfo.ofPage (d.page pagePublicInfo) } := by
  let x := d.page pagePublicInfo
  have hround : ∀ i ∈ accountIndices, Triple (fun t => t.page pagePublicInfo = x)
      (accountDataCheck env.ideal i) (fun _ t => t.page pagePublicInfo = x)
      (fun _ _ => False) (fun _ => False) := by
    intro i _ t ht
    obtain ⟨t', hrun, -⟩ := accountDataCheck_self env i t
    have hkeep : counters _ = counters t := frame_accountDataCheck env.ideal blind_counters
      (fun k d => (ignoresAccounts_counters.account i).pages k d _) t
    rw [hrun] at hkeep ⊢
    exact (congrArg Prod.snd hkeep).trans ht
  have hcheck : Sat (fun _ t => t.page pagePublicInfo = x) (fun _ _ => False) (fun _ => False)
      (accountsDataCheck env.ideal d.restart) :=
    triple_ignore (triple_conseq (triple_each accountIndices hround) (fun _ h => h)
      (fun _ _ h => h) (fun _ _ h => h.elim) fun _ h => h) d.restart rfl
  match hrun : accountsDataCheck env.ideal d.restart with
  | (.ok (), t) =>
    rw [hrun] at hcheck
    refine ⟨t, rfl, fun wipeFlag => ?_⟩
    have hinit : accountManagerInit env.ideal t = (.ok (), { t.countRead with
        publicInfo := PublicInfo.ofPage (t.page pagePublicInfo) }) := bind_ok (seRead_answered rfl)
    rw [show t.page pagePublicInfo = d.page pagePublicInfo from hcheck] at hinit
    exact (bind_ok hrun).trans (bind_ok (ignore_ok hinit))
  | (.error e, t) =>
    rw [hrun] at hcheck
    exact hcheck.elim
  | (.halted, t) =>
    rw [hrun] at hcheck
    exact hcheck.elim

/-- A device that is marked, or has ten failures stored, is wiped at the next boot. -/
theorem powerOn_wipes {wipeFlag : Bool} {d : Device}
    (h : wipeFlag = true ∨ 10 ≤ storedCount d) : Wiped (powerOn env.ideal wipeFlag d).2 := by
  obtain ⟨t, -, hrun⟩ := powerOn_ideal env d
  have hreset : (wipeFlag || !decide ((PublicInfo.ofPage
      (d.page pagePublicInfo)).loginPasswordErrorCount < 10)) = true := by
    rcases h with rfl | h
    · rfl
    · rw [Bool.or_eq_true, Bool.not_eq_true', decide_eq_false_iff_not, UInt8.lt_iff_toNat_lt,
        Nat.not_lt]
      exact .inr h
  have hself : ∀ u : Device, u.publicInfo = PublicInfo.ofPage (d.page pagePublicInfo) →
      powerOnSelfCheck env.ideal wipeFlag u = wipeDevice env.ideal u := by
    intro u hu
    unfold powerOnSelfCheck accountManagerIsNeedReset
    rw [get_bind, hu, if_pos hreset]
  rw [hrun, hself _ rfl]
  rcases @wipeDevice_ends env.ideal (steady_ideal env) _ rfl with ⟨_, h⟩ | ⟨⟨v, h⟩, _⟩
  · exact h
  · exact absurd rfl h

/-- **Ten failures wipe the device.** After every session whose steps are safe and in which ten
logins have failed, the next boot leaves nothing of the accounts, and from then on a password
opens none until it is set again, however the hardware behaves. -/
theorem wiped_after_failures (ops later : List KeystoreOp) (d : Device) (wipeFlag : Bool)
    (hsafe : SafeSession env ops (Session.start d))
    (hten : 10 ≤ (runSession env ops (Session.start d)).failures) :
    let d' := (powerOn env.ideal wipeFlag (runSession env ops (Session.start d)).device).2
    Wiped d' ∧ ∀ password, checkEntropy (passwordHashOf env password) = true →
      (∀ op ∈ later, ∀ p ∈ op.newPassword?,
        passwordHashOf env p ≠ passwordHashOf env password) →
      ∀ j, (verifyPassword env password (runOps env later d')).1 ≠ .ok j := by
  have hinv : CountInv (runSession env ops (Session.start d)) :=
    runSteps_inv_of (fun _ _ hc h => countInv_step env hc h) ops _ hsafe
      ⟨Nat.zero_le _, fun _ => Nat.zero_le _⟩
  have hwiped := @powerOn_wipes env wipeFlag _ (.inr (Nat.le_trans hten hinv.stored))
  refine ⟨hwiped, fun password hset hlater => not_selected env hset (fun j he => ?_) hlater⟩
  rw [← he, show passwordHashes _ j = Block.zero 32 from
    hwiped.accounts j pageIndexPasswordHash (by decide)] at hset
  exact absurd hset (by decide)

theorem wiped_after_failures_ten :
    let d := runOps Env.sample [.create 0 (.ton [5]) [1]] Device.blank
    Wiped (powerOn Env.sample.ideal.ideal false (runSession Env.sample.ideal
      (List.replicate 10 (.login [2])) (Session.start d)).device).2 := by
  intro d
  have hnone : ∀ j, passwordHashes (Session.start d).device j ≠ passwordHashOf Env.sample [2] := by
    decide +kernel
  have hrun := failedLogins_count Env.sample 10 (Session.start d) rfl hnone
  exact (wiped_after_failures Env.sample.ideal _ [] d false
    (safeSession_failedLogins Env.sample 10 _ rfl hnone (by decide +kernel))
    (Nat.le_of_eq hrun.2.1.symm)).1

end Keystone3
