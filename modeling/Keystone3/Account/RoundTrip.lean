import Keystone3.Account.Manager

/-!
# What is saved is what is loaded

The secret of an account goes through key pieces in two secure elements, a cipher, a MAC
and eleven pages and slots whose addresses are computed from the account index. Here the
two ends are put together, with hardware that answers: a save followed by a load under
the same password gives the secret back (`load_after_save`), and nothing done to one
account is seen by a load of another (`load_other_unchanged`), even when the hardware
fails in the middle of it.
-/

namespace Keystone3

open Logic (Outcome)
open Logic.Prog
open Bytes (Block)

theorem not_troubled_ideal (env : Env) (w n : Nat) : ¬Troubled env.ideal w n := by
  rintro (⟨k, _, h⟩ | ⟨r, _, h⟩)
  · exact h rfl
  · exact h rfl

theorem not_refuses_ideal (env : Env) : ¬Refuses env.ideal := by
  rintro (⟨w, st, a, h⟩ | ⟨w, r, st, a, h⟩)
  · exact SeReply.noConfusion h
  · exact SeReply.noConfusion h

def effectiveEntropyLen (a : AccountInfo) : UInt8 := if a.entropyLen = 0 then 32 else a.entropyLen

/-- What a save needs from its caller: a new account is the current one, and a
secret saved again has the length that the parameters already say. -/
def SaveContract (d : Device) (i : AccountIndex) (s : AccountSecret) (newAccount : Bool) : Prop :=
  s.entropyLen ≠ 0 ∧
    if newAccount then d.currentAccountIndex = some i
    else effectiveEntropyLen (paramOf d i) = s.entropyLen

theorem frame_writeSecret_param (env : Env) (i : AccountIndex) (s : AccountSecret)
    (password : CString) :
    Frame (Keeps fun d => paramOf d i) (writeSecret env i s password) := by
  refine frame_writeSecret env ⟨⟨fun _ => rfl, fun _ => rfl, fun _ _ => rfl⟩, fun k hk d x => ?_,
    fun _ _ _ _ => rfl⟩ s password
  have hne : ∀ k ∈ secretPages, pageIndexParam ≠ k := by decide
  unfold paramOf
  rw [Device.setPage_ne d x fun he => hne k hk (accountPage_inj.mp he).2]

theorem save_ideal (env : Env) (i : AccountIndex) (s : AccountSecret) (password : CString)
    (newAccount : Bool) (d : Device) (hcall : SaveContract d i s newAccount) :
    ∃ d', saveAccountSecret env.ideal i s password newAccount d = (.ok (), d') ∧
      Sealed env.ideal d' i password s ∧ effectiveEntropyLen (paramOf d' i) = s.entropyLen := by
  obtain ⟨hlen, hcall⟩ := hcall
  cases newAccount with
  | true =>
    have h : Sat _ _ _ (saveAccountSecret env.ideal i s password true d) :=
      triple_saveAccountSecret_new d ⟨rfl, hcall, rfl⟩
    match hrun : saveAccountSecret env.ideal i s password true d with
    | (.ok (), d') =>
      rw [hrun] at h
      obtain ⟨_, hs, _, _, hparam⟩ := h
      have hinfo := hparam.resolve_left (not_refuses_ideal env)
      have hnew : (newAccountInfo env.ideal s d.currentAccountInfo).entropyLen = s.entropyLen := by
        unfold newAccountInfo
        dsimp only
        split
        · rfl
        · split <;> rfl
      refine ⟨d', rfl, hs, ?_⟩
      unfold effectiveEntropyLen
      rw [hinfo, hnew, if_neg hlen]
    | (.error e, d') =>
      rw [hrun] at h
      exact absurd h.2 (not_troubled_ideal env _ _)
    | (.halted, d') =>
      rw [hrun] at h
      exact absurd h (not_troubled_ideal env _ _)
  | false =>
    have h : Sat _ _ _ (writeSecret env.ideal i s password d) :=
      triple_writeSecret (Nat.le_refl _) d rfl
    have hkeep := frame_writeSecret_param env.ideal i s password d
    match hrun : writeSecret env.ideal i s password d with
    | (.ok (), d') =>
      rw [hrun] at h hkeep
      have hparam : paramOf d' i = paramOf d i := hkeep
      refine ⟨d', bind_ok hrun, h.2, ?_⟩
      rw [hparam]
      exact hcall
    | (.error e, d') =>
      rw [hrun] at h
      exact absurd h.2 (not_troubled_ideal env _ _)
    | (.halted, d') =>
      rw [hrun] at h
      exact absurd h (not_troubled_ideal env _ _)

theorem load_of_sealed {env : Env} {d : Device} {i : AccountIndex} {password : CString}
    {s : AccountSecret} (hs : Sealed env.ideal d i password s)
    (hlen : effectiveEntropyLen (paramOf d i) = s.entropyLen) :
    (loadAccountSecret env.ideal i password d).1 = .ok s := by
  have h := loaded_sealed (env.stack d.writes (d.reads + 1)) hs
  have heq : { s with entropyLen := if (paramOf d i).entropyLen = 0 then (32 : UInt8)
      else (paramOf d i).entropyLen } = s := by
    have he : (if (paramOf d i).entropyLen = 0 then (32 : UInt8)
      else (paramOf d i).entropyLen) = s.entropyLen := hlen
    rw [he]
  rw [loadAccountSecret_ideal env i password d]
  have h' : loaded env (env.stack d.writes (d.reads + 1)) d i password = .ok s :=
    h.trans (congrArg Except.ok heq)
  rw [h']
  rfl

variable {i j : AccountIndex}

theorem accountPage_other (h : j ≠ i) (k l : PageIndex) :
    accountPage j k ≠ accountPage i l := fun he => h (accountPage_inj.mp he).1

theorem cellsOf_setPage {j : AccountIndex} {p : Nat} (h : ∀ k, accountPage j k ≠ p) (d : Device)
    (x : Page) : cellsOf j (d.setPage p x) = cellsOf j d := by
  unfold cellsOf
  congr 1
  funext k
  exact Device.setPage_ne d x (h k)

theorem cellsOf_setSlot (h : j ≠ i) {s : Nat}
    (hs : s ∈ (getAccountSlot i).all) (d : Device) (x : Page) :
    cellsOf j (d.setSlot s x) = cellsOf j d := by
  have hne : ∀ t ∈ (getAccountSlot j).all, t ≠ s := fun t ht => slots_disjoint h t ht s hs
  unfold AccountSlot.all at hne
  unfold cellsOf
  rw [Device.setSlot_ne d x (hne _ (.head _)),
    Device.setSlot_ne d x (hne _ (.tail _ (.head _))),
    Device.setSlot_ne d x (hne _ (.tail _ (.tail _ (.head _))))]
  rfl

theorem ignoresAccount_cellsOf (h : j ≠ i) :
    IgnoresAccount i (cellsOf j) where
  writes _ := rfl
  reads _ := rfl
  draws _ _ := rfl
  hash := cellsOf_setPage fun k => accountPage_ne_walletHashPage j i k
  flash _ _ _ := rfl
  keys _ _ := rfl
  temp _ _ := rfl
  isTemp _ _ := rfl
  pages := fun l => cellsOf_setPage fun k => accountPage_other h k l
  slots := fun _ hs => cellsOf_setSlot h hs
  passphrase _ _ := rfl

theorem ignoresSession_cellsOf (j : AccountIndex) : IgnoresSession (cellsOf j) where
  info _ _ := rfl
  current _ _ := rfl

theorem save_cellsOf (h : j ≠ i) (env : Env) (s : AccountSecret)
    (password : CString) (newAccount : Bool) (d : Device)
    (hcall : newAccount = true → d.currentAccountIndex = some i) :
    cellsOf j (saveAccountSecret env i s password newAccount d).2 = cellsOf j d := by
  cases newAccount with
  | false =>
    exact frame_saveAccountSecret env ((ignoresAccount_cellsOf h).misses _) s password d
  | true =>
    have hc := (ignoresAccount_cellsOf h).creation (ignoresSession_cellsOf j)
    exact (keeps_of_whileCurrent (hcall rfl)
      (frame_saveAccountSecret_new env (hc.misses _) hc.toIgnoresInfo s password true d)).2

theorem changePassword_cellsOf (h : j ≠ i) (env : Env)
    (newPassword password : CString) (d : Device) :
    cellsOf j (changePassword env i newPassword password d).2 = cellsOf j d :=
  frame_changePassword env ((ignoresAccount_cellsOf h).misses _)
    (cellsOf_setPage fun k => accountPage_other h k _) newPassword password d

theorem destroyAccount_cellsOf (h : j ≠ i) (env : Env) (d : Device) :
    cellsOf j (destroyAccount env i d).2 = cellsOf j d :=
  frame_destroyAccount env (ignoresAccount_cellsOf h).toIgnoresPublicInfo
    (fun k d => (ignoresAccount_cellsOf h).pages k d _) (fun _ _ => rfl)
    (ignoresSession_cellsOf j) d

theorem createAccount_cellsOf (h : j ≠ i) (env : Env) (c : Creation)
    (password : CString) (d : Device) :
    cellsOf j (c.create env i password d).2 = cellsOf j d :=
  frame_create env (ignoresAccount_cellsOf h) (ignoresSession_cellsOf j) c password d

/-- What a load of account `j` returns when the hardware answers it, whatever
the uninitialised buffer holds. -/
def loads (env : Env) (g : Block 64) (j : AccountIndex) (password : CString) (d : Device) :
    Outcome ErrCode AccountSecret :=
  (loadAccountSecret (env.ideal.withStack g) j password d).1

theorem loads_congr {env : Env} {j : AccountIndex} {d d' : Device} (g : Block 64)
    (password : CString) (h : cellsOf j d' = cellsOf j d) :
    loads env g j password d' = loads env g j password d := by
  have hl : ∀ x, loads env g j password x
      = ((ofExcept (loaded env g x j password) : Account AccountSecret) x).1 :=
    fun x => loadAccountSecret_ideal (env.withStack g) j password x
  have hc : loaded env g d' j password = loaded env g d j password := loaded_congr g password h
  rw [hl, hl, hc]
  cases loaded env g d j password with
  | ok s => rfl
  | error e => rfl

/-- **Save then load, and the other accounts.** With hardware that answers, a
save that keeps its caller's contract returns, and a load under the same
password gives the secret back. A save, a password change or a destruction
of one account never alters what is loaded from another, however the
hardware behaves during it. -/
theorem save_load_roundTrip (env : Env) (i : AccountIndex) (s : AccountSecret)
    (password : CString) (newAccount : Bool) (d : Device)
    (hcall : SaveContract d i s newAccount) :
    (∃ d', saveAccountSecret env.ideal i s password newAccount d = (.ok (), d') ∧
      (loadAccountSecret env.ideal i password d').1 = .ok s) ∧
    ∀ (j : AccountIndex) (other : CString) (g : Block 64), j ≠ i →
      loads env g j other (saveAccountSecret env i s password newAccount d).2
          = loads env g j other d ∧
        (∀ newPassword oldPassword,
          loads env g j other (changePassword env i newPassword oldPassword d).2
            = loads env g j other d) ∧
        loads env g j other (destroyAccount env i d).2 = loads env g j other d := by
  refine ⟨?_, fun j other g hj => ⟨?_, fun newPassword oldPassword => ?_, ?_⟩⟩
  · obtain ⟨d', hrun, hs, hlen⟩ := save_ideal env i s password newAccount d hcall
    exact ⟨d', hrun, load_of_sealed hs hlen⟩
  · refine loads_congr g other (save_cellsOf hj env s password newAccount d fun hn => ?_)
    subst hn
    exact hcall.2
  · exact loads_congr g other (changePassword_cellsOf hj env newPassword oldPassword d)
  · exact loads_congr g other (destroyAccount_cellsOf hj env d)

/-- A new account with a 32-byte entropy, in slot 0 of a blank device. -/
theorem save_load_roundTrip_blank :
    let d := { Device.blank with currentAccountIndex := some 0 }
    let s := { AccountSecret.cleared with entropyLen := 32 }
    (∃ d', saveAccountSecret Env.sample.ideal 0 s [1] true d = (.ok (), d') ∧
      (loadAccountSecret Env.sample.ideal 0 [1] d').1 = .ok s) ∧
    ∀ (j : AccountIndex) (other : CString) (g : Block 64), j ≠ 0 →
      loads Env.sample g j other (saveAccountSecret Env.sample 0 s [1] true d).2
          = loads Env.sample g j other d ∧
        (∀ newPassword oldPassword,
          loads Env.sample g j other (changePassword Env.sample 0 newPassword oldPassword d).2
            = loads Env.sample g j other d) ∧
        loads Env.sample g j other (destroyAccount Env.sample 0 d).2
          = loads Env.sample g j other d :=
  save_load_roundTrip Env.sample 0 { AccountSecret.cleared with entropyLen := 32 } [1] true
    { Device.blank with currentAccountIndex := some 0 } ⟨by decide, rfl⟩

end Keystone3
