import Keystone3.Account.Run

/-!
# The count of failed logins

Ten failed logins make the device wipe itself at the next boot
(`accountManagerIsNeedReset`).

A run here is a `Session`: the device, whether it is running (a power loss or a failed
assertion stops it until the next `powerOn`), and how many logins have failed since the
last one that found its account, an explicit clear or an erase. The byte follows that
number (`countInv_step`) except in three places:

* the increment is not saturated, so the 256th failure in a row brings the count back to
  zero (`failedLogins_count`);
* the return code of the store after a failure is dropped;
* so is that of the read at boot.
-/

namespace Keystone3

open Logic (Outcome AllSteps runSteps runSteps_inv_of)
open Logic.Prog

def ramCount (d : Device) : Nat := d.publicInfo.loginPasswordErrorCount.toNat

def storedCount (d : Device) : Nat :=
  (PublicInfo.ofPage (d.page pagePublicInfo)).loginPasswordErrorCount.toNat

structure Session where
  device : Device
  running : Bool
  failures : Nat

/-- The number of failed logins after one more, by how the search for its account
and how the whole call ended. One that a power loss cuts short counts neither
way. -/
def failuresAfterLogin (found : Outcome ErrCode AccountIndex) (ended : Outcome ErrCode Unit)
    (failures : Nat) : Nat :=
  match found, ended with
  | .ok _, _ => 0
  | .error _, .halted => failures
  | .error _, _ => failures + 1
  | .halted, _ => failures

/-- The number of failed logins after a call. A boot counts as an erase when it
changed the page. -/
def failuresAfter (env : Env) (op : KeystoreOp) (d : Device) (failures : Nat) : Nat :=
  match op with
  | .login password => failuresAfterLogin (verifyPassword env password d).1
      (verifyPasswordAndLogin env password d).1 failures
  | .clearErrorCounts => 0
  | .erasePublicInfo => 0
  | .powerOn wipeFlag =>
    if (powerOn env wipeFlag d).2.page pagePublicInfo = d.page pagePublicInfo then failures else 0
  | _ => failures

def KeystoreOp.isPowerOn : KeystoreOp → Bool
  | .powerOn _ => true
  | _ => false

def Session.step (env : Env) (op : KeystoreOp) (s : Session) : Session :=
  if s.running || op.isPowerOn then
    { device := op.step env s.device
      running := (op.prog env s.device).1 != .halted
      failures := failuresAfter env op s.device s.failures }
  else s

/-- The step does not meet any of the three defects: a login that fails has room
in the byte and is stored, and the counters are read at boot. -/
def CountSafe (env : Env) (op : KeystoreOp) (s : Session) : Prop :=
  match op with
  | .login password =>
    (∃ e, (verifyPassword env password s.device).1 = .error e) →
      s.device.publicInfo.loginPasswordErrorCount ≠ 255 ∧
        ∀ status, env.writeReply s.device.writes ≠ .refused status false
  | .powerOn _ =>
    ∀ status applied, (accountsDataCheck env s.device.restart).1 = .ok () →
      env.readReply (accountsDataCheck env s.device.restart).2.writes
        (accountsDataCheck env s.device.restart).2.reads ≠ .refused status applied
  | _ => True

/-- Both counts are at least `n`. -/
def CountsAtLeast (n : Nat) (d : Device) : Prop := n ≤ storedCount d ∧ n ≤ ramCount d

/-- The invariant of a session: the stored count has every failure, and so has
the one in RAM while the device runs. -/
structure CountInv (s : Session) : Prop where
  stored : s.failures ≤ storedCount s.device
  ram : s.running = true → s.failures ≤ ramCount s.device

def counters (d : Device) : PublicInfo × Page := (d.publicInfo, d.page pagePublicInfo)

theorem countsAtLeast_congr {n : Nat} {d d' : Device} (h : counters d' = counters d)
    (hd : CountsAtLeast n d) : CountsAtLeast n d' := by
  have hram : d'.publicInfo = d.publicInfo := congrArg Prod.fst h
  have hpage : d'.page pagePublicInfo = d.page pagePublicInfo := congrArg Prod.snd h
  unfold CountsAtLeast storedCount ramCount
  rw [hram, hpage]
  exact hd

theorem counters_setPage {p : Nat} (h : pagePublicInfo ≠ p) (d : Device) (x : Page) :
    counters (d.setPage p x) = counters d :=
  congrArg (Prod.mk d.publicInfo) (Device.setPage_ne d x h)

theorem ignoresAccounts_counters : IgnoresAccounts counters where
  info _ _ := rfl
  current _ _ := rfl
  account i :=
    { writes := fun _ => rfl, reads := fun _ => rfl, draws := fun _ _ => rfl
      hash := counters_setPage (walletHashPage_ne_pagePublicInfo i).symm
      flash := fun _ _ _ => rfl, keys := fun _ _ => rfl, temp := fun _ _ => rfl
      isTemp := fun _ _ => rfl
      pages := fun k => counters_setPage (accountPage_ne_pagePublicInfo i k).symm
      slots := fun _ _ _ _ => rfl, passphrase := fun _ _ => rfl }

theorem blind_counters : Blind counters := (ignoresAccounts_counters.account 0).toBlind

section

variable (env : Env)

theorem holding_of_counters {α : Type} {x : Account α} {n : Nat}
    (h : Frame (Keeps counters) x) : Frame (Holding (CountsAtLeast n)) x :=
  frame_mono (fun _ _ hst hs => countsAtLeast_congr hst hs) h

theorem holding_setPublicInfo {n : Nat} {g : PublicInfo → PublicInfo}
    (h : ∀ p, (g p).loginPasswordErrorCount = p.loginPasswordErrorCount) :
    Frame (Holding (CountsAtLeast n)) (setPublicInfo g) := by
  intro d hd
  refine ⟨hd.1, ?_⟩
  show n ≤ (g d.publicInfo).loginPasswordErrorCount.toNat
  rw [h]
  exact hd.2

theorem storedCount_setPage (d : Device) (p : PublicInfo) :
    storedCount (d.setPage pagePublicInfo p.toPage) = p.loginPasswordErrorCount.toNat := by
  unfold storedCount
  rw [Device.setPage_self, PublicInfo.ofPage_toPage]

theorem holding_savePublicInfo {n : Nat} :
    Frame (Holding (CountsAtLeast n)) (savePublicInfo env) := by
  intro d
  have hw : Frame (fun s t => s.publicInfo = d.publicInfo → CountsAtLeast n s →
      CountsAtLeast n t) (seWrite env fun s => s.setPage pagePublicInfo d.publicInfo.toPage) := by
    refine frame_seWrite_rel env (fun _ _ hs => hs) fun s he hs => ⟨?_, hs.2⟩
    rw [storedCount_setPage, ← he]
    exact hs.2
  exact hw d rfl

theorem holding_verifyCurrentAccountPassword {n : Nat} (password : CString) :
    Frame (Holding (CountsAtLeast n)) (verifyCurrentAccountPassword env password) := by
  have hR := holding_preorder (CountsAtLeast n)
  have hsave := holding_savePublicInfo env (n := n)
  refine frame_bind hR (frame_get hR) fun d => ?_
  split
  · exact frame_throw hR _
  · refine frame_bind hR (holding_of_counters (frame_seHmacEncryptRead env blind_counters.reading _))
      fun x => ?_
    dsimp only
    split
    · exact frame_bind hR (holding_setPublicInfo fun _ => rfl) fun _ => frame_ignore hsave
    · exact frame_bind hR (holding_setPublicInfo fun _ => rfl) fun _ =>
        frame_bind hR (frame_ignore hsave) fun _ => frame_throw hR _

theorem holding_step {n : Nat} {op : KeystoreOp} (hlogin : ∀ p, op ≠ .login p)
    (hpower : ∀ w, op ≠ .powerOn w) (hclear : op ≠ .clearErrorCounts)
    (herase : op ≠ .erasePublicInfo) : Frame (Holding (CountsAtLeast n)) (op.prog env) := by
  have hR := holding_preorder (CountsAtLeast n)
  have hf := ignoresAccounts_counters
  cases op with
  | create i c password => exact holding_of_counters (frame_create_any env hf i c password)
  | changePassword i newPassword password =>
    exact holding_of_counters (frame_changePassword_any env hf i newPassword password)
  | destroy i => exact holding_of_counters (frame_destroyAccount_any env hf i)
  | login password => exact absurd rfl (hlogin password)
  | verifyCurrent password => exact holding_verifyCurrentAccountPassword env password
  | clearErrorCounts => exact absurd rfl hclear
  | setLastLockDeviceTime t =>
    exact frame_bind hR (holding_setPublicInfo fun _ => rfl) fun _ =>
      frame_ignore (holding_savePublicInfo env)
  | erasePublicInfo => exact absurd rfl herase
  | setCurrentAccountIndex => exact frame_modify fun _ hd => hd
  | logout => exact frame_modify fun _ hd => hd
  | store f => exact holding_of_counters (frame_setAndSave env hf.toIgnoresInfo f)
  | powerOn wipeFlag => exact absurd rfl (hpower wipeFlag)

theorem verifyPassword_keeps (password : CString) (d : Device) :
    counters (verifyPassword env password d).2 = counters d ∧
      (verifyPassword env password d).2.writes = d.writes :=
  ⟨frame_verifyPassword env blind_counters.reading password d,
    frame_verifyPassword env (reading_keeps fun _ => rfl) password d⟩

theorem toNat_succ {c : UInt8} (h : c ≠ 255) : (c + 1).toNat = c.toNat + 1 := by
  have hlt := c.toNat_lt
  have hne : c.toNat ≠ 255 := fun he => h (UInt8.toNat_inj.mp he)
  rw [UInt8.toNat_add]
  show (c.toNat + 1) % 256 = c.toNat + 1
  omega

theorem failedLogin_counts {password : CString} {e : ErrCode} {n : Nat} {d : Device}
    (hd : CountsAtLeast n d) (he : (verifyPassword env password d).1 = .error e)
    (hroom : d.publicInfo.loginPasswordErrorCount ≠ 255)
    (hstore : ∀ status, env.writeReply d.writes ≠ .refused status false) :
    n ≤ storedCount (verifyPasswordAndLogin env password d).2 ∧
      ((verifyPasswordAndLogin env password d).1 ≠ .halted →
        CountsAtLeast (n + 1) (verifyPasswordAndLogin env password d).2) := by
  obtain ⟨hcounters, hwrites⟩ := verifyPassword_keeps env password d
  match hverify : verifyPassword env password d with
  | (.ok i, t) =>
    rw [hverify] at he
    exact nomatch he
  | (.halted, t) =>
    rw [hverify] at he
    exact nomatch he
  | (.error e', t) =>
    rw [hverify] at hcounters hwrites
    have ht : CountsAtLeast n t := countsAtLeast_congr hcounters hd
    have hinfo : t.publicInfo = d.publicInfo := congrArg Prod.fst hcounters
    -- the counters as they are stored
    let up : PublicInfo := { t.publicInfo with
      loginPasswordErrorCount := t.publicInfo.loginPasswordErrorCount + 1 }
    let u : Device := { t with publicInfo := up }
    have hup : up.loginPasswordErrorCount.toNat = ramCount t + 1 := by
      show (t.publicInfo.loginPasswordErrorCount + 1).toNat = _
      rw [toNat_succ (by rw [hinfo]; exact hroom)]
      rfl
    have hram := ht.2
    have hnew : CountsAtLeast (n + 1) (u.countWrite.setPage pagePublicInfo up.toPage) := by
      refine ⟨?_, ?_⟩
      · rw [storedCount_setPage, hup]
        omega
      · show n + 1 ≤ up.loginPasswordErrorCount.toNat
        rw [hup]
        omega
    have hold : n ≤ storedCount u.countWrite := ht.1
    have hrun : verifyPasswordAndLogin env password d
        = (do ignore (savePublicInfo env); throw e' : Account Unit) u := by
      unfold verifyPasswordAndLogin
      rw [bind_ok (attempt_error hverify)]
      rfl
    rw [hrun]
    have hreply : env.writeReply u.writes = env.writeReply d.writes :=
      congrArg env.writeReply hwrites
    have hsave : savePublicInfo env u
        = seWrite env (fun d => d.setPage pagePublicInfo up.toPage) u := rfl
    cases hr : env.writeReply u.writes with
    | answered =>
      have hw : savePublicInfo env u = _ := hsave.trans (seWrite_answered hr)
      rw [bind_ok (ignore_ok hw)]
      exact ⟨Nat.le_of_succ_le hnew.1, fun _ => hnew⟩
    | refused status applied =>
      cases applied with
      | false => exact absurd (hreply.symm.trans hr) (hstore status)
      | true =>
        have hw : savePublicInfo env u
            = (.error (.se status), u.countWrite.setPage pagePublicInfo up.toPage) := by
          rw [hsave]
          unfold seWrite
          rw [hr]
          rfl
        have hi : ignore (savePublicInfo env) u
            = (.ok (), u.countWrite.setPage pagePublicInfo up.toPage) :=
          bind_ok (attempt_error hw)
        rw [bind_ok hi]
        exact ⟨Nat.le_of_succ_le hnew.1, fun _ => hnew⟩
    | stopped applied =>
      have hw : savePublicInfo env u = (.halted, if applied then
          u.countWrite.setPage pagePublicInfo up.toPage else u.countWrite) := by
        rw [hsave]
        unfold seWrite
        rw [hr]
      have hi : ignore (savePublicInfo env) u = (.halted, if applied then
          u.countWrite.setPage pagePublicInfo up.toPage else u.countWrite) :=
        bind_halted (attempt_halted hw)
      rw [bind_halted hi]
      refine ⟨?_, fun h => absurd rfl h⟩
      cases applied with
      | false => exact hold
      | true => exact Nat.le_of_succ_le hnew.1

theorem countInv_login {password : CString} {s : Session}
    (hsafe : CountSafe env (.login password) s) (hd : CountsAtLeast s.failures s.device) :
    CountInv { device := KeystoreOp.step env (.login password) s.device
               running := (verifyPasswordAndLogin env password s.device).1 != .halted
               failures := failuresAfter env (.login password) s.device s.failures } := by
  let d' := (verifyPasswordAndLogin env password s.device).2
  have hfail : failuresAfter env (.login password) s.device s.failures
      = failuresAfterLogin (verifyPassword env password s.device).1
          (verifyPasswordAndLogin env password s.device).1 s.failures := rfl
  rw [hfail]
  cases hverify : (verifyPassword env password s.device).1 with
  | ok i => exact ⟨Nat.zero_le _, fun _ => Nat.zero_le _⟩
  | halted =>
    have hrun : verifyPasswordAndLogin env password s.device
        = (.halted, (verifyPassword env password s.device).2) :=
      bind_halted (attempt_halted (Prod.ext hverify rfl))
    have hcounts : CountsAtLeast s.failures d' := by
      refine countsAtLeast_congr ?_ hd
      show counters (verifyPasswordAndLogin env password s.device).2 = counters s.device
      rw [hrun]
      exact (verifyPassword_keeps env password s.device).1
    exact ⟨hcounts.1, fun _ => hcounts.2⟩
  | error e =>
    obtain ⟨hroom, hstore⟩ := hsafe ⟨e, hverify⟩
    obtain ⟨hold, hnew⟩ := failedLogin_counts env hd hverify hroom hstore
    by_cases hhalted : (verifyPasswordAndLogin env password s.device).1 = .halted
    · rw [hhalted]
      have hstop : ((.halted : Outcome ErrCode Unit) != .halted) = false := rfl
      exact ⟨hold, fun hrunning => absurd (hstop.symm.trans hrunning) Bool.false_ne_true⟩
    · have hone : failuresAfterLogin (.error e) (verifyPasswordAndLogin env password s.device).1
          s.failures = s.failures + 1 := by
        cases hend : (verifyPasswordAndLogin env password s.device).1 with
        | ok _ => rfl
        | error _ => rfl
        | halted => exact absurd hend hhalted
      rw [hone]
      exact ⟨(hnew hhalted).1, fun _ => (hnew hhalted).2⟩

private theorem triple_any {α : Type} (x : Account α) :
    Triple (fun _ => True) x (fun _ _ => True) (fun _ _ => True) (fun _ => True) :=
  triple_of_frame (R := fun _ _ => True) (fun _ => trivial) fun _ _ _ _ => trivial

theorem wipeDevice_halted (d : Device) : (wipeDevice env d).1 = .halted := by
  have hwipe : Triple (fun _ => True) (wipeDevice env) (fun _ _ => False) (fun _ _ => False)
      (fun _ => True) := by
    refine triple_bind (Q := fun _ _ => True) (triple_ignore (triple_any _)) fun _ => ?_
    refine triple_bind (Q := fun _ _ => True) (triple_each accountIndices fun i _ =>
      triple_ignore (triple_any _)) fun _ => ?_
    refine triple_bind (Q := fun _ _ => True) ?_ fun _ => triple_halt fun _ h => h
    exact triple_flashWrite (fun _ h _ => trivial) (fun _ _ _ _ _ => trivial) fun _ _ _ _ => trivial
  have hd := hwipe d trivial
  match hrun : wipeDevice env d with
  | (.ok _, _) =>
    rw [hrun] at hd
    exact hd.elim
  | (.error _, _) =>
    rw [hrun] at hd
    exact hd.elim
  | (.halted, _) => rfl

theorem powerOn_ram {wipeFlag : Bool} {s : Session} (hsafe : CountSafe env (.powerOn wipeFlag) s)
    (hrun : (powerOn env wipeFlag s.device).1 ≠ .halted) :
    ramCount (powerOn env wipeFlag s.device).2
      = storedCount (powerOn env wipeFlag s.device).2 := by
  have hboot : powerOn env wipeFlag s.device = (do
      accountsDataCheck env
      ignore (accountManagerInit env)
      powerOnSelfCheck env wipeFlag : Account Unit) s.device.restart := rfl
  rw [hboot] at hrun ⊢
  match hcheck : accountsDataCheck env s.device.restart with
  | (.error e, t) =>
    have hne := ignore_ne_error (each (accountDataCheck env) accountIndices) s.device.restart e
    exact absurd (congrArg Prod.fst hcheck) hne
  | (.halted, t) =>
    rw [bind_halted hcheck] at hrun
    exact absurd rfl hrun
  | (.ok (), t) =>
    have hread : ∀ status applied, env.readReply t.writes t.reads ≠ .refused status applied := by
      intro status applied
      have h := hsafe status applied
      rw [hcheck] at h
      exact h rfl
    rw [bind_ok hcheck] at hrun ⊢
    cases hr : env.readReply t.writes t.reads with
    | refused status applied => exact absurd hr (hread status applied)
    | stopped applied =>
      have hinit : accountManagerInit env t = (.halted, t.countRead) := by
        refine bind_halted ?_
        unfold seHmacEncryptRead seRead
        rw [hr]
      have hi : ignore (accountManagerInit env) t = (.halted, t.countRead) :=
        bind_halted (attempt_halted hinit)
      rw [bind_halted hi] at hrun
      exact absurd rfl hrun
    | answered =>
      let u : Device := { t.countRead with
        publicInfo := PublicInfo.ofPage (t.page pagePublicInfo) }
      have hinit : accountManagerInit env t = (.ok (), u) := bind_ok (seRead_answered hr)
      rw [bind_ok (ignore_ok hinit)] at hrun ⊢
      by_cases hw : (wipeFlag || accountManagerIsNeedReset u) = true
      · have hself : powerOnSelfCheck env wipeFlag u = wipeDevice env u := by
          unfold powerOnSelfCheck
          rw [get_bind, if_pos hw]
        rw [hself] at hrun
        exact absurd (wipeDevice_halted env u) hrun
      · have hself : powerOnSelfCheck env wipeFlag u = (.ok (), u) := by
          unfold powerOnSelfCheck
          rw [get_bind, if_neg hw]
          rfl
        rw [hself]
        rfl

theorem countInv_holding {op : KeystoreOp} {s : Session} (hon : s.running = true)
    (hop : Frame (Holding (CountsAtLeast s.failures)) (op.prog env))
    (hfail : failuresAfter env op s.device s.failures = s.failures) (h : CountInv s) :
    CountInv { device := op.step env s.device
               running := (op.prog env s.device).1 != .halted
               failures := failuresAfter env op s.device s.failures } := by
  have hcounts := hop s.device ⟨h.stored, h.ram hon⟩
  rw [hfail]
  exact ⟨hcounts.1, fun _ => hcounts.2⟩

theorem countInv_step {op : KeystoreOp} {s : Session} (hsafe : CountSafe env op s)
    (h : CountInv s) : CountInv (s.step env op) := by
  unfold Session.step
  split
  case isFalse => exact h
  case isTrue hrun =>
    cases op with
    | clearErrorCounts => exact ⟨Nat.zero_le _, fun _ => Nat.zero_le _⟩
    | erasePublicInfo => exact ⟨Nat.zero_le _, fun _ => Nat.zero_le _⟩
    | powerOn wipeFlag =>
      by_cases hpage : (powerOn env wipeFlag s.device).2.page pagePublicInfo
          = s.device.page pagePublicInfo
      · have hfail : failuresAfter env (.powerOn wipeFlag) s.device s.failures = s.failures :=
          if_pos hpage
        have hstored : s.failures ≤ storedCount (powerOn env wipeFlag s.device).2 := by
          unfold storedCount
          rw [hpage]
          exact h.stored
        rw [hfail]
        refine ⟨hstored, fun hrunning => ?_⟩
        have hram := powerOn_ram env hsafe (bne_iff_ne.mp hrunning)
        exact Nat.le_trans hstored (Nat.le_of_eq hram.symm)
      · have hfail : failuresAfter env (.powerOn wipeFlag) s.device s.failures = 0 :=
          if_neg hpage
        rw [hfail]
        exact ⟨Nat.zero_le _, fun _ => Nat.zero_le _⟩
    | login password =>
      have hon : s.running = true := (Bool.or_eq_true_iff.mp hrun).resolve_right nofun
      have hd : CountsAtLeast s.failures s.device := ⟨h.stored, h.ram hon⟩
      exact countInv_login env hsafe hd
    | _ =>
      have hon : s.running = true := (Bool.or_eq_true_iff.mp hrun).resolve_right nofun
      exact countInv_holding env hon (holding_step env nofun nofun nofun nofun) rfl h

end

def runSession (env : Env) : List KeystoreOp → Session → Session := runSteps (Session.step env)

def SafeSession (env : Env) : List KeystoreOp → Session → Prop :=
  AllSteps (Session.step env) (CountSafe env)

def Session.start (d : Device) : Session := { device := d, running := true, failures := 0 }

/-- **The lockout stays.** Along every session whose steps are safe, a running
device with ten or more failed logins needs a reset. -/
theorem needReset_of_failures (env : Env) (ops : List KeystoreOp) (d : Device)
    (hsafe : SafeSession env ops (Session.start d))
    (hrunning : (runSession env ops (Session.start d)).running = true)
    (hten : 10 ≤ (runSession env ops (Session.start d)).failures) :
    accountManagerIsNeedReset (runSession env ops (Session.start d)).device = true := by
  have hinv : CountInv (runSession env ops (Session.start d)) :=
    runSteps_inv_of (fun _ _ hc h => countInv_step env hc h) ops _ hsafe
      ⟨Nat.zero_le _, fun _ => Nat.zero_le _⟩
  have hram := hinv.ram hrunning
  have hcount : 10 ≤ ramCount (runSession env ops (Session.start d)).device :=
    Nat.le_trans hten hram
  unfold accountManagerIsNeedReset
  rw [Bool.not_eq_true', decide_eq_false_iff_not, UInt8.lt_iff_toNat_lt, Nat.not_lt]
  exact hcount

theorem verifyPasswordFrom_none (env : Env) {password : CString} {d : Device}
    (hnone : ∀ j, passwordHashes d j ≠ passwordHashOf env password) :
    ∀ (is : List AccountIndex) (n : Nat),
      verifyPasswordFrom env.ideal password is (d.countReads n)
        = (.error .keystorePasswordErr, d.countReads (n + is.length))
  | [], _ => rfl
  | i :: is, n => by
    have hread : seHmacEncryptRead env.ideal (accountPage i pageIndexPasswordHash)
        (d.countReads n) = (.ok (passwordHashes d i), d.countReads (n + 1)) :=
      seRead_answered rfl
    refine (bind_ok hread).trans ?_
    rw [if_neg (show ¬passwordHashes d i = passwordHashOf env.ideal password from hnone i),
      verifyPasswordFrom_none env hnone is (n + 1), List.length_cons, Nat.add_right_comm,
      Nat.add_assoc]

theorem failedLogin_step (env : Env) {password : CString} {s : Session} (hon : s.running = true)
    (hnone : ∀ j, passwordHashes s.device j ≠ passwordHashOf env password) :
    let s' := s.step env.ideal (.login password)
    s'.running = true ∧ s'.failures = s.failures + 1 ∧
      s'.device.publicInfo.loginPasswordErrorCount
        = s.device.publicInfo.loginPasswordErrorCount + 1 ∧
      passwordHashes s'.device = passwordHashes s.device := by
  have hverify : verifyPassword env.ideal password s.device
      = (.error .keystorePasswordErr, s.device.countReads 3) :=
    verifyPasswordFrom_none env hnone accountIndices 0
  let up : PublicInfo := { s.device.publicInfo with
    loginPasswordErrorCount := s.device.publicInfo.loginPasswordErrorCount + 1 }
  let u : Device := { s.device.countReads 3 with publicInfo := up }
  have hrun : verifyPasswordAndLogin env.ideal password s.device
      = (.error .keystorePasswordErr, u.countWrite.setPage pagePublicInfo up.toPage) := by
    have hwrite : savePublicInfo env.ideal u
        = seWrite env.ideal (fun d => d.setPage pagePublicInfo up.toPage) u := rfl
    have hsave : savePublicInfo env.ideal u = _ := hwrite.trans (seWrite_answered rfl)
    have hthrow : verifyPasswordAndLogin env.ideal password s.device
        = (do ignore (savePublicInfo env.ideal); throw .keystorePasswordErr : Account Unit) u := by
      unfold verifyPasswordAndLogin
      rw [bind_ok (attempt_error hverify)]
      rfl
    rw [hthrow, bind_ok (ignore_ok hsave)]
    rfl
  have hfail : failuresAfter env.ideal (.login password) s.device s.failures
      = s.failures + 1 := by
    have h : failuresAfter env.ideal (.login password) s.device s.failures
        = failuresAfterLogin (verifyPassword env.ideal password s.device).1
            (verifyPasswordAndLogin env.ideal password s.device).1 s.failures := rfl
    rw [h, hverify, hrun]
    rfl
  have hdevice : KeystoreOp.step env.ideal (.login password) s.device
      = u.countWrite.setPage pagePublicInfo up.toPage := congrArg Prod.snd hrun
  have hend : (KeystoreOp.prog env.ideal (.login password) s.device).1
      = .error .keystorePasswordErr := congrArg Prod.fst hrun
  intro s'
  have hs : s' = { device := KeystoreOp.step env.ideal (.login password) s.device
                   running := (KeystoreOp.prog env.ideal (.login password) s.device).1 != .halted
                   failures := failuresAfter env.ideal (.login password) s.device s.failures } :=
    if_pos (by rw [hon]; rfl)
  rw [hs, hfail, hdevice, hend]
  refine ⟨rfl, rfl, rfl, ?_⟩
  funext j
  exact Device.setPage_ne _ _ (accountPage_ne_pagePublicInfo j _)

/-- **The count wraps.** After any number of failed logins in a row the byte is
that number modulo 256. -/
theorem failedLogins_count (env : Env) {password : CString} :
    ∀ (n : Nat) (s : Session), s.running = true →
      (∀ j, passwordHashes s.device j ≠ passwordHashOf env password) →
      let s' := runSession env.ideal (List.replicate n (.login password)) s
      s'.running = true ∧ s'.failures = s.failures + n ∧
        s'.device.publicInfo.loginPasswordErrorCount
          = s.device.publicInfo.loginPasswordErrorCount + UInt8.ofNat n
  | 0, s, hon, _ => ⟨hon, rfl, (UInt8.add_zero _).symm⟩
  | n + 1, s, hon, hnone => by
    obtain ⟨hon', hfail, hcount, hkeep⟩ := failedLogin_step env hon hnone
    obtain ⟨h₁, h₂, h₃⟩ := failedLogins_count env n (s.step env.ideal (.login password)) hon'
      (by rw [hkeep]; exact hnone)
    refine ⟨h₁, ?_, ?_⟩
    · rw [List.replicate_succ]
      refine h₂.trans ?_
      rw [hfail]
      omega
    · rw [List.replicate_succ]
      refine h₃.trans ?_
      rw [hcount, UInt8.add_assoc, UInt8.ofNat_add, UInt8.add_comm 1]
      rfl

theorem safeSession_failedLogins (env : Env) {password : CString} :
    ∀ (n : Nat) (s : Session), s.running = true →
      (∀ j, passwordHashes s.device j ≠ passwordHashOf env password) →
      ramCount s.device + n ≤ 255 →
      SafeSession env.ideal (List.replicate n (.login password)) s
  | 0, _, _, _, _ => trivial
  | n + 1, s, hon, hnone, hfit => by
    obtain ⟨hon', _, hcount, hkeep⟩ := failedLogin_step env hon hnone
    have hroom : s.device.publicInfo.loginPasswordErrorCount ≠ 255 := by
      intro he
      have hram : ramCount s.device = 255 := congrArg UInt8.toNat he
      omega
    refine ⟨fun _ => ⟨hroom, nofun⟩, ?_⟩
    refine safeSession_failedLogins env n _ hon' (by rw [hkeep]; exact hnone) ?_
    have hnext : ramCount (s.step env.ideal (.login password)).device = ramCount s.device + 1 := by
      unfold ramCount
      rw [hcount, toNat_succ hroom]
    omega

/-- The 256th failure in a row takes the lockout back. -/
theorem lockout_wraps : ¬∀ (env : Env) (ops : List KeystoreOp) (d : Device),
    (runSession env ops (Session.start d)).running = true →
    10 ≤ (runSession env ops (Session.start d)).failures →
    accountManagerIsNeedReset (runSession env ops (Session.start d)).device = true := by
  intro h
  have hnone : ∀ j, passwordHashes (Session.start Device.blank).device j
      ≠ passwordHashOf Env.sample [1] := by decide +kernel
  have hwrap := failedLogins_count Env.sample 256 (Session.start Device.blank) rfl hnone
  have hreset := h Env.sample.ideal (List.replicate 256 (.login [1])) Device.blank hwrap.1
    (by rw [hwrap.2.1]; decide)
  unfold accountManagerIsNeedReset at hreset
  rw [hwrap.2.2] at hreset
  cases hreset

/-- Ten failures in a row need a reset. -/
theorem needReset_of_failures_ten :
    accountManagerIsNeedReset (runSession Env.sample.ideal (List.replicate 10 (.login [1]))
      (Session.start Device.blank)).device = true := by
  have hnone : ∀ j, passwordHashes (Session.start Device.blank).device j
      ≠ passwordHashOf Env.sample [1] := by decide +kernel
  have hrun := failedLogins_count Env.sample 10 (Session.start Device.blank) rfl hnone
  exact needReset_of_failures Env.sample.ideal _ Device.blank
    (safeSession_failedLogins Env.sample 10 _ rfl hnone (by decide)) hrun.1
    (Nat.le_of_eq hrun.2.1.symm)

end Keystone3
