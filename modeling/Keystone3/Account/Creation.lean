import Keystone3.Account.Login

/-!
# The writes of a creation, one by one

On steady hardware the routines are followed here up to the password hash, with the
number of the write at every point, so that a power loss can be told by its number.

Up to the password hash the slot is not full, and the check at boot clears it; with it
the account is complete (`Created`).
-/

namespace Keystone3

open Logic.Prog
open Bytes (Block toLe ofLe)
open Flash (Cells erased program written)

theorem verifyPasswordFrom_answered {env : Env} {d : Device} (hr : AnswersReads env d.writes)
    (password : CString) :
    ∀ (is : List AccountIndex) (n : Nat),
      (∃ i m, verifyPasswordFrom env password is (d.countReads n) = (.ok i, d.countReads m) ∧
        passwordHashes d i = passwordHashOf env password) ∨
      ∃ m, verifyPasswordFrom env password is (d.countReads n)
          = (.error .keystorePasswordErr, d.countReads m) ∧
        ∀ i ∈ is, passwordHashes d i ≠ passwordHashOf env password
  | [], n => .inr ⟨n, rfl, fun _ h => absurd h List.not_mem_nil⟩
  | i :: is, n => by
    have hread : seHmacEncryptRead env (accountPage i pageIndexPasswordHash) (d.countReads n)
        = (.ok (passwordHashes d i), d.countReads (n + 1)) :=
      seRead_answered (d := d.countReads n) (hr _)
    unfold verifyPasswordFrom
    by_cases hi : passwordHashes d i = passwordHashOf env password
    · refine .inl ⟨i, n + 1, (bind_ok hread).trans ?_, hi⟩
      rw [if_pos hi]
      rfl
    · rw [bind_ok hread, if_neg hi]
      rcases verifyPasswordFrom_answered hr password is (n + 1) with ⟨j, m, hrun, hj⟩ | ⟨m, hrun, hnone⟩
      · exact .inl ⟨j, m, hrun, hj⟩
      · refine .inr ⟨m, hrun, fun j hj => ?_⟩
        rcases List.mem_cons.mp hj with rfl | hj
        · exact hi
        · exact hnone j hj

theorem checkPasswordExisted_answered {env : Env} {d : Device} (hr : AnswersReads env d.writes)
    (password : CString) :
    (∃ m, checkPasswordExisted env password none d
          = (.error .keystoreRepeatPassword, d.countReads m) ∧
        ∃ i, passwordHashes d i = passwordHashOf env password) ∨
      ∃ m, checkPasswordExisted env password none d = (.ok (), d.countReads m) ∧
        ∀ i, passwordHashes d i ≠ passwordHashOf env password := by
  unfold checkPasswordExisted
  rcases verifyPasswordFrom_answered hr password accountIndices 0 with
    ⟨i, m, hrun, hi⟩ | ⟨m, hrun, hnone⟩
  · have hverify : verifyPassword env password d = (.ok i, d.countReads m) := hrun
    refine .inl ⟨m, (bind_ok (attempt_ok hverify)).trans ?_, i, hi⟩
    rfl
  · have hverify : verifyPassword env password d
        = (.error .keystorePasswordErr, d.countReads m) := hrun
    refine .inr ⟨m, (bind_ok (attempt_error hverify)).trans ?_, fun i =>
      hnone i (mem_accountIndices i)⟩
    rfl

/-- What of account `i` the parameters, the public keys and the session are not
part of: its secret and its password hash. -/
def secretOf (i : AccountIndex) (d : Device) :
    AccountRecord × (Page × Page × Page × Page) × Page :=
  (recordOf d i, pieceCells i d, passwordHashes d i)

theorem secretOf_setPage {i : AccountIndex} {p : Nat}
    (h : ∀ k, k ≠ pageIndexParam → accountPage i k ≠ p) (d : Device) (x : Page) :
    secretOf i (d.setPage p x) = secretOf i d := by
  have hp : ∀ k, k ≠ pageIndexParam →
      (d.setPage p x).page (accountPage i k) = d.page (accountPage i k) :=
    fun k hk => Device.setPage_ne d x (h k hk)
  unfold secretOf recordOf pieceCells passwordHashes
  rw [hp _ (by decide), hp _ (by decide), hp _ (by decide), hp _ (by decide), hp _ (by decide),
    hp _ (by decide), hp _ (by decide), hp _ (by decide), hp _ (by decide), Device.setPage_slot]

theorem sealed_of_secretOf {env : Env} {i : AccountIndex} {password : CString}
    {s : AccountSecret} {d d' : Device} (h : secretOf i d' = secretOf i d)
    (hs : Sealed env d i password s) : Sealed env d' i password s := by
  have hrecord : recordOf d' i = recordOf d i := congrArg Prod.fst h
  have hpieces : pieceCells i d' = pieceCells i d := congrArg (fun x => x.2.1) h
  obtain ⟨ha, k, hk⟩ := hs
  refine ⟨authorized_of_pieceCells hpieces ha, k, ?_⟩
  rw [hrecord, storedPieces_of_pieceCells hpieces, hk]

theorem ignoresPublicInfo_secretOf (i j : AccountIndex) : IgnoresPublicInfo j (secretOf i) where
  writes _ := rfl
  reads _ := rfl
  draws _ _ := rfl
  hash := secretOf_setPage fun k _ => accountPage_ne_walletHashPage i j k
  flash _ _ _ := rfl
  keys _ _ := rfl
  temp _ _ := rfl
  isTemp _ _ := rfl

theorem ignoresInfo_secretOf (i : AccountIndex) : IgnoresInfo (secretOf i) where
  toBlind := (ignoresPublicInfo_secretOf i i).toBlind
  info _ _ := rfl
  param d _ x _ := secretOf_setPage (fun _ hk he => hk (accountPage_inj.mp he).2) d x

def AreaErased (i : AccountIndex) (area : UserArea) (d : Device) : Prop :=
  ∀ x, x < area.size → d.flash i area x = erased

theorem not_inRange_of_erased {i : AccountIndex} {d : Device} (h : AreaErased i .data d) :
    ¬publicInfoInRange i d := by
  have hcell : ∀ x, x < 4 → d.flash i .data x = erased :=
    fun x hx => h x (Nat.lt_trans hx (by decide))
  have hread : Flash.read (d.flash i .data) 0 4
      = [erased, erased, erased, erased] := by
    show [d.flash i .data 0, d.flash i .data 1, d.flash i .data 2, d.flash i .data 3] = _
    rw [hcell 0 (by decide), hcell 1 (by decide), hcell 2 (by decide), hcell 3 (by decide)]
  unfold publicInfoInRange publicInfoSize
  rw [hread]
  decide

theorem sectors_get {area : UserArea} {j a : Nat} (h : area.sectors[j]? = some a) :
    a = j * gd25qxxSectorSize := by
  unfold UserArea.sectors at h
  rw [List.getElem?_map] at h
  obtain ⟨k, hk, rfl⟩ := Option.map_eq_some_iff.mp h
  obtain ⟨_, he⟩ := List.getElem?_eq_some_iff.mp hk
  rw [List.getElem_range] at he
  rw [he]

theorem sectors_length (area : UserArea) : area.sectors.length * gd25qxxSectorSize = area.size := by
  cases area <;> rfl

/-- The first `n` pieces of a buffer are programmed, from write `v` on. -/
structure Programmed (env : Env) (i : AccountIndex) (area : UserArea) (a : Nat)
    (bs : List UInt8) (v n : Nat) (d : Device) : Prop where
  holds : Flash.Holds (d.flash i area) a bs (written gd25qxxPageSize a n)
  answered : ∀ k, k < n → env.writeReply (v + k) = .answered
  started : ∀ k, k < n → written gd25qxxPageSize a k < bs.length

section

/-- The `n` writes from `w` on are carried out, unless the power goes. -/
def CarriedOut (env : Env) (w n : Nat) : Prop :=
  ∀ k, k < n → ∀ status applied, env.writeReply (w + k) ≠ .refused status applied

variable {env : Env} {i : AccountIndex}

theorem CarriedOut.mono {w n m : Nat} (hc : CarriedOut env w n) (h : m ≤ n) :
    CarriedOut env w m := fun k hk => hc k (Nat.lt_of_lt_of_le hk h)

variable {P H : Device → Prop}

theorem triple_flashWrite_carried {Q : Unit → Device → Prop}
    {E : ErrCode → Device → Prop} {effect : Device → Device} {w n k : Nat}
    (hc : CarriedOut env w n) (hk : k < n) (hP : ∀ d, P d → d.writes = w + k)
    (hok : ∀ d, P d → env.writeReply (w + k) = .answered → Q () (effect d.countWrite))
    (hhalt : ∀ d applied, P d → env.writeReply (w + k) = .stopped applied →
      H (if applied then effect d.countWrite else d.countWrite)) :
    Triple P (flashWrite env effect) Q E H := by
  refine triple_flashWrite (fun d hd hr => hok d hd ?_) (fun d st ap hd hr => ?_)
    fun d ap hd hr => hhalt d ap hd ?_
  · rw [← hP d hd]
    exact hr
  · rw [hP d hd] at hr
    exact absurd hr (hc k hk st ap)
  · rw [← hP d hd]
    exact hr

theorem triple_eraseArea_carried {w n : Nat} {area : UserArea}
    (hn : area.sectors.length = n) (hc : CarriedOut env w n)
    (hskip : ∀ d, P d → P d.countWrite)
    (hflash : ∀ d a, P d → P (d.setFlash i area (Flash.eraseSector gd25qxxSectorSize a)))
    (hhalt : ∀ k, k < n → ∀ d applied, P d → env.writeReply (w + k) = .stopped applied → H d) :
    Triple (fun d => d.writes = w ∧ P d) (eraseArea env i area)
      (fun _ d => d.writes = w + n ∧ P d ∧ AreaErased i area d) (fun _ _ => False) H := by
  let I := fun (j : Nat) (d : Device) => d.writes = w + j ∧ P d ∧
    ∀ x, x < j * gd25qxxSectorSize → d.flash i area x = erased
  have hround : ∀ j b, area.sectors[j]? = some b → Triple (I (0 + j))
      (gd25FlashSectorErase env i area b) (fun _ => I (0 + j + 1)) (fun _ _ => False) H := by
    intro j b hb
    have hlt : j < n := hn ▸ (List.getElem?_eq_some_iff.mp hb).1
    obtain rfl := sectors_get hb
    rw [Nat.zero_add]
    refine triple_flashWrite_carried hc hlt (fun d hd => hd.1) ?_ ?_
    · rintro d ⟨hw, hd, hx⟩ _
      refine ⟨congrArg (· + 1) hw, hflash _ _ (hskip d hd), fun x hlt => ?_⟩
      rw [Device.setFlash_self]
      by_cases hin : j * gd25qxxSectorSize ≤ x
      · refine Flash.eraseSector_in _ ⟨hin, ?_⟩
        rw [Nat.succ_mul] at hlt
        exact hlt
      · rw [Flash.eraseSector_out _ fun h => hin h.1]
        exact hx x (Nat.lt_of_not_le hin)
    · rintro d applied ⟨_, hd, _⟩ hr
      cases applied with
      | true => exact hhalt j hlt _ _ (hflash _ _ (hskip d hd)) hr
      | false => exact hhalt j hlt _ _ (hskip d hd) hr
  have hall := triple_each_indexed area.sectors 0 hround
  have hsize := sectors_length area
  rw [hn] at hall hsize
  refine triple_conseq hall ?_ ?_ (fun _ _ h => h) fun _ h => h
  · exact fun d hd => ⟨hd.1, hd.2, fun x hx => absurd hx (by omega)⟩
  · rintro _ d ⟨hw, hd, hx⟩
    refine ⟨by rwa [Nat.zero_add] at hw, hd, fun x hlt => hx x ?_⟩
    rw [Nat.zero_add, hsize]
    exact hlt

theorem triple_gd25FlashWriteBuffer_carried {v a : Nat} {area : UserArea}
    {bs : List UInt8} (hc : ∀ j, written gd25qxxPageSize a j < bs.length →
      CarriedOut env v (j + 1)) (hskip : ∀ d, P d → P d.countWrite)
    (hprogram : ∀ d b cs, a ≤ b → b + cs.length ≤ a + bs.length → P d →
      P (d.setFlash i area (program b cs)))
    (hhalt : ∀ n d applied (e : Device → Device), P d → Programmed env i area a bs v n d →
      written gd25qxxPageSize a n < bs.length → env.writeReply (v + n) = .stopped applied →
      H (if applied then e d.countWrite else d.countWrite)) :
    Triple (fun d => d.writes = v ∧ P d ∧ Flash.Holds (d.flash i area) a bs 0)
      (gd25FlashWriteBuffer env i area a bs)
      (fun _ d => ∃ n, d.writes = v + n ∧ P d ∧ Programmed env i area a bs v n d ∧
        bs.length ≤ written gd25qxxPageSize a n)
      (fun _ _ => False) H := by
  have hpage : 0 < gd25qxxPageSize := by decide
  let pieces := Flash.splitPages gd25qxxPageSize bs.length a bs
  let I := fun (j : Nat) (d : Device) => d.writes = v + j ∧ P d ∧ Programmed env i area a bs v j d
  have hround : ∀ j b, pieces[j]? = some b → Triple (I (0 + j))
      (gd25FlashPageProgram env i area b) (fun _ => I (0 + j + 1)) (fun _ _ => False) H := by
    intro j b hb
    obtain ⟨hlt, hfst, hsnd⟩ := Flash.splitPages_get hpage _ _ _ j b hb
    have hlen : b.2.length ≤ bs.length - written gd25qxxPageSize a j := by
      rw [hsnd, List.length_take, List.length_drop]
      exact Nat.min_le_right _ _
    rw [Nat.zero_add]
    refine triple_flashWrite_carried (hc j hlt) (Nat.lt_succ_self j) (fun d hd => hd.1) ?_ ?_
    · rintro d ⟨hw, hd, hholds, hanswered, hstarted⟩ hr
      refine ⟨congrArg (· + 1) hw, hprogram _ _ _ (by omega) (by omega) (hskip d hd), ?_, ?_, ?_⟩
      · have hnext := Flash.holds_program
          (m := written gd25qxxPageSize a (j + 1) - written gd25qxxPageSize a j) hholds
        have hmono : written gd25qxxPageSize a j ≤ written gd25qxxPageSize a (j + 1) := by
          unfold written
          exact Nat.sub_le_sub_right (Nat.mul_le_mul_right _ (by omega)) _
        rw [Nat.add_sub_cancel' hmono] at hnext
        rw [Device.setFlash_self, hfst, hsnd]
        exact hnext
      · intro k hk
        rcases Nat.lt_succ_iff_lt_or_eq.mp hk with hk | rfl
        · exact hanswered k hk
        · exact hr
      · intro k hk
        rcases Nat.lt_succ_iff_lt_or_eq.mp hk with hk | rfl
        · exact hstarted k hk
        · exact hlt
    · rintro d applied ⟨_, hd, hprog⟩ hr
      exact hhalt j d applied (fun d => d.setFlash i area (program b.1 b.2)) hd hprog hlt hr
  have hall := triple_each_indexed pieces 0 hround
  rw [Nat.zero_add] at hall
  refine triple_conseq hall ?_ ?_ (fun _ _ h => h) fun _ h => h
  · rintro d ⟨hw, hd, hholds⟩
    refine ⟨hw, hd, ?_, fun k hk => absurd hk (Nat.not_lt_zero k), fun k hk =>
      absurd hk (Nat.not_lt_zero k)⟩
    rw [Flash.written_zero]
    exact hholds
  · rintro _ d ⟨hw, hd, hprog⟩
    exact ⟨_, hw, hd, hprog, Flash.splitPages_all hpage _ _ _ (Nat.le_refl _)⟩

theorem triple_writeSize_carried {v : Nat} {json : CString}
    (hc : CarriedOut env v 1) (hskip : ∀ d, P d → P d.countWrite)
    (hflash : ∀ d (g : Cells → Cells), P d → P (d.setFlash i .data g))
    (hfits : json.length ≤ UserArea.data.size - 4)
    (hhalt : ∀ d applied (e : Device → Device), P d → AreaErased i .data d →
      env.writeReply v = .stopped applied →
      H (if applied then e d.countWrite else d.countWrite)) :
    Triple (fun d => d.writes = v ∧ P d ∧ AreaErased i .data d)
      (gd25FlashWriteBuffer env i .data 0 (toLe 4 json.length))
      (fun _ d => d.writes = v + 1 ∧ env.writeReply v = .answered ∧ P d ∧
        publicInfoSize d i = json.length ∧
        ∀ x, 4 ≤ x → x < UserArea.data.size → d.flash i .data x = erased)
      (fun _ _ => False) H := by
  let R := fun d : Device => P d ∧ ∀ x, 4 ≤ x → x < UserArea.data.size → d.flash i .data x = erased
  have hlen : (toLe 4 json.length).length = 4 := Bytes.length_toLe 4 _
  have hprogram : ∀ d b cs, 0 ≤ b → b + cs.length ≤ 0 + (toLe 4 json.length).length → R d →
      R (d.setFlash i .data (program b cs)) := by
    rintro d b cs _ hb ⟨hd, herased⟩
    refine ⟨hflash d _ hd, fun x hx hlt => ?_⟩
    rw [Device.setFlash_self, Flash.program_out _ (by omega)]
    exact herased x hx hlt
  have hwritten : ∀ n, written gd25qxxPageSize 0 n = n * 256 := by
    intro n
    show (0 / 256 + n) * 256 - 0 = n * 256
    omega
  -- the word is one piece
  have hone : ∀ j, written gd25qxxPageSize 0 j < (toLe 4 json.length).length → j = 0 := by
    intro j hj
    rw [hwritten, hlen] at hj
    omega
  refine triple_conseq (triple_gd25FlashWriteBuffer_carried (P := R) (v := v)
    (fun j hj => ?_) (fun d hd => ⟨hskip d hd.1, hd.2⟩) hprogram ?_) ?_ ?_ (fun _ _ h => h)
    fun _ h => h
  · obtain rfl := hone j hj
    exact hc
  · rintro n d applied e ⟨hd, herased⟩ hprog hlt hr
    obtain rfl := hone n hlt
    refine hhalt d applied e hd (fun x hx => ?_) hr
    by_cases hx4 : 4 ≤ x
    · exact herased x hx4 hx
    · have hcell := hprog.holds x (by omega)
      rw [Nat.zero_add, hwritten, if_neg (by omega)] at hcell
      exact hcell
  · rintro d ⟨hw, hd, herased⟩
    refine ⟨hw, ⟨hd, fun x _ hx => herased x hx⟩, Flash.holds_zero fun j hj => ?_⟩
    exact herased (0 + j) (Nat.lt_of_lt_of_le (by omega) (by decide : 4 ≤ UserArea.data.size))
  · rintro _ d ⟨n, hw, ⟨hd, herased⟩, hprog, hall⟩
    have hn : n = 1 := by
      have hpos : 0 < n := by
        rw [hwritten, hlen] at hall
        omega
      have hlast := hone (n - 1) (hprog.started (n - 1) (by omega))
      omega
    subst hn
    refine ⟨hw, hprog.answered 0 (by omega), hd, ?_, herased⟩
    have hread := Flash.holds_read_all hprog.holds hall
    rw [hlen] at hread
    unfold publicInfoSize
    rw [hread]
    exact Bytes.ofLe_toLe 4 _ (Nat.lt_of_le_of_lt hfits (by decide))

theorem triple_writeText_carried {v : Nat} {json : CString}
    (hc : ∀ j, written gd25qxxPageSize 4 j < json.length → CarriedOut env v (j + 1))
    (hskip : ∀ d, P d → P d.countWrite)
    (hflash : ∀ d (g : Cells → Cells), P d → P (d.setFlash i .data g))
    (hfits : json.length ≤ UserArea.data.size - 4)
    (hhalt : ∀ n d applied (e : Device → Device), P d → publicInfoSize d i = json.length →
      Programmed env i .data 4 json v n d → env.writeReply (v + n) = .stopped applied →
      H (if applied then e d.countWrite else d.countWrite)) :
    Triple (fun d => d.writes = v ∧ P d ∧ publicInfoSize d i = json.length ∧
        ∀ x, 4 ≤ x → x < UserArea.data.size → d.flash i .data x = erased)
      (gd25FlashWriteBuffer env i .data 4 json)
      (fun _ d => ∃ n, P d ∧ publicInfoSize d i = json.length ∧
        Programmed env i .data 4 json v n d ∧ json.length ≤ written gd25qxxPageSize 4 n)
      (fun _ _ => False) H := by
  let R := fun d : Device => P d ∧ publicInfoSize d i = json.length
  have hprogram : ∀ d b cs, 4 ≤ b → b + cs.length ≤ 4 + json.length → R d →
      R (d.setFlash i .data (program b cs)) := by
    rintro d b cs hb _ ⟨hd, hsize⟩
    refine ⟨hflash d _ hd, ?_⟩
    rw [← hsize]
    unfold publicInfoSize
    rw [Device.setFlash_self]
    refine congrArg ofLe (Flash.read_congr fun x _ hx => ?_)
    exact Flash.program_out _ (by omega)
  refine triple_conseq (triple_gd25FlashWriteBuffer_carried (P := R) (v := v) hc
    (fun d hd => ⟨hskip d hd.1, hd.2⟩) hprogram ?_) ?_ ?_ (fun _ _ h => h) fun _ h => h
  · rintro n d applied e ⟨hd, hsize⟩ hprog _ hr
    exact hhalt n d applied e hd hsize hprog hr
  · rintro d ⟨hw, hd, hsize, herased⟩
    refine ⟨hw, ⟨hd, hsize⟩, Flash.holds_zero fun j hj => ?_⟩
    exact herased (4 + j) (by omega) (by omega)
  · rintro _ d ⟨n, _, ⟨hd, hsize⟩, hprog, hall⟩
    exact ⟨n, hd, hsize, hprog, hall⟩

end

section

variable {env : Env} (hs : Steady env) {i : AccountIndex}

include hs

theorem carriedOut_steady (w n : Nat) : CarriedOut env w n := by
  intro k _ status applied hr
  rcases hs.writes (w + k) with h | h
  · exact SeReply.noConfusion (h.symm.trans hr)
  · exact SeReply.noConfusion (h.symm.trans hr)

theorem not_answered_of_stopped {w : Nat} {applied : Bool}
    (hr : env.writeReply w = .stopped applied) : env.writeReply w ≠ .answered ∧ applied = false := by
  rcases hs.writes w with h | h
  · exact SeReply.noConfusion (h.symm.trans hr)
  · rw [h] at hr
    exact ⟨fun he => SeReply.noConfusion (h.symm.trans he), (SeReply.stopped.inj hr).symm⟩

theorem triple_eraseArea_steady {P : Device → Prop} {w n : Nat} {area : UserArea}
    (hskip : ∀ d, P d → P d.countWrite)
    (hflash : ∀ d a, P d → P (d.setFlash i area (Flash.eraseSector gd25qxxSectorSize a)))
    (hn : area.sectors.length = n + 1) :
    Triple (fun d => d.writes = w ∧ P d) (eraseArea env i area)
      (fun _ d => d.writes = w + (n + 1) ∧ P d ∧ AreaErased i area d) (fun _ _ => False)
      (fun d => env.writeReply (w + n) ≠ .answered ∧ P d) := by
  refine triple_eraseArea_carried hn (carriedOut_steady hs w _) hskip hflash ?_
  intro k hk d applied hd hr
  exact ⟨fun hl => (not_answered_of_stopped hs hr).1 (hs.final _ _ (by omega) hl), hd⟩

theorem triple_deleteAccountPublicInfo_steady {P : Device → Prop} {w : Nat}
    (hskip : ∀ d, P d → P d.countWrite)
    (hflash : ∀ d a (g : Cells → Cells), P d → P (d.setFlash i a g))
    (hfree : ∀ d t ks, P d → P { d with tempPublicKeyAccountIndex := t, accountPublicInfo := ks }) :
    Triple (fun d => d.writes = w ∧ P d) (deleteAccountPublicInfo env i)
      (fun _ d => d.writes = w + 23 ∧ P d ∧ AreaErased i .data d) (fun _ _ => False)
      (fun d => env.writeReply (w + 22) ≠ .answered ∧ P d) := by
  have hstop : ∀ k, k ≤ 22 → env.writeReply (w + k) ≠ .answered →
      env.writeReply (w + 22) ≠ .answered := fun k hk h hl => h (hs.final _ _ (by omega) hl)
  -- the erased text is one more thing that the other two areas leave alone
  let R := fun d : Device => P d ∧ AreaErased i .data d
  have hR : ∀ area, area ≠ UserArea.data → ∀ d (g : Cells → Cells), R d →
      R (d.setFlash i area g) := by
    rintro area ha d g ⟨hd, herased⟩
    refine ⟨hflash d area g hd, fun x hx => ?_⟩
    have hsame : (d.setFlash i area g).flash i .data = d.flash i .data :=
      if_neg fun he => ha he.2.symm
    rw [hsame]
    exact herased x hx
  have hRskip : ∀ d, R d → R d.countWrite := fun d hd => ⟨hskip d hd.1, hd.2⟩
  refine triple_bind (triple_conseq (triple_eraseArea_steady hs (n := 15) hskip
    (fun d a => hflash d _ _) rfl) (fun _ h => h) (fun _ _ h => (h : _ ∧ R _)) (fun _ _ h => h)
    fun _ h => ⟨hstop 15 (by omega) h.1, h.2⟩) fun _ => ?_
  refine triple_bind (triple_conseq (triple_eraseArea_steady hs (n := 4) (w := w + 16) hRskip
    (fun d a => hR .mutableData (by decide) d _) rfl) (fun _ h => h)
    (fun _ d h => (⟨h.1, h.2.1⟩ : d.writes = w + 21 ∧ R d)) (fun _ _ h => h)
    fun _ h => ⟨hstop 20 (by omega) h.1, h.2.1⟩) fun _ => ?_
  refine triple_bind (triple_conseq (triple_eraseArea_steady hs (n := 1) (w := w + 21) hRskip
    (fun d a => hR .multiSigData (by decide) d _) rfl) (fun _ h => h)
    (fun _ d h => (⟨h.1, h.2.1⟩ : d.writes = w + 23 ∧ R d)) (fun _ _ h => h)
    fun _ h => ⟨hstop 22 (by omega) h.1, h.2.1⟩) fun _ => ?_
  exact triple_modify fun d hd => ⟨hd.1, hfree d _ _ hd.2.1, hd.2.2⟩

theorem triple_destroyAccount_zeroes {w : Nat}
    {c₀ : AccountCells × Page × (UserArea → Cells)} :
    Triple (fun d => d.writes = w ∧ slotOf i d = c₀) (destroyAccount env i)
      (fun _ d => d.writes = w + 36 ∧ Zeroed i 12 d ∧
        d.passphraseInfo i = PassphraseInfo.cleared ∧ AreaErased i .data d)
      (fun _ _ => False)
      (fun d => env.writeReply (w + 35) ≠ .answered ∧
        (env.writeReply w ≠ .answered ∧ slotOf i d = c₀ ∨ ¬Full i d)) := by
  have hstop : ∀ k, k ≤ 35 → env.writeReply (w + k) ≠ .answered →
      env.writeReply (w + 35) ≠ .answered := fun k hk h hl => h (hs.final _ _ (by omega) hl)
  have hblank : ∀ {d}, Zeroed i 12 d → ¬Full i d := by
    rintro d hz ⟨hiv, _⟩
    cases (blankSlot_zeroed hz).1.symm.trans hiv
  refine triple_bind (Q := fun r d => d.writes = w + 12 ∧ Zeroed i 12 d ∧ r = .ok ())
    (triple_attempt (triple_conseq (triple_zeroPages hs) (fun _ h => h)
      (fun _ d h => ⟨h.1, h.2, rfl⟩) (fun _ _ h => h.elim)
      fun d h => ⟨hstop 11 (by omega) h.1, h.2.imp id fun hiv hfull => ?_⟩)) fun r => ?_
  · cases hiv.symm.trans hfull.1
  refine triple_bind (triple_conseq (triple_deleteAccountPublicInfo_steady hs (w := w + 12)
    (P := fun d => Zeroed i 12 d ∧ r = .ok ()) (fun _ h => h) (fun _ _ _ h => h)
    fun _ _ _ h => h) (fun _ h => h) (fun _ _ h => h) (fun _ _ h => h)
    fun d h => ⟨hstop 34 (by omega) h.1, .inr (hblank h.2.1)⟩) fun _ => ?_
  let emptied := fun (n : Nat) (d : Device) => (d.writes = n ∧ Zeroed i 12 d ∧
    d.passphraseInfo i = PassphraseInfo.cleared ∧ AreaErased i .data d) ∧ r = .ok ()
  refine triple_bind (Q := fun _ => emptied (w + 35)) (triple_modify fun d h =>
    ⟨⟨h.1, h.2.1.1, if_pos rfl, h.2.2⟩, h.2.1.2⟩) fun _ => ?_
  have hhash : Triple (emptied (w + 35)) (setWalletDataHash env i (Block.zero 32))
      (fun _ => emptied (w + 36)) (fun _ => emptied (w + 36)) (fun d =>
        env.writeReply (w + 35) ≠ .answered ∧
          (env.writeReply w ≠ .answered ∧ slotOf i d = c₀ ∨ ¬Full i d)) := by
    show Triple _ (seWrite env fun d => d.setPage (walletHashPage i) (Block.zero 32)) _ _ _
    refine triple_seWrite_steady hs ?_ ?_
    · rintro d ⟨⟨hw, hb, hp, ht⟩, hr⟩ _
      have hpage : ∀ k, (d.countWrite.setPage (walletHashPage i) (Block.zero 32)).page
          (accountPage i k) = d.page (accountPage i k) :=
        fun k => Device.setPage_ne d.countWrite _ (accountPage_ne_walletHashPage i i k)
      exact ⟨⟨congrArg (· + 1) hw, fun k hk => (hpage k).trans (hb k hk), hp, ht⟩, hr⟩
    · rintro d ⟨⟨hw, hb, _⟩, _⟩ hreply
      rw [hw] at hreply
      exact ⟨hreply, .inr (hblank (d := d.countWrite) hb)⟩
  refine triple_bind (Q := fun _ => emptied (w + 36)) (triple_ignore hhash) fun _ => ?_
  refine triple_bind (Q := fun _ => emptied (w + 36)) (triple_modify fun _ h => h) fun _ => ?_
  refine triple_bind (Q := fun _ => emptied (w + 36)) (triple_modify fun _ h => h) fun _ => ?_
  rintro d ⟨h, rfl⟩
  exact h

theorem triple_destroyAccount_steady {w : Nat}
    {c₀ : AccountCells × Page × (UserArea → Cells)} :
    Triple (fun d => d.writes = w ∧ slotOf i d = c₀) (destroyAccount env i)
      (fun _ d => d.writes = w + 36 ∧ BlankSlot i d ∧
        d.passphraseInfo i = PassphraseInfo.cleared ∧ AreaErased i .data d)
      (fun _ _ => False)
      (fun d => env.writeReply (w + 35) ≠ .answered ∧
        (env.writeReply w ≠ .answered ∧ slotOf i d = c₀ ∨ ¬Full i d)) :=
  triple_conseq (triple_destroyAccount_zeroes hs) (fun _ h => h)
    (fun _ _ h => ⟨h.1, blankSlot_zeroed h.2.1, h.2.2⟩) (fun _ _ h => h) fun _ h => h

/-- A slot that has been destroyed and has no password hash yet. -/
structure Fresh (i : AccountIndex) (g : AccountIndex → Page) (d : Device) : Prop where
  hash : hashWritten i d = false
  others : ∀ j, j ≠ i → passwordHashes d j = g j
  passphrase : d.passphraseInfo i = PassphraseInfo.cleared
  text : AreaErased i .data d

def restOf (i : AccountIndex) (d : Device) :
    (AccountIndex → Page) × PassphraseInfo × (UserArea → Cells) :=
  (passwordHashes d, d.passphraseInfo i, d.flash i)

variable {g : AccountIndex → Page}

omit hs in
theorem fresh_of_restOf {d d' : Device} (h : restOf i d' = restOf i d)
    (hd : Fresh i g d) : Fresh i g d' := by
  have hhash : passwordHashes d' = passwordHashes d := congrArg Prod.fst h
  have hpass : d'.passphraseInfo i = d.passphraseInfo i := congrArg (fun x => x.2.1) h
  have hflash : d'.flash i = d.flash i := congrArg (fun x => x.2.2) h
  refine ⟨(congrArg checkEntropy (congrFun hhash i)).trans hd.hash, fun j hj => ?_, ?_,
    fun x hx => ?_⟩
  · rw [hhash]
    exact hd.others j hj
  · rw [hpass]
    exact hd.passphrase
  · rw [hflash]
    exact hd.text x hx

theorem triple_takeSlot_steady {w : Nat} {a : AccountInfo}
    {c₀ : AccountCells × Page × (UserArea → Cells)} :
    Triple (fun d => (d.writes = w ∧ slotOf i d = c₀) ∧ ∀ j, j ≠ i → passwordHashes d j = g j)
      (takeSlot env i a)
      (fun _ d => d.writes = w + 36 ∧ Fresh i g d ∧ d.currentAccountIndex = some i ∧
        d.currentAccountInfo = a)
      (fun _ _ => False)
      (fun d => env.writeReply (w + 35) ≠ .answered ∧
        (env.writeReply w ≠ .answered ∧ slotOf i d = c₀ ∨ ¬Full i d)) := by
  have hothers : Triple (fun d => ∀ j, j ≠ i → passwordHashes d j = g j) (destroyAccount env i)
      (fun _ d => ∀ j, j ≠ i → passwordHashes d j = g j)
      (fun _ d => ∀ j, j ≠ i → passwordHashes d j = g j)
      (fun d => ∀ j, j ≠ i → passwordHashes d j = g j) := by
    refine triple_of_frame (R := fun d d' => ∀ j, j ≠ i → slotOf j d' = slotOf j d) ?_ ?_
    · intro d j hj
      have hf := ignoresAccount_slotOf hj
      exact frame_destroyAccount env hf.toIgnoresPublicInfo (fun k d => hf.pages k d _)
        hf.passphrase (ignoresSession_slotOf j) d
    · exact fun d d' h hd j hj => (page_of_slotOf (h j hj) _).trans (hd j hj)
  refine triple_bind (Q := fun _ d => d.writes = w + 36 ∧ Fresh i g d) (triple_ignore
    (triple_conseq (triple_and (triple_destroyAccount_steady hs) hothers) (fun _ h => h)
      (fun _ d h => ?_) (fun _ _ h => h.1.elim) fun _ h => h.1)) fun _ => ?_
  · obtain ⟨⟨hw, hblank, hpass, htext⟩, hg⟩ := h
    exact ⟨hw, hblank.2, hg, hpass, htext⟩
  refine triple_bind (Q := fun _ d => (d.writes = w + 36 ∧ Fresh i g d) ∧
    d.currentAccountInfo = a) (triple_modify fun d h => ⟨⟨h.1, ?_⟩, rfl⟩) fun _ => ?_
  · exact fresh_of_restOf (d := d) rfl h.2
  exact triple_modify fun d h => ⟨h.1.1, fresh_of_restOf (d := d) rfl h.1.2, rfl, h.2⟩

theorem triple_saveCurrentAccountInfo_steady {P : Device → Prop} {Q : Unit → Device → Prop}
    {E : ErrCode → Device → Prop} {H : Device → Prop}
    (hcur : ∀ d, P d → d.currentAccountIndex = some i)
    (hok : ∀ d, P d → env.writeReply d.writes = .answered →
      Q () (d.countWrite.setPage (accountPage i pageIndexParam) d.currentAccountInfo.toPage))
    (hhalt : ∀ d, P d → env.writeReply d.writes ≠ .answered → H d.countWrite) :
    Triple P (saveCurrentAccountInfo env) Q E H := by
  intro d hd
  have hrun : saveCurrentAccountInfo env d = seHmacEncryptWrite env d.currentAccountInfo.toPage
      (accountPage i pageIndexParam) d := by
    unfold saveCurrentAccountInfo
    rw [get_bind, hcur d hd]
  rw [hrun]
  refine triple_seWrite_steady hs (P := fun t => t = d) ?_ ?_ d rfl
  · rintro _ rfl hr
    exact hok _ hd hr
  · rintro _ rfl hr
    exact hhalt _ hd hr

/-- The slot is taken and not yet filled: `v` writes so far, and the parameters
`b` in RAM. -/
def Taken (i : AccountIndex) (g : AccountIndex → Page) (v : Nat) (b : AccountInfo) (d : Device) :
    Prop :=
  d.writes = v ∧ Fresh i g d ∧ d.currentAccountIndex = some i ∧ d.currentAccountInfo = b

theorem triple_setAndSave_steady {v : Nat} {b : AccountInfo}
    (f : AccountInfo → AccountInfo) :
    Triple (Taken i g v b) (setAndSave env f) (fun _ => Taken i g (v + 1) (f b))
      (fun _ _ => False)
      (fun d => env.writeReply v ≠ .answered ∧ hashWritten i d = false) := by
  refine triple_bind (Q := fun _ => Taken i g v (f b)) (triple_modify fun d h =>
    ⟨h.1, fresh_of_restOf (d := d) rfl h.2.1, h.2.2.1, congrArg f h.2.2.2⟩) fun _ => ?_
  refine triple_ignore (triple_saveCurrentAccountInfo_steady hs (fun d h => h.2.2.1) ?_ ?_)
  · rintro d ⟨hw, hfresh, hcur, hinfo⟩ _
    refine ⟨congrArg (· + 1) hw, fresh_of_restOf (d := d) ?_ hfresh, hcur, hinfo⟩
    exact congrArg (·, d.passphraseInfo i, d.flash i)
      (passwordHashes_setPage_other (by decide) i d.countWrite _)
  · rintro d ⟨hw, hfresh, _⟩ hr
    rw [hw] at hr
    exact ⟨hr, hfresh.hash⟩

theorem triple_storeWalletName_steady {v : Nat} {b : AccountInfo} :
    Triple (Taken i g v b) (storeWalletName env)
      (fun _ d => ∃ x y, Taken i g (v + 2) { b with walletName := x, iconIndex := y } d)
      (fun _ _ => False)
      (fun d => env.writeReply (v + 1) ≠ .answered ∧ hashWritten i d = false) := by
  refine triple_bind (Q := fun _ => Taken i g v b) (triple_get fun _ h => h) fun d => ?_
  refine triple_bind (triple_conseq (triple_setAndSave_steady hs _) (fun _ h => h)
    (fun _ _ h => h) (fun _ _ h => h) fun _ h => ⟨fun hl => h.1 (hs.final _ _ (by omega) hl), h.2⟩)
    fun _ => ?_
  exact triple_conseq (triple_setAndSave_steady hs _) (fun _ h => h) (fun _ _ h => ⟨_, _, h⟩)
    (fun _ _ h => h) fun _ h => h

end

/-- A complete account whose public keys are not there yet, after `v` writes. -/
def Created (env : Env) (i : AccountIndex) (password : CString) (s : AccountSecret) (v : Nat)
    (a : AccountInfo) (d : Device) : Prop :=
  d.writes = v ∧ Stored env i password s a d ∧ d.currentAccountIndex = some i ∧
    d.currentAccountInfo = a ∧ d.passphraseInfo i = PassphraseInfo.cleared ∧
    AreaErased i .data d

theorem misses_restOf (i : AccountIndex) : Misses i secretPages (restOf i) where
  writes _ := rfl
  reads _ := rfl
  draws _ _ := rfl
  page k hk d x := congrArg (·, d.passphraseInfo i, d.flash i)
    ((misses_passwordHashes i).page k hk d x)
  slot _ _ _ _ := rfl

theorem ignoresInfo_restOf (i : AccountIndex) : IgnoresInfo (restOf i) where
  toBlind := (misses_restOf i).toBlind
  info _ _ := rfl
  param d j x hj := congrArg (·, d.passphraseInfo i, d.flash i)
    (ignoresInfo_passwordHashes.param d j x hj)

section

variable {env : Env} (hs : Steady env) {i : AccountIndex} {password : CString}
  {s : AccountSecret} {g : AccountIndex → Page} {v : Nat} {b : AccountInfo}

include hs

theorem triple_saveAccountSecret_steady :
    Triple (Taken i g v b) (saveAccountSecret env i s password true)
      (fun _ d => Taken i g (v + 12) (newAccountInfo env s b) d ∧ Sealed env d i password s ∧
        paramOf d i = newAccountInfo env s b)
      (fun _ _ => False)
      (fun d => env.writeReply (v + 11) ≠ .answered ∧ hashWritten i d = false) := by
  have hkeep : Triple (Fresh i g) (saveAccountSecret env i s password true)
      (fun _ => Fresh i g) (fun _ => Fresh i g) (Fresh i g) :=
    triple_of_frame (frame_saveAccountSecret_new env (misses_restOf i) (ignoresInfo_restOf i) s
      password true) fun _ _ h hd => fresh_of_restOf h hd
  refine triple_conseq (triple_and (triple_saveAccountSecret_new (w := v) (a := b)) hkeep)
    ?_ ?_ ?_ ?_
  · exact fun d h => ⟨⟨h.1, h.2.2⟩, h.2.1⟩
  · rintro _ d ⟨⟨hw, hsealed, hcur, hinfo, hparam⟩, hfresh⟩
    exact ⟨⟨hw, hfresh, hcur, hinfo⟩, hsealed, hparam.resolve_left hs.not_refuses⟩
  · exact fun _ _ h => hs.not_refuses h.1.1
  · exact fun _ h => ⟨hs.troubled h.1, h.2.hash⟩

theorem triple_writePasswordHash_steady (hnew : ∀ j, j ≠ i → g j ≠ passwordHashOf env password) :
    Triple (fun d => Taken i g v b d ∧ Sealed env d i password s ∧ paramOf d i = b)
      (writePasswordHash env i password)
      (fun _ d => Created env i password s (v + 1) b d ∧ env.writeReply v = .answered)
      (fun _ _ => False)
      (fun d => env.writeReply v ≠ .answered ∧ hashWritten i d = false) := by
  show Triple _ (seWrite env fun d =>
    d.setPage (accountPage i pageIndexPasswordHash) (passwordHashOf env password)) _ _ _
  refine triple_seWrite_steady hs ?_ ?_
  · rintro d ⟨⟨hw, hfresh, hcur, hinfo⟩, hsealed, hparam⟩ hr
    rw [hw] at hr
    refine ⟨⟨congrArg (· + 1) hw, ⟨?_, ?_, ?_, ?_⟩, hcur, hinfo, hfresh.passphrase, hfresh.text⟩,
      hr⟩
    · exact sealed_setPage (d := d.countWrite) i (by decide) _ hsealed
    · exact Device.setPage_self _ _ _
    · intro j hj
      have hpage : passwordHashes (d.countWrite.setPage (accountPage i pageIndexPasswordHash)
          (passwordHashOf env password)) j = g j :=
        (Device.setPage_ne _ _ fun he => hj (accountPage_inj.mp he).1).trans (hfresh.others j hj)
      rw [hpage]
      exact hnew j hj
    · have hpage : ∀ x, (d.countWrite.setPage (accountPage i pageIndexPasswordHash) x).page
          (accountPage i pageIndexParam) = d.page (accountPage i pageIndexParam) :=
        fun x => Device.setPage_ne _ _ fun he => absurd (accountPage_inj.mp he).2 (by decide)
      unfold paramOf
      rw [hpage]
      exact hparam
  · rintro d ⟨⟨hw, hfresh, _⟩, _⟩ hr
    rw [hw] at hr
    exact ⟨hr, hfresh.hash⟩

theorem triple_saveNewSecret_steady (hhash : checkEntropy (passwordHashOf env password) = true) :
    Triple (Taken i g v b) (saveNewSecret env i password (.ok (some s)))
      (fun _ d => (Created env i password s (v + 13) (newAccountInfo env s b) d ∧
        env.writeReply (v + 12) = .answered) ∧ ∀ j, j ≠ i → g j ≠ passwordHashOf env password)
      (fun _ d => hashWritten i d = false ∧ ∃ j, j ≠ i ∧ g j = passwordHashOf env password)
      (fun d => env.writeReply (v + 12) ≠ .answered ∧ hashWritten i d = false) := by
  intro d hd
  have hfresh : Fresh i g d := hd.2.1
  have hother : ∀ j, passwordHashes d j = passwordHashOf env password → j ≠ i := by
    rintro j hj rfl
    have hwritten : hashWritten j d = true := (congrArg checkEntropy hj).trans hhash
    cases hfresh.hash.symm.trans hwritten
  unfold saveNewSecret
  rcases checkPasswordExisted_answered (fun r => hs.reads d.writes r) password with
    ⟨m, hrun, j, hj⟩ | ⟨m, hrun, hnone⟩
  · rw [bind_error hrun]
    exact ⟨hfresh.hash, j, hother j hj, (hfresh.others j (hother j hj)).symm.trans hj⟩
  · rw [bind_ok hrun]
    have hnew : ∀ j, j ≠ i → g j ≠ passwordHashOf env password := by
      intro j hj
      rw [← hfresh.others j hj]
      exact hnone j
    have hsave : Triple (Taken i g v b)
        (do saveAccountSecret env i s password true; writePasswordHash env i password)
        (fun _ d => (Created env i password s (v + 13) (newAccountInfo env s b) d ∧
          env.writeReply (v + 12) = .answered) ∧ ∀ j, j ≠ i → g j ≠ passwordHashOf env password)
        (fun _ d => hashWritten i d = false ∧ ∃ j, j ≠ i ∧ g j = passwordHashOf env password)
        (fun d => env.writeReply (v + 12) ≠ .answered ∧ hashWritten i d = false) := by
      refine triple_bind (triple_conseq (triple_saveAccountSecret_steady hs) (fun _ h => h)
        (fun _ _ h => h) (fun _ _ h => h.elim) fun _ h => ⟨?_, h.2⟩) fun _ => ?_
      · exact fun hl => h.1 (hs.final _ _ (by omega) hl)
      · exact triple_conseq (triple_writePasswordHash_steady hs hnew) (fun _ h => h)
          (fun _ _ h => ⟨h, hnew⟩) (fun _ _ h => h.elim) fun _ h => h
    exact hsave (d.countReads m) ⟨hd.1, fresh_of_restOf (d := d) rfl hfresh, hd.2.2⟩

end

end Keystone3
