import Keystone3.Account.Passwords

/-!
# Steady hardware, and the check at boot

A power loss during a call is hardware that answers up to some write and then stops.
`Steady` is that, and hardware that never stops as well; the rules here are those of
`Se.Interface` with the cases that cannot happen left out.

The check at boot looks at two of its pages: a slot in which just one of them looks
written is cleared, any other is left as it is (`accountsDataCheck_slot`).
-/

namespace Keystone3

open Logic.Prog
open Bytes (Block)

/-- Hardware that answers until the power goes, if it goes at all. -/
structure Steady (env : Env) : Prop where
  reads : ∀ w r, env.readReply w r = .answered
  writes : ∀ w, env.writeReply w = .answered ∨ env.writeReply w = .stopped false
  final : ∀ v w, v ≤ w → env.writeReply w = .answered → env.writeReply v = .answered

theorem steady_ideal (env : Env) : Steady env.ideal where
  reads _ _ := rfl
  writes _ := .inl rfl
  final _ _ _ _ := rfl

theorem cutAt_answered (env : Env) {n w : Nat} :
    (env.cutAt n).writeReply w = .answered ↔ w < n := by
  constructor
  · intro h
    by_contra hw
    have hstop : (env.cutAt n).writeReply w = .stopped false := if_neg hw
    exact SeReply.noConfusion (hstop.symm.trans h)
  · exact fun h => if_pos h

theorem steady_cutAt (env : Env) (n : Nat) : Steady (env.cutAt n) where
  reads _ _ := rfl
  writes w := by
    by_cases h : w < n
    · exact .inl (if_pos h)
    · exact .inr (if_neg h)
  final v w hvw h := (cutAt_answered env).mpr (Nat.lt_of_le_of_lt hvw ((cutAt_answered env).mp h))

theorem Steady.not_refuses {env : Env} (h : Steady env) : ¬Refuses env := by
  rintro (⟨w, st, a, hw⟩ | ⟨w, r, st, a, hr⟩)
  · rcases h.writes w with hw' | hw'
    · exact SeReply.noConfusion (hw.symm.trans hw')
    · exact SeReply.noConfusion (hw.symm.trans hw')
  · exact SeReply.noConfusion (hr.symm.trans (h.reads w r))

theorem Steady.troubled {env : Env} (h : Steady env) {w n : Nat} (ht : Troubled env w (n + 1)) :
    env.writeReply (w + n) ≠ .answered := by
  rcases ht with ⟨k, hk, hw⟩ | ⟨r, _, hr⟩
  · exact fun hl => hw (h.final _ _ (by omega) hl)
  · exact absurd (h.reads _ r) hr

section

variable {env : Env} (hs : Steady env) {P : Device → Prop} {E : ErrCode → Device → Prop}
  {H : Device → Prop}

include hs

theorem triple_seWrite_steady {effect : Device → Device} {Q : Unit → Device → Prop}
    (hok : ∀ d, P d → env.writeReply d.writes = .answered → Q () (effect d.countWrite))
    (hhalt : ∀ d, P d → env.writeReply d.writes ≠ .answered → H d.countWrite) :
    Triple P (seWrite env effect) Q E H := by
  refine triple_seWrite hok (fun d st applied hd hr => ?_) fun d applied hd hr => ?_
  · exact absurd (.inl ⟨_, st, applied, hr⟩) hs.not_refuses
  · have hstop : SeReply.stopped applied = .stopped false :=
      hr.symm.trans ((hs.writes d.writes).resolve_left fun h => SeReply.noConfusion (hr.symm.trans h))
    obtain rfl : applied = false := SeReply.stopped.inj hstop
    exact hhalt d hd (by rw [hr]; exact SeReply.noConfusion)

theorem triple_flashWrite_steady {effect : Device → Device} {Q : Unit → Device → Prop}
    (hok : ∀ d, P d → env.writeReply d.writes = .answered → Q () (effect d.countWrite))
    (hhalt : ∀ d, P d → env.writeReply d.writes ≠ .answered → H d.countWrite) :
    Triple P (flashWrite env effect) Q E H := by
  refine triple_flashWrite hok (fun d st applied hd hr => ?_) fun d applied hd hr => ?_
  · exact absurd (.inl ⟨_, st, applied, hr⟩) hs.not_refuses
  · have hstop : SeReply.stopped applied = .stopped false :=
      hr.symm.trans ((hs.writes d.writes).resolve_left fun h => SeReply.noConfusion (hr.symm.trans h))
    obtain rfl : applied = false := SeReply.stopped.inj hstop
    exact hhalt d hd (by rw [hr]; exact SeReply.noConfusion)

end

/-- What a power loss leaves of an account: its cells, the hash of its public
keys and its flash. -/
def slotOf (i : AccountIndex) (d : Device) : AccountCells × Page × (UserArea → Flash.Cells) :=
  (cellsOf i d, d.page (walletHashPage i), d.flash i)

def ivWritten (i : AccountIndex) (d : Device) : Bool :=
  checkEntropy (d.page (accountPage i pageIndexIv))

def hashWritten (i : AccountIndex) (d : Device) : Bool :=
  checkEntropy (d.page (accountPage i pageIndexPasswordHash))

def Full (i : AccountIndex) (d : Device) : Prop := ivWritten i d = true ∧ hashWritten i d = true

def BlankSlot (i : AccountIndex) (d : Device) : Prop :=
  ivWritten i d = false ∧ hashWritten i d = false

variable {i : AccountIndex}

theorem cellsOf_of_slotOf {d d' : Device} (h : slotOf i d' = slotOf i d) :
    cellsOf i d' = cellsOf i d := congrArg Prod.fst h

theorem page_of_slotOf {d d' : Device} (h : slotOf i d' = slotOf i d)
    (k : PageIndex) : d'.page (accountPage i k) = d.page (accountPage i k) :=
  congrFun (congrArg AccountCells.page (cellsOf_of_slotOf h)) k

theorem written_of_slotOf {d d' : Device} (h : slotOf i d' = slotOf i d) :
    ivWritten i d' = ivWritten i d ∧ hashWritten i d' = hashWritten i d := by
  unfold ivWritten hashWritten
  rw [page_of_slotOf h, page_of_slotOf h]
  exact ⟨rfl, rfl⟩

theorem ignoresAccount_slotOf {i j : AccountIndex} (h : j ≠ i) : IgnoresAccount i (slotOf j) := by
  have hc := ignoresAccount_cellsOf h
  have hsame : ∀ d d' : Device, cellsOf j d' = cellsOf j d →
      d'.page (walletHashPage j) = d.page (walletHashPage j) → d'.flash j = d.flash j →
      slotOf j d' = slotOf j d := by
    intro d d' h₁ h₂ h₃
    unfold slotOf
    rw [h₁, h₂, h₃]
  have hhash : walletHashPage j ≠ walletHashPage i := by
    intro he
    have he' : 85 + j.val = 85 + i.val := he
    exact h (Fin.ext (by omega))
  exact
    { writes := fun _ => rfl, reads := fun _ => rfl, draws := fun _ _ => rfl
      hash := fun d x => hsame _ _ (hc.hash d x) (Device.setPage_ne d x hhash) rfl
      flash := fun d a g => hsame _ _ rfl rfl (funext fun b => if_neg fun he => h he.1)
      keys := fun _ _ => rfl, temp := fun _ _ => rfl, isTemp := fun _ _ => rfl
      pages := fun k d x => hsame _ _ (hc.pages k d x)
        (Device.setPage_ne d x (accountPage_ne_walletHashPage i j k).symm) rfl
      slots := fun s ht d x => hsame _ _ (hc.slots s ht d x) rfl rfl
      passphrase := fun _ _ => rfl }

theorem ignoresSession_slotOf (j : AccountIndex) : IgnoresSession (slotOf j) where
  info _ _ := rfl
  current _ _ := rfl

theorem blind_slotOf (i : AccountIndex) : Blind (slotOf i) :=
  ⟨fun _ => rfl, fun _ => rfl, fun _ _ => rfl⟩

/-- What the check may do to a slot: leave it, or clear one that is half
written. -/
def Checked (i : AccountIndex) (d d' : Device) : Prop :=
  slotOf i d' = slotOf i d ∨ (ivWritten i d ≠ hashWritten i d ∧ BlankSlot i d')

theorem checked_preorder (i : AccountIndex) : Preorder (Checked i) where
  refl _ := .inl rfl
  trans := by
    rintro a b c (hab | ⟨ha, hb⟩) hbc
    · obtain ⟨hi, hh⟩ := written_of_slotOf hab
      rcases hbc with hbc | ⟨hb, hc⟩
      · exact .inl (hbc.trans hab)
      · rw [hi, hh] at hb
        exact .inr ⟨hb, hc⟩
    · rcases hbc with hbc | ⟨hb', _⟩
      · obtain ⟨hi, hh⟩ := written_of_slotOf hbc
        refine .inr ⟨ha, ?_⟩
        unfold BlankSlot
        rw [hi, hh]
        exact hb
      · exact absurd (hb.1.trans hb.2.symm) hb'

theorem zeroPages_get {j : Nat} {b : PageIndex × Page} (h : zeroPages[j]? = some b) :
    b.1.val = j ∧ b.2 = Block.zero 32 := by
  unfold zeroPages at h
  rw [List.getElem?_map] at h
  obtain ⟨k, hk, rfl⟩ := Option.map_eq_some_iff.mp h
  obtain ⟨hlt, he⟩ := List.getElem?_eq_some_iff.mp hk
  rw [List.getElem_finRange] at he
  rw [← he]
  exact ⟨rfl, rfl⟩

theorem zeroPages_length : zeroPages.length = 12 := by
  unfold zeroPages
  rw [List.length_map, List.length_finRange]

/-- The first `n` pages of the account are zero. -/
def Zeroed (i : AccountIndex) (n : Nat) (d : Device) : Prop :=
  ∀ k : PageIndex, k.val < n → d.page (accountPage i k) = Block.zero 32

theorem ivWritten_zeroed {n : Nat} {d : Device} (hn : 0 < n)
    (h : Zeroed i n d) : ivWritten i d = false := by
  unfold ivWritten
  rw [h pageIndexIv hn]
  decide

theorem blankSlot_zeroed {d : Device} (h : Zeroed i 12 d) :
    BlankSlot i d := by
  refine ⟨ivWritten_zeroed (by decide) h, ?_⟩
  unfold hashWritten
  rw [h pageIndexPasswordHash (by decide)]
  decide

theorem triple_zeroPages {env : Env} (hs : Steady env) {w : Nat}
    {c : AccountCells × Page × (UserArea → Flash.Cells)} :
    Triple (fun d => d.writes = w ∧ slotOf i d = c) (writePages env i zeroPages)
      (fun _ d => d.writes = w + 12 ∧ Zeroed i 12 d) (fun _ _ => False)
      (fun d => env.writeReply (w + 11) ≠ .answered ∧
        (env.writeReply w ≠ .answered ∧ slotOf i d = c ∨ ivWritten i d = false)) := by
  let I := fun (j : Nat) (d : Device) => d.writes = w + j ∧ Zeroed i j d ∧ (j = 0 → slotOf i d = c)
  have hround : ∀ j b, zeroPages[j]? = some b → Triple (I (0 + j))
      (seHmacEncryptWrite env b.2 (accountPage i b.1)) (fun _ => I (0 + j + 1)) (fun _ _ => False)
      (fun d => env.writeReply (w + 11) ≠ .answered ∧
        (env.writeReply w ≠ .answered ∧ slotOf i d = c ∨ ivWritten i d = false)) := by
    intro j b hb
    obtain ⟨hj, hb⟩ := zeroPages_get hb
    have hlt : b.1.val < 12 := b.1.isLt
    rw [Nat.zero_add]
    refine triple_seWrite_steady hs ?_ ?_
    · rintro d ⟨hw, hz, _⟩ _
      refine ⟨congrArg (· + 1) hw, fun k hk => ?_, fun h => absurd h (Nat.succ_ne_zero j)⟩
      rw [page_setPage]
      split
      · exact hb
      · next hne =>
        have hkj : k.val ≠ j := fun he => hne ⟨rfl, Fin.ext (he.trans hj.symm)⟩
        exact hz k (by omega)
    · rintro d ⟨hw, hz, h0⟩ hr
      rw [hw] at hr
      refine ⟨fun hl => hr (hs.final _ _ (by omega) hl), ?_⟩
      by_cases hj0 : j = 0
      · rw [hj0] at hr
        exact .inl ⟨hr, h0 hj0⟩
      · exact .inr (ivWritten_zeroed (Nat.pos_of_ne_zero hj0) hz)
  have hall := triple_each_indexed zeroPages 0 hround
  rw [zeroPages_length] at hall
  refine triple_conseq hall ?_ ?_ (fun _ _ h => h) fun _ h => h
  · rintro d ⟨hw, hd⟩
    exact ⟨hw, fun k hk => absurd hk (Nat.not_lt_zero _), fun _ => hd⟩
  · rintro _ d ⟨hw, hz, _⟩
    exact ⟨hw.trans (by rw [Nat.zero_add]), hz⟩

section

variable (env : Env)

theorem zeroPages_ideal (i : AccountIndex) (d : Device) :
    ∃ d', writePages env.ideal i zeroPages d = (.ok (), d') ∧ BlankSlot i d' := by
  have hzero : Sat _ _ _ (writePages env.ideal i zeroPages d) :=
    triple_zeroPages (steady_ideal env) d ⟨rfl, rfl⟩
  match hrun : writePages env.ideal i zeroPages d with
  | (.ok (), d') =>
    rw [hrun] at hzero
    exact ⟨d', rfl, blankSlot_zeroed hzero.2⟩
  | (.error e, d') =>
    rw [hrun] at hzero
    exact hzero.elim
  | (.halted, d') =>
    rw [hrun] at hzero
    exact absurd rfl hzero.1

theorem accountDataCheck_eq (i : AccountIndex) (d : Device) :
    accountDataCheck env.ideal i d
      = (if ivWritten i d != hashWritten i d then ignore (writePages env.ideal i zeroPages)
        else pure () : Account Unit) d.countRead.countRead := by
  have hread : ∀ k t, seHmacEncryptRead env.ideal (accountPage i k) t
      = (.ok (t.page (accountPage i k)), t.countRead) := fun k t => seRead_answered rfl
  unfold accountDataCheck
  rw [bind_ok (hread pageIndexIv d), bind_ok (hread pageIndexPasswordHash d.countRead)]
  rfl

theorem accountDataCheck_self (i : AccountIndex) (d : Device) :
    ∃ d', accountDataCheck env.ideal i d = (.ok (), d') ∧ Checked i d d' ∧
      ivWritten i d' = hashWritten i d' := by
  rw [accountDataCheck_eq]
  by_cases h : ivWritten i d = hashWritten i d
  · rw [h, bne_self_eq_false, if_neg Bool.false_ne_true]
    exact ⟨_, rfl, .inl rfl, h⟩
  · obtain ⟨d', hrun, hblank⟩ := zeroPages_ideal env i d.countRead.countRead
    rw [if_pos (bne_iff_ne.mpr h)]
    exact ⟨d', ignore_ok hrun, .inr ⟨h, hblank⟩, hblank.1.trans hblank.2.symm⟩

theorem frame_accountDataCheck_checked (i j : AccountIndex) :
    Frame (Checked i) (accountDataCheck env.ideal j) := by
  intro d
  by_cases h : i = j
  · subst h
    obtain ⟨d', hrun, hchecked, _⟩ := accountDataCheck_self env i d
    rw [hrun]
    exact hchecked
  · exact .inl (frame_accountDataCheck env.ideal (blind_slotOf i)
      (fun k d => (ignoresAccount_slotOf h).pages k d _) d)

theorem Checked.written {i : AccountIndex} {d d' : Device} (h : Checked i d d')
    (hd : ivWritten i d = hashWritten i d) : ivWritten i d' = hashWritten i d' := by
  rcases h with h | ⟨hne, _⟩
  · obtain ⟨hi, hh⟩ := written_of_slotOf h
    rw [hi, hh]
    exact hd
  · exact absurd hd hne

theorem each_accountDataCheck (i : AccountIndex) :
    ∀ (is : List AccountIndex) (d : Device), i ∈ is →
      ivWritten i (each (accountDataCheck env.ideal) is d).2
        = hashWritten i (each (accountDataCheck env.ideal) is d).2
  | [], _, h => absurd h List.not_mem_nil
  | j :: is, d, h => by
    obtain ⟨d', hrun, _, hself⟩ := accountDataCheck_self env j d
    have hstep : each (accountDataCheck env.ideal) (j :: is) d
        = each (accountDataCheck env.ideal) is d' := bind_ok hrun
    rw [hstep]
    rcases List.mem_cons.mp h with rfl | h
    · have hrest := frame_each (checked_preorder i) is
        (fun k _ => frame_accountDataCheck_checked env i k) d'
      exact hrest.written hself
    · exact each_accountDataCheck i is d' h

/-- **The check at boot** leaves no slot half written: a slot is as it was, or it
was half written and is now blank. -/
theorem accountsDataCheck_slot (i : AccountIndex) (d : Device) :
    Checked i d (accountsDataCheck env.ideal d).2 ∧
      ivWritten i (accountsDataCheck env.ideal d).2
        = hashWritten i (accountsDataCheck env.ideal d).2 := by
  have hsnd : (accountsDataCheck env.ideal d).2
      = (each (accountDataCheck env.ideal) accountIndices d).2 := ignore_snd _ _
  rw [hsnd]
  exact ⟨frame_each (checked_preorder i) accountIndices
    (fun k _ => frame_accountDataCheck_checked env i k) d,
    each_accountDataCheck env i accountIndices d (mem_accountIndices i)⟩

theorem blankSlot_of_not_full {i : AccountIndex} {d : Device} (h : ¬Full i d) :
    BlankSlot i (accountsDataCheck env.ideal d).2 := by
  obtain ⟨hchecked, hwritten⟩ := accountsDataCheck_slot env i d
  rcases hchecked with hsame | ⟨_, hblank⟩
  · obtain ⟨hi, hh⟩ := written_of_slotOf hsame
    unfold BlankSlot
    rw [hi, hh] at hwritten ⊢
    cases hiv : ivWritten i d with
    | false => exact ⟨rfl, hwritten.symm.trans hiv⟩
    | true => exact absurd ⟨hiv, hwritten.symm.trans hiv⟩ h
  · exact hblank

theorem slotOf_of_full {i : AccountIndex} {d : Device} (h : Full i d) :
    slotOf i (accountsDataCheck env.ideal d).2 = slotOf i d := by
  rcases (accountsDataCheck_slot env i d).1 with hsame | ⟨hne, _⟩
  · exact hsame
  · exact absurd (h.1.trans h.2.symm) hne

end

end Keystone3
