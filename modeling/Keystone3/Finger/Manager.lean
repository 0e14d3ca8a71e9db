import Mathlib.Data.List.Nodup
import Keystone3.Bytes.Block
import Keystone3.Logic.Prog

/-!
# The record of the registered fingers

`g_fpManager` keeps how many fingers are registered and, for each of three slots, the id
of the finger in it, zero for none.

A slot holds zero or its own id, so an id is never there twice. The number goes up with
every finger added and down with every one deleted, whatever the slot held before, so it
is right as long as a finger is added to a free slot and deleted from a taken one.
-/

namespace Keystone3.Finger

open Bytes (Block)
open Logic (runSteps AllSteps allSteps_iff_along_of)

abbrev MAX_NUM_FINGERS : Nat := 3

abbrev MAX_NUM_WALLETS : Nat := 3

def FP_SUCCESS_CODE : UInt8 := 0

structure FingerManagerInfo where
  unlockFlag : Bool
  signFlag : Fin MAX_NUM_WALLETS → Bool
  fingerNum : UInt8
  fingerId : Block MAX_NUM_FINGERS

namespace FingerManagerInfo

def zero : FingerManagerInfo := ⟨false, fun _ => false, 0, .zero _⟩

/-- An id behind the three lands in the reserved bytes or behind the
record. -/
def AddFingerManager (account index : UInt8) (m : FingerManagerInfo) : FingerManagerInfo where
  unlockFlag := if m.fingerNum = 0 then true else m.unlockFlag
  signFlag i := if i.val = account.toNat then m.signFlag i else false
  fingerNum := m.fingerNum + 1
  fingerId := m.fingerId.set index.toNat (index + 1)

def DeleteFingerManager (index : UInt8) (m : FingerManagerInfo) : FingerManagerInfo :=
  { m with
    fingerNum := if m.fingerNum > 0 then m.fingerNum - 1 else m.fingerNum
    fingerId := m.fingerId.set index.toNat 0 }

end FingerManagerInfo

open FingerManagerInfo (AddFingerManager DeleteFingerManager)

/-- The record, the finger that is being registered or deleted, and the copy of the record
in the secure element. -/
structure FpState where
  g_fpManager : FingerManagerInfo
  g_fpIndex : UInt8
  g_delFpSave : Bool
  stateInfo : FingerManagerInfo
  account : UInt8

namespace FpState

def boot : FpState := ⟨.zero, 0, false, .zero, 0xFF⟩

def SetFingerManagerInfoToSE (s : FpState) : FpState := { s with stateInfo := s.g_fpManager }

def InitFingerManagerInfo (s : FpState) : FpState := { s with g_fpManager := s.stateInfo }

/-- `FpRegSend` and `FpDeleteSend`: the slot the command is about. -/
def FpSend (index : UInt8) (s : FpState) : FpState := { s with g_fpIndex := index }

/-- The module's finger goes, and the record stays. -/
def FpDeleteRegisterFinger (s : FpState) : FpState := { s with g_delFpSave := true }

def FpRegRecv (result index : UInt8) (s : FpState) : FpState :=
  if result = FP_SUCCESS_CODE then { s with g_fpIndex := index } else s

def FpDeleteRecv (result : UInt8) (s : FpState) : FpState :=
  if result = FP_SUCCESS_CODE then
    if s.g_delFpSave then { s with g_delFpSave := false }
    else
      let m := s.g_fpManager.DeleteFingerManager s.g_fpIndex
      SetFingerManagerInfoToSE { s with
        g_fpManager := if m.fingerNum = 0 then .zero else m }
  else s

def FpDeleteAllRecv (result : UInt8) (s : FpState) : FpState :=
  if result = FP_SUCCESS_CODE then { s with g_fpManager := .zero } else s

/-- The module says how many fingers it has. With another number than the recorded one all
of them are deleted; a number of zero clears the record. -/
def FpGetNumberRecv (result number : UInt8) (s : FpState) : FpState :=
  if result = FP_SUCCESS_CODE then
    if number ≠ s.g_fpManager.fingerNum then
      FpSend 1 (SetFingerManagerInfoToSE { s with g_fpManager := .zero })
    else if s.g_fpManager.fingerNum = 0 then { s with g_fpManager := .zero }
    else s
  else s

def FpSaveKeyInfo (add : Bool) (s : FpState) : FpState :=
  SetFingerManagerInfoToSE
    (if add then { s with g_fpManager := s.g_fpManager.AddFingerManager s.account s.g_fpIndex }
    else s)

def UpdateFingerUnlockFlag (flag : Bool) (s : FpState) : FpState :=
  SetFingerManagerInfoToSE { s with g_fpManager := { s.g_fpManager with unlockFlag := flag } }

def UpdateFingerSignFlag (index : Fin MAX_NUM_WALLETS) (flag : Bool) (s : FpState) : FpState :=
  SetFingerManagerInfoToSE { s with g_fpManager :=
    { s.g_fpManager with
      signFlag := fun i => if i = index then flag else s.g_fpManager.signFlag i } }

def FpWipeManageInfo (s : FpState) : FpState :=
  FpSend 1 (SetFingerManagerInfoToSE { s with g_fpManager := .zero })

end FpState

/-- What can happen to the record: responses of the module, what the pages ask for, and a
restart of the device. -/
inductive FpEvent
  | regSend (index : UInt8)
  | regRecv (result index : UInt8)
  | saveKeyInfo (add : Bool)
  | deleteSend (index : UInt8)
  | deleteRegisterFinger
  | deleteRecv (result : UInt8)
  | deleteAllRecv (result : UInt8)
  | getNumberRecv (result number : UInt8)
  | updateUnlockFlag (flag : Bool)
  | updateSignFlag (index : Fin MAX_NUM_WALLETS) (flag : Bool)
  | init
  | wipe
  | login (account : UInt8)
  | restart

open FpState

def fpStep : FpEvent → FpState → FpState
  | .regSend index, s => s.FpSend index
  | .regRecv result index, s => s.FpRegRecv result index
  | .saveKeyInfo add, s => s.FpSaveKeyInfo add
  | .deleteSend index, s => s.FpSend index
  | .deleteRegisterFinger, s => s.FpDeleteRegisterFinger
  | .deleteRecv result, s => s.FpDeleteRecv result
  | .deleteAllRecv result, s => s.FpDeleteAllRecv result
  | .getNumberRecv result number, s => s.FpGetNumberRecv result number
  | .updateUnlockFlag flag, s => s.UpdateFingerUnlockFlag flag
  | .updateSignFlag index flag, s => s.UpdateFingerSignFlag index flag
  | .init, s => s.InitFingerManagerInfo
  | .wipe, s => s.FpWipeManageInfo
  | .login account, s => { s with account := account }
  | .restart, s => { boot with stateInfo := s.stateInfo }

def taken (ids : Block MAX_NUM_FINGERS) : Nat := ids.bytes.countP (· ≠ 0)

/-- The number is that of the ids, and no id is there twice. -/
structure InStep (m : FingerManagerInfo) : Prop where
  number : m.fingerNum.toNat = taken m.fingerId
  distinct : (m.fingerId.bytes.filter (· ≠ 0)).Nodup

def OwnSlots (ids : Block MAX_NUM_FINGERS) : Prop :=
  ∀ i, i < MAX_NUM_FINGERS → ids.get i = 0 ∨ (ids.get i).toNat = i + 1

theorem taken_le (ids : Block MAX_NUM_FINGERS) : taken ids ≤ 3 := by
  have h := List.countP_le_length (p := fun b : UInt8 => decide (b ≠ 0)) (l := ids.bytes)
  rw [ids.size_eq] at h
  exact h

theorem ownSlots_zero : OwnSlots (.zero _) := by
  intro i _
  left
  exact Block.get_zero i

theorem inStep_zero : InStep .zero := ⟨by decide, by decide⟩

variable {ids : Block MAX_NUM_FINGERS}

theorem OwnSlots.distinct (h : OwnSlots ids) :
    (ids.bytes.filter (· ≠ 0)).Nodup := by
  refine List.pairwise_filter.mpr (List.pairwise_iff_getElem.mpr ?_)
  intro i j hi hj hij hni hnj heq
  have hget : ∀ k (hk : k < ids.bytes.length), ids.bytes[k] ≠ 0 → (ids.bytes[k]).toNat = k + 1 := by
    intro k hk hne
    have hk3 : k < MAX_NUM_FINGERS := by
      rw [ids.size_eq] at hk
      exact hk
    have heq : ids.get k = ids.bytes[k] := by
      show ids.bytes.getD k 0 = _
      rw [List.getD_eq_getElem?_getD, List.getElem?_eq_getElem hk]
      rfl
    rcases h k hk3 with h0 | h1
    · exact absurd (heq ▸ h0) hne
    · exact heq ▸ h1
  have hi' := hget i hi (of_decide_eq_true hni)
  have hj' := hget j hj (of_decide_eq_true hnj)
  rw [heq] at hi'
  omega

theorem OwnSlots.set (h : OwnSlots ids) {index : Nat} {x : UInt8}
    (hx : index < MAX_NUM_FINGERS → x = 0 ∨ x.toNat = index + 1) : OwnSlots (ids.set index x) := by
  intro i hi
  by_cases heq : index = i
  · subst heq
    rw [Block.get_set_self hi]
    exact hx hi
  · rw [Block.get_set_ne heq]
    exact h i hi

theorem taken_set {i : Nat} (x : UInt8) (h : i < MAX_NUM_FINGERS) :
    taken (ids.set i x) + (if ids.get i = 0 then 0 else 1) =
      taken ids + (if x = 0 then 0 else 1) := by
  have hi : i < ids.bytes.length := by
    rw [ids.size_eq]
    exact h
  have hget : ids.get i = ids.bytes[i] := by
    show ids.bytes.getD i 0 = _
    rw [List.getD_eq_getElem?_getD, List.getElem?_eq_getElem hi]
    rfl
  have hcount := List.countP_set (p := fun b : UInt8 => decide (b ≠ 0)) (a := x) hi
  have hpos : ids.bytes[i] ≠ 0 → 0 < taken ids := by
    intro hne
    exact List.countP_pos_iff.mpr ⟨_, List.getElem_mem hi, decide_eq_true hne⟩
  show (ids.bytes.set i x).countP _ + _ = taken ids + _
  rw [hcount, hget]
  show taken ids - (if decide (ids.bytes[i] ≠ 0) = true then 1 else 0) +
    (if decide (x ≠ 0) = true then 1 else 0) + _ = taken ids + _
  have hflag : ∀ b : UInt8, (if decide (b ≠ 0) = true then 1 else 0) = if b = 0 then 0 else 1 := by
    intro b
    by_cases hb : b = 0
    · rw [if_pos hb, if_neg (by rw [hb]; decide)]
    · rw [if_neg hb, if_pos (decide_eq_true hb)]
  rw [hflag, hflag]
  by_cases h0 : ids.bytes[i] = 0
  · rw [if_pos h0]
    omega
  · have := hpos h0
    rw [if_neg h0]
    omega

theorem set_outside {i : Nat} {x : UInt8} (h : MAX_NUM_FINGERS ≤ i) :
    ids.set i x = ids := by
  apply Block.ext
  show ids.bytes.set i x = ids.bytes
  exact List.set_eq_of_length_le (by rw [ids.size_eq]; exact h)

theorem toNat_add_one {n : UInt8} (h : n.toNat ≤ 3) : (n + 1).toNat = n.toNat + 1 := by
  rw [UInt8.toNat_add]
  show (n.toNat + 1) % 256 = n.toNat + 1
  omega

theorem toNat_sub_one {n : UInt8} (h : 1 ≤ n.toNat) : (n - 1).toNat = n.toNat - 1 := by
  rw [UInt8.toNat_sub_of_le n 1 (UInt8.le_iff_toNat_le.mpr h)]
  rfl

variable {m : FingerManagerInfo}

theorem InStep.number_le (h : InStep m) : m.fingerNum.toNat ≤ 3 := h.number ▸ taken_le _

theorem ownSlots_add (account index : UInt8)
    (h : OwnSlots m.fingerId) : OwnSlots (m.AddFingerManager account index).fingerId := by
  refine h.set fun hi => .inr (toNat_add_one ?_)
  show index.toNat ≤ 3
  have : index.toNat < 3 := hi
  omega

theorem inStep_add_iff {account index : UInt8} (h : InStep m)
    (hslots : OwnSlots m.fingerId) : InStep (m.AddFingerManager account index) ↔
      index.toNat < MAX_NUM_FINGERS ∧ m.fingerId.get index.toNat = 0 := by
  have hnumber : (m.AddFingerManager account index).fingerNum.toNat = taken m.fingerId + 1 := by
    show (m.fingerNum + 1).toNat = _
    rw [toNat_add_one h.number_le, h.number]
  by_cases hin : index.toNat < MAX_NUM_FINGERS
  · have hset := @taken_set m.fingerId _ (index + 1) hin
    have hid : index + 1 ≠ 0 := by
      intro hz
      have hsucc := toNat_add_one (n := index) (Nat.le_of_lt hin)
      rw [hz] at hsucc
      have : 0 = index.toNat + 1 := hsucc
      omega
    rw [if_neg hid] at hset
    constructor
    · intro hadd
      have heq : taken m.fingerId + 1 = taken (m.fingerId.set index.toNat (index + 1)) :=
        hnumber.symm.trans hadd.number
      refine ⟨hin, ?_⟩
      by_contra hne
      rw [if_neg hne] at hset
      omega
    · intro hfree
      rw [if_pos hfree.2] at hset
      refine ⟨?_, (ownSlots_add account index hslots).distinct⟩
      rw [hnumber]
      exact hset.symm
  · constructor
    · intro hadd
      have heq : taken m.fingerId + 1 = taken (m.fingerId.set index.toNat (index + 1)) :=
        hnumber.symm.trans hadd.number
      rw [set_outside (Nat.le_of_not_lt hin)] at heq
      omega
    · intro hfree
      exact absurd hfree.1 hin

def afterDelete (index : UInt8) (m : FingerManagerInfo) : FingerManagerInfo :=
  if (m.DeleteFingerManager index).fingerNum = 0 then .zero else m.DeleteFingerManager index

theorem ownSlots_afterDelete (index : UInt8) (h : OwnSlots m.fingerId) :
    OwnSlots (afterDelete index m).fingerId := by
  unfold afterDelete
  split
  · exact ownSlots_zero
  · exact h.set fun _ => .inl rfl

theorem afterDelete_last {index : UInt8} (h : m.fingerNum.toNat ≤ 1) :
    afterDelete index m = .zero := by
  have hzero : (m.DeleteFingerManager index).fingerNum = 0 := by
    show (if m.fingerNum > 0 then m.fingerNum - 1 else m.fingerNum) = 0
    split
    next hpos =>
      have hone : 1 ≤ m.fingerNum.toNat := UInt8.lt_iff_toNat_lt.mp hpos
      apply UInt8.toNat_inj.mp
      rw [toNat_sub_one hone]
      show m.fingerNum.toNat - 1 = 0
      omega
    next hpos =>
      apply UInt8.toNat_inj.mp
      have : ¬ 0 < m.fingerNum.toNat := fun h => hpos (UInt8.lt_iff_toNat_lt.mpr h)
      show m.fingerNum.toNat = 0
      omega
  unfold afterDelete
  rw [if_pos hzero]

theorem inStep_delete_iff {index : UInt8} (h : InStep m)
    (hslots : OwnSlots m.fingerId) : InStep (afterDelete index m) ↔
      m.fingerNum.toNat ≤ 1 ∨
        index.toNat < MAX_NUM_FINGERS ∧ m.fingerId.get index.toNat ≠ 0 := by
  by_cases hlast : m.fingerNum.toNat ≤ 1
  · rw [afterDelete_last hlast]
    exact ⟨fun _ => .inl hlast, fun _ => inStep_zero⟩
  · have hpos : m.fingerNum > 0 := by
      rw [gt_iff_lt, UInt8.lt_iff_toNat_lt]
      show 0 < m.fingerNum.toNat
      omega
    have hnum : (m.DeleteFingerManager index).fingerNum = m.fingerNum - 1 := if_pos hpos
    have hnumber : (m.DeleteFingerManager index).fingerNum.toNat = taken m.fingerId - 1 := by
      rw [hnum, toNat_sub_one (by omega), h.number]
    have hafter : afterDelete index m = m.DeleteFingerManager index := by
      unfold afterDelete
      rw [if_neg]
      intro hz
      rw [hz] at hnumber
      have : 0 = taken m.fingerId - 1 := hnumber
      rw [h.number] at hlast
      omega
    have htwo : 2 ≤ taken m.fingerId := by
      rw [h.number] at hlast
      omega
    rw [hafter]
    by_cases hin : index.toNat < MAX_NUM_FINGERS
    · have hset := @taken_set m.fingerId _ 0 hin
      rw [if_pos rfl] at hset
      constructor
      · intro hdel
        have heq : taken m.fingerId - 1 = taken (m.fingerId.set index.toNat 0) :=
          hnumber.symm.trans hdel.number
        refine .inr ⟨hin, ?_⟩
        intro hz
        rw [if_pos hz] at hset
        omega
      · intro hcond
        have hne := (hcond.resolve_left hlast).2
        rw [if_neg hne] at hset
        refine ⟨?_, (hslots.set fun _ => .inl rfl).distinct⟩
        rw [hnumber]
        show taken m.fingerId - 1 = taken (m.fingerId.set index.toNat 0)
        omega
    · constructor
      · intro hdel
        have heq : taken m.fingerId - 1 = taken (m.fingerId.set index.toNat 0) :=
          hnumber.symm.trans hdel.number
        rw [set_outside (Nat.le_of_not_lt hin)] at heq
        omega
      · intro hcond
        exact absurd (hcond.resolve_left hlast).1 hin

/-- A finger is added to a free slot and deleted from a taken one, or the last that is
recorded is deleted. -/
def Fits : FpEvent → FpState → Prop
  | .saveKeyInfo add, s => add = true →
    s.g_fpIndex.toNat < MAX_NUM_FINGERS ∧ s.g_fpManager.fingerId.get s.g_fpIndex.toNat = 0
  | .deleteRecv result, s => result = FP_SUCCESS_CODE → s.g_delFpSave = false →
    s.g_fpManager.fingerNum.toNat ≤ 1 ∨
      s.g_fpIndex.toNat < MAX_NUM_FINGERS ∧ s.g_fpManager.fingerId.get s.g_fpIndex.toNat ≠ 0
  | _, _ => True

structure Kept (s : FpState) : Prop where
  manager : InStep s.g_fpManager
  stateInfo : InStep s.stateInfo
  slots : OwnSlots s.g_fpManager.fingerId ∧ OwnSlots s.stateInfo.fingerId

theorem kept_boot : Kept boot := ⟨inStep_zero, inStep_zero, ownSlots_zero, ownSlots_zero⟩

theorem InStep.of_ids {m m' : FingerManagerInfo} (h : InStep m) (hnum : m'.fingerNum = m.fingerNum)
    (hids : m'.fingerId = m.fingerId) : InStep m' := by
  refine ⟨?_, ?_⟩
  · rw [hnum, hids]
    exact h.number
  · rw [hids]
    exact h.distinct

/-- What a step can do to the record. Its copy stays or is written from it. -/
inductive Change (e : FpEvent) (s s' : FpState) : Prop
  | ids (hnum : s'.g_fpManager.fingerNum = s.g_fpManager.fingerNum)
    (hids : s'.g_fpManager.fingerId = s.g_fpManager.fingerId)
  | cleared (hzero : s'.g_fpManager = .zero)
  | loaded (hload : s'.g_fpManager = s.stateInfo)
  | added (he : e = .saveKeyInfo true)
    (hadd : s'.g_fpManager = s.g_fpManager.AddFingerManager s.account s.g_fpIndex)
  | deleted (he : e = .deleteRecv FP_SUCCESS_CODE) (hsave : s.g_delFpSave = false)
    (hdelete : s'.g_fpManager = afterDelete s.g_fpIndex s.g_fpManager)

theorem deleteRecv_eq {s : FpState} (h : s.g_delFpSave = false) :
    s.FpDeleteRecv FP_SUCCESS_CODE =
      SetFingerManagerInfoToSE { s with g_fpManager := afterDelete s.g_fpIndex s.g_fpManager } := by
  unfold FpDeleteRecv
  rw [if_pos rfl, h]
  rfl

theorem step_change (e : FpEvent) (s : FpState) : Change e s (fpStep e s) ∧
    ((fpStep e s).stateInfo = s.stateInfo ∨ (fpStep e s).stateInfo = (fpStep e s).g_fpManager) := by
  cases e with
  | regSend index => exact ⟨.ids rfl rfl, .inl rfl⟩
  | regRecv result index =>
    show Change _ s (s.FpRegRecv result index) ∧ _
    simp only [fpStep]
    unfold FpRegRecv
    split
    · exact ⟨.ids rfl rfl, .inl rfl⟩
    · exact ⟨.ids rfl rfl, .inl rfl⟩
  | saveKeyInfo add =>
    cases add with
    | true => exact ⟨.added rfl rfl, .inr rfl⟩
    | false => exact ⟨.ids rfl rfl, .inr rfl⟩
  | deleteSend index => exact ⟨.ids rfl rfl, .inl rfl⟩
  | deleteRegisterFinger => exact ⟨.ids rfl rfl, .inl rfl⟩
  | deleteRecv result =>
    simp only [fpStep]
    by_cases hres : result = FP_SUCCESS_CODE
    · rw [hres]
      cases hsave : s.g_delFpSave with
      | true =>
        unfold FpDeleteRecv
        rw [if_pos rfl, if_pos hsave]
        exact ⟨.ids rfl rfl, .inl rfl⟩
      | false =>
        rw [deleteRecv_eq hsave]
        exact ⟨.deleted rfl hsave rfl, .inr rfl⟩
    · unfold FpDeleteRecv
      rw [if_neg hres]
      exact ⟨.ids rfl rfl, .inl rfl⟩
  | deleteAllRecv result =>
    simp only [fpStep]
    unfold FpDeleteAllRecv
    split
    · exact ⟨.cleared rfl, .inl rfl⟩
    · exact ⟨.ids rfl rfl, .inl rfl⟩
  | getNumberRecv result number =>
    simp only [fpStep]
    unfold FpGetNumberRecv
    split
    · split
      · exact ⟨.cleared rfl, .inr rfl⟩
      · split
        · exact ⟨.cleared rfl, .inl rfl⟩
        · exact ⟨.ids rfl rfl, .inl rfl⟩
    · exact ⟨.ids rfl rfl, .inl rfl⟩
  | updateUnlockFlag flag => exact ⟨.ids rfl rfl, .inr rfl⟩
  | updateSignFlag index flag => exact ⟨.ids rfl rfl, .inr rfl⟩
  | init => exact ⟨.loaded rfl, .inl rfl⟩
  | wipe => exact ⟨.cleared rfl, .inr rfl⟩
  | login account => exact ⟨.ids rfl rfl, .inl rfl⟩
  | restart => exact ⟨.cleared rfl, .inl rfl⟩

theorem step_slots (e : FpEvent) (s : FpState)
    (h : OwnSlots s.g_fpManager.fingerId ∧ OwnSlots s.stateInfo.fingerId) :
    OwnSlots (fpStep e s).g_fpManager.fingerId ∧ OwnSlots (fpStep e s).stateInfo.fingerId := by
  obtain ⟨hchange, hcopy⟩ := step_change e s
  have hmanager : OwnSlots (fpStep e s).g_fpManager.fingerId := by
    cases hchange with
    | ids hnum hids =>
      rw [hids]
      exact h.1
    | cleared hzero =>
      rw [hzero]
      exact ownSlots_zero
    | loaded hload =>
      rw [hload]
      exact h.2
    | added he hadd =>
      rw [hadd]
      exact ownSlots_add _ _ h.1
    | deleted he hsave hdelete =>
      rw [hdelete]
      exact ownSlots_afterDelete _ h.1
  refine ⟨hmanager, ?_⟩
  rcases hcopy with hcopy | hcopy
  · rw [hcopy]
    exact h.2
  · rw [hcopy]
    exact hmanager

theorem step_kept (e : FpEvent) (s : FpState) (h : Kept s) (hfits : Fits e s) :
    Kept (fpStep e s) := by
  obtain ⟨hchange, hcopy⟩ := step_change e s
  have hmanager : InStep (fpStep e s).g_fpManager := by
    cases hchange with
    | ids hnum hids => exact h.manager.of_ids hnum hids
    | cleared hzero =>
      rw [hzero]
      exact inStep_zero
    | loaded hload =>
      rw [hload]
      exact h.stateInfo
    | added he hadd =>
      rw [hadd]
      rw [he] at hfits
      exact (inStep_add_iff h.manager h.slots.1).mpr (hfits rfl)
    | deleted he hsave hdelete =>
      rw [hdelete]
      rw [he] at hfits
      exact (inStep_delete_iff h.manager h.slots.1).mpr (hfits rfl hsave)
  refine ⟨hmanager, ?_, step_slots e s h.slots⟩
  rcases hcopy with hcopy | hcopy
  · rw [hcopy]
    exact h.stateInfo
  · rw [hcopy]
    exact hmanager

theorem step_needed (e : FpEvent) (s : FpState) (h : Kept s)
    (hnext : InStep (fpStep e s).g_fpManager) : Fits e s := by
  cases e with
  | saveKeyInfo add =>
    intro hadd
    rw [hadd] at hnext
    exact (inStep_add_iff h.manager h.slots.1).mp hnext
  | deleteRecv result =>
    intro hres hsave
    have heq : (fpStep (.deleteRecv result) s).g_fpManager = afterDelete s.g_fpIndex s.g_fpManager := by
      show (s.FpDeleteRecv result).g_fpManager = _
      rw [hres, deleteRecv_eq hsave]
      rfl
    rw [heq] at hnext
    exact (inStep_delete_iff h.manager h.slots.1).mp hnext
  | regSend _ | regRecv _ _ | deleteSend _ | deleteRegisterFinger | deleteAllRecv _
  | getNumberRecv _ _ | updateUnlockFlag _ | updateSignFlag _ _ | init | wipe | login _ | restart =>
    trivial

/-- **The number of fingers is that of the ids all along a run exactly when each finger is
added to a free slot and deleted from a taken one.** -/
theorem fingers_in_step (es : List FpEvent) : AllSteps fpStep Fits es boot ↔
    ∀ past, past <+: es → InStep (runSteps fpStep past boot).g_fpManager :=
  allSteps_iff_along_of (fun _ h => h.manager) step_kept step_needed es boot kept_boot

def deletedTwice : List FpEvent :=
  [.regSend 0, .regRecv 0 0, .saveKeyInfo true, .regSend 1, .regRecv 0 1, .saveKeyInfo true,
    .regSend 2, .regRecv 0 2, .saveKeyInfo true, .deleteSend 0, .deleteRecv 0, .deleteRecv 0]

theorem deletedTwice_out_of_step :
    ¬ InStep (runSteps fpStep deletedTwice boot).g_fpManager := by
  intro h
  cases h.number

end Keystone3.Finger
