import Keystone3.Account.Passphrase
import Keystone3.Multisig.WalletText

/-!
# The wallet list over a run

What should hold of an account's wallet list whatever is added, deleted, saved and read
back: verify codes and order numbers are all different, the orders are below five, the
length is that of the list, and the flash holds the list (`WalletsRight`).

Among what breaks it: an addition to a full list is reported like any other, though the
list does not take the item. A text that does not fit its area stops the device, after
the area has been erased, and every wallet of the account is lost
(`fourLongConfigs_lost`); four wallets with long configurations are enough. Where
additions keep clear of these (`GoesThrough`) the list stays right (`wallets_right`).
-/

namespace Keystone3.Multisig

open Logic (AllSteps runSteps runSteps_append runSteps_inv_of)
open Logic.Prog
open Json (Item printValue)
open List (length_append mem_map mem_singleton not_mem_nil)

structure ListRight (list : MultiSigWalletList) : Prop where
  codes : (list.nodes.map (·.verifyCode)).Nodup
  orders : (list.nodes.map (·.order)).Nodup
  inRange : ∀ item ∈ list.nodes, 0 ≤ item.order ∧ item.order ≤ 4
  length : list.length = list.nodes.length
  capacity : list.nodes.length ≤ 5
  storable : ∀ item ∈ list.nodes, Storable item

theorem listRight_empty : ListRight createMultiSigWalletList where
  codes := List.nodup_nil
  orders := List.nodup_nil
  inRange _ hitem := absurd hitem not_mem_nil
  length := rfl
  capacity := Nat.zero_le 5
  storable _ hitem := absurd hitem not_mem_nil

variable {list : MultiSigWalletList}

theorem findAvailableIndex_free (hroom : list.nodes.length < 5) :
    findAvailableIndex list ≤ 4 ∧ ((findAvailableIndex list : Nat) : Int) ∉ list.nodes.map (·.order) := by
  unfold findAvailableIndex
  cases hfind : (List.range maxMultiSigWalletNumber).find? fun index : Nat =>
      list.nodes.all fun item => item.order != (index : Int) with
  | some index =>
    have hall := List.find?_some hfind
    have hlt : index < 5 := List.mem_range.mp (List.mem_of_find?_eq_some hfind)
    rw [List.all_eq_true] at hall
    refine ⟨Nat.lt_succ_iff.mp hlt, fun hmem => ?_⟩
    obtain ⟨item, hitem, horder⟩ := mem_map.mp hmem
    exact absurd horder (bne_iff_ne.mp (hall item hitem))
  | none =>
    -- five numbers that are all taken take five nodes
    have hsub : (List.range 5).map (fun index : Nat => (index : Int)) ⊆
        list.nodes.map (·.order) := by
      intro k hk
      obtain ⟨index, hindex, rfl⟩ := mem_map.mp hk
      have hnot := Bool.not_eq_true _ ▸ List.find?_eq_none.mp hfind index hindex
      obtain ⟨item, hitem, horder⟩ := List.all_eq_false.mp hnot
      refine mem_map.mpr ⟨item, hitem, ?_⟩
      by_contra hne
      exact horder (bne_iff_ne.mpr hne)
    have hnodup : ((List.range 5).map (fun index : Nat => (index : Int))).Nodup := by decide
    have hle := (List.subperm_of_subset hnodup hsub).length_le
    rw [List.length_map, List.length_map, List.length_range] at hle
    omega

theorem findNode_eq_none {verifyCode : CString}
    (h : findNode verifyCode list = none) : verifyCode ∉ list.nodes.map (·.verifyCode) := by
  intro hmem
  obtain ⟨item, hitem, hcode⟩ := mem_map.mp hmem
  have hnot := List.find?_eq_none.mp h item hitem
  exact hnot (beq_iff_eq.mpr hcode)

theorem insertNode_room (h : ListRight list)
    (hroom : list.nodes.length < 5) (item : MultiSigWalletItem) :
    insertNode item list = ⟨list.nodes ++ [item], list.length + 1⟩ := by
  refine if_neg ?_
  show ¬(5 : Int) ≤ list.length
  rw [h.length]
  omega

/-- **A list with room stays right when a wallet with a new verify code is added.** -/
theorem listRight_insert (h : ListRight list)
    (hroom : list.nodes.length < 5) {wallet : MultiSigWallet}
    (hcode : wallet.verifyCode.length < maxVerifyCodeLength)
    (hnew : findNode wallet.verifyCode list = none) (passphrase : Bool) :
    ListRight (insertNode (walletItem wallet (findAvailableIndex list) passphrase) list) := by
  obtain ⟨hindex, hfree⟩ := findAvailableIndex_free hroom
  have hcopy : (walletItem wallet (findAvailableIndex list) passphrase).verifyCode
      = wallet.verifyCode := if_pos hcode
  rw [insertNode_room h hroom]
  constructor
  · show (List.map MultiSigWalletItem.verifyCode (list.nodes ++ [_])).Nodup
    rw [List.map_append, List.map_singleton, hcopy]
    exact h.codes.append (List.nodup_singleton _)
      (List.disjoint_singleton.mpr (findNode_eq_none hnew))
  · show (List.map MultiSigWalletItem.order (list.nodes ++ [_])).Nodup
    rw [List.map_append, List.map_singleton]
    exact h.orders.append (List.nodup_singleton _) (List.disjoint_singleton.mpr hfree)
  · intro item hitem
    rcases List.mem_append.mp hitem with hitem | hitem
    · exact h.inRange item hitem
    · rw [mem_singleton.mp hitem]
      show 0 ≤ ((findAvailableIndex list : Nat) : Int) ∧ ((findAvailableIndex list : Nat) : Int) ≤ 4
      omega
  · show list.length + 1 = ((list.nodes ++ [_]).length : Int)
    rw [h.length, length_append, List.length_singleton]
    omega
  · show (list.nodes ++ [_]).length ≤ 5
    rw [length_append, List.length_singleton]
    omega
  · intro item hitem
    rcases List.mem_append.mp hitem with hitem | hitem
    · exact h.storable item hitem
    · rw [mem_singleton.mp hitem]
      exact storable_walletItem wallet (Nat.le_succ_of_le hindex) passphrase

theorem deleteNode_sublist (verifyCode : CString) (list : MultiSigWalletList) :
    List.Sublist (deleteNode verifyCode list).2.nodes list.nodes := by
  unfold deleteNode
  cases list.nodes.findIdx? fun item => item.verifyCode == verifyCode with
  | none => exact List.Sublist.refl _
  | some index => exact List.eraseIdx_sublist ..

theorem listRight_delete (h : ListRight list) (verifyCode : CString) :
    ListRight (deleteNode verifyCode list).2 := by
  have hsub := deleteNode_sublist verifyCode list
  constructor
  · exact h.codes.sublist (hsub.map _)
  · exact h.orders.sublist (hsub.map _)
  · exact fun item hitem => h.inRange item (hsub.subset hitem)
  · unfold deleteNode
    cases hfind : list.nodes.findIdx? fun item => item.verifyCode == verifyCode with
    | none => exact h.length
    | some index =>
      have hindex := (List.findIdx?_eq_some_iff_getElem.mp hfind).1
      show list.length - 1 = ((list.nodes.eraseIdx index).length : Int)
      rw [h.length, List.length_eraseIdx_of_lt hindex]
      omega
  · exact Nat.le_trans hsub.length_le h.capacity
  · exact fun item hitem => h.storable item (hsub.subset hitem)

def multisigHashPage (i : AccountIndex) : Nat := accountPage i pageIndexMultisigConfigHash

/-- The flash holds the text of these nodes, and the secure element its hash. -/
structure Saved (env : Env) (i : AccountIndex) (nodes : List MultiSigWalletItem) (d : Device) :
    Prop where
  size : areaSize d i .multiSigData = (printValue (walletsJson nodes)).length
  text : areaText d i .multiSigData = printValue (walletsJson nodes)
  hash : d.page (multisigHashPage i) = env.crypto.sha256 (printValue (walletsJson nodes))

def Fits (nodes : List MultiSigWalletItem) : Prop :=
  (printValue (walletsJson nodes)).length < UserArea.multiSigData.size - 4

instance (nodes : List MultiSigWalletItem) : Decidable (Fits nodes) :=
  inferInstanceAs (Decidable (_ < _))

def sessionView (d : Device) : Option AccountIndex × (AccountIndex → PassphraseInfo) :=
  (d.currentAccountIndex, d.passphraseInfo)

theorem sessionView_onlyArea {i : AccountIndex} {area : UserArea} {d t : Device}
    (h : OnlyArea i area d t) : sessionView t = sessionView d :=
  h.view sessionView fun _ _ _ _ => rfl

section

variable {env : Env} {i : AccountIndex} {nodes : List MultiSigWalletItem}

structure Answers (env : Env) : Prop where
  writes : ∀ w, env.writeReply w = .answered
  reads : ∀ w r, env.readReply w r = .answered

theorem answers_ideal (env : Env) : Answers env.ideal := ⟨fun _ => rfl, fun _ _ => rfl⟩

theorem writeWallets_answered (hw : Answers env)
    (hfits : (printValue (walletsJson nodes)).length ≤ UserArea.multiSigData.size - 4)
    {d : Device} (herased : AreaErased i .multiSigData d) :
    ∃ t, writeWallets env i (printValue (walletsJson nodes)) d = (.ok (), t) ∧
      Saved env i nodes t ∧ sessionView t = sessionView d := by
  obtain ⟨t, hwrite, ht, hsize, htext⟩ := writeSizedText_answered hw.writes hfits herased
  have hset : setMultisigDataHash env i (env.crypto.sha256 (printValue (walletsJson nodes))) t =
      (.ok (), t.countWrite.setPage (multisigHashPage i)
        (env.crypto.sha256 (printValue (walletsJson nodes)))) :=
    @seWrite_answered env (fun d => d.setPage (multisigHashPage i) _) t (hw.writes _)
  have hview : sessionView (t.countWrite.setPage (multisigHashPage i)
      (env.crypto.sha256 (printValue (walletsJson nodes)))) = sessionView t := rfl
  refine ⟨_, (bind_ok hwrite).trans (ignore_ok hset), ?_, hview.trans (sessionView_onlyArea ht)⟩
  exact ⟨hsize, htext, Device.setPage_self _ _ _⟩

theorem saveWallets_answered (hw : Answers env) (hfits : Fits nodes) (d : Device) :
    ∃ t, saveWallets env i nodes d = (.ok (), t) ∧ Saved env i nodes t ∧
      sessionView t = sessionView d := by
  obtain ⟨t, herase, ht, herased⟩ := eraseArea_answered (i := i) hw.writes d
  obtain ⟨u, hwrite, hsaved, hview⟩ := writeWallets_answered hw (Nat.le_of_lt hfits) herased
  have hassert := assert_true (ε := ErrCode) (decide_eq_true hfits) t
  refine ⟨u, ?_, hsaved, hview.trans (sessionView_onlyArea ht)⟩
  exact (bind_ok herase).trans ((bind_ok hassert).trans hwrite)

/-- **One whose text does not fit is lost, and the device stops.** -/
theorem saveWallets_tooLong (hw : Answers env) (hlong : ¬Fits nodes) (d : Device) :
    ∃ t, saveWallets env i nodes d = (.halted, t) ∧ AreaErased i .multiSigData t ∧
      sessionView t = sessionView d := by
  obtain ⟨t, herase, ht, herased⟩ := eraseArea_answered (i := i) hw.writes d
  have hassert := assert_false (ε := ErrCode) (decide_eq_false hlong) t
  refine ⟨t, ?_, herased, sessionView_onlyArea ht⟩
  exact (bind_ok herase).trans (bind_halted hassert)

theorem Saved.present {d : Device} (h : Saved env i nodes d) (hfits : Fits nodes) :
    ¬(areaSize d i .multiSigData = 0xFFFFFFFF ∨ areaSize d i .multiSigData = 0) := by
  have hsize := h.size
  have hlt : (printValue (walletsJson nodes)).length < 0x2000 - 4 := hfits
  rw [printValue_walletsJson, length_append, length_append, List.length_singleton] at hsize hlt
  omega

theorem visible_walletsJson (h : ∀ item ∈ nodes, Storable item) :
    Json.Visible (printValue (walletsJson nodes)) := Json.visible_printValue (printable_walletsJson h)

theorem takeWhile_walletsJson (h : ∀ item ∈ nodes, Storable item) :
    (printValue (walletsJson nodes)).takeWhile (· != 0) = printValue (walletsJson nodes) := by
  refine List.takeWhile_eq_self_iff.mpr fun c hc => bne_iff_ne.mpr ?_
  rintro rfl
  cases visible_walletsJson h 0 hc

theorem checkWallets_answered (hw : Answers env) (hstore : ∀ item ∈ nodes, Storable item)
    {d : Device} (h : Saved env i nodes d) :
    ∃ t, checkWallets env i d = (.ok (printValue (walletsJson nodes)), t) ∧ Saved env i nodes t ∧
      sessionView t = sessionView d := by
  have hread : seHmacEncryptRead env (accountPage i pageIndexMultisigConfigHash) d =
      (.ok (d.page (multisigHashPage i)), d.countRead) := seRead_answered (hw.reads _ _)
  have hgarbage : stackGarbage env d = (.ok (env.stack d.writes d.reads), d) := rfl
  have hverify : verifyMultisigWalletDataHash env i
      (env.crypto.sha256 (printValue (walletsJson nodes))) d = (.ok true, d.countRead) := by
    unfold verifyMultisigWalletDataHash verifyDataHash
    rw [bind_ok hgarbage, bind_ok (attempt_ok hread)]
    dsimp only
    rw [h.hash, beq_self_eq_true]
    rfl
  refine ⟨d.countRead, ?_, ⟨h.size, h.text, h.hash⟩, rfl⟩
  unfold checkWallets
  rw [get_bind, h.text, takeWhile_walletsJson hstore, bind_ok hverify]
  rfl

theorem readWallets_saved (hw : Answers env) (hstore : ∀ item ∈ nodes, Storable item)
    (hfits : Fits nodes) {d : Device} (h : Saved env i nodes d) :
    ∃ t, readWallets env i d = (.ok (printValue (walletsJson nodes)), t) ∧ Saved env i nodes t ∧
      sessionView t = sessionView d := by
  have hensure : ensureWallets env i d = (.ok (), d) := by
    unfold ensureWallets
    rw [get_bind, if_neg (h.present hfits)]
    rfl
  obtain ⟨t, hcheck, hsaved, hview⟩ := checkWallets_answered hw hstore h
  exact ⟨t, (bind_ok hensure).trans hcheck, hsaved, hview⟩

theorem fits_empty : Fits [] := by decide

theorem readWallets_erased (hw : Answers env) {d : Device} (h : AreaErased i .multiSigData d) :
    ∃ t, readWallets env i d = (.ok (printValue (walletsJson [])), t) ∧ Saved env i [] t ∧
      sessionView t = sessionView d := by
  obtain ⟨t, herase, ht, herased⟩ := eraseArea_answered (i := i) hw.writes d
  obtain ⟨u, hwrite, hsaved, hview⟩ :=
    @writeWallets_answered _ _ [] hw (Nat.le_of_lt fits_empty) _ herased
  have hensure : ensureWallets env i d = (.ok (), u) := by
    unfold ensureWallets
    rw [get_bind, if_pos (.inl (areaSize_erased h))]
    exact (bind_ok herase).trans hwrite
  obtain ⟨v, hcheck, hsaved', hview'⟩ :=
    checkWallets_answered hw (fun _ hitem => absurd hitem not_mem_nil) hsaved
  exact ⟨v, (bind_ok hensure).trans hcheck, hsaved',
    hview'.trans (hview.trans (sessionView_onlyArea ht))⟩

end

section

variable {env : Env} {i : AccountIndex} {s : WalletDevice} {list : MultiSigWalletList}

theorem currentAccount_eq (hcur : s.device.currentAccountIndex = some i) :
    currentAccount s = (.ok i, s) := by
  unfold currentAccount
  rw [get_bind, hcur]
  rfl

theorem getList_eq (hlist : s.list = some list) : getList s = (.ok list, s) := by
  unfold getList
  rw [get_bind, hlist]
  rfl

theorem multiSigWalletSave_eq (hlist : s.list = some list)
    (hcur : s.device.currentAccountIndex = some i) :
    multiSigWalletSave env s = onDevice (saveWallets env i list.nodes) s := by
  unfold multiSigWalletSave
  rw [bind_ok (currentAccount_eq hcur), bind_ok (getList_eq hlist)]

theorem multiSigWalletSave_fits (hw : Answers env) (hlist : s.list = some list)
    (hcur : s.device.currentAccountIndex = some i) (hfits : Fits list.nodes) :
    ∃ t, multiSigWalletSave env s = (.ok (), { s with device := t }) ∧
      Saved env i list.nodes t ∧ sessionView t = sessionView s.device := by
  obtain ⟨t, hsave, hsaved, hview⟩ := saveWallets_answered hw hfits s.device
  exact ⟨t, (multiSigWalletSave_eq hlist hcur).trans (onPart_eq hsave), hsaved, hview⟩

theorem multiSigWalletSave_tooLong (hw : Answers env) (hlist : s.list = some list)
    (hcur : s.device.currentAccountIndex = some i) (hlong : ¬Fits list.nodes) :
    ∃ t, multiSigWalletSave env s = (.halted, { s with device := t }) ∧
      AreaErased i .multiSigData t ∧ sessionView t = sessionView s.device := by
  obtain ⟨t, hsave, herased, hview⟩ := saveWallets_tooLong hw hlong s.device
  exact ⟨t, (multiSigWalletSave_eq hlist hcur).trans (onPart_eq hsave), herased, hview⟩

def savedWallets (d : Device) (i : AccountIndex) : List Item :=
  ((walletsOfText (areaText d i .multiSigData)).map Item.elements).getD []

theorem walletsOfText_walletsJson {nodes : List MultiSigWalletItem}
    (hstore : ∀ item ∈ nodes, Storable item) :
    walletsOfText (printValue (walletsJson nodes)) =
      some (.array (nodes.map appendWalletItemToJson)) := by
  unfold walletsOfText
  rw [Json.parse_printValue (printable_walletsJson hstore)]
  rfl

theorem savedWallets_eq {nodes : List MultiSigWalletItem} {d : Device} (h : Saved env i nodes d)
    (hstore : ∀ item ∈ nodes, Storable item) :
    savedWallets d i = nodes.map appendWalletItemToJson := by
  unfold savedWallets
  rw [h.text, walletsOfText_walletsJson hstore]
  rfl

theorem load_of_read {nodes : List MultiSigWalletItem} {t : Device}
    (hcur : s.device.currentAccountIndex = some i)
    (hread : readWallets env i s.device = (.ok (printValue (walletsJson nodes)), t))
    (hstore : ∀ item ∈ nodes, Storable item) (hcap : nodes.length ≤ 5) :
    loadCurrentAccountMultisigWallet env s = (.ok (), ⟨t, some ⟨nodes, nodes.length⟩⟩) := by
  have hnew : (setList createMultiSigWalletList : Manager Unit) s =
      (.ok (), { s with list := some createMultiSigWalletList }) := rfl
  have hcur' : currentAccount { s with list := some createMultiSigWalletList } =
      (.ok i, { s with list := some createMultiSigWalletList }) := currentAccount_eq hcur
  have hread' : onDevice (readWallets env i) { s with list := some createMultiSigWalletList } =
      (.ok (printValue (walletsJson nodes)), ⟨t, some createMultiSigWalletList⟩) := onPart_eq hread
  have hlist : getList ⟨t, some createMultiSigWalletList⟩ =
      (.ok createMultiSigWalletList, ⟨t, some createMultiSigWalletList⟩) := rfl
  unfold loadCurrentAccountMultisigWallet
  rw [bind_ok hnew, bind_ok hcur']
  unfold multiSigWalletGet
  rw [bind_ok hread', bind_ok hlist, walletsOfText_walletsJson hstore]
  show insertAll (.array (nodes.map appendWalletItemToJson)) createMultiSigWalletList _ = _
  unfold insertAll
  rw [Item.elements_array, insertWallets_walletsJson hstore hcap]
  rfl

end

inductive WalletOp where
  | add (wallet : MultiSigWallet)
  | delete (verifyCode : CString)
  | save
  | reload

def WalletOp.prog (env : Env) : WalletOp → Manager Unit
  | .add wallet => do
    let _ ← addMultisigWalletToCurrentAccount env wallet
  | .delete verifyCode => do
    let _ ← deleteMultisigWalletByVerifyCode env verifyCode
  | .save => multiSigWalletSave env
  | .reload => loadCurrentAccountMultisigWallet env

structure WalletRun where
  state : WalletDevice
  stopped : Bool

def walletStep (env : Env) (op : WalletOp) (r : WalletRun) : WalletRun :=
  if r.stopped then r
  else ⟨(op.prog env r.state).2, (op.prog env r.state).1 == .halted⟩

/-- What a run has brought about: the list is right and the flash holds it. -/
structure WalletsRight (env : Env) (i : AccountIndex) (r : WalletRun) : Prop where
  running : r.stopped = false
  current : r.state.device.currentAccountIndex = some i
  list : ∃ list, r.state.list = some list ∧ ListRight list ∧ Fits list.nodes ∧
    Saved env i list.nodes r.state.device

def nodesWith (wallet : MultiSigWallet) (passphrase : Bool) (list : MultiSigWalletList) :
    List MultiSigWalletItem :=
  list.nodes ++ [walletItem wallet (findAvailableIndex list) passphrase]

/-- A wallet is in the list already, or there is room for it everywhere. -/
def AddGoesThrough (i : AccountIndex) (wallet : MultiSigWallet) (s : WalletDevice) : Prop :=
  ∀ list, s.list = some list → findNode wallet.verifyCode list = none →
    list.nodes.length < maxMultiSigWalletNumber ∧
    Fits (nodesWith wallet (!(s.device.passphraseInfo i).passphrase.isEmpty) list) ∧
    wallet.verifyCode.length < maxVerifyCodeLength ∧ (s.device.passphraseInfo i).Agrees

def WalletOp.GoesThrough (i : AccountIndex) : WalletOp → WalletRun → Prop
  | .add wallet, r => AddGoesThrough i wallet r.state
  | _, _ => True

section

variable {env : Env} {i : AccountIndex} {r : WalletRun}

theorem walletStep_returned {op : WalletOp} {s : WalletDevice} (hrun : r.stopped = false)
    (h : op.prog env r.state = (.ok (), s)) : walletStep env op r = ⟨s, false⟩ := by
  unfold walletStep
  rw [hrun, h]
  rfl

theorem current_of_view {d t : Device} (h : sessionView t = sessionView d)
    (hcur : d.currentAccountIndex = some i) : t.currentAccountIndex = some i :=
  (congrArg Prod.fst h).trans hcur

def hasPassphrase (i : AccountIndex) (s : WalletDevice) : Bool :=
  !(s.device.passphraseInfo i).passphrase.isEmpty

theorem add_new {s : WalletDevice} {list : MultiSigWalletList} {wallet : MultiSigWallet}
    (hlist : s.list = some list) (hcur : s.device.currentAccountIndex = some i)
    (hright : ListRight list) (hroom : list.nodes.length < 5)
    (hfind : findNode wallet.verifyCode list = none)
    (hagrees : (s.device.passphraseInfo i).Agrees) :
    addMultisigWalletToCurrentAccount env wallet s = (do
      multiSigWalletSave env
      return walletItem wallet (findAvailableIndex list) (hasPassphrase i s) :
        Manager MultiSigWalletItem)
      { s with list := some ⟨nodesWith wallet (hasPassphrase i s) list, list.length + 1⟩ } := by
  have hpass : onDevice (passphraseExist i) s = (.ok (hasPassphrase i s), s) :=
    onPart_eq (passphraseExist_agrees hagrees)
  have hinsert : insertNode (walletItem wallet (findAvailableIndex list) (hasPassphrase i s)) list
      = ⟨nodesWith wallet (hasPassphrase i s) list, list.length + 1⟩ :=
    insertNode_room hright hroom _
  unfold addMultisigWalletToCurrentAccount
  rw [bind_ok (getList_eq hlist), hfind]
  dsimp only
  rw [bind_ok (currentAccount_eq hcur), bind_ok hpass, hinsert]
  exact bind_ok (modify_apply _ _)

theorem add_right (hw : Answers env) (h : WalletsRight env i r) {wallet : MultiSigWallet}
    (hthrough : AddGoesThrough i wallet r.state) :
    ∃ item s, addMultisigWalletToCurrentAccount env wallet r.state = (.ok item, s) ∧
      WalletsRight env i ⟨s, false⟩ ∧ (∃ list, s.list = some list ∧ item ∈ list.nodes) ∧
      appendWalletItemToJson item ∈ savedWallets s.device i := by
  obtain ⟨list, hlist, hright, hfits, hsaved⟩ := h.list
  cases hfind : findNode wallet.verifyCode list with
  | some item =>
    have hmem : item ∈ list.nodes := List.mem_of_find?_eq_some hfind
    refine ⟨item, r.state, ?_, ⟨rfl, h.current, list, hlist, hright, hfits, hsaved⟩,
      ⟨list, hlist, hmem⟩, ?_⟩
    · unfold addMultisigWalletToCurrentAccount
      rw [bind_ok (getList_eq hlist), hfind]
      rfl
    · rw [savedWallets_eq hsaved hright.storable]
      exact List.mem_map_of_mem hmem
  | none =>
    obtain ⟨hroom, hfits', hcode, hagrees⟩ := hthrough list hlist hfind
    have hnext := listRight_insert hright hroom hcode hfind (hasPassphrase i r.state)
    rw [insertNode_room hright hroom] at hnext
    obtain ⟨t, hsave, hsaved', hview⟩ := multiSigWalletSave_fits (s := { r.state with
      list := some ⟨nodesWith wallet (hasPassphrase i r.state) list, list.length + 1⟩ })
      hw rfl h.current hfits'
    have hmem : walletItem wallet (findAvailableIndex list) (hasPassphrase i r.state) ∈
        nodesWith wallet (hasPassphrase i r.state) list :=
      List.mem_append_right _ (mem_singleton.mpr rfl)
    refine ⟨_, _, (add_new hlist h.current hright hroom hfind hagrees).trans (bind_ok hsave),
      ⟨rfl, current_of_view hview h.current, _, rfl, hnext, hfits', hsaved'⟩, ⟨_, rfl, hmem⟩, ?_⟩
    rw [savedWallets_eq hsaved' hnext.storable]
    exact List.mem_map_of_mem hmem

theorem save_right (hw : Answers env) (h : WalletsRight env i r) :
    ∃ s, multiSigWalletSave env r.state = (.ok (), s) ∧ WalletsRight env i ⟨s, false⟩ := by
  obtain ⟨list, hlist, hright, hfits, hsaved⟩ := h.list
  obtain ⟨t, hsave, hsaved', hview⟩ := multiSigWalletSave_fits hw hlist h.current hfits
  exact ⟨_, hsave, rfl, current_of_view hview h.current, list, hlist, hright, hfits, hsaved'⟩

theorem delete_right (hw : Answers env) (h : WalletsRight env i r) (verifyCode : CString) :
    ∃ index s, deleteMultisigWalletByVerifyCode env verifyCode r.state = (.ok index, s) ∧
      WalletsRight env i ⟨s, false⟩ := by
  obtain ⟨list, hlist, hright, hfits, hsaved⟩ := h.list
  have hfits' : Fits (deleteNode verifyCode list).2.nodes :=
    Nat.lt_of_le_of_lt (length_walletsJson_le (deleteNode_sublist verifyCode list)) hfits
  obtain ⟨t, hsave, hsaved', hview⟩ := multiSigWalletSave_fits (s := { r.state with
    list := some (deleteNode verifyCode list).2 }) hw rfl h.current hfits'
  refine ⟨(deleteNode verifyCode list).1, ⟨t, some (deleteNode verifyCode list).2⟩, ?_, rfl,
    current_of_view hview h.current, _, rfl,
    listRight_delete hright verifyCode, hfits', hsaved'⟩
  unfold deleteMultisigWalletByVerifyCode
  rw [bind_ok (getList_eq hlist)]
  exact (bind_ok (modify_apply _ _)).trans (bind_ok hsave)

theorem reload_right (hw : Answers env) (h : WalletsRight env i r) :
    ∃ s, loadCurrentAccountMultisigWallet env r.state = (.ok (), s) ∧ s.list = r.state.list ∧
      WalletsRight env i ⟨s, false⟩ := by
  obtain ⟨list, hlist, hright, hfits, hsaved⟩ := h.list
  obtain ⟨t, hread, hsaved', hview⟩ := readWallets_saved hw hright.storable hfits hsaved
  have hload := load_of_read h.current hread hright.storable hright.capacity
  rw [← hright.length] at hload
  exact ⟨_, hload, hlist.symm, rfl, current_of_view hview h.current, list, rfl, hright, hfits,
    hsaved'⟩

theorem reload_fresh (hw : Answers env) {s : WalletDevice}
    (hcur : s.device.currentAccountIndex = some i) (herased : AreaErased i .multiSigData s.device) :
    ∃ t, loadCurrentAccountMultisigWallet env s = (.ok (), ⟨t, some createMultiSigWalletList⟩) ∧
      Saved env i [] t ∧ sessionView t = sessionView s.device := by
  obtain ⟨t, hread, hsaved, hview⟩ := readWallets_erased hw herased
  exact ⟨t, load_of_read hcur hread listRight_empty.storable (Nat.zero_le 5), hsaved, hview⟩

theorem step_right (hw : Answers env) (op : WalletOp) (r : WalletRun)
    (hthrough : op.GoesThrough i r) (h : WalletsRight env i r) :
    WalletsRight env i (walletStep env op r) := by
  cases op with
  | add wallet =>
    obtain ⟨item, s, hrun, hright, -, -⟩ := add_right hw h hthrough
    rw [walletStep_returned h.running (bind_ok hrun)]
    exact hright
  | delete verifyCode =>
    obtain ⟨index, s, hrun, hright⟩ := delete_right hw h verifyCode
    rw [walletStep_returned h.running (bind_ok hrun)]
    exact hright
  | save =>
    obtain ⟨s, hrun, hright⟩ := save_right hw h
    rw [walletStep_returned h.running (show WalletOp.save.prog env r.state = _ from hrun)]
    exact hright
  | reload =>
    obtain ⟨s, hrun, -, hright⟩ := reload_right hw h
    rw [walletStep_returned h.running (show WalletOp.reload.prog env r.state = _ from hrun)]
    exact hright

end

/-- The list after a run is in order, and a reload gives the same one. -/
structure ListKept (env : Env) (r : WalletRun) (list : MultiSigWalletList) : Prop where
  here : r.state.list = some list
  codes : (list.nodes.map (·.verifyCode)).Nodup
  orders : (list.nodes.map (·.order)).Nodup
  inRange : ∀ item ∈ list.nodes, 0 ≤ item.order ∧ item.order ≤ 4
  length : list.length = list.nodes.length
  capacity : list.nodes.length ≤ 5
  reload : ∃ s, loadCurrentAccountMultisigWallet env r.state = (.ok (), s) ∧ s.list = some list

/-- An addition that is reported as successful has put its item into the list and into the
saved text. -/
def AdditionKept (env : Env) (i : AccountIndex) (wallet : MultiSigWallet) (r : WalletRun) : Prop :=
  ∀ item s, addMultisigWalletToCurrentAccount env wallet r.state = (.ok item, s) →
    (∃ list, s.list = some list ∧ item ∈ list.nodes) ∧
      appendWalletItemToJson item ∈ savedWallets s.device i

section

variable {env : Env} {i : AccountIndex} {r : WalletRun}

theorem listKept_of_right (hw : Answers env) (h : WalletsRight env i r) :
    ∃ list, ListKept env r list := by
  obtain ⟨list, hlist, hright, -, -⟩ := h.list
  obtain ⟨s, hload, hsame, -⟩ := reload_right hw h
  exact ⟨list, hlist, hright.codes, hright.orders, hright.inRange, hright.length, hright.capacity,
    s, hload, hsame.trans hlist⟩

theorem additionKept_of_right (hw : Answers env) (h : WalletsRight env i r)
    {wallet : MultiSigWallet} (hthrough : AddGoesThrough i wallet r.state) :
    AdditionKept env i wallet r := by
  intro item s hrun
  obtain ⟨item', s', hrun', -, hmem, hsaved⟩ := add_right hw h hthrough
  rw [hrun'] at hrun
  cases hrun
  exact ⟨hmem, hsaved⟩

theorem right_of_through {s : WalletDevice} (hw : Answers env)
    (hcur : s.device.currentAccountIndex = some i) (herased : AreaErased i .multiSigData s.device)
    {ops : List WalletOp}
    (hthrough : AllSteps (walletStep env) (WalletOp.GoesThrough i) (.reload :: ops) ⟨s, false⟩) :
    WalletsRight env i (runSteps (walletStep env) (.reload :: ops) ⟨s, false⟩) := by
  obtain ⟨t, hload, hsaved, hview⟩ := reload_fresh hw hcur herased
  have hfirst : walletStep env .reload ⟨s, false⟩ = ⟨⟨t, some createMultiSigWalletList⟩, false⟩ :=
    walletStep_returned rfl (show WalletOp.reload.prog env s = _ from hload)
  have hright : WalletsRight env i ⟨⟨t, some createMultiSigWalletList⟩, false⟩ :=
    ⟨rfl, current_of_view hview hcur, _, rfl, listRight_empty, fits_empty, hsaved⟩
  have hrest := hthrough.2
  rw [hfirst] at hrest
  show WalletsRight env i (runSteps (walletStep env) ops (walletStep env .reload ⟨s, false⟩))
  rw [hfirst]
  exact runSteps_inv_of (step_right hw) ops _ hrest hright

end

def longWallet (code : UInt8) (hcode : code ≠ 0) : MultiSigWallet where
  name := []
  network := 0
  verifyCode := [code]
  verifyWithoutMfp := []
  format := []
  configText := List.replicate 2047 65
  terminated := by
    intro text htext
    simp only [List.mem_cons, not_mem_nil, or_false] at htext
    rcases htext with rfl | rfl | rfl | rfl | rfl
    · exact not_mem_nil
    · exact fun hzero => hcode (mem_singleton.mp hzero).symm
    · exact not_mem_nil
    · exact not_mem_nil
    · exact fun hzero => absurd (List.eq_of_mem_replicate hzero) (by decide)

def shortWallet : MultiSigWallet where
  name := [65]
  network := 0
  verifyCode := [66]
  verifyWithoutMfp := [67]
  format := [68]
  configText := [69]
  terminated := by decide

def twoLongItems : List MultiSigWalletItem :=
  [] ++ [walletItem (longWallet 65 (by decide)) 0 false] ++
    [walletItem (longWallet 66 (by decide)) 1 false]

def threeLongItems : List MultiSigWalletItem :=
  twoLongItems ++ [walletItem (longWallet 67 (by decide)) 2 false]

theorem fits_threeLongItems : Fits threeLongItems ∧
    ¬Fits (threeLongItems ++ [walletItem (longWallet 68 (by decide)) 3 false]) := by
  decide +kernel

/-- A run has come to a list with these nodes, on an account without a passphrase. -/
structure Holding (env : Env) (i : AccountIndex) (nodes : List MultiSigWalletItem) (r : WalletRun) :
    Prop where
  running : r.stopped = false
  current : r.state.device.currentAccountIndex = some i
  list : r.state.list = some ⟨nodes, nodes.length⟩
  right : ListRight ⟨nodes, nodes.length⟩
  fits : Fits nodes
  saved : Saved env i nodes r.state.device
  passphrase : r.state.device.passphraseInfo i = PassphraseInfo.cleared

section

variable {env : Env} {i : AccountIndex} {nodes : List MultiSigWalletItem} {r : WalletRun}

theorem Holding.add_new (h : Holding env i nodes r) {wallet : MultiSigWallet} {order : Nat}
    (hroom : nodes.length < 5) (hfind : findNode wallet.verifyCode ⟨nodes, nodes.length⟩ = none)
    (horder : findAvailableIndex ⟨nodes, nodes.length⟩ = order) :
    addMultisigWalletToCurrentAccount env wallet r.state = (do
      multiSigWalletSave env
      return walletItem wallet order false : Manager MultiSigWalletItem)
      { r.state with list := some ⟨nodes ++ [walletItem wallet order false],
                                    (nodes ++ [walletItem wallet order false]).length⟩ } := by
  have hpass : hasPassphrase i r.state = false := by
    unfold hasPassphrase
    rw [h.passphrase]
    rfl
  have hagrees : (r.state.device.passphraseInfo i).Agrees := by
    rw [h.passphrase]
    exact PassphraseInfo.agrees_cleared
  have hlength : ((nodes ++ [walletItem wallet order false]).length : Int) = nodes.length + 1 := by
    rw [length_append]
    rfl
  have hadd := @Multisig.add_new env _ _ _ _ h.list h.current h.right hroom hfind hagrees
  rw [hpass] at hadd
  unfold nodesWith at hadd
  rw [horder] at hadd
  rw [hadd, hlength]

theorem Holding.add (hw : Answers env) (h : Holding env i nodes r) (wallet : MultiSigWallet)
    (order : Nat) (hroom : nodes.length < 5)
    (hfind : findNode wallet.verifyCode ⟨nodes, nodes.length⟩ = none)
    (horder : findAvailableIndex ⟨nodes, nodes.length⟩ = order)
    (hcode : wallet.verifyCode.length < maxVerifyCodeLength)
    (hfits : Fits (nodes ++ [walletItem wallet order false])) :
    Holding env i (nodes ++ [walletItem wallet order false]) (walletStep env (.add wallet) r) := by
  have hnext := listRight_insert h.right hroom hcode hfind false
  have hlength : ((nodes ++ [walletItem wallet order false]).length : Int) = nodes.length + 1 := by
    rw [length_append]
    rfl
  rw [insertNode_room h.right hroom, horder] at hnext
  obtain ⟨t, hsave, hsaved, hview⟩ := multiSigWalletSave_fits (s := { r.state with
    list := some ⟨nodes ++ [walletItem wallet order false],
                  (nodes ++ [walletItem wallet order false]).length⟩ }) hw rfl h.current hfits
  have hrun : (WalletOp.add wallet).prog env r.state = (.ok (), _) :=
    bind_ok ((h.add_new hroom hfind horder).trans (bind_ok hsave))
  rw [walletStep_returned h.running hrun]
  refine ⟨rfl, current_of_view hview h.current, rfl, ?_, hfits, hsaved, ?_⟩
  · rw [hlength]
    exact hnext
  · exact (congrFun (congrArg Prod.snd hview) i).trans h.passphrase

theorem Holding.add_tooLong (hw : Answers env) (h : Holding env i nodes r)
    {wallet : MultiSigWallet} {order : Nat} (hroom : nodes.length < 5)
    (hfind : findNode wallet.verifyCode ⟨nodes, nodes.length⟩ = none)
    (horder : findAvailableIndex ⟨nodes, nodes.length⟩ = order)
    (hlong : ¬Fits (nodes ++ [walletItem wallet order false])) (list : MultiSigWalletList) :
    ¬ListKept env (walletStep env (.add wallet) r) list := by
  obtain ⟨t, hsave, herased, hview⟩ := multiSigWalletSave_tooLong (s := { r.state with
    list := some ⟨nodes ++ [walletItem wallet order false],
                  (nodes ++ [walletItem wallet order false]).length⟩ }) hw rfl h.current hlong
  have hrun : (WalletOp.add wallet).prog env r.state = (.halted, _) :=
    bind_halted ((h.add_new hroom hfind horder).trans (bind_halted hsave))
  have hstep : walletStep env (.add wallet) r = ⟨⟨t, some ⟨nodes ++ [walletItem wallet order false],
      (nodes ++ [walletItem wallet order false]).length⟩⟩, true⟩ := by
    unfold walletStep
    rw [h.running, hrun]
    rfl
  intro hkept
  rw [hstep] at hkept
  obtain ⟨u, hload, -, -⟩ := reload_fresh (s := ⟨t, some ⟨nodes ++ [walletItem wallet order false],
    (nodes ++ [walletItem wallet order false]).length⟩⟩) hw (current_of_view hview h.current) herased
  obtain ⟨v, hload', hsame⟩ := hkept.reload
  -- the list is not empty, and the reload has made it so
  have hhere := hkept.here
  rw [hload] at hload'
  cases hload'
  rw [← hsame] at hhere
  have hnodes := congrArg MultiSigWalletList.nodes (Option.some.inj hhere)
  exact absurd hnodes (List.append_ne_nil_of_right_ne_nil nodes (List.cons_ne_nil _ _))

end

def newAccount : WalletDevice := ⟨{ Device.blank with currentAccountIndex := some 0 }, none⟩

def threeLongConfigs : List WalletOp :=
  [.reload, .add (longWallet 65 (by decide)), .add (longWallet 66 (by decide)),
    .add (longWallet 67 (by decide))]

theorem Fits.sublist {nodes nodes' : List MultiSigWalletItem} (h : Fits nodes)
    (hsub : List.Sublist nodes' nodes) : Fits nodes' :=
  Nat.lt_of_le_of_lt (length_walletsJson_le hsub) h

theorem holding_reload {env : Env} {i : AccountIndex} {s : WalletDevice} (hw : Answers env)
    (hcur : s.device.currentAccountIndex = some i) (herased : AreaErased i .multiSigData s.device)
    (hpass : s.device.passphraseInfo i = PassphraseInfo.cleared) :
    Holding env i [] (walletStep env .reload ⟨s, false⟩) := by
  obtain ⟨t, hload, hsaved, hview⟩ := reload_fresh hw hcur herased
  rw [walletStep_returned rfl (show WalletOp.reload.prog env s = _ from hload)]
  exact ⟨rfl, current_of_view hview hcur, rfl, listRight_empty, fits_empty, hsaved,
    (congrFun (congrArg Prod.snd hview) i).trans hpass⟩

theorem holding_threeLongConfigs : Holding Env.sample.ideal 0 threeLongItems
    (runSteps (walletStep Env.sample.ideal) threeLongConfigs ⟨newAccount, false⟩) := by
  have hw := answers_ideal Env.sample
  have hfits2 : Fits twoLongItems := fits_threeLongItems.1.sublist (List.sublist_append_left ..)
  have hfits1 := hfits2.sublist (List.sublist_append_left ..)
  have h0 := holding_reload (s := newAccount) hw rfl (fun _ _ => rfl) rfl
  have h1 := h0.add hw (longWallet 65 (by decide)) 0 (by decide) (by decide)
    (by decide) (by decide) hfits1
  have h2 := h1.add hw (longWallet 66 (by decide)) 1 (by decide) (by decide)
    (by decide) (by decide) hfits2
  rw [threeLongConfigs, runSteps, runSteps, runSteps, runSteps, runSteps]
  exact h2.add hw (longWallet 67 (by decide)) 2 (by decide)
    (by decide) (by decide) (by decide) fits_threeLongItems.1

/-- **The fourth long configuration loses the wallets of the account.** -/
theorem fourLongConfigs_lost :
    newAccount.device.currentAccountIndex = some 0 ∧ AreaErased 0 .multiSigData newAccount.device ∧
    ¬∃ list, ListKept Env.sample.ideal
      (runSteps (walletStep Env.sample.ideal)
        (threeLongConfigs ++ [.add (longWallet 68 (by decide))]) ⟨newAccount, false⟩) list := by
  refine ⟨rfl, fun _ _ => rfl, ?_⟩
  intro ⟨list, hkept⟩
  rw [runSteps_append, runSteps, runSteps] at hkept
  exact holding_threeLongConfigs.add_tooLong (answers_ideal Env.sample) (by decide)
    (by decide) (by decide) fits_threeLongItems.2 list hkept

/-- **Where the additions go through, the list stays in order, a reload gives the same list,
and every addition that is reported as successful is in the list and in the saved text.** -/
theorem wallets_right (env : Env) (i : AccountIndex) (s : WalletDevice) (ops : List WalletOp)
    (hcur : s.device.currentAccountIndex = some i) (herased : AreaErased i .multiSigData s.device)
    (hthrough : AllSteps (walletStep env.ideal) (WalletOp.GoesThrough i) (.reload :: ops)
      ⟨s, false⟩) :
    (∃ list, ListKept env.ideal
      (runSteps (walletStep env.ideal) (.reload :: ops) ⟨s, false⟩) list) ∧
    ∀ wallet,
      AddGoesThrough i wallet (runSteps (walletStep env.ideal) (.reload :: ops) ⟨s, false⟩).state →
      AdditionKept env.ideal i wallet
        (runSteps (walletStep env.ideal) (.reload :: ops) ⟨s, false⟩) := by
  have hright := right_of_through (answers_ideal env) hcur herased hthrough
  refine ⟨listKept_of_right (answers_ideal env) hright, ?_⟩
  intro wallet hadd
  exact additionKept_of_right (answers_ideal env) hright hadd

set_option maxRecDepth 16384 in
/-- A first wallet with a short configuration is added. -/
theorem wallets_right_firstWallet :
    (∃ list, ListKept Env.sample.ideal (runSteps (walletStep Env.sample.ideal)
      [.reload, .add shortWallet] ⟨newAccount, false⟩) list) ∧
    ∀ wallet,
      AddGoesThrough 0 wallet (runSteps (walletStep Env.sample.ideal)
        [.reload, .add shortWallet] ⟨newAccount, false⟩).state →
      AdditionKept Env.sample.ideal 0 wallet
        (runSteps (walletStep Env.sample.ideal) [.reload, .add shortWallet]
          ⟨newAccount, false⟩) := by
  refine wallets_right Env.sample 0 newAccount [.add shortWallet] rfl (fun _ _ => rfl)
    ⟨trivial, ?_, trivial⟩
  obtain ⟨t, hload, -, hview⟩ := reload_fresh (i := 0) (s := newAccount) (answers_ideal Env.sample)
    rfl fun _ _ => rfl
  have hrun : WalletOp.reload.prog Env.sample.ideal newAccount = _ := hload
  have hpass : t.passphraseInfo 0 = PassphraseInfo.cleared := congrFun (congrArg Prod.snd hview) 0
  rw [walletStep_returned rfl hrun]
  intro list hlist _
  cases hlist
  refine ⟨by decide, ?_, by decide, ?_⟩
  · rw [hpass]
    decide
  · rw [hpass]
    exact PassphraseInfo.agrees_cleared

end Keystone3.Multisig
