import Keystone3.Multisig.WalletList

/-!
# The text of a wallet list reads back

An item goes into the JSON text and comes back as it was, as long as its texts are C
strings shorter than the cache `MultiSigWalletGet` reads them into, and its numbers fit
in an `int` (`Storable`). Inserting the items of a text of at most five one after the
other gives the list back, with its length (`insertWallets_walletsJson`).
-/

namespace Keystone3.Multisig

open Json (Item Text Printable ascii printValue printElements)

def StorableText (text : CString) : Prop := 0 ∉ text ∧ text.length < multiSigStrCacheLength

/-- A number that `valueint` gives back. -/
def StorableNumber (value : Int) : Prop := Item.intMin ≤ value ∧ value ≤ Item.intMax

structure Storable (item : MultiSigWalletItem) : Prop where
  order : StorableNumber item.order
  network : StorableNumber item.network
  name : StorableText item.name
  verifyCode : StorableText item.verifyCode
  verifyWithoutMfp : StorableText item.verifyWithoutMfp
  walletConfig : StorableText item.walletConfig
  format : StorableText item.format

theorem storableText_strcpyS {dmax : Nat} (hmax : dmax ≤ multiSigStrCacheLength) (hpos : 0 < dmax)
    {src : CString} (h : 0 ∉ src) : StorableText (strcpyS dmax src) := by
  unfold strcpyS
  by_cases hfits : src.length < dmax
  · rw [if_pos hfits]
    exact ⟨h, Nat.lt_of_lt_of_le hfits hmax⟩
  · rw [if_neg hfits]
    exact ⟨List.not_mem_nil, Nat.lt_of_lt_of_le hpos hmax⟩

theorem storable_walletItem (wallet : MultiSigWallet) {order : Nat}
    (horder : order ≤ maxMultiSigWalletNumber) (passphrase : Bool) :
    Storable (walletItem wallet order passphrase) where
  order := by
    have h : order ≤ 5 := horder
    show Item.intMin ≤ (order : Int) ∧ (order : Int) ≤ Item.intMax
    unfold Item.intMin Item.intMax
    omega
  network := ⟨wallet.network.toInt32.le_toInt, wallet.network.toInt32.toInt_le⟩
  name := storableText_strcpyS (by decide) (by decide) (wallet.terminated _ (by simp))
  verifyCode := storableText_strcpyS (by decide) (by decide) (wallet.terminated _ (by simp))
  verifyWithoutMfp := storableText_strcpyS (by decide) (by decide) (wallet.terminated _ (by simp))
  walletConfig := storableText_strcpyS (by decide) (by decide) (wallet.terminated _ (by simp))
  format := storableText_strcpyS (by decide) (by decide) (wallet.terminated _ (by simp))

theorem getStringValue_found {obj : Item} (key : CString) {text : CString}
    (hfound : obj.getObjectItem key = some (.string text)) (h : StorableText text) :
    getStringValue obj key multiSigStrCacheLength = text := by
  unfold getStringValue
  rw [hfound]
  exact if_pos h.2

/-- **An item comes back from its place in the document.** -/
theorem walletItemOfJson_append {item : MultiSigWalletItem} (h : Storable item) :
    walletItemOfJson (appendWalletItemToJson item) = some item := by
  have horder : (appendWalletItemToJson item).getObjectItem (ascii "order")
      = some (.number item.order) := rfl
  have hnetwork : (appendWalletItemToJson item).getObjectItem (ascii "network")
      = some (.number item.network) := rfl
  have hpass : (appendWalletItemToJson item).getObjectItem (ascii "passphrase")
      = some (.bool item.passphrase) := rfl
  have hflag : ((Item.bool item.passphrase).valueInt != 0) = item.passphrase := by
    cases item.passphrase <;> rfl
  unfold walletItemOfJson
  rw [horder, hnetwork]
  show some _ = some item
  congr 1
  rw [hpass]
  dsimp only
  rw [hflag, Item.valueInt_number h.order.1 h.order.2,
    Item.valueInt_number h.network.1 h.network.2,
    getStringValue_found (ascii "name") rfl h.name,
    getStringValue_found (ascii "verify_code") rfl h.verifyCode,
    getStringValue_found (ascii "verify_without_mfp") rfl h.verifyWithoutMfp,
    getStringValue_found (ascii "wallet_config") rfl h.walletConfig,
    getStringValue_found (ascii "format") rfl h.format]

theorem printable_string_of {n : Nat} {text : CString} (h : StorableText text) :
    Printable n (.string text) := (Json.printable_string n text).mpr h.1

theorem printable_number_of {n : Nat} {value : Int} (h : StorableNumber value) :
    Printable n (.number value) := by
  rw [Json.printable_number]
  have hlo : -2147483648 ≤ value := h.1
  have hhi : value ≤ 2147483647 := h.2
  omega

theorem printable_append {item : MultiSigWalletItem} (h : Storable item) :
    Printable 1 (appendWalletItemToJson item) := by
  intro m hm
  simp only [List.mem_cons, List.not_mem_nil, or_false] at hm
  rcases hm with rfl | rfl | rfl | rfl | rfl | rfl | rfl | rfl
  · exact ⟨show 0 ∉ ascii "order" by decide, printable_number_of h.order⟩
  · exact ⟨show 0 ∉ ascii "name" by decide, printable_string_of h.name⟩
  · exact ⟨show 0 ∉ ascii "verify_code" by decide, printable_string_of h.verifyCode⟩
  · exact ⟨show 0 ∉ ascii "verify_without_mfp" by decide, printable_string_of h.verifyWithoutMfp⟩
  · exact ⟨show 0 ∉ ascii "network" by decide, printable_number_of h.network⟩
  · exact ⟨show 0 ∉ ascii "wallet_config" by decide, printable_string_of h.walletConfig⟩
  · exact ⟨show 0 ∉ ascii "format" by decide, printable_string_of h.format⟩
  · exact ⟨show 0 ∉ ascii "passphrase" by decide, Json.printable_bool 0 item.passphrase⟩

theorem printable_walletsJson {nodes : List MultiSigWalletItem} (h : ∀ item ∈ nodes, Storable item) :
    Printable Json.nestingLimit (walletsJson nodes) := by
  have hthree : Printable 3 (walletsJson nodes) := by
    intro m hm
    simp only [List.mem_cons, List.not_mem_nil, or_false] at hm
    rcases hm with rfl | rfl
    · exact ⟨by decide, (Json.printable_string 2 _).mpr (by decide)⟩
    · refine ⟨show 0 ∉ ascii "multi_sig_wallet_list" by decide, fun json hjson => ?_⟩
      obtain ⟨item, hitem, rfl⟩ := List.mem_map.mp hjson
      exact printable_append (h item hitem)
  exact hthree.mono (by decide)

theorem insertWallets_append {nodes : List MultiSigWalletItem} (h : ∀ item ∈ nodes, Storable item) :
    ∀ list : MultiSigWalletList, list.length + nodes.length ≤ 5 →
      insertWallets (nodes.map appendWalletItemToJson) list =
        some ⟨list.nodes ++ nodes, list.length + nodes.length⟩ := by
  induction nodes with
  | nil =>
    intro list _
    show some list = _
    rw [List.append_nil, List.length_nil]
    exact congrArg some (by cases list; simp)
  | cons item nodes ih =>
    intro list hroom
    rw [List.length_cons] at hroom
    have hroom' : ¬(maxMultiSigWalletNumber : Int) ≤ list.length := by
      show ¬(5 : Int) ≤ list.length
      omega
    have hitem := walletItemOfJson_append (h item (.head _))
    have hnext := ih (fun i hi => h i (.tail _ hi)) (insertNode item list) (by
      unfold insertNode
      rw [if_neg hroom']
      dsimp only
      omega)
    rw [List.map_cons]
    unfold insertWallets
    rw [hitem]
    show insertWallets _ (insertNode item list) = _
    rw [hnext]
    unfold insertNode
    rw [if_neg hroom']
    dsimp only
    rw [List.append_assoc, List.singleton_append, List.length_cons]
    congr 2
    omega

theorem insertWallets_walletsJson {nodes : List MultiSigWalletItem}
    (h : ∀ item ∈ nodes, Storable item) (hlen : nodes.length ≤ 5) :
    insertWallets (nodes.map appendWalletItemToJson) createMultiSigWalletList =
      some ⟨nodes, nodes.length⟩ := by
  have hall := insertWallets_append h createMultiSigWalletList (by
    show (0 : Int) + nodes.length ≤ 5
    omega)
  rw [hall]
  show some (⟨[] ++ nodes, 0 + nodes.length⟩ : MultiSigWalletList) = _
  rw [List.nil_append, Int.zero_add]

theorem length_printElements_le {a b : List Item} (h : List.Sublist a b) :
    (printElements a).length ≤ (printElements b).length := by
  induction h with
  | slnil => exact Nat.le_refl _
  | cons item h ih =>
    rw [printElements, List.length_append, List.length_append]
    omega
  | @cons_cons a b item h ih =>
    have hcomma : (if a.isEmpty then ([] : Text) else [44]).length ≤
        (if b.isEmpty then ([] : Text) else [44]).length := by
      cases b with
      | nil =>
        rw [List.sublist_nil.mp h]
      | cons i b => cases a <;> exact Nat.le_of_ble_eq_true rfl
    rw [printElements, printElements, List.length_append, List.length_append, List.length_append,
      List.length_append]
    omega

theorem printValue_walletsJson (nodes : List MultiSigWalletItem) :
    printValue (walletsJson nodes) =
      ascii "\x7b\"version\":\"1.0.0\",\"multi_sig_wallet_list\":[" ++
        (printElements (nodes.map appendWalletItemToJson) ++ [125]) := rfl

theorem length_walletsJson_le {a b : List MultiSigWalletItem} (h : List.Sublist a b) :
    (printValue (walletsJson a)).length ≤ (printValue (walletsJson b)).length := by
  have hle := length_printElements_le (h.map appendWalletItemToJson)
  rw [printValue_walletsJson, printValue_walletsJson, List.length_append, List.length_append,
    List.length_append, List.length_append]
  omega

end Keystone3.Multisig
