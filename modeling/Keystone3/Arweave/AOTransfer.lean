import Mathlib.Data.List.Perm.Subperm
import Keystone3.Bytes.Numeral
import Keystone3.Arweave.DataItem

/-!
# Transfers of AO tokens

A data item with the tags of a transfer is shown as one: a recipient, a quantity, and
the other tags. `shown_iff` says for which items nothing that is signed is left out.
-/

namespace Keystone3.Arweave

open Bytes (Block)

structure TokenInfo where
  tokenId : Text
  decimal : Nat
  symbol : Text
  name : Text

def tokens : List TokenInfo :=
  [⟨"xU9zFkq3X2ZQ6olwNVvr1vUWIjc3kXTWr7xKQD6dh10".toList, 12, "AR".toList, "Wrapped AR".toList⟩,
    ⟨"8p7ApPZxC_37M06QHVejCQrKsHbcJEerd3jWNkDUWPQ".toList, 3, "BRKTST".toList, "Bark".toList⟩,
    ⟨"097nIBc4YMMkNWNuNNOShi1Zt5VkNV5--lzj1hYR0vg".toList, 12, "PNTS".toList, "Points".toList⟩,
    ⟨"Sa0iBLPNyJQrwpTTG-tWLQU-1QeUAJA73DdxGGiKoJc".toList, 3, "testnet-AOCRED".toList,
      "AOCRED".toList⟩,
    ⟨"OT9qTE2467gcozb2g8R6D6N3nQS94ENcaAIJfUzHCww".toList, 3, "TRUNK".toList, "TRUNK".toList⟩]

def findToken (tokenId : Text) : Option TokenInfo := tokens.find? fun v => v.tokenId = tokenId

section

variable (lib : ArweaveLib)

def TokenInfo.convertQuantity (token : TokenInfo) (quantity : Text) : Option Text :=
  (Bytes.parseUnsigned (2 ^ 64) quantity).map fun value =>
    lib.quotientText value (10 ^ token.decimal) ++ ' ' :: token.symbol

/-- The quantity and the token as they are shown: with the token's name if it is known and the
quantity is a number. -/
def shownQuantity (tokenId quantity : Text) : Text × Text :=
  match findToken tokenId with
  | none => (quantity, tokenId)
  | some token =>
    match token.convertQuantity lib quantity with
    | some amount => (amount, token.name)
    | none => (quantity, tokenId)

structure AOTransferTransaction where
  sender : Text
  recipient : Text
  quantity : Text
  tokenId : Text
  otherInfo : List Tag

def actionName : Text := ['A', 'c', 't', 'i', 'o', 'n']

def recipientName : Text := ['R', 'e', 'c', 'i', 'p', 'i', 'e', 'n', 't']

def quantityName : Text := ['Q', 'u', 'a', 'n', 't', 'i', 't', 'y']

def transfer : Text := ['T', 'r', 'a', 'n', 's', 'f', 'e', 'r']

def protocolName : Text := ['D', 'a', 't', 'a', '-', 'P', 'r', 'o', 't', 'o', 'c', 'o', 'l']

def leftOutName : Text := ['D', 'a', 't', 'a', 'P', 'r', 'o', 't', 'o', 'c', 'o', 'l']

def isProtocol (tag : Tag) : Bool := tag.name = protocolName && tag.value = ['a', 'o']

def isAction (tag : Tag) : Bool := tag.name = actionName && tag.value = transfer

def isNamed (name : Text) (tag : Tag) : Bool := tag.name = name

def isLeftOut (tag : Tag) : Bool :=
  isNamed leftOutName tag || isNamed actionName tag || isNamed recipientName tag
    || isNamed quantityName tag

/-- `TryFrom<DataItem> for AOTransferTransaction`. -/
def AOTransferTransaction.tryFrom (item : DataItem) : Result AOTransferTransaction :=
  let tags := item.tags.data
  match tags.find? isAction, tags.find? isProtocol, item.target, tags.find? (isNamed recipientName),
    tags.find? (isNamed quantityName) with
  | some _, some _, some tokenId, some recipient, some quantity =>
    let (amount, token) := shownQuantity lib tokenId quantity.value
    .ok {
      sender := item.owner
      recipient := recipient.value
      quantity := amount
      tokenId := token
      otherInfo := tags.filter fun tag => !isLeftOut tag }
  | _, _, _, _, _ => .error .notAOTransaction

/-- The tags are those that the transfer is made of and those that are shown with it. -/
def AOTransferTransaction.Shows (item : DataItem) (ao : AOTransferTransaction) : Prop :=
  ∃ tokenId quantity : Text, item.target = some tokenId
    ∧ (ao.quantity, ao.tokenId) = shownQuantity lib tokenId quantity
    ∧ List.Perm (⟨actionName, transfer⟩ :: ⟨recipientName, ao.recipient⟩
      :: ⟨quantityName, quantity⟩ :: ao.otherInfo) item.tags.data

/-- Nothing that is signed is hidden: the tags are those of the raw tags, as many as there
should be, and the transfer, if there is one, shows them. -/
def DataItem.Shown (item : DataItem) : Prop :=
  IsArray item.rawTags item.tags.data ∧ item.tagsNumber = item.tags.data.length
    ∧ ∀ ao, AOTransferTransaction.tryFrom lib item = .ok ao → ao.Shows lib item

end

/-- The tags that make an item a transfer, and the token. -/
def DataItem.IsTransfer (item : DataItem) : Prop :=
  item.target.isSome = true ∧ item.tags.data.any isProtocol = true
    ∧ item.tags.data.any isAction = true ∧ item.tags.data.any (isNamed recipientName) = true
    ∧ item.tags.data.any (isNamed quantityName) = true

theorem tryFrom_eq_ok {lib : ArweaveLib} {item : DataItem} {ao : AOTransferTransaction}
    (h : AOTransferTransaction.tryFrom lib item = .ok ao) :
    ∃ action recipient quantity protocol tokenId, item.tags.data.find? isAction = some action
      ∧ item.tags.data.find? (isNamed recipientName) = some recipient
      ∧ item.tags.data.find? (isNamed quantityName) = some quantity
      ∧ item.tags.data.find? isProtocol = some protocol ∧ item.target = some tokenId
      ∧ ao.recipient = recipient.value
      ∧ (ao.quantity, ao.tokenId) = shownQuantity lib tokenId quantity.value
      ∧ ao.otherInfo = item.tags.data.filter fun tag => !isLeftOut tag := by
  unfold AOTransferTransaction.tryFrom at h
  dsimp only at h
  split at h
  · rename_i action protocol tokenId recipient quantity haction hprotocol htarget hrecipient hquantity
    cases h
    exact ⟨action, recipient, quantity, protocol, tokenId, haction, hrecipient, hquantity,
      hprotocol, htarget, rfl, rfl, rfl⟩
  · cases h

theorem exists_of_isTransfer {item : DataItem} (lib : ArweaveLib) (h : item.IsTransfer) :
    ∃ ao, AOTransferTransaction.tryFrom lib item = .ok ao := by
  obtain ⟨htarget, hprotocol, haction, hrecipient, hquantity⟩ := h
  rw [List.any_eq_true, ← List.find?_isSome] at hprotocol haction hrecipient hquantity
  obtain ⟨tokenId, htarget⟩ := Option.isSome_iff_exists.mp htarget
  obtain ⟨protocol, hprotocol⟩ := Option.isSome_iff_exists.mp hprotocol
  obtain ⟨action, haction⟩ := Option.isSome_iff_exists.mp haction
  obtain ⟨recipient, hrecipient⟩ := Option.isSome_iff_exists.mp hrecipient
  obtain ⟨quantity, hquantity⟩ := Option.isSome_iff_exists.mp hquantity
  unfold AOTransferTransaction.tryFrom
  dsimp only
  rw [haction, hprotocol, htarget, hrecipient, hquantity]
  exact ⟨_, rfl⟩

theorem isTransfer_of_tryFrom {lib : ArweaveLib} {item : DataItem} {ao : AOTransferTransaction}
    (h : AOTransferTransaction.tryFrom lib item = .ok ao) : item.IsTransfer := by
  obtain ⟨action, recipient, quantity, protocol, tokenId, haction, hrecipient, hquantity, hprotocol,
    htarget, -⟩ := tryFrom_eq_ok h
  unfold DataItem.IsTransfer
  rw [List.any_eq_true, List.any_eq_true, List.any_eq_true, List.any_eq_true,
    ← List.find?_isSome, ← List.find?_isSome, ← List.find?_isSome, ← List.find?_isSome,
    htarget, hprotocol, haction, hrecipient, hquantity]
  exact ⟨rfl, rfl, rfl, rfl, rfl⟩

theorem eq_of_isAction {tag : Tag} (h : isAction tag = true) :
    tag = ⟨actionName, transfer⟩ := by
  obtain ⟨name, value⟩ := tag
  unfold isAction at h
  rw [Bool.and_eq_true, decide_eq_true_eq, decide_eq_true_eq] at h
  obtain ⟨rfl, rfl⟩ := h
  rfl

theorem name_of_isNamed {name : Text} {tag : Tag} (h : isNamed name tag = true) :
    tag.name = name := of_decide_eq_true h

theorem isLeftOut_of_mem {name value : Text} (h : name ∈ [actionName, recipientName, quantityName]) :
    isLeftOut ⟨name, value⟩ = true := by
  unfold isLeftOut isNamed
  simp only [List.mem_cons, List.not_mem_nil, or_false] at h
  rcases h with rfl | rfl | rfl
  · rw [decide_eq_true (rfl : actionName = actionName), Bool.or_true, Bool.true_or, Bool.true_or]
  · rw [decide_eq_true (rfl : recipientName = recipientName), Bool.or_true, Bool.true_or]
  · rw [decide_eq_true (rfl : quantityName = quantityName), Bool.or_true]

theorem perm_leftOut {tags : List Tag} {action recipient quantity : Tag}
    (haction : tags.find? isAction = some action)
    (hrecipient : tags.find? (isNamed recipientName) = some recipient)
    (hquantity : tags.find? (isNamed quantityName) = some quantity)
    (hcount : tags.countP isLeftOut = 3) :
    List.Perm [action, recipient, quantity] (tags.filter isLeftOut) := by
  have hactionName : action.name = actionName := by
    rw [eq_of_isAction (List.find?_some haction)]
  have hrecipientName := name_of_isNamed (List.find?_some hrecipient)
  have hquantityName := name_of_isNamed (List.find?_some hquantity)
  have hnames : ([action, recipient, quantity].map Tag.name).Nodup := by
    rw [List.map_cons, List.map_cons, List.map_cons, hactionName, hrecipientName, hquantityName]
    decide
  have hsubset : [action, recipient, quantity] ⊆ tags.filter isLeftOut := by
    intro tag htag
    rw [List.mem_filter]
    simp only [List.mem_cons, List.not_mem_nil, or_false] at htag
    rcases htag with rfl | rfl | rfl
    · exact ⟨List.mem_of_find?_eq_some haction, isLeftOut_of_mem (by simp [hactionName])⟩
    · exact ⟨List.mem_of_find?_eq_some hrecipient, isLeftOut_of_mem (by simp [hrecipientName])⟩
    · exact ⟨List.mem_of_find?_eq_some hquantity, isLeftOut_of_mem (by simp [hquantityName])⟩
  refine (List.Nodup.of_map _ hnames).subperm hsubset |>.perm_of_length_le ?_
  rw [← List.countP_eq_length_filter, hcount]
  exact Nat.le_refl 3

theorem shows_iff {lib : ArweaveLib} {item : DataItem} {ao : AOTransferTransaction}
    (h : AOTransferTransaction.tryFrom lib item = .ok ao) :
    ao.Shows lib item ↔ item.tags.data.countP isLeftOut = 3 := by
  obtain ⟨action, recipient, quantity, protocol, tokenId, haction, hrecipient, hquantity, hprotocol,
    htarget, hto, hshown, hother⟩ := tryFrom_eq_ok h
  constructor
  · intro hshows
    obtain ⟨-, quantity', -, -, hperm⟩ := hshows
    have hrest : ao.otherInfo.countP isLeftOut = 0 := by
      rw [List.countP_eq_zero, hother]
      intro tag htag
      have hkept := (List.mem_filter.mp htag).2
      simpa using hkept
    rw [← hperm.countP_eq, List.countP_cons_of_pos (isLeftOut_of_mem (by simp)),
      List.countP_cons_of_pos (isLeftOut_of_mem (by simp)),
      List.countP_cons_of_pos (isLeftOut_of_mem (by simp)), hrest]
  · intro hcount
    refine ⟨tokenId, quantity.value, htarget, hshown, ?_⟩
    have hleft := perm_leftOut haction hrecipient hquantity hcount
    have hnamed : [action, recipient, quantity] = [⟨actionName, transfer⟩,
        ⟨recipientName, ao.recipient⟩, ⟨quantityName, quantity.value⟩] := by
      rw [← eq_of_isAction (List.find?_some haction), hto,
        ← name_of_isNamed (List.find?_some hrecipient),
        ← name_of_isNamed (List.find?_some hquantity)]
    rw [hnamed] at hleft
    rw [hother]
    exact (hleft.append_right _).trans (List.filter_append_perm isLeftOut item.tags.data)

/-- Nothing that is signed is hidden if the raw tags are one block with the number of tags that
is announced, and if the tags of a transfer are the only ones with their names. -/
theorem shown_iff (lib : ArweaveLib) (binary : List UInt8) (item : DataItem)
    (h : DataItem.deserialize lib binary = .ok item) :
    item.Shown lib ↔ IsBlock item.rawTags item.tagsNumber
      ∧ (item.IsTransfer → item.tags.data.countP isLeftOut = 3) := by
  have harray := isArray_iff (tags_of_deserialize h) item.tagsNumber
  constructor
  · intro hshown
    obtain ⟨htags, hnumber, hshows⟩ := hshown
    refine ⟨harray.mp ⟨htags, hnumber⟩, ?_⟩
    intro htransfer
    obtain ⟨ao, hao⟩ := exists_of_isTransfer lib htransfer
    exact (shows_iff hao).mp (hshows ao hao)
  · intro hblock
    obtain ⟨hblock, hcount⟩ := hblock
    obtain ⟨htags, hnumber⟩ := harray.mpr hblock
    refine ⟨htags, hnumber, ?_⟩
    intro ao hao
    exact (shows_iff hao).mpr (hcount (isTransfer_of_tryFrom hao))

def ArweaveLib.sample : ArweaveLib where
  sha256 := Block.ofBytes 32
  sha384 := Block.ofBytes 48
  base64Url bytes := bytes.map fun b => Char.ofNat b.toNat
  utf8Error _ := "invalid utf-8 sequence"
  quotientText value divisor := Nat.toDigits 10 (value / divisor)

def sampleTransfer : List Tag :=
  [⟨protocolName, ['a', 'o']⟩, ⟨actionName, transfer⟩, ⟨recipientName, ['A']⟩,
    ⟨quantityName, ['1']⟩]

def sampleBinary (tags : List Tag) : List UInt8 :=
  itemBytes (List.replicate 512 0) (List.replicate 512 0) (List.replicate 32 7) tags.length
    (shortLong tags.length ++ (tags.flatMap tagBytes ++ [0])) []

def sampleItem (tags : List Tag) : DataItem :=
  itemOf .sample (List.replicate 512 0) (List.replicate 512 0) (List.replicate 32 7) tags.length
    ⟨tags.length, tags⟩ (shortLong tags.length ++ (tags.flatMap tagBytes ++ [0])) []

theorem deserialize_sample {tags : List Tag} (h : ∀ tag ∈ tags, Short tag) (hlength : tags.length < 64)
    (hbytes : (tags.flatMap tagBytes).length < 2 ^ 31) :
    DataItem.deserialize .sample (sampleBinary tags) = .ok (sampleItem tags) := by
  refine deserialize_written List.length_replicate List.length_replicate List.length_replicate
    (by omega) ?_ (deserialize_block (isLong_shortLong _ hlength) (each_tagBytes h))
  rw [List.length_append, List.length_append, shortLong, List.length_singleton,
    List.length_singleton]
  omega

theorem short_sample : ∀ tag ∈ sampleTransfer ++ [⟨recipientName, ['B']⟩], Short tag := by
  unfold Short
  decide

theorem deserialize_sampleTransfer :
    DataItem.deserialize .sample (sampleBinary sampleTransfer) = .ok (sampleItem sampleTransfer) :=
  deserialize_sample (fun tag htag => short_sample tag (List.mem_append_left _ htag))
    (by decide) (by decide)

/-- The item of a transfer with one recipient. -/
theorem shown_iff_sample : (sampleItem sampleTransfer).Shown .sample
    ↔ IsBlock (sampleItem sampleTransfer).rawTags (sampleItem sampleTransfer).tagsNumber
      ∧ ((sampleItem sampleTransfer).IsTransfer
        → (sampleItem sampleTransfer).tags.data.countP isLeftOut = 3) :=
  shown_iff .sample (sampleBinary sampleTransfer) (sampleItem sampleTransfer)
    deserialize_sampleTransfer

/-- The second recipient is signed and is not shown. -/
theorem not_shown_secondRecipient : ¬∀ (lib : ArweaveLib) (binary : List UInt8) (item : DataItem),
    DataItem.deserialize lib binary = .ok item → item.Shown lib := by
  intro hall
  have hread := deserialize_sample  short_sample (by decide) (by decide)
  obtain ⟨-, -, hshows⟩ := hall _ _ _ hread
  obtain ⟨ao, hao⟩ : ∃ ao, AOTransferTransaction.tryFrom .sample
      (sampleItem (sampleTransfer ++ [⟨recipientName, ['B']⟩])) = .ok ao :=
    exists_of_isTransfer .sample ⟨rfl, rfl, rfl, rfl, rfl⟩
  have hcount := (shows_iff hao).mp (hshows ao hao)
  cases hcount

end Keystone3.Arweave
