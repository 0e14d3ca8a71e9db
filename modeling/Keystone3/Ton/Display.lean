import Keystone3.Ton.Encoding
import Keystone3.Ton.Returns

/-!
# What is shown of a body

A body is a comment, the transfer of a jetton, the transfer of an NFT or something else.
What it says (`EncodesComment`, `EncodesJetton`, `EncodesNft`) is compared with what is
shown of it (`Describes`). Few bodies are described (`IsDescribed`).
-/

namespace Keystone3.Ton

open Bytes (ofUtf8 utf8)
open Logic (Outcome)
open Logic.Outcome (bind_eq_ok collect not_fails_ok ok_bind)

/-- The payload for the next contract: what is left of the body, or a cell. -/
inductive ForwardPayload where
  | inline (bits : List Bool) (references : List Cell)
  | reference (cell : Cell)

namespace ForwardPayload

def cell : ForwardPayload → Option Cell
  | inline _ _ => none
  | reference cell => some cell

def inlineBits : ForwardPayload → List Bool
  | inline bits _ => bits
  | reference _ => []

def references : ForwardPayload → List Cell
  | inline _ references => references
  | reference cell => [cell]

def text : ForwardPayload → Option Text
  | inline [] [] => none
  | inline bits _ =>
    some (hexEncode (bytesOf ((bits.length + 7) / 8)
      (bits ++ List.replicate ((8 - bits.length % 8) % 8) false)))
  | reference cell => some (hexEncode cell.data)

def InPlace : ForwardPayload → Prop
  | inline bits references => bits = [] ∧ references = []
  | reference _ => True

end ForwardPayload

structure JettonTransfer where
  queryId : Nat
  amount : Nat
  destination : Option TonAddress
  response : Option TonAddress
  customPayload : Option Cell
  forwardAmount : Nat
  forwardPayload : ForwardPayload

structure NftTransfer where
  queryId : Nat
  newOwner : Option TonAddress
  response : Option TonAddress
  customPayload : Option Cell
  forwardAmount : Nat
  forwardPayload : ForwardPayload

def EncodesJetton (body : Cell) (t : JettonTransfer) : Prop :=
  t.queryId < 2 ^ 64 ∧ ∃ amount destination response forwardAmount,
    CoinsBits amount t.amount ∧ AddressBits destination t.destination ∧
    AddressBits response t.response ∧ CoinsBits forwardAmount t.forwardAmount ∧
    body.HasBits ((uintBits 32 JETTON_TRANSFER ++ (uintBits 64 t.queryId ++ (amount ++
      (destination ++ (response ++ ([t.customPayload.isSome] ++ (forwardAmount ++
        [t.forwardPayload.cell.isSome]))))))) ++ t.forwardPayload.inlineBits) ∧
    body.references = t.customPayload.toList ++ t.forwardPayload.references

def EncodesNft (body : Cell) (t : NftTransfer) : Prop :=
  t.queryId < 2 ^ 64 ∧ ∃ newOwner response forwardAmount,
    AddressBits newOwner t.newOwner ∧ AddressBits response t.response ∧
    CoinsBits forwardAmount t.forwardAmount ∧
    body.HasBits ((uintBits 32 NFT_TRANSFER ++ (uintBits 64 t.queryId ++ (newOwner ++
      (response ++ ([t.customPayload.isSome] ++ (forwardAmount ++
        [t.forwardPayload.cell.isSome])))))) ++ t.forwardPayload.inlineBits) ∧
    body.references = t.customPayload.toList ++ t.forwardPayload.references

/-- The bytes of a text, over cells with one reference each. -/
inductive SnakeTail : List Cell → List (List UInt8) → Prop where
  | nil : SnakeTail [] []
  | cons {child : Cell} {part : List UInt8} {parts : List (List UInt8)}
    (hbits : child.HasBits (part.flatMap bitsOf)) (tail : SnakeTail child.references parts) :
    SnakeTail [child] (part :: parts)

def CommentParts (body : Cell) (parts : List (List UInt8)) : Prop :=
  ∃ part tail, parts = part :: tail ∧ body.HasBits (uintBits 32 0 ++ part.flatMap bitsOf) ∧
    SnakeTail body.references tail

def SaysNothing (body : Cell) : Prop := body.HasBits [] ∧ body.references = []

def EncodesComment (body : Cell) (text : Text) : Prop :=
  ∃ parts, CommentParts body parts ∧ ofUtf8 parts.flatten = some text

def addressText (address : Option TonAddress) : Text := (address.getD TonAddress.null).toBase64Url

structure ShowsJetton (tx : TonTransaction) (t : JettonTransfer) (view : JettonTransferMessage) :
    Prop where
  dataView : tx.dataView = some (.jetton view)
  queryId : view.queryId = natText t.queryId
  amount : view.amount = natText t.amount
  destination : view.destination = addressText t.destination
  response : view.responseDestination = t.response.map TonAddress.toBase64Url
  customPayload : view.customPayload = t.customPayload.map fun child => hexEncode child.data
  forwardAmount : view.forwardTonAmount = natText t.forwardAmount
  forwardPayload : view.forwardPayload = t.forwardPayload.text

structure ShowsNft (tx : TonTransaction) (t : NftTransfer) (view : NFTTransferMessage) : Prop where
  dataView : tx.dataView = some (.nft view)
  queryId : view.queryId = natText t.queryId
  newOwner : view.newOwnerAddress = addressText t.newOwner
  response : view.responseAddress = addressText t.response
  customPayload : view.customPayload = t.customPayload.map fun child => hexEncode child.data
  forwardAmount : view.forwardTonAmount = natText t.forwardAmount
  forwardPayload : view.forwardPayload = t.forwardPayload.text

def MarkedUnknown (tx : TonTransaction) : Prop :=
  tx.action ≠ "Ton Transfer" ∧ tx.action ≠ "Jetton Transfer" ∧ tx.action ≠ "NFT Transfer"

/-- The operation of a body is shown with its fields, or marked as unknown. -/
inductive Describes (tx : TonTransaction) (body : Cell) : Prop where
  | empty (h : SaysNothing body) (hcomment : tx.comment = none) (hdataView : tx.dataView = none)
  | comment {text : Text} (h : EncodesComment body text) (hshown : tx.comment = some text)
  | jetton {t : JettonTransfer} {view : JettonTransferMessage} (h : EncodesJetton body t)
    (hshown : ShowsJetton tx t view)
  | nft {t : NftTransfer} {view : NFTTransferMessage} (h : EncodesNft body t)
    (hshown : ShowsNft tx t view)
  | unknown (hmarked : MarkedUnknown tx)

inductive IsDescribed (body : Cell) : Prop where
  | empty (h : SaysNothing body)
  | comment {parts : List (List UInt8)} (h : CommentParts body parts)
    (hparts : ∀ part ∈ parts, ∃ text, ofUtf8 part = some text)
  | jetton {t : JettonTransfer} (h : EncodesJetton body t) (hamount : t.amount < 2 ^ 64)
    (hresponse : t.response = some TonAddress.null) (hpayload : t.forwardPayload.InPlace)
  | nft {t : NftTransfer} (h : EncodesNft body t) (hpayload : t.forwardPayload.InPlace)

section

variable (lib : TonLib)

def displayOf (message : TransferMessage) : Outcome TonError TonTransaction :=
  TonTransaction.tryFrom lib { walletId := none, timeout := 0, seqNo := 0, messages := [message] }

def Displays (message : TransferMessage) (body : Cell) : Prop :=
  (∃ e, displayOf lib message = .error e) ∨ ∃ tx, displayOf lib message = .ok tx ∧ Describes tx body

end

theorem loads_loadPayload {cell : Cell} {i : Nat} {child : Option Cell}
    (h : ∀ c, child = some c → cell.references[i]? = some c) :
    Loads (loadPayload cell i) [child.isSome] (child, i + child.toList.length) := by
  refine (loads_loadBit child.isSome).bind ?_
  cases child with
  | none => exact Loads.pure _
  | some c =>
    have hchild : cell.reference i = .ok c := by
      rw [Cell.reference, h c rfl]
      rfl
    exact (loads_liftResult hchild).map fun child => (some child, i + 1)

def partText (part : List UInt8) : Result Text :=
  Outcome.okOr (.cellParserError "Cell parser error: ") (ofUtf8 part)

theorem loadRest_eq (part : List UInt8) (padding : List Bool) :
    loadRest ⟨part.flatMap bitsOf ++ padding, (part.flatMap bitsOf).length⟩ =
      (partText part >>= fun text => .ok (text, ⟨padding, 0⟩)) := by
  have hload := loads_loadBytes part padding 0
  rw [Nat.add_zero] at hload
  have hbytes : (part.flatMap bitsOf).length / 8 = part.length := by
    rw [length_flatMap_bitsOf]
    omega
  show (loadUtf8 ((part.flatMap bitsOf).length / 8) _ : Result (Text × CellParser)) = _
  show (loadBytes ((part.flatMap bitsOf).length / 8) _ >>= fun r => liftResult _ r.2) = _
  rw [hbytes, hload]
  rfl

theorem parseFully_loadRest {cell : Cell} {part : List UInt8}
    (h : cell.HasBits (part.flatMap bitsOf)) : cell.parseFully loadRest = partText part := by
  obtain ⟨hlength, padding, -, hdata⟩ := h
  rw [Cell.parseFully, Cell.parser, hdata, hlength, loadRest_eq]
  cases partText part with
  | ok text => rfl
  | error e => rfl
  | halted => rfl

variable {parts : List (List UInt8)}

theorem commentTail_eq {cell : Cell}
    (h : SnakeTail cell.references parts) :
    commentTail cell = (collect partText parts >>= fun texts => .ok texts.flatten) := by
  -- By induction on the pieces, with the cell that refers to them.
  generalize hreferences : cell.references = references at h
  induction h generalizing cell with
  | nil =>
    obtain ⟨data, bitLen, references⟩ := cell
    cases hreferences
    rw [commentTail]
    rfl
  | @cons child part parts hbits tail ih =>
    obtain ⟨data, bitLen, references⟩ := cell
    cases hreferences
    rw [commentTail, parseFully_loadRest hbits, ih rfl, collect]
    cases partText part with
    | ok text =>
      cases collect partText parts with
      | ok texts => rfl
      | error e => rfl
      | halted => rfl
    | error e => rfl
    | halted => rfl

variable {body : Cell}

theorem comment_eq (h : CommentParts body parts) :
    InternalMessage.parse body = (collect partText parts >>= fun texts =>
      .ok ⟨hexNumberText 0, none, .comment texts.flatten⟩) := by
  obtain ⟨part, tail, rfl, ⟨hlength, padding, -, hdata⟩, htail⟩ := h
  have hop := loads_loadUint (by omega : 0 < 2 ^ 32) (part.flatMap bitsOf ++ padding)
    (part.flatMap bitsOf).length
  have hrest := loadRest_eq part padding
  have htexts := commentTail_eq htail
  rw [InternalMessage.parse, Cell.parse, Cell.parser, hdata, hlength, List.length_append,
    List.append_assoc, load_bind_apply, hop, ok_bind]
  dsimp only
  rw [if_neg (by decide : 0 ≠ JETTON_TRANSFER), if_neg (by decide : 0 ≠ NFT_TRANSFER), if_pos rfl,
    load_bind_apply, hrest, collect]
  cases partText part with
  | ok text =>
    rw [htexts]
    cases collect partText tail with
    | ok texts => rfl
    | error e => rfl
    | halted => rfl
  | error e => rfl
  | halted => rfl

theorem partText_eq_ok {part : List UInt8} {text : Text} :
    partText part = .ok text ↔ ofUtf8 part = some text := Outcome.okOr_eq_ok

theorem ofUtf8_flatten {texts : List Text}
    (h : collect partText parts = .ok texts) :
    ofUtf8 parts.flatten = some texts.flatten := by
  have hall := Outcome.collect_eq_ok.mp h
  have hbytes : parts.flatten = utf8 texts.flatten := by
    induction hall with
    | nil => rfl
    | @cons part text parts texts hpart hparts ih =>
      have htail := ih (Outcome.collect_eq_ok.mpr hparts)
      rw [List.flatten_cons, List.flatten_cons, htail,
        ← Bytes.utf8_of_ofUtf8 (partText_eq_ok.mp hpart)]
      exact List.flatMap_append.symm
  rw [hbytes, Bytes.ofUtf8_utf8]

theorem comment_ok_iff (h : CommentParts body parts) :
    (∃ data, InternalMessage.parse body = .ok data) ↔
      ∀ part ∈ parts, ∃ text, ofUtf8 part = some text := by
  rw [comment_eq h]
  constructor
  · rintro ⟨data, hdata⟩ part hpart
    obtain ⟨texts, htexts, -⟩ := bind_eq_ok.mp hdata
    obtain ⟨i, hi⟩ := List.getElem?_of_mem hpart
    obtain ⟨text, -, htext⟩ := Outcome.collect_getElem? htexts hi
    exact ⟨text, partText_eq_ok.mp htext⟩
  · intro hall
    have hvalue (part : List UInt8) (hpart : part ∈ parts) :
        Outcome.ValueIff (partText part) True := by
      obtain ⟨text, htext⟩ := hall part hpart
      rw [partText_eq_ok.mpr htext]
      exact Outcome.valueIff_ok text
    obtain ⟨texts, htexts⟩ := (Outcome.ValueIff.collect hvalue).exists_ok fun _ _ => trivial
    exact ⟨_, bind_eq_ok.mpr ⟨texts, htexts, rfl⟩⟩

def jettonView (t : JettonTransfer) (comment : Option Text) : JettonTransferMessage where
  queryId := natText t.queryId
  destination := addressText t.destination
  responseDestination :=
    if t.response.getD TonAddress.null = TonAddress.null then some (addressText t.response) else none
  amount := natText t.amount
  customPayload := t.customPayload.map fun child => hexEncode child.data
  forwardTonAmount := natText t.forwardAmount
  forwardPayload := t.forwardPayload.cell.map fun child => hexEncode child.data
  comment

def nftView (t : NftTransfer) (comment : Option Text) : NFTTransferMessage where
  queryId := natText t.queryId
  newOwnerAddress := addressText t.newOwner
  responseAddress := addressText t.response
  customPayload := t.customPayload.map fun child => hexEncode child.data
  forwardTonAmount := natText t.forwardAmount
  forwardPayload := t.forwardPayload.cell.map fun child => hexEncode child.data
  comment

theorem exists_commentOf (payload : Option Cell) : ∃ comment, commentOf payload = .ok comment := by
  cases payload with
  | none => exact ⟨none, rfl⟩
  | some child =>
    rw [commentOf]
    have hreturns := parseComment_returns child
    cases h : parseComment child with
    | ok text => exact ⟨some text, rfl⟩
    | error e => exact ⟨none, rfl⟩
    | halted => exact absurd h hreturns

theorem references_of_payloads {custom : Option Cell} {payload : ForwardPayload}
    (h : body.references = custom.toList ++ payload.references) :
    (∀ c, custom = some c → body.references[0]? = some c) ∧
      ∀ c, payload.cell = some c → body.references[0 + custom.toList.length]? = some c := by
  rw [h]
  constructor
  · rintro c rfl
    rfl
  · intro c hc
    cases payload with
    | inline bits references => cases hc
    | reference cell =>
      cases hc
      rw [Nat.zero_add, List.getElem?_append_right (Nat.le_refl _), Nat.sub_self]
      rfl

theorem parseFully_eq {α : Type} {cell : Cell} {w rest : List Bool} {load : Load α} {a : α}
    (hcell : cell.HasBits (w ++ rest)) (h : Loads load w a) :
    cell.parseFully load = if rest = [] then .ok a else .error (.nonEmptyReader rest.length) := by
  obtain ⟨padding, hload⟩ := load_of_hasBits hcell h
  rw [Cell.parseFully, hload, ok_bind]
  dsimp only
  cases rest with
  | nil => rfl
  | cons b rest => rfl

theorem jetton_eq {t : JettonTransfer} (h : EncodesJetton body t) :
    ∃ comment, JettonTransferMessage.parse body =
      if t.forwardPayload.inlineBits = [] then .ok (jettonView t comment)
      else .error (.nonEmptyReader t.forwardPayload.inlineBits.length) := by
  obtain ⟨hqueryId, amount, destination, response, forwardAmount, hamount, hdestination, hresponse,
    hforward, hbits, hreferences⟩ := h
  obtain ⟨comment, hcomment⟩ := exists_commentOf t.forwardPayload.cell
  obtain ⟨hcustom, hpayload⟩ := references_of_payloads hreferences
  refine ⟨comment, parseFully_eq hbits ?_⟩
  refine (loads_loadUint (by decide : JETTON_TRANSFER < 2 ^ 32)).bind ?_
  refine (loads_loadUint hqueryId).bind ((loads_loadCoins hamount).bind ?_)
  refine (loads_loadAddress hdestination).bind ((loads_loadAddress hresponse).bind ?_)
  refine (loads_loadPayload hcustom).bind ((loads_loadCoins hforward).bind ?_)
  rw [← List.append_nil [t.forwardPayload.cell.isSome]]
  refine (loads_loadPayload hpayload).bind ?_
  exact (loads_liftResult hcomment).map _

theorem nft_eq {t : NftTransfer} (h : EncodesNft body t) :
    ∃ comment, NFTTransferMessage.parse body =
      if t.forwardPayload.inlineBits = [] then .ok (nftView t comment)
      else .error (.nonEmptyReader t.forwardPayload.inlineBits.length) := by
  obtain ⟨hqueryId, newOwner, response, forwardAmount, hnewOwner, hresponse, hforward, hbits,
    hreferences⟩ := h
  obtain ⟨comment, hcomment⟩ := exists_commentOf t.forwardPayload.cell
  obtain ⟨hcustom, hpayload⟩ := references_of_payloads hreferences
  refine ⟨comment, parseFully_eq hbits ?_⟩
  refine (loads_loadUint (by decide : NFT_TRANSFER < 2 ^ 32)).bind ?_
  refine (loads_loadUint hqueryId).bind ?_
  refine (loads_loadAddress hnewOwner).bind ((loads_loadAddress hresponse).bind ?_)
  refine (loads_loadPayload hcustom).bind ((loads_loadCoins hforward).bind ?_)
  rw [← List.append_nil [t.forwardPayload.cell.isSome]]
  refine (loads_loadPayload hpayload).bind ?_
  exact (loads_liftResult hcomment).map _

theorem internal_jetton {rest : List Bool}
    (h : body.HasBits (uintBits 32 JETTON_TRANSFER ++ rest)) :
    InternalMessage.parse body = (JettonTransferMessage.parse body >>= fun view =>
      .ok ⟨hexNumberText JETTON_TRANSFER, some "Jetton Transfer", .jettonMessage view⟩) := by
  obtain ⟨padding, hop⟩ :=
    load_of_hasBits h (loads_loadUint (by decide : JETTON_TRANSFER < 2 ^ 32))
  have hinner : parseJettonMessage body = JettonTransferMessage.parse body := by
    rw [parseJettonMessage, Cell.parse, load_bind_apply, hop, ok_bind]
    dsimp only
    rw [if_pos rfl]
    cases JettonTransferMessage.parse body with
    | ok view => rfl
    | error e => rfl
    | halted => rfl
  rw [InternalMessage.parse, Cell.parse, load_bind_apply, hop, ok_bind]
  dsimp only
  rw [if_pos rfl, hinner]
  cases JettonTransferMessage.parse body with
  | ok view => rfl
  | error e => rfl
  | halted => rfl

theorem internal_nft {rest : List Bool}
    (h : body.HasBits (uintBits 32 NFT_TRANSFER ++ rest)) :
    InternalMessage.parse body = (NFTTransferMessage.parse body >>= fun view =>
      .ok ⟨hexNumberText NFT_TRANSFER, some "NFT Transfer", .nftMessage view⟩) := by
  obtain ⟨padding, hop⟩ := load_of_hasBits h (loads_loadUint (by decide : NFT_TRANSFER < 2 ^ 32))
  have hinner : parseNFTMessage body = NFTTransferMessage.parse body := by
    rw [parseNFTMessage, Cell.parse, load_bind_apply, hop, ok_bind]
    dsimp only
    rw [if_pos rfl]
    cases NFTTransferMessage.parse body with
    | ok view => rfl
    | error e => rfl
    | halted => rfl
  rw [InternalMessage.parse, Cell.parse, load_bind_apply, hop, ok_bind]
  dsimp only
  rw [if_neg (by decide : NFT_TRANSFER ≠ JETTON_TRANSFER), if_pos rfl, hinner]
  cases NFTTransferMessage.parse body with
  | ok view => rfl
  | error e => rfl
  | halted => rfl

theorem jetton_ok_iff {t : JettonTransfer} (h : EncodesJetton body t) :
    ∃ comment, ∀ data, InternalMessage.parse body = .ok data ↔ t.forwardPayload.inlineBits = [] ∧
      data = ⟨hexNumberText JETTON_TRANSFER, some "Jetton Transfer",
        .jettonMessage (jettonView t comment)⟩ := by
  obtain ⟨comment, hparse⟩ := jetton_eq h
  obtain ⟨-, amount, destination, response, forwardAmount, -, -, -, -, hbits, -⟩ := h
  rw [List.append_assoc] at hbits
  refine ⟨comment, fun data => ?_⟩
  rw [internal_jetton hbits, hparse]
  by_cases hinline : t.forwardPayload.inlineBits = []
  · rw [if_pos hinline, and_iff_right hinline]
    exact ⟨fun hok => (Outcome.ok.inj hok).symm, fun hdata => hdata ▸ rfl⟩
  · rw [if_neg hinline]
    exact iff_of_false nofun fun hok => hinline hok.1

theorem nft_ok_iff {t : NftTransfer} (h : EncodesNft body t) :
    ∃ comment, ∀ data, InternalMessage.parse body = .ok data ↔ t.forwardPayload.inlineBits = [] ∧
      data = ⟨hexNumberText NFT_TRANSFER, some "NFT Transfer",
        .nftMessage (nftView t comment)⟩ := by
  obtain ⟨comment, hparse⟩ := nft_eq h
  obtain ⟨-, newOwner, response, forwardAmount, -, -, -, hbits, -⟩ := h
  rw [List.append_assoc] at hbits
  refine ⟨comment, fun data => ?_⟩
  rw [internal_nft hbits, hparse]
  by_cases hinline : t.forwardPayload.inlineBits = []
  · rw [if_pos hinline, and_iff_right hinline]
    exact ⟨fun hok => (Outcome.ok.inj hok).symm, fun hdata => hdata ▸ rfl⟩
  · rw [if_neg hinline]
    exact iff_of_false nofun fun hok => hinline hok.1

section

variable {lib : TonLib} {message : TransferMessage} {body : Cell}

theorem data_eq_some_iff (hdata : dataOf (some body) = .ok message.data) {data : InternalMessage} :
    message.data = some data ↔ InternalMessage.parse body = .ok data := by
  change Outcome.toOption (InternalMessage.parse body) = _ at hdata
  cases h : InternalMessage.parse body with
  | ok data' =>
    rw [h] at hdata
    rw [← Outcome.ok.inj hdata]
    exact ⟨fun heq => congrArg _ (Option.some.inj heq), fun heq => congrArg _ (Outcome.ok.inj heq)⟩
  | error e =>
    rw [h] at hdata
    rw [← Outcome.ok.inj hdata]
    exact iff_of_false nofun nofun
  | halted =>
    rw [h] at hdata
    cases hdata

theorem shown_of_displayOf {tx : TonTransaction} (h : displayOf lib message = .ok tx) :
    (∀ text, tx.comment = some text ↔
      ∃ data, message.data = some data ∧ data.operation = .comment text) ∧
    (∀ view, tx.dataView = some (.jetton view) ↔
      ∃ data, message.data = some data ∧ data.operation = .jettonMessage view) ∧
    (∀ view, tx.dataView = some (.nft view) ↔
      ∃ data, message.data = some data ∧ data.operation = .nftMessage view) ∧
    (tx.action = "Ton Transfer" ∨ ∃ data, message.data = some data ∧ data.action = some tx.action) := by
  unfold displayOf TonTransaction.tryFrom at h
  dsimp only at h
  cases hdata : message.data with
  | none =>
    rw [hdata] at h
    cases h
    refine ⟨fun text => iff_of_false nofun ?_, fun view => iff_of_false nofun ?_,
      fun view => iff_of_false nofun ?_, .inl rfl⟩
    all_goals
      rintro ⟨data, hnone, -⟩
      cases hnone
  | some data =>
    rw [hdata] at h
    dsimp only at h
    have haction : data.action.getD "Ton Transfer" = "Ton Transfer" ∨
        ∃ data', some data = some data' ∧ data'.action = some (data.action.getD "Ton Transfer") := by
      cases hact : data.action with
      | none => exact .inl rfl
      | some action => exact .inr ⟨data, rfl, hact⟩
    cases hoperation : data.operation with
    | comment text =>
      rw [hoperation] at h
      cases h
      refine ⟨?_, ?_, ?_, haction⟩ <;> simp [hoperation]
    | jettonMessage view =>
      rw [hoperation] at h
      obtain ⟨amount, -, h⟩ := bind_eq_ok.mp h
      cases h
      refine ⟨?_, ?_, ?_, haction⟩ <;> simp [hoperation]
    | nftMessage view =>
      rw [hoperation] at h
      cases h
      refine ⟨?_, ?_, ?_, haction⟩ <;> simp [hoperation]
    | otherMessage payload =>
      rw [hoperation] at h
      cases h
      refine ⟨?_, ?_, ?_, haction⟩ <;> simp [hoperation]

theorem action_of_parse {data : InternalMessage} {action : String}
    (h : InternalMessage.parse body = .ok data) (haction : data.action = some action) :
    action = "Jetton Transfer" ∨ action = "NFT Transfer" := by
  have hinfer (opCode : Nat) (hopCode : inferAction opCode = some action) :
      action = "Jetton Transfer" ∨ action = "NFT Transfer" := by
    unfold inferAction at hopCode
    split_ifs at hopCode
    · exact .inl (Option.some.inj hopCode).symm
    · exact .inr (Option.some.inj hopCode).symm
  obtain ⟨⟨result, s⟩, hload, hresult⟩ := bind_eq_ok.mp h
  cases hresult
  obtain ⟨opCode, s₁, -, hload⟩ := bind_load_eq_ok.mp hload
  split_ifs at hload with hjetton hnft hcomment
  · obtain ⟨_, _, -, hload⟩ := bind_load_eq_ok.mp hload
    cases hload
    exact hinfer opCode haction
  · obtain ⟨_, _, -, hload⟩ := bind_load_eq_ok.mp hload
    cases hload
    exact hinfer opCode haction
  · obtain ⟨_, _, -, hload⟩ := bind_load_eq_ok.mp hload
    obtain ⟨_, _, -, hload⟩ := bind_load_eq_ok.mp hload
    cases hload
    cases haction
  · obtain ⟨_, _, -, hload⟩ := bind_load_eq_ok.mp hload
    obtain ⟨_, _, -, hload⟩ := bind_load_eq_ok.mp hload
    cases hload
    exact hinfer opCode haction

theorem not_markedUnknown (hdata : dataOf (some body) = .ok message.data) {tx : TonTransaction}
    (h : displayOf lib message = .ok tx) : ¬MarkedUnknown tx := by
  rintro ⟨hton, hjetton, hnft⟩
  obtain ⟨-, -, -, haction⟩ := shown_of_displayOf h
  rcases haction with haction | ⟨data, hsome, haction⟩
  · exact hton haction
  · rcases action_of_parse ((data_eq_some_iff hdata).mp hsome) haction with h | h
    · exact hjetton h
    · exact hnft h

theorem not_fails_displayOf : ¬Outcome.Fails (displayOf lib message) := by
  rw [displayOf, TonTransaction.tryFrom]
  dsimp only
  cases message.data with
  | none => exact not_fails_ok _
  | some data =>
    dsimp only
    cases data.operation with
    | jettonMessage view =>
      rintro hfails
      rcases Outcome.fails_bind.mp hfails with hamount | ⟨_, -, hrest⟩
      · rcases Outcome.fails_bind.mp hamount with hvalue | ⟨_, -, hrest⟩
        · exact Outcome.not_fails_unwrap _ hvalue
        · exact not_fails_ok _ hrest
      · exact not_fails_ok _ hrest
    | comment text => exact not_fails_ok _
    | nftMessage view => exact not_fails_ok _
    | otherMessage payload => exact not_fails_ok _

theorem displayOf_ok_iff : (∃ tx, displayOf lib message = .ok tx) ↔ AmountFits message := by
  have hreturns : Outcome.Returns (displayOf lib message) ↔ AmountFits message := by
    rw [displayOf, tryFrom_returns_iff]
    constructor
    · exact fun h => h message [] rfl
    · intro h message' rest heq
      cases heq
      exact h
  rw [← hreturns]
  exact ((Outcome.valueIff_of_not_fails not_fails_displayOf).returns_iff).symm

theorem payload_text_iff {payload : ForwardPayload} (hinline : payload.inlineBits = []) :
    payload.cell.map (fun child => hexEncode child.data) = payload.text ↔ payload.InPlace := by
  cases payload with
  | reference cell => exact iff_of_true rfl trivial
  | inline bits references =>
    cases hinline
    cases references with
    | nil => exact iff_of_true rfl ⟨rfl, rfl⟩
    | cons reference references => exact iff_of_false nofun fun h => nomatch h.2

theorem inlineBits_of_inPlace {payload : ForwardPayload} (h : payload.InPlace) :
    payload.inlineBits = [] := by
  cases payload with
  | reference cell => rfl
  | inline bits references => exact h.1

theorem response_iff {t : JettonTransfer} {comment : Option Text} :
    (jettonView t comment).responseDestination = t.response.map TonAddress.toBase64Url ↔
      t.response = some TonAddress.null := by
  rw [jettonView, addressText]
  cases t.response with
  | none => exact iff_of_false nofun nofun
  | some address =>
    dsimp only [Option.getD_some, Option.map_some]
    by_cases hnull : address = TonAddress.null
    · rw [if_pos hnull, hnull]
      exact iff_of_true rfl rfl
    · rw [if_neg hnull]
      exact iff_of_false nofun fun h => hnull (Option.some.inj h)

theorem parse_of_saysNothing (h : SaysNothing body) : ∃ e, InternalMessage.parse body = .error e := by
  obtain ⟨⟨-, padding, hpadding, hdata⟩, -⟩ := h
  have hshort : body.parser.bits.length < 32 := by
    show (body.data.flatMap bitsOf).length < 32
    rw [hdata, List.nil_append]
    omega
  refine ⟨.cellParserError "Cell parser error: ", ?_⟩
  rw [InternalMessage.parse, Cell.parse, load_bind_apply, loadUint_short hshort]
  rfl

theorem amountFits_of_operation {data : InternalMessage} (hdata : message.data = some data)
    (h : ∀ view, data.operation = .jettonMessage view →
      ∃ n, Bytes.parseUnsigned (2 ^ 64) view.amount = some n) : AmountFits message := by
  intro data' view hdata' hoperation
  cases hdata.symm.trans hdata'
  exact h view hoperation

theorem exists_describes (hdata : dataOf (some body) = .ok message.data) (h : IsDescribed body) :
    ∃ tx, displayOf lib message = .ok tx ∧ Describes tx body := by
  cases h with
  | empty h =>
    obtain ⟨e, hparse⟩ := parse_of_saysNothing h
    have hno (data : InternalMessage) : message.data ≠ some data := by
      rw [Ne, data_eq_some_iff hdata, hparse]
      exact nofun
    obtain ⟨tx, htx⟩ := displayOf_ok_iff.mpr
      (fun data _ hsome _ => absurd hsome (hno data) : AmountFits message)
    obtain ⟨hcomment, hjetton, hnft, -⟩ := shown_of_displayOf htx
    refine ⟨tx, htx, .empty h ?_ ?_⟩
    · refine Option.eq_none_iff_forall_ne_some.mpr fun text htext => ?_
      obtain ⟨data, hsome, -⟩ := (hcomment text).mp htext
      exact hno data hsome
    · refine Option.eq_none_iff_forall_ne_some.mpr fun view hview => ?_
      cases view with
      | jetton view =>
        obtain ⟨data, hsome, -⟩ := (hjetton view).mp hview
        exact hno data hsome
      | nft view =>
        obtain ⟨data, hsome, -⟩ := (hnft view).mp hview
        exact hno data hsome
  | @comment parts h hparts =>
    obtain ⟨data, hparse⟩ := (comment_ok_iff h).mpr hparts
    have hsome := (data_eq_some_iff hdata).mpr hparse
    rw [comment_eq h] at hparse
    obtain ⟨texts, htexts, hresult⟩ := bind_eq_ok.mp hparse
    have hoperation : data.operation = .comment texts.flatten := by
      cases hresult
      rfl
    obtain ⟨tx, htx⟩ := displayOf_ok_iff.mpr (amountFits_of_operation hsome fun view hview =>
      nomatch hoperation.symm.trans hview)
    obtain ⟨hcomment, -⟩ := shown_of_displayOf htx
    refine ⟨tx, htx, .comment ⟨parts, h, ofUtf8_flatten htexts⟩ ?_⟩
    exact (hcomment _).mpr ⟨data, hsome, hoperation⟩
  | @jetton t h hamount hresponse hpayload =>
    obtain ⟨comment, hparse⟩ := jetton_ok_iff h
    have hinline := inlineBits_of_inPlace hpayload
    have hsome := (data_eq_some_iff hdata).mpr ((hparse _).mpr ⟨hinline, rfl⟩)
    obtain ⟨tx, htx⟩ := displayOf_ok_iff.mpr (amountFits_of_operation hsome fun view hview => by
      cases hview
      exact ⟨t.amount, Bytes.parseUnsigned_toDigits hamount⟩)
    obtain ⟨-, hjetton, -⟩ := shown_of_displayOf htx
    exact ⟨tx, htx, .jetton h ⟨(hjetton _).mpr ⟨_, hsome, rfl⟩, rfl, rfl, rfl,
      response_iff.mpr hresponse, rfl, rfl, (payload_text_iff hinline).mpr hpayload⟩⟩
  | @nft t h hpayload =>
    obtain ⟨comment, hparse⟩ := nft_ok_iff h
    have hinline := inlineBits_of_inPlace hpayload
    have hsome := (data_eq_some_iff hdata).mpr ((hparse _).mpr ⟨hinline, rfl⟩)
    obtain ⟨tx, htx⟩ := displayOf_ok_iff.mpr (amountFits_of_operation hsome fun view hview => by
      cases hview)
    obtain ⟨-, -, hnft, -⟩ := shown_of_displayOf htx
    exact ⟨tx, htx, .nft h ⟨(hnft _).mpr ⟨_, hsome, rfl⟩, rfl, rfl, rfl, rfl, rfl,
      (payload_text_iff hinline).mpr hpayload⟩⟩

theorem isDescribed_of_describes (hdata : dataOf (some body) = .ok message.data)
    {tx : TonTransaction} (htx : displayOf lib message = .ok tx) (h : Describes tx body) :
    IsDescribed body := by
  obtain ⟨hcomment, hjetton, hnft, -⟩ := shown_of_displayOf htx
  cases h with
  | empty h _ _ => exact .empty h
  | comment h hshown =>
    obtain ⟨parts, hparts, -⟩ := h
    obtain ⟨data, hsome, -⟩ := (hcomment _).mp hshown
    exact .comment hparts ((comment_ok_iff hparts).mp ⟨data, (data_eq_some_iff hdata).mp hsome⟩)
  | @jetton t view h hshown =>
    obtain ⟨data, hsome, hoperation⟩ := (hjetton view).mp hshown.dataView
    obtain ⟨comment, hparse⟩ := jetton_ok_iff h
    obtain ⟨hinline, rfl⟩ := (hparse data).mp ((data_eq_some_iff hdata).mp hsome)
    cases hoperation
    -- The amount has been shown, so it was a number of 64 bits.
    obtain ⟨n, hn⟩ := displayOf_ok_iff.mp ⟨tx, htx⟩ _ _ hsome rfl
    have hamount : t.amount < 2 ^ 64 := by
      change Bytes.parseUnsigned (2 ^ 64) (natText t.amount) = some n at hn
      rw [natText, Bytes.parseUnsigned_toDigits_eq] at hn
      by_contra hnot
      rw [if_neg hnot] at hn
      cases hn
    exact .jetton h hamount (response_iff.mp hshown.response)
      ((payload_text_iff hinline).mp hshown.forwardPayload)
  | @nft t view h hshown =>
    obtain ⟨data, hsome, hoperation⟩ := (hnft view).mp hshown.dataView
    obtain ⟨comment, hparse⟩ := nft_ok_iff h
    obtain ⟨hinline, rfl⟩ := (hparse data).mp ((data_eq_some_iff hdata).mp hsome)
    cases hoperation
    exact .nft h ((payload_text_iff hinline).mp hshown.forwardPayload)
  | unknown hmarked => exact absurd hmarked (not_markedUnknown hdata htx)

/-- A message with a body is refused or described exactly if all of the body is shown. -/
theorem displays_iff {cell : Cell} (hread : readTransfer lib cell = .ok (message, some body)) :
    Displays lib message body ↔ IsDescribed body := by
  obtain ⟨hdata, -⟩ := spec_of_readTransfer hread
  constructor
  · rintro (⟨e, he⟩ | ⟨tx, htx, hdescribes⟩)
    · exact absurd ⟨e, he⟩ not_fails_displayOf
    · exact isDescribed_of_describes hdata htx hdescribes
  · exact fun h => .inr (exists_describes hdata h)

end

def sampleMessage (body : Cell) : Cell := .mk (sampleTransfer.dropLast ++ [0x01]) 416 [body]

def hasBody (data : List UInt8) (bitLen : Nat) : Result (TransferMessage × Option Cell) → Bool
  | .ok (_, some (.mk data' bitLen' [])) => decide (data' = data ∧ bitLen' = bitLen)
  | _ => false

theorem exists_of_hasBody {data : List UInt8} {bitLen : Nat}
    {read : Result (TransferMessage × Option Cell)} (h : hasBody data bitLen read = true) :
    ∃ message, read = .ok (message, some (.mk data bitLen [])) := by
  unfold hasBody at h
  split at h
  · obtain ⟨rfl, rfl⟩ := of_decide_eq_true h
    exact ⟨_, rfl⟩
  · cases h

set_option maxRecDepth 16384 in
/-- The comment `hi`. -/
theorem displays_iff_sample : ∃ message,
    readTransfer .sample (sampleMessage (.mk [0, 0, 0, 0, 104, 105] 48 [])) =
      .ok (message, some (.mk [0, 0, 0, 0, 104, 105] 48 [])) ∧
    (Displays .sample message (.mk [0, 0, 0, 0, 104, 105] 48 []) ↔
      IsDescribed (.mk [0, 0, 0, 0, 104, 105] 48 [])) := by
  obtain ⟨message, hread⟩ := exists_of_hasBody (by decide : hasBody [0, 0, 0, 0, 104, 105] 48
    (readTransfer .sample (sampleMessage (.mk [0, 0, 0, 0, 104, 105] 48 []))) = true)
  exact ⟨message, hread, displays_iff hread⟩

theorem take_of_hasBits {w rest : List Bool} (h : body.HasBits (w ++ rest)) :
    (body.data.flatMap bitsOf).take w.length = w := by
  obtain ⟨-, padding, -, hdata⟩ := h
  rw [hdata, List.append_assoc, List.take_left]

set_option maxRecDepth 16384 in
/-- Another operation is shown as a transfer of TON without a body. -/
theorem not_displays_unknown : ¬∀ (cell : Cell) (message : TransferMessage) (body : Cell),
    readTransfer .sample cell = .ok (message, some body) → Displays .sample message body := by
  intro h
  obtain ⟨message, hread⟩ := exists_of_hasBody (by decide : hasBody [1, 2, 3, 4] 32
    (readTransfer .sample (sampleMessage (.mk [1, 2, 3, 4] 32 []))) = true)
  have hfirst {op : Nat} {rest : List Bool}
      (hbits : (Cell.mk [1, 2, 3, 4] 32 []).HasBits (uintBits 32 op ++ rest)) :
      ([1, 2, 3, 4].flatMap bitsOf).take 32 = uintBits 32 op := by
    have htake := take_of_hasBits hbits
    rwa [length_uintBits] at htake
  rcases h _ message _ hread with ⟨e, he⟩ | ⟨tx, htx, hdescribes⟩
  · exact not_fails_displayOf ⟨e, he⟩
  · cases isDescribed_of_describes (spec_of_readTransfer hread).1 htx hdescribes with
    | empty h => cases h.1.1
    | comment h _ =>
      obtain ⟨_, _, -, hbits, -⟩ := h
      cases hfirst hbits
    | jetton h _ _ _ =>
      obtain ⟨-, _, _, _, _, -, -, -, -, hbits, -⟩ := h
      rw [List.append_assoc] at hbits
      cases hfirst hbits
    | nft h _ =>
      obtain ⟨-, _, _, _, -, -, -, hbits, -⟩ := h
      rw [List.append_assoc] at hbits
      cases hfirst hbits

end Keystone3.Ton
