import Keystone3.Ton.Messages

/-!
# TON transactions

What is signed is the root cell of a bag of cells, of whose messages the first is shown: all
of them if there is one (`accounts_iff`), and if its body is a comment, the transfer of an NFT or
nothing: a body that is not understood is left out, and in place of the amount of a
jetton transfer that of the jetton is shown.
-/

namespace Keystone3.Ton

open Logic (Outcome)

inductive TonError where
  | transactionError (e : TonCellError)
  | invalidTransaction (reason : String)
  | invalidProof (reason : String)

structure JettonData where
  contractAddress : String
  decimal : Nat
  symbol : String

def JETTONS : List JettonData :=
  [⟨"NULL", 0, "Unit"⟩, ⟨"EQAvlWFDxGF2lXm67y4yzC17wYKD9A0guwPkMs1gOsM__NOT", 8, "NOT"⟩,
    ⟨"0", 6, "USDT"⟩, ⟨"EQA2kCVNwVsil2EM2mB0SkXytxCqQjS4mttjDpnXmwG9T6bO", 9, "STON"⟩]

/-- The jetton of an address, `find_or_first`. -/
def jettonOf (contractAddress : Text) : JettonData :=
  (JETTONS.find? fun v => v.contractAddress.toList = contractAddress).getD ⟨"NULL", 0, "Unit"⟩

section

variable (lib : TonLib)

def getJettonAmountText (coins contractAddress : Text) : Outcome TonError Text := do
  let target := jettonOf contractAddress
  let value ← Outcome.unwrap (Bytes.parseUnsigned (2 ^ 64) coins)
  pure (lib.quotientText value (10 ^ target.decimal) ++ ' ' :: target.symbol.toList)

/-- What is printed as JSON in `data_view`. -/
inductive DataView where
  | jetton (transfer : JettonTransferMessage)
  | nft (transfer : NFTTransferMessage)

/-- What is printed as JSON in `contract_data`. -/
structure ContractData where
  title : String
  value : Text

structure TonTransaction where
  recipient : Text
  amount : Text
  action : String
  comment : Option Text := none
  dataView : Option DataView := none
  rawData : Text := []
  contractData : Option ContractData := none

def TonTransaction.tryFrom (signingMessage : SigningMessage) : Outcome TonError TonTransaction :=
  match signingMessage.messages with
  | [] => .error (.invalidTransaction "transaction does not contain transfer info")
  | message :: _ =>
    match message.data with
    | none =>
      .ok { recipient := message.destAddr, amount := message.value, action := "Ton Transfer" }
    | some data =>
      let action := data.action.getD "Ton Transfer"
      match data.operation with
      | .comment comment =>
        .ok { recipient := message.destAddr, amount := message.value, action, comment }
      | .jettonMessage transfer => do
        let amount ← getJettonAmountText lib transfer.amount message.destAddrLegacy
        pure
          { recipient := transfer.destination
            amount
            action
            dataView := some (.jetton transfer)
            contractData := some ⟨"Jetton Wallet Address", message.destAddrLegacy⟩ }
      | .nftMessage transfer =>
        .ok
          { recipient := transfer.newOwnerAddress
            amount := message.value
            action
            dataView := some (.nft transfer)
            contractData := some ⟨"NFT Wallet Address", message.destAddr⟩ }
      | .otherMessage _ => .ok { recipient := message.destAddr, amount := message.value, action }

def TonTransaction.parse (boc : BagOfCells) : Outcome TonError TonTransaction := do
  let root ← Outcome.mapError .transactionError boc.singleRoot
  let signingMessage ← Outcome.mapError .transactionError (SigningMessage.parse lib root)
  TonTransaction.tryFrom lib signingMessage

def shortenString (text : Text) : Text :=
  if 512 < text.length then text.take 512 ++ "......".toList else text

def parseTransaction (serial : List UInt8) : Outcome TonError TonTransaction := do
  let boc ← Outcome.mapError .transactionError (BagOfCells.parse lib.exotic serial)
  let tx ← TonTransaction.parse lib boc
  pure { tx with rawData := shortenString (hexEncode serial) }

/-- The cell whose hash is signed, in `buffer_to_sign`. -/
def rootToSign (serial : List UInt8) : Outcome TonError Cell := do
  let boc ← Outcome.mapError .transactionError (BagOfCells.parse lib.exotic serial)
  Outcome.mapError .transactionError boc.singleRoot

def Cell.IsEmpty (cell : Cell) : Prop := cell.bitLen = 0 ∧ cell.references = []

/-- The operation of a body is shown in the place for it. -/
def TonTransaction.ShowsOperation (tx : TonTransaction) : Operation → Prop
  | .comment text => tx.comment = some text
  | .jettonMessage transfer => tx.dataView = some (.jetton transfer)
  | .nftMessage transfer => tx.dataView = some (.nft transfer)
  | .otherMessage payload => tx.comment = some payload

/-- The body of a message is shown, or there is nothing in it. -/
def TonTransaction.ShowsBody (tx : TonTransaction) : Option Cell → Prop
  | none => True
  | some body =>
    match InternalMessage.parse body with
    | .ok message => tx.ShowsOperation message.operation
    | _ => body.IsEmpty

/-- The destination, the amount and the body of the message in a cell are shown. -/
structure TonTransaction.Shows (tx : TonTransaction) (reference : Cell) (message : TransferMessage)
    (body : Option Cell) : Prop where
  read : readTransfer lib reference = .ok (message, body)
  destination : tx.recipient = message.destAddr ∨
    ∃ title, tx.contractData = some ⟨title, message.destAddr⟩ ∨
      tx.contractData = some ⟨title, message.destAddrLegacy⟩
  amount : tx.amount = message.value
  body : tx.ShowsBody body

/-- Each message of a root cell is shown by a transaction of its own. -/
def Accounts (txs : List TonTransaction) (root : Cell) : Prop :=
  List.Forall₂ (fun reference tx => ∃ message body, TonTransaction.Shows lib tx reference message body)
    root.references txs

/-- A body that is nothing, a comment or the transfer of an NFT. -/
def IsPlain : Option Cell → Prop
  | none => True
  | some body =>
    match InternalMessage.parse body with
    | .ok message =>
      (∃ text, message.operation = .comment text) ∨
        ∃ transfer, message.operation = .nftMessage transfer
    | _ => body.IsEmpty

variable {lib}

theorem getLast?_symbol (contractAddress : Text) :
    ∃ c, (jettonOf contractAddress).symbol.toList.getLast? = some c ∧ c ≠ 'n' := by
  unfold jettonOf
  cases hfind : JETTONS.find? fun v => v.contractAddress.toList = contractAddress with
  | none => exact ⟨'t', by decide, by decide⟩
  | some target =>
    have hmem := List.mem_of_find?_eq_some hfind
    simp only [JETTONS, List.mem_cons, List.not_mem_nil, or_false] at hmem
    rcases hmem with rfl | rfl | rfl | rfl
    · exact ⟨'t', by decide, by decide⟩
    · exact ⟨'T', by decide, by decide⟩
    · exact ⟨'T', by decide, by decide⟩
    · exact ⟨'N', by decide, by decide⟩

theorem getJettonAmountText_ne {coins contractAddress amount : Text}
    (h : getJettonAmountText lib coins contractAddress = .ok amount) (value : Text) :
    amount ≠ value ++ " Ton".toList := by
  intro heq
  obtain ⟨n, -, h⟩ := Outcome.bind_eq_ok.mp h
  cases h
  obtain ⟨c, hc, hne⟩ := getLast?_symbol contractAddress
  have hleft : (lib.quotientText n (10 ^ (jettonOf contractAddress).decimal)
      ++ ' ' :: (jettonOf contractAddress).symbol.toList).getLast? = some c := by
    rw [List.getLast?_append, List.getLast?_cons, hc]
    rfl
  have hright : (value ++ " Ton".toList).getLast? = some 'n' := by
    rw [List.getLast?_append]
    rfl
  rw [heq, hright] at hleft
  exact hne (Option.some.inj hleft).symm

theorem shows_iff {reference : Cell} {message : TransferMessage} {body : Option Cell}
    {signingMessage : SigningMessage} {rest : List TransferMessage} {tx : TonTransaction}
    (hread : readTransfer lib reference = .ok (message, body))
    (hmessages : signingMessage.messages = message :: rest)
    (htx : TonTransaction.tryFrom lib signingMessage = .ok tx) (rawData : Text) :
    (∃ message body, TonTransaction.Shows lib { tx with rawData } reference message body) ↔
      IsPlain body := by
  obtain ⟨hdata, coins, hvalue⟩ := spec_of_readTransfer hread
  unfold TonTransaction.tryFrom at htx
  rw [hmessages] at htx
  dsimp only at htx
  have hunique : (∃ message body, TonTransaction.Shows lib { tx with rawData } reference message body) ↔
      TonTransaction.Shows lib { tx with rawData } reference message body := by
    constructor
    · rintro ⟨message', body', hshows⟩
      cases hread.symm.trans hshows.read
      exact hshows
    · exact fun hshows => ⟨message, body, hshows⟩
  rw [hunique]
  -- Without data the transaction shows the destination and the amount, and no body.
  have hnone (hno : message.data = none) : TonTransaction.Shows lib { tx with rawData } reference
      message body ↔ TonTransaction.ShowsBody { tx with rawData } body := by
    rw [hno] at htx
    cases htx
    exact ⟨fun hshows => hshows.body, fun hbody => ⟨hread, .inl rfl, rfl, hbody⟩⟩
  cases body with
  | none =>
    have hno : message.data = none := (Outcome.ok.inj hdata).symm
    exact hnone hno
  | some body =>
    rw [IsPlain]
    change Outcome.toOption (InternalMessage.parse body) = _ at hdata
    cases hparse : InternalMessage.parse body with
    | error e =>
      rw [hparse] at hdata
      rw [hnone (Outcome.ok.inj hdata).symm, TonTransaction.ShowsBody, hparse]
    | halted =>
      rw [hparse] at hdata
      cases hdata
    | ok data =>
      rw [hparse] at hdata
      rw [← Outcome.ok.inj hdata] at htx
      dsimp only at htx ⊢
      cases hoperation : data.operation with
      | comment text =>
        rw [hoperation] at htx
        cases htx
        refine iff_of_true ⟨hread, .inl rfl, rfl, ?_⟩ (.inl ⟨text, rfl⟩)
        rw [TonTransaction.ShowsBody, hparse]
        show TonTransaction.ShowsOperation _ data.operation
        rw [hoperation]
        exact rfl
      | jettonMessage transfer =>
        rw [hoperation] at htx
        obtain ⟨amount, hamount, htx⟩ := Outcome.bind_eq_ok.mp htx
        cases htx
        refine iff_of_false (fun hshows => ?_) ?_
        · exact getJettonAmountText_ne hamount _ (hshows.amount.trans hvalue)
        · rintro (⟨_, h⟩ | ⟨_, h⟩)
          · cases h
          · cases h
      | nftMessage transfer =>
        rw [hoperation] at htx
        cases htx
        refine iff_of_true ⟨hread, .inr ⟨_, .inl rfl⟩, rfl, ?_⟩ (.inr ⟨transfer, rfl⟩)
        rw [TonTransaction.ShowsBody, hparse]
        show TonTransaction.ShowsOperation _ data.operation
        rw [hoperation]
        exact rfl
      | otherMessage payload =>
        rw [hoperation] at htx
        cases htx
        refine iff_of_false (fun hshows => ?_) ?_
        · have hbody := hshows.body
          rw [TonTransaction.ShowsBody, hparse] at hbody
          change TonTransaction.ShowsOperation _ data.operation at hbody
          rw [hoperation] at hbody
          cases hbody
        · rintro (⟨_, h⟩ | ⟨_, h⟩)
          · cases h
          · cases h

def AllShown (lib : TonLib) (serial : List UInt8) (tx : TonTransaction) : Prop :=
  ∃ root, rootToSign lib serial = .ok root ∧ Accounts lib [tx] root

def OnePlainMessage (lib : TonLib) (serial : List UInt8) : Prop :=
  ∃ root reference, rootToSign lib serial = .ok root ∧ root.references = [reference] ∧
    ∀ message body, readTransfer lib reference = .ok (message, body) → IsPlain body

theorem exists_root {serial : List UInt8} {tx : TonTransaction}
    (h : parseTransaction lib serial = .ok tx) : ∃ root signingMessage tx' rawData,
      rootToSign lib serial = .ok root ∧ SigningMessage.parse lib root = .ok signingMessage ∧
      TonTransaction.tryFrom lib signingMessage = .ok tx' ∧ tx = { tx' with rawData } := by
  obtain ⟨boc, hboc, h⟩ := Outcome.bind_eq_ok.mp h
  obtain ⟨tx', htx', h⟩ := Outcome.bind_eq_ok.mp h
  cases h
  obtain ⟨root, hroot, htx'⟩ := Outcome.bind_eq_ok.mp htx'
  obtain ⟨signingMessage, hmessage, htx'⟩ := Outcome.bind_eq_ok.mp htx'
  refine ⟨root, signingMessage, tx', _, ?_, Outcome.mapError_eq_ok.mp hmessage, htx', rfl⟩
  rw [rootToSign, hboc]
  exact hroot

theorem allShown_iff {serial : List UInt8} {tx : TonTransaction}
    (h : parseTransaction lib serial = .ok tx) :
    AllShown lib serial tx ↔ OnePlainMessage lib serial := by
  obtain ⟨root, signingMessage, tx', rawData, hroot, hparse, htx', rfl⟩ := exists_root h
  have hmessages := messages_of_parse hparse
  cases hlist : signingMessage.messages with
  | nil =>
    unfold TonTransaction.tryFrom at htx'
    rw [hlist] at htx'
    cases htx'
  | cons message rest =>
    rw [hlist] at hmessages
    obtain ⟨reference, references, hmessage, hrest, hreferences⟩ :=
      List.forall₂_cons_right_iff.mp hmessages
    obtain ⟨body, hread⟩ := exists_readTransfer hmessage
    have hshows := shows_iff hread hlist htx' rawData
    constructor
    · rintro ⟨root', hroot', haccounts⟩
      cases hroot.symm.trans hroot'
      rw [Accounts, hreferences] at haccounts
      obtain ⟨hfirst, hnil⟩ := List.forall₂_cons.mp haccounts
      cases hnil
      refine ⟨root, reference, hroot, hreferences, fun message' body' hread' => ?_⟩
      cases hread.symm.trans hread'
      exact hshows.mp hfirst
    · rintro ⟨root', reference', hroot', hone, hplain⟩
      cases hroot.symm.trans hroot'
      cases hreferences.symm.trans hone
      refine ⟨root, hroot, ?_⟩
      rw [Accounts, hone]
      exact .cons (hshows.mpr (hplain message body hread)) .nil

end

def TonLib.sample : TonLib where
  exotic _ _ _ := false
  quotientText n d := natText (n / d)

def sampleWallet : List UInt8 :=
  [0x29, 0xa9, 0xa3, 0x17, 0x66, 0x3b, 0x3e, 0xa5, 0x00, 0x00, 0x00, 0x08, 0x00, 0x03]

def sampleTransfer : List UInt8 :=
  [0x42, 0x00, 0x2b, 0x16, 0x73, 0x2f, 0x1c, 0x05, 0xfd, 0xb4, 0xe8, 0xd3, 0xa7, 0x8f, 0xd1,
    0x0d, 0xdd, 0xef, 0x3f, 0x60, 0x67, 0xf3, 0x11, 0xbe, 0x53, 0x93, 0x13, 0xb8, 0xa4, 0x4a,
    0x50, 0x4d, 0x4d, 0xa2, 0xa1, 0xdc, 0xd6, 0x50, 0x00, 0x00, 0x00, 0x00, 0x00, 0x00, 0x00,
    0x00, 0x00, 0x00, 0x00, 0x00, 0x00, 0x00]

def sampleOther : List UInt8 :=
  [0x42, 0x00, 0x00, 0x81, 0x01, 0x82, 0x02, 0x83, 0x03, 0x84, 0x04, 0x85, 0x05, 0x86, 0x06,
    0x87, 0x07, 0x88, 0x08, 0x89, 0x09, 0x8a, 0x0a, 0x8b, 0x0b, 0x8c, 0x0c, 0x8d, 0x0d, 0x8e,
    0x0e, 0x8f, 0x0f, 0x90, 0x23, 0xb9, 0xac, 0xa0, 0x00, 0x00, 0x00, 0x00, 0x00, 0x00, 0x00,
    0x00, 0x00, 0x00, 0x00, 0x00, 0x00, 0x00]

def sampleBoc (cells : List (List UInt8)) : List UInt8 :=
  let count := UInt8.ofNat cells.length
  [0xb5, 0xee, 0x9c, 0x72, 0x01, 0x01, count + 1, 0x01, 0x00, 16 + count + 54 * count, 0x00]
    ++ [count, 0x1c] ++ sampleWallet ++ (List.range cells.length).map (fun i => UInt8.ofNat (i + 1))
    ++ cells.flatMap fun cell => [0x00, 0x68] ++ cell

set_option maxRecDepth 16384 in
theorem allShown_iff_sample : ∃ tx,
    parseTransaction .sample (sampleBoc [sampleTransfer]) = .ok tx ∧
    (AllShown .sample (sampleBoc [sampleTransfer]) tx ↔
      OnePlainMessage .sample (sampleBoc [sampleTransfer])) := by
  obtain ⟨tx, htx⟩ := Outcome.exists_of_isOk
    (by decide : (parseTransaction .sample (sampleBoc [sampleTransfer])).isOk = true)
  exact ⟨tx, htx, allShown_iff htx⟩

set_option maxRecDepth 16384 in
/-- The second of two transfers is not shown. -/
theorem not_allShown_two : ¬ ∀ tx,
    parseTransaction .sample (sampleBoc [sampleTransfer, sampleOther]) = .ok tx →
    AllShown .sample (sampleBoc [sampleTransfer, sampleOther]) tx := by
  obtain ⟨tx, htx⟩ := Outcome.exists_of_isOk (by decide :
    (parseTransaction .sample (sampleBoc [sampleTransfer, sampleOther])).isOk = true)
  intro hall
  obtain ⟨root, hroot, haccounts⟩ := hall tx htx
  have htwo : (do
      let root ← rootToSign .sample (sampleBoc [sampleTransfer, sampleOther])
      Outcome.index root.references 1).isOk = true := by
    decide
  rw [hroot] at htwo
  obtain ⟨second, hsecond⟩ := Outcome.exists_of_isOk htwo
  have hlength : 1 < root.references.length :=
    (List.getElem?_eq_some_iff.mp (Outcome.index_eq_ok.mp hsecond)).1
  exact absurd haccounts.length_eq (Nat.ne_of_gt hlength)

end Keystone3.Ton
